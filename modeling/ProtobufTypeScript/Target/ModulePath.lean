import ProtobufTypeScript.Text.Lines

/-!
Paths between modules. A path is a list of segments, the last of which names the file; the others
are directories.
-/

namespace ProtobufTypeScript.Target.ModulePath

/-- The segments of a path. -/
def segments (path : String) : List String :=
  Text.partsAt '/' path

/-- The directories of a path. -/
def directories (path : String) : List String :=
  (segments path).dropLast

/-- The file of a path. -/
def file (path : String) : String :=
  (segments path).getLast?.getD ""

/-- Both lists without their longest common beginning. -/
def dropCommon : List String → List String → List String × List String
  | a :: as, b :: bs => if a = b then dropCommon as bs else (a :: as, b :: bs)
  | as, bs => (as, bs)

/-- How a unit imports another one: up from its own directory as far as needed, then down,
and with a leading dot segment if there is no step up.
-/
def relative (source target : String) : String :=
  let (up, down) := dropCommon (directories source) (directories target)
  let route := "/".intercalate (up.map (fun _ => "..") ++ down ++ [file target])
  if up.isEmpty then "./" ++ route else route

end ProtobufTypeScript.Target.ModulePath
