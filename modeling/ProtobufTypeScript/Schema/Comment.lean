import ProtobufTypeScript.Schema.Descriptor
import ProtobufTypeScript.Text.Blank
import ProtobufTypeScript.Text.Lines

/-!
Comments of schema elements. Each is recorded under the path that leads from the file to its
element, by field numbers of the descriptor format and positions in lists. A cursor stands at such
a path and finds the comments of its element and of the element's children.
-/

namespace ProtobufTypeScript.Schema

/-- The comments before and after one element. -/
structure Description where
  leading : Option String := none
  trailing : Option String := none
deriving DecidableEq, Repr

/-- Parts every comment terminator by a space. -/
def breakTerminators : List Char → List Char
  | [] => []
  | '*' :: '/' :: rest => '*' :: ' ' :: '/' :: breakTerminators rest
  | c :: rest => c :: breakTerminators rest

/-- Drops the empty lists at both ends of a list. -/
def dropOuterEmpty (lines : List (List Char)) : List (List Char) :=
  ((lines.dropWhile List.isEmpty).reverse.dropWhile List.isEmpty).reverse

/-- A comment made fit for a comment block: each line is trimmed, empty lines at both ends
are dropped, and nothing in it ends the block.
-/
def sanitize (comment : String) : String :=
  let lines := (Text.splitLines comment.toList).map Text.trimChars
  String.ofList (breakTerminators (List.intercalate ['\n'] (dropOuterEmpty lines)))

/-- The text to document an element with: the leading comment unless it is blank, else the
trailing one unless that is blank too.
-/
def Description.text (description : Description) : Option String :=
  let proper := fun comment : Option String => comment.filter (fun s => !Text.isBlank s)
  ((proper description.leading).or (proper description.trailing)).map sanitize

/-- Whether any comment is recorded at a location. -/
def Location.isCommented (location : Location) : Bool :=
  location.leading.isSome || location.trailing.isSome

/-- A place in a file, and the locations that are searched for its comments. -/
structure Cursor where
  locations : List Location := []
  path : List Int32 := []
deriving DecidableEq, Repr

namespace Cursor

/-- The cursor at a file itself. -/
def root (file : File) : Cursor :=
  { locations := file.locations }

/-- The cursor that finds no comment anywhere. -/
def blind : Cursor :=
  {}

/-- The comments at a path: of its locations with a comment, the last one counts. -/
def descriptionAt (cursor : Cursor) (path : List Int32) : Description :=
  match cursor.locations.reverse.find? (fun l => l.isCommented && l.path == path) with
  | some location => { leading := location.leading, trailing := location.trailing }
  | none => {}

/-- The comments of the element the cursor stands at. -/
def description (cursor : Cursor) : Description :=
  cursor.descriptionAt cursor.path

/-- The path of one child in a list of children. -/
def childPath (cursor : Cursor) (field : Int32) (position : Nat) : List Int32 :=
  cursor.path ++ [field, Int32.ofNat position]

/-- The comments of one child in a list of children. -/
def lookup (cursor : Cursor) (field : Int32) (position : Nat) : Description :=
  cursor.descriptionAt (cursor.childPath field position)

/-- The comments of a child that is not in a list. -/
def lookupSingle (cursor : Cursor) (field : Int32) : Description :=
  cursor.descriptionAt (cursor.path ++ [field])

/-- The cursor at one child in a list of children. -/
def enter (cursor : Cursor) (field : Int32) (position : Nat) : Cursor :=
  { cursor with path := cursor.childPath field position }

end Cursor

/-! The field numbers of the descriptor format that lead to the children of an element. -/

namespace Child

def messageInFile : Int32 := 4
def enumInFile : Int32 := 5
def serviceInFile : Int32 := 6
def syntaxOfFile : Int32 := 12
def fieldInMessage : Int32 := 2
def messageInMessage : Int32 := 3
def enumInMessage : Int32 := 4
def memberOfEnum : Int32 := 2
def methodOfService : Int32 := 2

end Child

end ProtobufTypeScript.Schema
