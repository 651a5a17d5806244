import ProtobufTypeScript.Text.Blank
import ProtobufTypeScript.Text.Lines

/-!
Lines and their indentation. A list of lines is written from a given depth on; blank lines carry no
indentation, comments do on each of their lines, and the depth never falls below zero.
-/

namespace ProtobufTypeScript.Target

/-- A step of the layout, with text of a given kind. -/
inductive Line (α : Type) where
  | text (content : α)
  /-- A documentation comment, on one line or as a block. -/
  | doc (comment : String)
  /-- Line comments. -/
  | remark (comment : String)
  | blank
  | indent
  | dedent
deriving DecidableEq, Repr

namespace Line

/-- The depth after a step. -/
def depthAfter {α : Type} (depth : Nat) : Line α → Nat
  | .indent => depth + 1
  | .dedent => depth - 1
  | _ => depth

/-- The step with its text replaced. -/
def map {α β : Type} (f : α → β) : Line α → Line β
  | .text content => .text (f content)
  | .doc comment => .doc comment
  | .remark comment => .remark comment
  | .blank => .blank
  | .indent => .indent
  | .dedent => .dedent

end Line

namespace Layout

/-- Two spaces for each level. -/
def indentation (depth : Nat) : String :=
  String.ofList (List.replicate (2 * depth) ' ')

/-- A line of text; blank text leaves an empty line. -/
def textLine (depth : Nat) (text : String) : String :=
  if Text.isBlank text then "\n" else indentation depth ++ text ++ "\n"

/-- One line within a comment block. -/
def docLine (depth : Nat) (text : String) : String :=
  textLine depth (if text.isEmpty then " *" else " * " ++ text)

/-- A documentation comment: nothing for no lines, one line for one, else a block. -/
def docComment (depth : Nat) (comment : String) : String :=
  match Text.lines comment with
  | [] => ""
  | [single] => textLine depth ("/** " ++ single ++ " */")
  | lines =>
      textLine depth "/**" ++ String.join (lines.map (docLine depth)) ++ textLine depth " */"

/-- Each line behind two slashes. -/
def lineComment (depth : Nat) (comment : String) : String :=
  String.join
    ((Text.lines comment).map fun line =>
      textLine depth (if line.isEmpty then "//" else "// " ++ line))

/-- What a step writes at a depth. -/
def writeStep (depth : Nat) : Line String → String
  | .text content => textLine depth content
  | .doc comment => docComment depth comment
  | .remark comment => lineComment depth comment
  | .blank => "\n"
  | .indent => ""
  | .dedent => ""

/-- What each step writes, the first one at the given depth. -/
def writeSteps : Nat → List (Line String) → List String
  | _, [] => []
  | depth, line :: rest => writeStep depth line :: writeSteps (line.depthAfter depth) rest

/-- The text of a list of lines from depth zero on. -/
def write (lines : List (Line String)) : String :=
  String.join (writeSteps 0 lines)

end Layout

end ProtobufTypeScript.Target
