import ProtobufTypeScript.Target.Layout
import ProtobufTypeScript.Target.Snippet

/-!
Blocks of code: lines of snippets with structured indentation. A block is put together from lines
by concatenation. Whoever writes a line also records the symbols that are to be imported for it, or
to be declared as helpers; code is its lines together with this record.
-/

namespace ProtobufTypeScript.Target

/-- A sequence of code lines. -/
abbrev Block := List (Line Snippet)

namespace Block

/-- A line as it stands. -/
def line (text : Snippet) : Block :=
  [.text text]

/-- A line that a semicolon ends. -/
def statement (text : Snippet) : Block :=
  [.text (text ++ [.plain ";"])]

/-- A header with an opening brace, after which the code is indented. -/
def opening (header : Snippet) : Block :=
  [.text (header ++ [.plain " \x7b"]), .indent]

/-- The end of one braced part and the header of the next. -/
def between (header : Snippet) : Block :=
  [.dedent, .text ([.plain "\x7d "] ++ header ++ [.plain " \x7b"]), .indent]

/-- The end of a braced part, with text right after the brace. -/
def closingWith (tail : Snippet) : Block :=
  [.dedent, .text ([.plain "\x7d"] ++ tail)]

/-- The end of a braced part. -/
def closing : Block :=
  closingWith []

/-- A documentation comment, if there is one. -/
def doc (comment : Option String) : Block :=
  match comment with
  | some comment => [.doc comment]
  | none => []

/-- The symbols that stand in the lines of a block. -/
def symbols (block : Block) : List Symbol :=
  block.flatMap fun
    | .text snippet => snippet.symbols
    | _ => []

/-- The lines of a block under a choice of names. -/
def named (names : Symbol → String) (block : Block) : List (Line String) :=
  List.map (Line.map (Snippet.text names)) block

/-- The text of a block in which every symbol keeps its own name. -/
def render (block : Block) : String :=
  Layout.write (block.named Symbol.name)

/-- The text lines of a block one after the other, for use inside a line. -/
def inlined (block : Block) : Snippet :=
  [Piece.plain " "].intercalate
    (block.filterMap fun
      | .text snippet => some snippet
      | _ => none)

end Block

/-- Lines of code and the symbols that were recorded while they were written. The record
is kept by hand: nothing in this type ties it to what stands in the lines.
-/
structure Code where
  lines : Block := []
  recorded : List Symbol := []

end ProtobufTypeScript.Target
