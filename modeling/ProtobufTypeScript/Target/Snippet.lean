import ProtobufTypeScript.Target.Symbol
import ProtobufTypeScript.Text.Lines

/-!
Code text in which symbols keep their identity until the unit is complete and their local names are
known. In the text itself a symbol from a module is written as a mark between private characters;
`resolve` replaces each mark by a name. Text that already holds such characters takes part in this,
so that marks are read off the written text and nowhere else.
-/

namespace ProtobufTypeScript.Target

inductive Piece where
  | plain (text : String)
  | symbol (symbol : Symbol)
deriving DecidableEq, Repr

/-- A run of code text. -/
abbrev Snippet := List Piece

/-- The character that opens a mark. -/
def markStart : Char := '\uE000'

/-- The character between the path and the name in a mark. -/
def markSplit : Char := '\uE001'

/-- The character that closes a mark. -/
def markEnd : Char := '\uE002'

namespace Module

/-- The letter for the kind of a module, and its path. -/
def markBody : Module → List Char
  | package name => 'p' :: name.toList
  | generated path => 'g' :: path.toList

/-- The module with a given letter and path. -/
def ofMark? (letter : Char) (path : List Char) : Option Module :=
  if letter = 'p' then some (.package (String.ofList path))
  else if letter = 'g' then some (.generated (String.ofList path))
  else none

end Module

namespace Symbol

/-- What is written for a symbol: a mark if it comes from a module, else its name. -/
def mark (symbol : Symbol) : List Char :=
  match symbol.origin with
  | .own => symbol.name.toList
  | .helper => symbol.name.toList
  | .named module =>
      markStart :: 'n' :: module.markBody ++ markSplit :: symbol.name.toList ++ [markEnd]
  | .wholeModule module =>
      markStart :: 's' :: module.markBody ++ markSplit :: symbol.name.toList ++ [markEnd]

/-- The symbol that the inside of a mark names, if it is well formed. -/
def ofMark? : List Char → Option Symbol
  | kind :: letter :: rest => do
      let (path, name) ← Text.cutAt markSplit rest
      let module ← Module.ofMark? letter path
      if kind = 'n' then some { name := String.ofList name, origin := .named module }
      else if kind = 's' then some { name := String.ofList name, origin := .wholeModule module }
      else none
  | _ => none

end Symbol

/-- The written form of a snippet. -/
def Snippet.written (snippet : Snippet) : List Char :=
  snippet.flatMap fun
    | .plain text => text.toList
    | .symbol symbol => symbol.mark

/-- The symbols of a snippet, in the order of the text. -/
def Snippet.symbols (snippet : Snippet) : List Symbol :=
  snippet.filterMap fun
    | .plain _ => none
    | .symbol symbol => some symbol

/-- Replaces marks by names. While a mark is open its characters so far are kept in
reverse; a mark that is not well formed is dropped, and one that never ends is left as it
is.
-/
def resolveFrom (names : Symbol → String) : Option (List Char) → List Char → List Char
  | none, [] => []
  | none, c :: rest =>
      if c = markStart then resolveFrom names (some []) rest
      else c :: resolveFrom names none rest
  | some seen, [] => markStart :: seen.reverse
  | some seen, c :: rest =>
      if c = markEnd then
        match Symbol.ofMark? seen.reverse with
        | some symbol => (names symbol).toList ++ resolveFrom names none rest
        | none => resolveFrom names none rest
      else resolveFrom names (some (c :: seen)) rest

/-- The written text with every mark replaced by the name chosen for its symbol. -/
def resolve (names : Symbol → String) (written : List Char) : List Char :=
  resolveFrom names none written

/-- The text of a snippet under a choice of names. -/
def Snippet.text (names : Symbol → String) (snippet : Snippet) : String :=
  String.ofList (resolve names snippet.written)

end ProtobufTypeScript.Target
