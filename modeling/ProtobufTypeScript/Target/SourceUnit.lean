import ProtobufTypeScript.Target.Declaration
import ProtobufTypeScript.Target.ModulePath

/-!
A unit of generated code: a heading comment, the imports that were recorded for its items, and the
items. An imported name that is taken already gets the first free number appended, in the order of
the symbols.
-/

namespace ProtobufTypeScript.Target

structure SourceUnit where
  /-- The path of the unit without extension. -/
  module : String
  header : Option String := none
  items : List Item := []
  /-- Names that imports must leave alone, besides those of the items. -/
  declared : List String := []

/-- A name, or the name with the least positive number that is not taken. More numbers are
tried than there are taken names, so one of them is free.
-/
def freshName (taken : List String) (name : String) : String :=
  if taken.contains name then
    let numbered := (List.range (taken.length + 1)).map (fun n => name ++ toString (n + 1))
    (numbered.find? (fun candidate => !taken.contains candidate)).getD name
  else name

/-- Local names for symbols in turn, each of which is taken from then on. -/
def assignNames : List String → List Symbol → List (Symbol × String)
  | _, [] => []
  | taken, symbol :: rest =>
      let name := freshName taken symbol.name
      (symbol, name) :: assignNames (name :: taken) rest

/-- An imported symbol and its local name. -/
abbrev Import := Symbol × String

namespace Import

/-- How a name is imported: as it is, or under another name. -/
def clause (entry : Import) : String :=
  if entry.2 = entry.1.name then entry.2 else entry.1.name ++ " as " ++ entry.2

/-- Whether an import stands for the whole of a module. -/
def isWhole (entry : Import) : Bool :=
  match entry.1.origin with
  | .wholeModule _ => true
  | _ => false

/-- The order of imports by their local names. -/
def atMost (a b : Import) : Bool :=
  Text.atMost a.2 b.2

end Import

/-- A statement that imports from the module at a specifier. -/
inductive ImportStatement where
  /-- Binds one name to the whole module. -/
  | whole (entry : Import) (specifier : String)
  /-- Binds names that the module exports. -/
  | named (entries : List Import) (specifier : String)
deriving DecidableEq, Repr

namespace ImportStatement

/-- The imports a statement makes. -/
def bound : ImportStatement → List Import
  | whole entry _ => [entry]
  | named entries _ => entries

/-- Where a statement reads from. -/
def specifier : ImportStatement → String
  | whole _ specifier => specifier
  | named _ specifier => specifier

/-- How a statement is written. -/
def text : ImportStatement → String
  | whole entry specifier => "import * as " ++ entry.2 ++ " from '" ++ specifier ++ "';"
  | named entries specifier =>
      let clauses := Text.sortStrings (entries.map Import.clause)
      "import \x7b " ++ ", ".intercalate clauses ++ " \x7d from '" ++ specifier ++ "';"

end ImportStatement

namespace SourceUnit

/-- The symbols that were recorded for the items of a unit. -/
def recorded (unit : SourceUnit) : List Symbol :=
  unit.items.flatMap Item.recorded

/-- What was recorded for the items of a unit, in order. -/
def references (unit : SourceUnit) : References :=
  References.ofSymbols unit.recorded

/-- Whether a unit imports a symbol: it comes from a module, and is not a name the unit
declares.
-/
def imports (unit : SourceUnit) (symbol : Symbol) : Bool :=
  match symbol.origin with
  | .own => false
  | .helper => false
  | .named module => module != .generated unit.module
  | .wholeModule _ => true

/-- The names that are taken before any import is named. -/
def takenNames (unit : SourceUnit) (references : References) : List String :=
  unit.declared ++ unit.items.filterMap Item.reservedName ++ references.helpers
    ++ (references.imports.filter (fun symbol => !unit.imports symbol)).map Symbol.name

/-- The imports of a unit with their local names. -/
def importNames (unit : SourceUnit) (references : References) : List Import :=
  assignNames (unit.takenNames references) (references.imports.filter unit.imports)

/-- The name that stands for a symbol in the unit: the local name of an import, else its
own.
-/
def nameOf (imports : List Import) (symbol : Symbol) : String :=
  (imports.lookup symbol).getD symbol.name

/-- Where an import statement reads a module from; packages come before other units. -/
def specifier (unit : SourceUnit) : Module → Nat × String
  | .package name => (0, name)
  | .generated path => (1, ModulePath.relative unit.module path)

/-- The order of import statements. -/
def specifierAtMost (a b : Nat × String) : Bool :=
  if a.1 = b.1 then Text.atMost a.2 b.2 else decide (a.1 < b.1)

/-- The place an import is read from, if it comes from a module. -/
def placeOf? (unit : SourceUnit) (entry : Import) : Option (Nat × String) :=
  entry.1.origin.module?.map unit.specifier

/-- The import statements that read from one place. -/
def statementsFrom (unit : SourceUnit) (imports : List Import) (place : Nat × String)
    : List ImportStatement :=
  let read := imports.filter (fun entry => unit.placeOf? entry = some place)
  let whole := Text.sortDistinct Import.atMost (read.filter Import.isWhole)
  let named := read.filter (fun entry => !entry.isWhole)
  whole.map (.whole · place.2) ++ if named.isEmpty then [] else [.named named place.2]

/-- The places that the imports are read from, in order. -/
def places (unit : SourceUnit) (imports : List Import) : List (Nat × String) :=
  Text.sortDistinct specifierAtMost (imports.filterMap unit.placeOf?)

/-- The import statements of a unit. -/
def importStatements (unit : SourceUnit) (imports : List Import) : List ImportStatement :=
  (unit.places imports).flatMap (unit.statementsFrom imports)

/-- The heading of a unit: its comment, its imports, and an empty line if there is either.
-/
def heading (unit : SourceUnit) (imports : List Import) : List (Line String) :=
  let statements := unit.importStatements imports
  (unit.header.map Line.remark).toList
    ++ statements.map (fun statement => .text statement.text)
    ++ if unit.header.isSome || !statements.isEmpty then [.blank] else []

/-- The lines of the items, with an empty line between items. -/
def body (unit : SourceUnit) (imports : List Import) : List (Line String) :=
  [Line.blank].intercalate (unit.items.map (fun item => item.block.named (nameOf imports)))

/-- The text of a unit. -/
def render (unit : SourceUnit) : String :=
  let imports := unit.importNames unit.references
  Layout.write (unit.heading imports ++ unit.body imports)

end SourceUnit

end ProtobufTypeScript.Target
