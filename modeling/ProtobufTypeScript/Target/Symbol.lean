import ProtobufTypeScript.Text.Order

/-!
Names that generated code mentions, each with the place it comes from. Symbols are ordered by name
and then by place, which is the order in which imports are named.
-/

namespace ProtobufTypeScript.Target

/-- A module that can be imported from. -/
inductive Module where
  /-- A library, imported by its own name. -/
  | package (name : String)
  /-- Another generated unit, given by its path without extension. -/
  | generated (path : String)
deriving DecidableEq, Repr

/-- Where a name comes from. -/
inductive Origin where
  /-- The unit declares it itself. -/
  | own
  /-- The unit declares it as a helper if it is mentioned. -/
  | helper
  /-- The module exports it. -/
  | named (module : Module)
  /-- It stands for the whole module. -/
  | wholeModule (module : Module)
deriving DecidableEq, Repr

structure Symbol where
  name : String
  origin : Origin
deriving DecidableEq, Repr

namespace Module

/-- The name or path of a module. -/
def path : Module → String
  | package name => name
  | generated path => path

/-- Packages come before generated units. -/
def rank : Module → Nat
  | package _ => 0
  | generated _ => 1

def atMost (a b : Module) : Bool :=
  if a.rank = b.rank then Text.atMost a.path b.path else decide (a.rank < b.rank)

end Module

namespace Origin

/-- The module that a name is imported from, if any. -/
def module? : Origin → Option Module
  | own => none
  | helper => none
  | named module => some module
  | wholeModule module => some module

/-- The order of origins before their modules are looked at. -/
def rank : Origin → Nat
  | own => 0
  | helper => 1
  | named _ => 2
  | wholeModule _ => 3

def atMost (a b : Origin) : Bool :=
  if a.rank = b.rank then
    match a.module?, b.module? with
    | some m, some n => m.atMost n
    | _, _ => true
  else decide (a.rank < b.rank)

end Origin

namespace Symbol

/-- Whether a symbol comes before another or equals it. -/
def atMost (a b : Symbol) : Bool :=
  if a.name = b.name then a.origin.atMost b.origin else Text.atMost a.name b.name

/-- Whether a symbol comes from a module, be it the unit's own. -/
def isFromModule (symbol : Symbol) : Bool :=
  symbol.origin.module?.isSome

/-- Whether a symbol is a helper. -/
def isHelper (symbol : Symbol) : Bool :=
  symbol.origin == .helper

def ofPackage (name package : String) : Symbol :=
  { name, origin := .named (.package package) }

def ofUnit (name path : String) : Symbol :=
  { name, origin := .named (.generated path) }

def wholePackage (name package : String) : Symbol :=
  { name, origin := .wholeModule (.package package) }

def ofHelper (name : String) : Symbol :=
  { name, origin := .helper }

end Symbol

/-- What was recorded for a piece of code. -/
structure References where
  /-- The symbols from modules, in order and each once. -/
  imports : List Symbol
  /-- The names of the helpers, in order and each once. -/
  helpers : List String
deriving DecidableEq, Repr

/-- What recording some symbols one after the other comes to. Names that a unit declares
itself leave nothing behind, helpers their names, and symbols from modules themselves.
-/
def References.ofSymbols (symbols : List Symbol) : References :=
  {
    imports := Text.sortDistinct Symbol.atMost (symbols.filter Symbol.isFromModule)
    helpers := Text.sortStrings ((symbols.filter Symbol.isHelper).map Symbol.name)
  }

end ProtobufTypeScript.Target
