import ProtobufTypeScript.Target.Snippet

/-!
Type expressions and how they are written. The members of a union are not bracketed, except where
the union is the element type of an array.
-/

namespace ProtobufTypeScript.Target

inductive TypeExpr where
  /-- A type of the language, a type variable, or any other type written out. -/
  | simple (name : String)
  | symbol (referent : Symbol)
  | union (members : List TypeExpr)
  | array (element : TypeExpr)
  /-- An object indexed by keys. -/
  | index (key value : TypeExpr)
  | generic (base : TypeExpr) (arguments : List TypeExpr)
deriving Repr

namespace TypeExpr

def number : TypeExpr := .simple "number"
def string : TypeExpr := .simple "string"
def boolean : TypeExpr := .simple "boolean"
def undefined : TypeExpr := .simple "undefined"
def any : TypeExpr := .simple "any"
def bytes : TypeExpr := .simple "Uint8Array"
def date : TypeExpr := .simple "Date"

/-- The type with `undefined` added. -/
def optional (type : TypeExpr) : TypeExpr :=
  .union [type, undefined]

def promise (type : TypeExpr) : TypeExpr :=
  .generic (.simple "Promise") [type]

/-- Whether a type is written as a union. -/
def isUnion : TypeExpr → Bool
  | .union _ => true
  | _ => false

mutual
/-- How a type is written. -/
def snippet : TypeExpr → Snippet
  | .simple name => [.plain name]
  | .symbol referent => [.symbol referent]
  | .union members => joined " | " members
  | .array element =>
      if element.isUnion then [.plain "("] ++ snippet element ++ [.plain ")[]"]
      else snippet element ++ [.plain "[]"]
  | .index key value =>
      [.plain "\x7b [key: "] ++ snippet key ++ [.plain "]: "] ++ snippet value
        ++ [.plain " \x7d"]
  | .generic base arguments =>
      snippet base ++ [.plain "<"] ++ joined ", " arguments ++ [.plain ">"]

/-- How types are written one after the other. -/
def joined (separator : String) : List TypeExpr → Snippet
  | [] => []
  | [type] => snippet type
  | type :: rest => snippet type ++ [.plain separator] ++ joined separator rest
end

mutual
/-- The symbols that writing a type records, in the order in which they are met: the
arguments of a generic type come before its base.
-/
def recorded : TypeExpr → List Symbol
  | .simple _ => []
  | .symbol referent => [referent]
  | .union members => recordedAll members
  | .array element => recorded element
  | .index key value => recorded key ++ recorded value
  | .generic base arguments => recordedAll arguments ++ recorded base

/-- The symbols that writing several types records. -/
def recordedAll : List TypeExpr → List Symbol
  | [] => []
  | type :: rest => recorded type ++ recordedAll rest
end

end TypeExpr

end ProtobufTypeScript.Target
