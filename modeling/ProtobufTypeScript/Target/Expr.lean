import ProtobufTypeScript.Target.TypeExpr

/-!
Expressions and how they are written. Brackets are written where the expression has them; names,
keys and quoted texts are written as they are given.
-/

namespace ProtobufTypeScript.Target

inductive BinaryOp where
  | equal
  | notEqual
  | less
  | greater
  | plus
  | times
  | divide
  | remainder
  | shiftRight
  | bitAnd
  | or
  | and
  | instanceOf
deriving DecidableEq, Repr

/-- The token of an operator. -/
def BinaryOp.token : BinaryOp → String
  | equal => "==="
  | notEqual => "!=="
  | less => "<"
  | greater => ">"
  | plus => "+"
  | times => "*"
  | divide => "/"
  | remainder => "%"
  | shiftRight => ">>>"
  | bitAnd => "&"
  | or => "||"
  | and => "&&"
  | instanceOf => "instanceof"

inductive Expr where
  | name (text : String)
  | symbol (referent : Symbol)
  | number (value : Int)
  /-- A number with its digits in groups of three. -/
  | grouped (value : Nat)
  | quoted (text : String)
  | member (object : Expr) (property : String)
  | element (object key : Expr)
  | call (callee : Expr) (arguments : List Expr)
  | construct (callee : Expr) (arguments : List Expr)
  /-- The value taken to be neither `null` nor `undefined`. -/
  | present (value : Expr)
  | not (value : Expr)
  | typeOf (value : Expr)
  | await (value : Expr)
  | binary (operator : BinaryOp) (left right : Expr)
  | conditional (condition yes no : Expr)
  | cast (value : Expr) (type : TypeExpr)
  | bracketed (value : Expr)
  /-- All entries or elements of a value, inside an object or a list. -/
  | spread (value : Expr)
  /-- An entry of an object with its key. -/
  | keyed (key : String) (value : Expr)
  | object (entries : List Expr)
  | list (elements : List Expr)
  | arrow (parameters : List String) (body : Expr)
deriving Repr

namespace Expr

/-- Digits in groups of three, counted from the right. -/
def groupDigits : List Char → List Char
  | a :: b :: c :: d :: rest => a :: b :: c :: '_' :: groupDigits (d :: rest)
  | digits => digits

/-- A number with an underscore between groups of three digits. -/
def groupedText (value : Nat) : String :=
  String.ofList (groupDigits (Nat.toDigits 10 value).reverse).reverse

mutual
/-- How an expression is written. -/
def snippet : Expr → Snippet
  | .name text => [.plain text]
  | .symbol referent => [.symbol referent]
  | .number value => [.plain (toString value)]
  | .grouped value => [.plain (groupedText value)]
  | .quoted text => [.plain ("\"" ++ text ++ "\"")]
  | .member value property => snippet value ++ [.plain ("." ++ property)]
  | .element value key => snippet value ++ [.plain "["] ++ snippet key ++ [.plain "]"]
  | .call callee arguments =>
      snippet callee ++ [.plain "("] ++ joined arguments ++ [.plain ")"]
  | .construct callee arguments =>
      [.plain "new "] ++ snippet callee ++ [.plain "("] ++ joined arguments ++ [.plain ")"]
  | .present value => snippet value ++ [.plain "!"]
  | .not value => [.plain "!"] ++ snippet value
  | .typeOf value => [.plain "typeof "] ++ snippet value
  | .await value => [.plain "await "] ++ snippet value
  | .binary operator left right =>
      snippet left ++ [.plain (" " ++ operator.token ++ " ")] ++ snippet right
  | .conditional condition yes no =>
      snippet condition ++ [.plain " ? "] ++ snippet yes ++ [.plain " : "] ++ snippet no
  | .cast value type => snippet value ++ [.plain " as "] ++ type.snippet
  | .bracketed value => [.plain "("] ++ snippet value ++ [.plain ")"]
  | .spread value => [.plain "..."] ++ snippet value
  | .keyed key value => [.plain (key ++ ": ")] ++ snippet value
  | .object entries =>
      if entries.isEmpty then [.plain "\x7b\x7d"]
      else [.plain "\x7b "] ++ joined entries ++ [.plain " \x7d"]
  | .list elements => [.plain "["] ++ joined elements ++ [.plain "]"]
  | .arrow parameters body =>
      [.plain ("(" ++ ", ".intercalate parameters ++ ") => ")] ++ snippet body

/-- How expressions are written one after the other. -/
def joined : List Expr → Snippet
  | [] => []
  | [value] => snippet value
  | value :: rest => snippet value ++ [.plain ", "] ++ joined rest
end

/-- The member of a named object. -/
def field (object property : String) : Expr :=
  .member (.name object) property

/-- A method call. -/
def method (object : Expr) (name : String) (arguments : List Expr) : Expr :=
  .call (.member object name) arguments

def undefined : Expr := .name "undefined"

end Expr

end ProtobufTypeScript.Target
