import ProtobufTypeScript.Message.Decode
import ProtobufTypeScript.Message.Encode
import ProtobufTypeScript.Proofs.Target.Contents

/-!
How emitted code moves values between a message and the wire, read off the statements themselves:
the tags that a statement writes, the calls that write and read values, and the fields of the
message that take part.
-/

namespace ProtobufTypeScript.Message

open ProtobufTypeScript.Field Schema Target

/-- How one value travels: by a method that the reader and the writer share, or as a
nested message between its length and its end.
-/
inductive Transfer where
  | method (name : String)
  | nested (symbol : Symbol)
deriving DecidableEq, Repr

/-- How one value of a kind travels. -/
def transferOf : Kind → Transfer
  | .scalar scalar => .method scalar.keyword
  | .enumeration _ => .method "int32"
  | .message symbol => .nested symbol
  | .wrapper symbol _ => .nested symbol
  | .timestamp symbol => .nested symbol
  | .map entry _ _ => .nested entry

/-- What a statement has the writer do. -/
inductive WriteStep where
  /-- Writes a tag and one value after it. -/
  | value (tag : Nat) (transfer : Transfer)
  /-- Writes a tag and leaves room for the length of what follows. -/
  | openRun (tag : Nat)
  /-- Writes one value without a tag. -/
  | bare (transfer : Transfer)
  /-- Fills in the length of a run. -/
  | closeRun
deriving DecidableEq, Repr

/-- Whether an expression is the writer's method that writes tags. -/
def isTagWriter : Expr → Bool
  | .member (.name "writer") "uint32" => true
  | _ => false

/-- The constant that a call `writer.uint32(…)` writes. -/
def tagOf? : Expr → Option Nat
  | .call callee [.number (.ofNat tag)] => if isTagWriter callee then some tag else none
  | _ => none

/-- The tag constants in an expression. -/
def tagsIn (value : Expr) : List Nat :=
  value.parts.filterMap tagOf?

/-- All tag constants in a statement. -/
def writtenTags (statement : Stmt) : List Nat :=
  statement.expressions.flatMap tagsIn

/-- What a call has the writer do, given its arguments and what is called. -/
def writeStepOf? : List Expr → Expr → Option WriteStep
  | [_], .member (.name "writer") method => some (.bare (.method method))
  | [_], .member tagCall method =>
      (tagOf? tagCall).map (fun tag => .value tag (.method method))
  | [], .member (.name "writer") "ldelim" => some .closeRun
  | [], .member (.call (.member (.symbol symbol) "encode") [_, .call (.member tagCall "fork") []])
      "ldelim" =>
      (tagOf? tagCall).map (fun tag => .value tag (.nested symbol))
  | [], .member tagCall "fork" => (tagOf? tagCall).map .openRun
  | _, _ => none

/-- What a statement itself has the writer do. -/
def writeStep? : Stmt → Option WriteStep
  | .expression (.call callee arguments) => writeStepOf? arguments callee
  | _ => none

/-- What a statement and the statements inside it have the writer do, in order. -/
def writeSteps (statement : Stmt) : List WriteStep :=
  statement.parts.filterMap writeStep?

/-- The value that a call reads, given its arguments and what is called. -/
def transferOf? : List Expr → Expr → Option Transfer
  | [], .member (.name "reader") method => some (.method method)
  | [.name "reader", .call (.member (.name "reader") "uint32") []],
      .member (.symbol symbol) "decode" =>
      some (.nested symbol)
  | _, _ => none

mutual
/-- The values that an expression reads. What a nested message is read with is part of it.
-/
def transfersIn : Expr → List Transfer
  | .call callee arguments =>
      match transferOf? arguments callee with
      | some transfer => [transfer]
      | none => transfersIn callee ++ transfersInAll arguments
  | .construct callee arguments => transfersIn callee ++ transfersInAll arguments
  | .member value _ => transfersIn value
  | .element value key => transfersIn value ++ transfersIn key
  | .present value => transfersIn value
  | .not value => transfersIn value
  | .typeOf value => transfersIn value
  | .await value => transfersIn value
  | .binary _ left right => transfersIn left ++ transfersIn right
  | .conditional condition yes no =>
      transfersIn condition ++ transfersIn yes ++ transfersIn no
  | .cast value _ => transfersIn value
  | .bracketed value => transfersIn value
  | .spread value => transfersIn value
  | .keyed _ value => transfersIn value
  | .object entries => transfersInAll entries
  | .list elements => transfersInAll elements
  | .arrow _ body => transfersIn body
  | .name _ => []
  | .symbol _ => []
  | .number _ => []
  | .grouped _ => []
  | .quoted _ => []

/-- The values that the expressions of a list read. -/
def transfersInAll : List Expr → List Transfer
  | [] => []
  | value :: rest => transfersIn value ++ transfersInAll rest
end

/-- Whether an expression is the place where a run ends, which its length tells. -/
def isRunEnd : Expr → Bool
  | .binary .plus (.call (.member (.name "reader") "uint32") []) (.member (.name "reader") "pos") =>
      true
  | _ => false

/-- Whether a condition holds of the tags of runs. -/
def isRunTest : Expr → Bool
  | .binary .equal (.bracketed (.binary .bitAnd (.name "tag") (.number 7))) (.number 2) => true
  | _ => false

/-- The values that statements read, besides the lengths of runs. -/
def transfersOf (statements : List Stmt) : List Transfer :=
  (Stmt.partsAll statements).flatMap
    (fun part => (part.ownExpressions.filter (fun value => !isRunEnd value)).flatMap transfersIn)

/-- Whether a statement is a branch for runs. -/
def isRunBranch : Stmt → Bool
  | .branch condition _ _ => isRunTest condition
  | _ => false

/-- The constant that a statement itself declares. -/
def declaredConst? : Stmt → Option String
  | .const name _ _ => some name
  | _ => none

/-- The subject and the sections of a statement that is a switch. -/
def switch? : Stmt → Option (Expr × List Section)
  | .choose subject sections => some (subject, sections)
  | _ => none

/-- The switches in statements. -/
def switchesIn (statements : List Stmt) : List (Expr × List Section) :=
  (Stmt.partsAll statements).filterMap switch?

/-- The field of the message that an expression stands for. -/
def fieldOf? : Expr → Option String
  | .member (.name "message") field => some field
  | _ => none

/-- The fields of the message in an expression. -/
def fieldsIn (value : Expr) : List String :=
  value.parts.filterMap fieldOf?

/-- The fields of the message that a statement uses, as often as it does. -/
def usedFields (statement : Stmt) : List String :=
  statement.expressions.flatMap fieldsIn

/-- The field that a statement itself assigns to, pushes on, or keeps an entry in. -/
def storedField? : Stmt → Option String
  | .assign (.element target _) _ => fieldOf? target
  | .assign target _ => fieldOf? target
  | .expression (.call (.member target "push") [_]) => fieldOf? target
  | _ => none

/-- The fields that statements store values in, as often as they do. -/
def storedFields (statements : List Stmt) : List String :=
  (Stmt.partsAll statements).filterMap storedField?

end ProtobufTypeScript.Message
