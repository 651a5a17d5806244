import ProtobufTypeScript.Helper.Basic
import ProtobufTypeScript.Message.Base

/-!
Making a message from a partial one of the same type. The values that the partial message has are
right already, but for messages inside it, which are partial too; what it lacks gets its default.
Undefined values of maps are skipped.
-/

namespace ProtobufTypeScript.Message

open ProtobufTypeScript.Field Schema Target

/-- A value made from a value of a partial message. The partial type takes long-integer
objects apart, so that they are cast back.
-/
def valueFromPartial (options : Options) (kind : Kind) (value : Expr) : Expr :=
  match kind with
  | .message symbol => .method (.symbol symbol) "fromPartial" [value]
  | .map entry _ _ => .method (.symbol entry) "fromPartial" [value]
  | .scalar scalar =>
      if isLongObject options scalar then .cast value (.symbol Library.long) else value
  | _ => value

namespace FromPartial

/-- Whether the partial message has a field. -/
def isGiven (shape : Shape) : Expr :=
  .binary .and (.binary .notEqual (source shape) .undefined)
    (.binary .notEqual (source shape) (.name "null"))

/-- The key of a map made from the key of the partial message. -/
def mapKey (options : Options) (key : Scalar) : Expr :=
  if hasNumericKey options key then converted "Number" (.name "key") else .name "key"

/-- Takes over a field that the partial message has. -/
def takeGiven (options : Options) (shape : Shape) : Stmt :=
  match shape.kind with
  | .map _ key value =>
      .callback none (.member (.method (.name "Object") "entries" [source shape]) "forEach") []
        false [.pair "key" "value"]
        [
          .when (.binary .notEqual (.name "value") .undefined)
            [
              .assign (.element (place shape) (mapKey options key))
                (valueFromPartial options value (.name "value"))
            ]
        ]
  | kind =>
      if shape.repeated then
        .each "e" (source shape)
          [.expression (.method (place shape) "push" [valueFromPartial options kind (.name "e")])]
      else .assign (place shape) (valueFromPartial options kind (source shape))

/-- The value of a field that the partial message lacks. -/
def missingValue (options : Options) (shape : Shape) : Expr :=
  if shape.inOneof then .undefined else shape.default options

/-- Takes over a field, or gives it its default; a repeated field has been seeded with
that.
-/
def takeField (options : Options) (shape : Shape) : Stmt :=
  if shape.repeated then .when (isGiven shape) [takeGiven options shape]
  else
    .either (isGiven shape) [takeGiven options shape]
      [.assign (place shape) (missingValue options shape)]

/-- The statements of `fromPartial`. -/
def body (options : Options) (name : String) (shapes : List Shape) : List Stmt :=
  seed name shapes ++ shapes.map (takeField options) ++ [.result (.name "message")]

end FromPartial

namespace Recorded

/-- What is recorded for a value made from a value of a partial message. -/
def valueFromPartial (options : Options) : Kind → List Symbol
  | .message symbol => [symbol]
  | .map entry _ _ => [entry]
  | .scalar scalar => longRecorded options scalar
  | _ => []

/-- What is recorded for taking over a field that the partial message has. -/
def takeGivenFromPartial (options : Options) (shape : Shape) : List Symbol :=
  match shape.kind with
  | .map _ _ value => valueFromPartial options value
  | kind => valueFromPartial options kind

/-- What is recorded for taking over a field: what its values need, and what its default
does where it is given that.
-/
def takeFromPartial (options : Options) (shape : Shape) : List Symbol :=
  takeGivenFromPartial options shape
    ++ if shape.repeated || shape.inOneof then [] else shape.defaultRecorded options

end Recorded

/-- The function that makes a message from a partial one. -/
def fromPartial (options : Options) (name : String) (shapes : List Shape) : Function :=
  {
    name := "fromPartial"
    params :=
      [
        {
          name := "object"
          type := .generic (.symbol Helper.deepPartial.symbol) [.simple name]
        }
      ]
    returns := TypeExpr.simple name
    body :=
      {
        lines := Stmt.codeAll (FromPartial.body options name shapes)
        recorded := shapes.flatMap (Recorded.takeFromPartial options)
      }
  }

end ProtobufTypeScript.Message
