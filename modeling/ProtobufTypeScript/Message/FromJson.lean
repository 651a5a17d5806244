import ProtobufTypeScript.Helper.Basic
import ProtobufTypeScript.Message.Base

/-!
Making a message from a JSON value. Every value that the JSON object has is converted to that of a
message; what it lacks gets its default.
-/

namespace ProtobufTypeScript.Message

open ProtobufTypeScript.Field Schema Target

/-- A value made from a JSON value. -/
def valueFromJson (options : Options) (kind : Kind) (value : Expr) : Expr :=
  match kind with
  | .scalar scalar => scalarFromJson options scalar value
  | .enumeration symbol => .method (.symbol symbol) "fromJSON" [value]
  | .message symbol => .method (.symbol symbol) "fromJSON" [value]
  | .wrapper _ scalar => wrappedFromJson scalar value
  | .timestamp _ => .call (.symbol Helper.fromJsonTimestamp.symbol) [value]
  | .map entry _ _ => .method (.symbol entry) "fromJSON" [value]

namespace FromJson

/-- Whether the JSON object has a field. -/
def isGiven (shape : Shape) : Expr :=
  .binary .and (.binary .notEqual (source shape) .undefined)
    (.binary .notEqual (source shape) (.name "null"))

/-- The key of a map made from the key of the JSON object. -/
def mapKey (options : Options) (key : Scalar) : Expr :=
  if hasNumericKey options key then converted "Number" (.name "key") else .name "key"

/-- Takes over a field that the JSON object has. -/
def takeGiven (options : Options) (shape : Shape) : Stmt :=
  match shape.kind with
  | .map _ key value =>
      .callback none (.member (.method (.name "Object") "entries" [source shape]) "forEach") []
        false [.pair "key" "value"]
        [
          .assign (.element (place shape) (mapKey options key))
            (valueFromJson options value (.name "value"))
        ]
  | kind =>
      if shape.repeated then
        .each "e" (source shape)
          [.expression (.method (place shape) "push" [valueFromJson options kind (.name "e")])]
      else .assign (place shape) (valueFromJson options kind (source shape))

/-- The value of a field that the JSON object lacks. -/
def missingValue (options : Options) (shape : Shape) : Expr :=
  if shape.inOneof then .undefined else shape.default options

/-- Takes over a field, or gives it its default; a repeated field has been seeded with
that.
-/
def takeField (options : Options) (shape : Shape) : Stmt :=
  if shape.repeated then .when (isGiven shape) [takeGiven options shape]
  else
    .either (isGiven shape) [takeGiven options shape]
      [.assign (place shape) (missingValue options shape)]

/-- The statements of `fromJSON`. -/
def body (options : Options) (name : String) (shapes : List Shape) : List Stmt :=
  seed name shapes ++ shapes.map (takeField options) ++ [.result (.name "message")]

end FromJson

namespace Recorded

/-- What is recorded for a value made from a JSON value. -/
def valueFromJson (options : Options) : Kind → List Symbol
  | .scalar scalar => longRecorded options scalar
  | .enumeration symbol => [symbol]
  | .message symbol => [symbol]
  | .wrapper _ _ => []
  | .timestamp _ => [Helper.fromJsonTimestamp.symbol]
  | .map entry _ _ => [entry]

/-- What is recorded for taking over a field that the JSON object has. -/
def takeGivenFromJson (options : Options) (shape : Shape) : List Symbol :=
  match shape.kind with
  | .map _ _ value => valueFromJson options value
  | kind => valueFromJson options kind

/-- What is recorded for taking over a field: what its values need, and what its default
does where it is given that.
-/
def takeFromJson (options : Options) (shape : Shape) : List Symbol :=
  takeGivenFromJson options shape
    ++ if shape.repeated || shape.inOneof then [] else shape.defaultRecorded options

end Recorded

/-- The function that makes a message from a JSON value. -/
def fromJson (options : Options) (name : String) (shapes : List Shape) : Function :=
  {
    name := "fromJSON"
    params := [{ name := "object", type := .any }]
    returns := TypeExpr.simple name
    body :=
      {
        lines := Stmt.codeAll (FromJson.body options name shapes)
        recorded := shapes.flatMap (Recorded.takeFromJson options)
      }
  }

end ProtobufTypeScript.Message
