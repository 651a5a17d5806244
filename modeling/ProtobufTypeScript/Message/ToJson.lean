import ProtobufTypeScript.Message.Base

/-!
Making a JSON value from a message. Lists and maps are always there, long-integer objects become
decimal strings, and single values that are missing become their defaults.
-/

namespace ProtobufTypeScript.Message

open ProtobufTypeScript.Field Schema Target

/-- How sure a value is to be there. -/
inductive Presence where
  /-- An element of a list or a value of a map, which is there. -/
  | element
  /-- A field of a oneof, which is undefined if another one is set. -/
  | inOneof
  /-- Any other single field, which objects made by hand may lack. -/
  | single
deriving DecidableEq, Repr

/-- A value where a condition holds, else `undefined`. -/
def valueIf (condition value : Expr) : Expr :=
  .conditional condition value .undefined

/-- Whether a value is there. -/
def isDefined (value : Expr) : Expr :=
  .binary .notEqual value .undefined

/-- A long-integer object as a decimal string. -/
def decimalString (value : Expr) : Expr :=
  .method value "toString" []

/-- The JSON value of a scalar. -/
def scalarToJson (options : Options) (presence : Presence) (scalar : Scalar) (value : Expr)
    : Expr :=
  let orDefault : Expr := .binary .or value (scalarDefault options scalar)
  match presence, isLongObject options scalar with
  | .element, true => decimalString value
  | .element, false => value
  | .inOneof, true => valueIf (isDefined value) (decimalString value)
  | .inOneof, false => value
  | .single, true => decimalString (.bracketed orDefault)
  | .single, false => orDefault

/-- The JSON value of one value. -/
def valueToJson (options : Options) (presence : Presence) (kind : Kind) (value : Expr) : Expr :=
  match kind with
  | .enumeration symbol =>
      let converted : Expr := .method (.symbol symbol) "toJSON" [value]
      if presence = .inOneof then valueIf (isDefined value) converted else converted
  | .timestamp _ =>
      .conditional (isDefined value) (.method value "toISOString" []) (.name "null")
  | .message symbol => valueIf value (.method (.symbol symbol) "toJSON" [value])
  | .map entry _ _ => valueIf value (.method (.symbol entry) "toJSON" [value])
  | .wrapper _ _ => value
  | .scalar scalar => scalarToJson options presence scalar value

/-- Where the JSON object keeps a field. -/
def output (shape : Shape) : Expr :=
  .field "obj" shape.name

/-- Gives the JSON object a map. -/
def giveMap (options : Options) (shape : Shape) (value : Kind) : List Stmt :=
  [
    .assign (output shape) (.object []),
    .when (place shape)
      [
        .callback none (.member (.method (.name "Object") "entries" [place shape]) "forEach") []
          false [.pair "k" "v"]
          [
            .assign (.element (output shape) (.name "k"))
              (valueToJson options .element value (.name "v"))
          ]
      ]
  ]

/-- Gives the JSON object a list. -/
def giveList (options : Options) (shape : Shape) : Stmt :=
  .either (place shape)
    [
      .assign (output shape)
        (.method (place shape) "map"
          [.arrow ["e"] (valueToJson options .element shape.kind (.name "e"))])
    ]
    [.assign (output shape) (.list [])]

/-- How sure a single field is to be there. -/
def presenceOf (shape : Shape) : Presence :=
  if shape.inOneof then .inOneof else .single

/-- Gives the JSON object a field. -/
def giveField (options : Options) (shape : Shape) : List Stmt :=
  match shape.kind with
  | .map _ _ value => giveMap options shape value
  | kind =>
      if shape.repeated then [giveList options shape]
      else [.assign (output shape) (valueToJson options (presenceOf shape) kind (place shape))]

/-- The statements of `toJSON`. -/
def toJsonBody (options : Options) (shapes : List Shape) : List Stmt :=
  .const "obj" (some .any) (.object []) :: shapes.flatMap (giveField options)
    ++ [.result (.name "obj")]

namespace Recorded

/-- What is recorded for the JSON value of one value. A scalar outside a oneof is compared
with its default, so that its default is recorded too.
-/
def valueToJson (options : Options) (presence : Presence) : Kind → List Symbol
  | .enumeration symbol => [symbol]
  | .timestamp _ => []
  | .message symbol => [symbol]
  | .map entry _ _ => [entry]
  | .wrapper _ _ => []
  | .scalar scalar => if presence = .single then longRecorded options scalar else []

/-- What is recorded for giving the JSON object a field. -/
def giveField (options : Options) (shape : Shape) : List Symbol :=
  match shape.kind with
  | .map _ _ value => valueToJson options .element value
  | kind =>
      if shape.repeated then valueToJson options .element kind
      else valueToJson options (presenceOf shape) kind

end Recorded

/-- The function that makes a JSON value from a message. -/
def toJson (options : Options) (name : String) (shapes : List Shape) : Function :=
  {
    name := "toJSON"
    params := [{ name := "message", type := .simple name }]
    returns := TypeExpr.simple "unknown"
    body :=
      {
        lines := Stmt.codeAll (toJsonBody options shapes)
        recorded := shapes.flatMap (Recorded.giveField options)
      }
  }

end ProtobufTypeScript.Message
