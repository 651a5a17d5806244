import ProtobufTypeScript.Options
import ProtobufTypeScript.Schema.Scalar
import ProtobufTypeScript.Target.Expr
import ProtobufTypeScript.Target.Library

/-!
Scalars in generated code: their types, their defaults and how they are taken from JSON. The form
of 64-bit integers is a choice of the run.
-/

namespace ProtobufTypeScript.Field

open Schema Target

/-- Whether values are objects of the long-integer library. -/
def isLongObject (options : Options) (scalar : Scalar) : Bool :=
  scalar.isLong && options.longForm == .long

/-- What is recorded where the long-integer library is asked for a value of a scalar:
nothing, unless the values are its objects.
-/
def longRecorded (options : Options) (scalar : Scalar) : List Symbol :=
  if isLongObject options scalar then [Library.long] else []

/-- The type of 64-bit integers. -/
def longType (options : Options) : TypeExpr :=
  match options.longForm with
  | .number => .number
  | .long => .symbol Library.long
  | .string => .string

/-- The type of a scalar's values. -/
def scalarType (options : Options) (scalar : Scalar) : TypeExpr :=
  match scalar with
  | .bool => .boolean
  | .string => .string
  | .bytes => .bytes
  | _ => if scalar.isLong then longType options else .number

/-- The default among 64-bit integers. -/
def longDefault (options : Options) (unsigned : Bool) : Expr :=
  match options.longForm with
  | .number => .number 0
  | .string => .quoted "0"
  | .long => .member (.symbol Library.long) (if unsigned then "UZERO" else "ZERO")

/-- The default of a scalar. -/
def scalarDefault (options : Options) (scalar : Scalar) : Expr :=
  match scalar with
  | .bool => .name "false"
  | .string => .quoted ""
  | .bytes => .construct (.name "Uint8Array") []
  | _ => if scalar.isLong then longDefault options scalar.isUnsignedLong else .number 0

/-- A call of a function of the language. -/
def converted (function : String) (value : Expr) : Expr :=
  .call (.name function) [value]

/-- A 64-bit integer made from a JSON value. -/
def longFromJson (options : Options) (value : Expr) : Expr :=
  match options.longForm with
  | .number => converted "Number" value
  | .string => converted "String" value
  | .long => .method (.symbol Library.long) "fromValue" [value]

/-- A scalar made from a JSON value. -/
def scalarFromJson (options : Options) (scalar : Scalar) (value : Expr) : Expr :=
  match scalar with
  | .bytes => value
  | .bool => converted "Boolean" value
  | .string => converted "String" value
  | _ => if scalar.isLong then longFromJson options value else converted "Number" value

/-- The scalar that a well-known wrapper message holds, by the message's full name. -/
def wrapperScalar : String → Option Scalar
  | ".google.protobuf.DoubleValue" => some .double
  | ".google.protobuf.FloatValue" => some .float
  | ".google.protobuf.Int64Value" => some .int64
  | ".google.protobuf.UInt64Value" => some .uint64
  | ".google.protobuf.Int32Value" => some .int32
  | ".google.protobuf.UInt32Value" => some .uint32
  | ".google.protobuf.BoolValue" => some .bool
  | ".google.protobuf.StringValue" => some .string
  | ".google.protobuf.BytesValue" => some .bytes
  | _ => none

/-- The type of the value of a wrapper, in which every integer is a number. -/
def wrappedType (scalar : Scalar) : TypeExpr :=
  match scalar with
  | .bool => .boolean
  | .string => .string
  | .bytes => .bytes
  | _ => .number

/-- The value of a wrapper made from a JSON value. -/
def wrappedFromJson (scalar : Scalar) (value : Expr) : Expr :=
  match scalar with
  | .bytes => value
  | .bool => converted "Boolean" value
  | .string => converted "String" value
  | _ => converted "Number" value

end ProtobufTypeScript.Field
