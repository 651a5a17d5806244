import ProtobufTypeScript.Field.Scalar

/-!
The shape of a field: what kind of value it holds, whether it holds many, and what follows from
that for its type, its default and the way it is written.
-/

namespace ProtobufTypeScript.Field

open Schema Target

/-- What kind of value a field holds. -/
inductive Kind where
  | scalar (type : Scalar)
  | enumeration (symbol : Symbol)
  | message (symbol : Symbol)
  /-- A well-known message around one scalar, shown as the scalar or `undefined`. -/
  | wrapper (symbol : Symbol) (value : Scalar)
  /-- The well-known point in time, shown as a date. -/
  | timestamp (symbol : Symbol)
  /-- Keys and values, each pair written as a message of its own. -/
  | map (entry : Symbol) (key : Scalar) (value : Kind)
deriving DecidableEq, Repr

/-- A field as generated code sees it. -/
structure Shape where
  name : String
  number : Int32
  repeated : Bool
  /-- Whether the field belongs to a oneof, which may hold another field instead. -/
  inOneof : Bool
  kind : Kind
deriving DecidableEq, Repr

/-- Whether the keys of a map are numbers; they are strings if not, as objects are indexed
by nothing else.
-/
def hasNumericKey (options : Options) (key : Scalar) : Bool :=
  match key with
  | .string => false
  | .bool => false
  | _ => !key.isLong || options.longForm == .number

/-- The type of the keys of a map. -/
def keyType (options : Options) (key : Scalar) : TypeExpr :=
  if hasNumericKey options key then .number else .string

/-- A 64-bit integer made from the key of an object, which is a string. -/
def longFromKey (options : Options) (unsigned : Bool) (key : Expr) : Expr :=
  match options.longForm with
  | .number => converted "Number" key
  | .string => key
  | .long =>
      .method (.symbol Library.long) "fromString" (if unsigned then [key, .name "true"] else [key])

/-- A scalar made from the key of an object, which is a string. -/
def scalarFromKey (options : Options) (scalar : Scalar) (key : Expr) : Expr :=
  match scalar with
  | .string => key
  | .bool => .binary .equal key (.quoted "true")
  | _ =>
      if scalar.isLong then longFromKey options scalar.isUnsignedLong key
      else converted "Number" key

namespace Kind

/-- The type of one value. -/
def elementType (options : Options) : Kind → TypeExpr
  | .scalar type => scalarType options type
  | .enumeration symbol => .symbol symbol
  | .message symbol => .symbol symbol
  | .wrapper _ value => (wrappedType value).optional
  | .timestamp _ => .date
  | .map _ key value => .index (keyType options key) (elementType options value)

/-- How one value is framed. -/
def wireType : Kind → WireType
  | .scalar type => type.wireType
  | .enumeration _ => .varint
  | _ => .lengthDelimited

/-- The reader and writer method for a kind that needs no message around it. -/
def wireMethod? : Kind → Option String
  | .scalar type => some type.keyword
  | .enumeration _ => some "int32"
  | _ => none

/-- Whether many values may be written as one packed run. -/
def isPackable : Kind → Bool
  | .scalar type => type.isPackable
  | .enumeration _ => true
  | _ => false

/-- Whether a value may be missing, which is then `undefined`. -/
def isMessageLike : Kind → Bool
  | .message _ => true
  | .wrapper _ _ => true
  | .timestamp _ => true
  | _ => false

/-- Whether values are pairs of a map. -/
def isMap : Kind → Bool
  | .map _ _ _ => true
  | _ => false

/-- Whether values are wrapped scalars. -/
def isWrapper : Kind → Bool
  | .wrapper _ _ => true
  | _ => false

/-- The default of one value. -/
def default (options : Options) : Kind → Expr
  | .scalar type => scalarDefault options type
  | .enumeration _ => .number 0
  | .map _ _ _ => .object []
  | _ => .undefined

/-- What is recorded for the default of one value. -/
def defaultRecorded (options : Options) : Kind → List Symbol
  | .scalar type => longRecorded options type
  | _ => []

end Kind

namespace Shape

def isMap (shape : Shape) : Bool :=
  shape.kind.isMap

/-- Whether the field holds a list. -/
def isList (shape : Shape) : Bool :=
  shape.repeated && !shape.isMap

/-- Whether the field is written as a packed run. -/
def isPacked (shape : Shape) : Bool :=
  shape.isList && shape.kind.isPackable

/-- The tag before one value. -/
def tag (shape : Shape) : UInt32 :=
  Schema.tag shape.number shape.kind.wireType

/-- The tag before a packed run. -/
def packedTag (shape : Shape) : UInt32 :=
  Schema.tag shape.number .lengthDelimited

/-- The type of the field in the interface of its message. -/
def type (options : Options) (shape : Shape) : TypeExpr :=
  let element := shape.kind.elementType options
  if shape.isMap then element
  else if shape.repeated then .array element
  else if shape.kind.isWrapper then element
  else if shape.inOneof || shape.kind.isMessageLike then element.optional
  else element

/-- The value of the field in a new message. -/
def default (options : Options) (shape : Shape) : Expr :=
  if shape.isMap then .object []
  else if shape.repeated then .list []
  else shape.kind.default options

/-- What is recorded for the value of the field in a new message. -/
def defaultRecorded (options : Options) (shape : Shape) : List Symbol :=
  if shape.isMap || shape.repeated then [] else shape.kind.defaultRecorded options

/-- When a single value outside a oneof has to be written: when it differs from its
default. There is no such condition for values that are written whenever they are present.
-/
def differsFromDefault? (options : Options) (shape : Shape) (place : Expr) : Option Expr :=
  if shape.repeated || shape.inOneof then none
  else
    match shape.kind with
    | .scalar .bytes => some (.binary .notEqual (.member place "length") (.number 0))
    | .scalar scalar =>
        if isLongObject options scalar then some (.not (.method place "isZero" []))
        else some (.binary .notEqual place (scalarDefault options scalar))
    | .enumeration _ => some (.binary .notEqual place (.number 0))
    | _ => none

/-- What is recorded for that condition: what its default needs, where it compares with
one.
-/
def differsRecorded (options : Options) (shape : Shape) : List Symbol :=
  if shape.repeated || shape.inOneof then []
  else
    match shape.kind with
    | .scalar .bytes => []
    | .scalar scalar => if isLongObject options scalar then [] else longRecorded options scalar
    | _ => []

end Shape

end ProtobufTypeScript.Field
