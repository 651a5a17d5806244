/-!
The scalar types of the schema language and the way their values travel.
-/

namespace ProtobufTypeScript.Schema

/-- The four framings a generated codec writes and reads. -/
inductive WireType where
  | varint
  | fixed64
  | lengthDelimited
  | fixed32
deriving DecidableEq, Repr

/-- The number of a wire type in the low three bits of a tag. -/
def WireType.code : WireType → UInt32
  | .varint => 0
  | .fixed64 => 1
  | .lengthDelimited => 2
  | .fixed32 => 5

/-- The tag in front of a value: the field number shifted left three bits, of which the
highest are lost, and the wire type below.
-/
def tag (number : Int32) (wire : WireType) : UInt32 :=
  (number.toUInt32 <<< 3) ||| wire.code

inductive Scalar where
  | double
  | float
  | int32
  | int64
  | uint32
  | uint64
  | sint32
  | sint64
  | fixed32
  | fixed64
  | sfixed32
  | sfixed64
  | bool
  | string
  | bytes
deriving DecidableEq, Repr

namespace Scalar

/-- The keyword of a scalar type, which is also the name of the reader and writer method
for it.
-/
def keyword : Scalar → String
  | double => "double"
  | float => "float"
  | int32 => "int32"
  | int64 => "int64"
  | uint32 => "uint32"
  | uint64 => "uint64"
  | sint32 => "sint32"
  | sint64 => "sint64"
  | fixed32 => "fixed32"
  | fixed64 => "fixed64"
  | sfixed32 => "sfixed32"
  | sfixed64 => "sfixed64"
  | bool => "bool"
  | string => "string"
  | bytes => "bytes"

/-- All scalar types. -/
def all : List Scalar :=
  [
    double, float, int32, int64, uint32, uint64, sint32, sint64, fixed32, fixed64, sfixed32,
    sfixed64, bool, string, bytes
  ]

def wireType : Scalar → WireType
  | int32 | int64 | uint32 | uint64 | sint32 | sint64 | bool => .varint
  | fixed64 | sfixed64 | double => .fixed64
  | fixed32 | sfixed32 | float => .fixed32
  | string | bytes => .lengthDelimited

/-- Whether values are 64-bit integers. -/
def isLong : Scalar → Bool
  | int64 | uint64 | sint64 | fixed64 | sfixed64 => true
  | _ => false

/-- Whether values are 64-bit integers without a sign. -/
def isUnsignedLong : Scalar → Bool
  | uint64 | fixed64 => true
  | _ => false

/-- Whether a repeated field may be written as one packed run. -/
def isPackable : Scalar → Bool
  | string | bytes => false
  | _ => true

end Scalar

end ProtobufTypeScript.Schema
