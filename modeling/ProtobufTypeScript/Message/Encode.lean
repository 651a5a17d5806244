import ProtobufTypeScript.Helper.Basic
import ProtobufTypeScript.Message.Base

/-!
Writing a message in the binary format. Fields are written in order. Maps are written entry by
entry, packable lists as one run, other lists value by value; a single value is left out if it is
its default, or if it is `undefined` where a field may be absent.
-/

namespace ProtobufTypeScript.Message

open ProtobufTypeScript.Field Schema Target

/-- The call that writes a tag. -/
def writeTag (tag : UInt32) : Expr :=
  .method (.name "writer") "uint32" [.number tag.toNat]

/-- The call that writes a nested message between the tag and the end of its length. -/
def writeNested (symbol : Symbol) (tag : UInt32) (value : Expr) : Expr :=
  .method
    (.method (.symbol symbol) "encode" [value, .method (writeTag tag) "fork" []])
    "ldelim" []

/-- The call that writes one value with its tag. -/
def writeValue (kind : Kind) (tag : UInt32) (value : Expr) : Expr :=
  match kind with
  | .scalar scalar => .method (writeTag tag) scalar.keyword [value]
  | .enumeration _ => .method (writeTag tag) "int32" [value]
  | .timestamp symbol =>
      writeNested symbol tag (.call (.symbol Helper.toTimestamp.symbol) [value])
  | .wrapper symbol _ => writeNested symbol tag (.object [.keyed "value" (.present value)])
  | .message symbol => writeNested symbol tag value
  | .map entry _ _ => writeNested entry tag value

/-- Writes the entries of a map, each with its key taken from the key of an object. -/
def writeMap (options : Options) (shape : Shape) (entry : Symbol) (key : Scalar) : Stmt :=
  .callback none (.member (.method (.name "Object") "entries" [place shape]) "forEach") [] false
    [.pair "key" "value"]
    [
      .expression
        (writeNested entry shape.tag
          (.object [.keyed "key" (scalarFromKey options key (.name "key")), .name "value"]))
    ]

/-- Writes a list as one run, unless it is empty. -/
def writePacked (shape : Shape) (method : String) : Stmt :=
  .when (.binary .greater (.member (place shape) "length") (.number 0))
    [
      .expression (.method (writeTag shape.packedTag) "fork" []),
      .each "v" (place shape) [.expression (.method (.name "writer") method [.name "v"])],
      .expression (.method (.name "writer") "ldelim" [])
    ]

/-- Writes a list value by value. -/
def writeEach (shape : Shape) : Stmt :=
  .each "v" (place shape) [.expression (writeValue shape.kind shape.tag (.present (.name "v")))]

/-- The condition under which a single value is written. -/
def writeCondition (options : Options) (shape : Shape) : Expr :=
  (shape.differsFromDefault? options (place shape)).getD
    (.binary .notEqual (place shape) .undefined)

/-- Writes a single value if there is need to. -/
def writeSingle (options : Options) (shape : Shape) : Stmt :=
  .when (writeCondition options shape)
    [.expression (writeValue shape.kind shape.tag (place shape))]

/-- The method that writes each value of a packed run, for a field that is written as one.
-/
def packedMethod? (shape : Shape) : Option String :=
  if shape.isPacked then shape.kind.wireMethod? else none

/-- Writes a field. -/
def writeField (options : Options) (shape : Shape) : Stmt :=
  match shape.kind with
  | .map entry key _ => writeMap options shape entry key
  | _ =>
      if shape.repeated then
        match packedMethod? shape with
        | some method => writePacked shape method
        | none => writeEach shape
      else writeSingle options shape

/-- The statements of `encode`. -/
def encodeBody (options : Options) (shapes : List Shape) : List Stmt :=
  shapes.map (writeField options) ++ [.result (.name "writer")]

namespace Recorded

/-- What is recorded for writing one value. -/
def writeValue : Kind → List Symbol
  | .scalar _ => []
  | .enumeration _ => []
  | .timestamp symbol => [Helper.toTimestamp.symbol, symbol]
  | .wrapper symbol _ => [symbol]
  | .message symbol => [symbol]
  | .map entry _ _ => [entry]

/-- What is recorded for writing a field. -/
def writeField (options : Options) (shape : Shape) : List Symbol :=
  match shape.kind with
  | .map entry key _ => entry :: longRecorded options key
  | kind =>
      if shape.isPacked then []
      else if shape.repeated then writeValue kind
      else shape.differsRecorded options ++ writeValue kind

end Recorded

/-- The function that writes a message. -/
def encode (options : Options) (name : String) (shapes : List Shape) : Function :=
  let writer : TypeExpr := .symbol Library.writer
  {
    name := "encode"
    params :=
      [
        { name := "message", type := .simple name },
        {
          name := "writer"
          type := writer
          default :=
            some
              {
                lines := Block.line (Expr.method (.symbol Library.writer) "create" []).snippet
                recorded := [Library.writer]
              }
        }
      ]
    returns := writer
    body :=
      {
        lines := Stmt.codeAll (encodeBody options shapes)
        recorded := shapes.flatMap (Recorded.writeField options)
      }
  }

end ProtobufTypeScript.Message
