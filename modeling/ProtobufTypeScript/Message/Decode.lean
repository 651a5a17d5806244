import ProtobufTypeScript.Helper.Basic
import ProtobufTypeScript.Message.Base

/-!
Reading a message in the binary format. Tags are read up to the end of the message and told apart
by field number; what no field has is skipped. Packable lists are read both as one run and value by
value.
-/

namespace ProtobufTypeScript.Message

open ProtobufTypeScript.Field Schema Target

/-- The call that reads a bare value. -/
def readWith (method : String) : Expr :=
  .method (.name "reader") method []

/-- The call that reads a nested message. -/
def readNested (symbol : Symbol) : Expr :=
  .method (.symbol symbol) "decode" [.name "reader", readWith "uint32"]

/-- Reads a 64-bit integer and brings it into the form chosen for the run. -/
def readLong (options : Options) (scalar : Scalar) : Expr :=
  let raw : Expr := .cast (readWith scalar.keyword) (.symbol Library.long)
  match options.longForm with
  | .long => raw
  | .number => .call (.symbol Helper.longToNumber.symbol) [raw]
  | .string => .call (.symbol Helper.longToString.symbol) [raw]

/-- Reads one value. -/
def readValue (options : Options) : Kind → Expr
  | .scalar scalar =>
      if scalar.isLong then readLong options scalar else readWith scalar.keyword
  | .enumeration symbol =>
      if options.jsonMethods then .method (.symbol symbol) "fromJSON" [readWith "int32"]
      else .cast (readWith "int32") .any
  | .wrapper symbol _ => .member (readNested symbol) "value"
  | .timestamp symbol => .call (.symbol Helper.fromTimestamp.symbol) [readNested symbol]
  | .message symbol => readNested symbol
  | .map entry _ _ => readNested entry

/-- The name of the constant that holds an entry of a map while it is read. -/
def entryName (shape : Shape) : String :=
  "entry" ++ toString shape.number.toInt

/-- Reads an entry of a map, which is kept if it has a value. -/
def readEntry (shape : Shape) (entry : Symbol) : List Stmt :=
  let read := Expr.name (entryName shape)
  [
    .const (entryName shape) none (readNested entry),
    .when (.binary .notEqual (.member read "value") .undefined)
      [.assign (.element (place shape) (.member read "key")) (.member read "value")]
  ]

/-- The wire type of the tag that was read. -/
def wireTypeRead : Expr :=
  .binary .bitAnd (.name "tag") (.number 7)

/-- Where the reader is. -/
def position : Expr :=
  .field "reader" "pos"

/-- Reads a packed run, or else a value on its own, into a list. -/
def readPacked (append : Stmt) : Stmt :=
  .either (.binary .equal (.bracketed wireTypeRead) (.number 2))
    [
      .const "end2" none (.binary .plus (readWith "uint32") position),
      .loop (.binary .less position (.name "end2")) [append]
    ]
    [append]

/-- Reads a field. -/
def readField (options : Options) (shape : Shape) : List Stmt :=
  let value := readValue options shape.kind
  let append : Stmt := .expression (.method (place shape) "push" [value])
  match shape.kind with
  | .map entry _ _ => readEntry shape entry
  | _ =>
      if shape.isPacked then [readPacked append]
      else if shape.repeated then [append]
      else [.assign (place shape) value]

/-- The section of the switch that reads a field. -/
def readSection (options : Options) (shape : Shape) : Section :=
  .mk [.case (.number shape.number.toInt)] (readField options shape ++ [.leave])

/-- The section of the switch that skips an unknown field. -/
def skipSection : Section :=
  .mk [.default] [.expression (.method (.name "reader") "skipType" [wireTypeRead]), .leave]

/-- The statements of `decode`. -/
def decodeBody (options : Options) (name : String) (shapes : List Shape) : List Stmt :=
  let reader : Expr := .symbol Library.reader
  let input : Expr := .name "input"
  let length : Expr := .name "length"
  [
    .const "reader" none
      (.conditional (.binary .instanceOf input reader) input (.construct reader [input])),
    .mutable "end"
      (.conditional (.binary .equal length .undefined) (.field "reader" "len")
        (.binary .plus position length))
  ]
    ++ seed name shapes
    ++ [
      .loop (.binary .less position (.name "end"))
        [
          .const "tag" none (readWith "uint32"),
          .choose (.binary .shiftRight (.name "tag") (.number 3))
            (shapes.map (readSection options) ++ [skipSection])
        ],
      .result (.name "message")
    ]

namespace Recorded

/-- What is recorded for reading a 64-bit integer. -/
def readLong (options : Options) : List Symbol :=
  Library.long
    :: match options.longForm with
      | .long => []
      | .number => [Helper.longToNumber.symbol]
      | .string => [Helper.longToString.symbol]

/-- What is recorded for reading one value. -/
def readValue (options : Options) : Kind → List Symbol
  | .scalar scalar => if scalar.isLong then readLong options else []
  | .enumeration symbol => if options.jsonMethods then [symbol] else []
  | .wrapper symbol _ => [symbol]
  | .timestamp symbol => [Helper.fromTimestamp.symbol, symbol]
  | .message symbol => [symbol]
  | .map entry _ _ => [entry]

/-- What is recorded for reading a field. -/
def readField (options : Options) (shape : Shape) : List Symbol :=
  match shape.kind with
  | .map entry _ _ => [entry]
  | kind => readValue options kind

end Recorded

/-- The function that reads a message. -/
def decode (options : Options) (name : String) (shapes : List Shape) : Function :=
  {
    name := "decode"
    params :=
      [
        { name := "input", type := .union [.symbol Library.reader, .bytes] },
        { name := "length?", type := .number }
      ]
    returns := TypeExpr.simple name
    body :=
      {
        lines := Stmt.codeAll (decodeBody options name shapes)
        recorded := Library.reader :: shapes.flatMap (Recorded.readField options)
      }
  }

end ProtobufTypeScript.Message
