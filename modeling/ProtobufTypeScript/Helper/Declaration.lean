import ProtobufTypeScript.Field.Classification
import ProtobufTypeScript.Helper.Basic
import ProtobufTypeScript.Target.Declaration

/-!
The declarations of the helpers, and which of them a unit needs: those recorded for its code, and
those recorded for the declarations of these in turn. The conversions of points in time need the
registered timestamp message.
-/

namespace ProtobufTypeScript.Helper

open Schema Target

/-- The number of milliseconds of a date. -/
def dateMillis : Expr :=
  .method (.name "date") "getTime" []

/-- The whole seconds of a date, towards zero. -/
def wholeSeconds : Expr :=
  .method (.name "Math") "trunc" [.binary .divide dateMillis (.grouped 1000)]

/-- The whole seconds of a date in the form of 64-bit integers. -/
def secondsOfDate (options : Options) : Expr :=
  match options.longForm with
  | .number => wholeSeconds
  | .long => .call (.symbol numberToLong.symbol) [wholeSeconds]
  | .string => .method wholeSeconds "toString" []

/-- The nanoseconds of a date beyond its whole seconds. -/
def nanosOfDate : Expr :=
  .binary .times (.bracketed (.binary .remainder dateMillis (.grouped 1000))) (.grouped 1000000)

/-- The seconds of a timestamp as a number. -/
def secondsOfTimestamp (options : Options) : Expr :=
  let seconds : Expr := .field "t" "seconds"
  match options.longForm with
  | .number => seconds
  | .long => .method seconds "toNumber" []
  | .string => .call (.name "Number") [seconds]

def longToNumberBody : List Stmt :=
  [
    .when (.method (.name "long") "gt" [.field "Number" "MAX_SAFE_INTEGER"])
      [
        .raise
          (.construct (.field "globalThis" "Error")
            [.quoted "Value is larger than Number.MAX_SAFE_INTEGER"])
      ],
    .result (.method (.name "long") "toNumber" [])
  ]

def longToStringBody : List Stmt :=
  [.result (.method (.name "long") "toString" [])]

def numberToLongBody : List Stmt :=
  [.result (.method (.symbol Library.long) "fromNumber" [.name "number"])]

def toTimestampBody (options : Options) : List Stmt :=
  [
    .const "seconds" none (secondsOfDate options),
    .const "nanos" none nanosOfDate,
    .result (.object [.name "seconds", .name "nanos"])
  ]

def fromTimestampBody (options : Options) : List Stmt :=
  [
    .mutable "millis" (.binary .times (secondsOfTimestamp options) (.grouped 1000)),
    .increase (.name "millis") (.binary .divide (.field "t" "nanos") (.grouped 1000000)),
    .result (.construct (.name "Date") [.name "millis"])
  ]

/-- A date is taken as it is, a string is read, and anything else is taken as a timestamp.
-/
def fromJsonTimestampBody (timestamp : Symbol) : List Stmt :=
  let value : Expr := .name "o"
  [
    .branch (.binary .instanceOf value (.name "Date")) [.result value]
      (.branch (.binary .equal (.typeOf value) (.quoted "string"))
        [.result (.construct (.name "Date") [value])]
        (.block
          [
            .result
              (.call (.symbol fromTimestamp.symbol)
                [.method (.symbol timestamp) "fromJSON" [value]])
          ]))
  ]

/-- The lines that declare the type of partial messages. -/
def deepPartialLines : List String :=
  [
    "type Builtin = Date | Function | Uint8Array | string | number | undefined;",
    "type DeepPartial<T> = T extends Builtin",
    "  ? T",
    "  : T extends Array<infer U>",
    "  ? Array<DeepPartial<U>>",
    "  : T extends ReadonlyArray<infer U>",
    "  ? ReadonlyArray<DeepPartial<U>>",
    "  : T extends \x7b\x7d",
    "  ? \x7b [K in keyof T]?: DeepPartial<T[K]> \x7d",
    "  : Partial<T>;"
  ]

/-- A helper function of one parameter. -/
def functionItem (helper : Helper) (param : String) (type returns : TypeExpr) (body : Code)
    : Item :=
  .function { name := helper.name, params := [{ name := param, type }], returns, body } false

/-- The declaration of a helper. -/
def declaration (registry : Registry) (options : Options) (helper : Helper)
    : Except GenerationError Item :=
  let long : TypeExpr := .symbol Library.long
  match helper with
  | longToNumber =>
      .ok (functionItem helper "long" long .number { lines := Stmt.codeAll longToNumberBody })
  | longToString =>
      .ok (functionItem helper "long" long .string { lines := Stmt.codeAll longToStringBody })
  | numberToLong =>
      .ok
        (functionItem helper "number" .number long
          { lines := Stmt.codeAll numberToLongBody, recorded := [Library.long] })
  | deepPartial =>
      .ok (.code { lines := deepPartialLines.flatMap (fun line => Block.line [.plain line]) })
  | toTimestamp => do
      let timestamp ← registry.symbol Field.timestampName
      return functionItem helper "date" .date (.symbol timestamp)
        {
          lines := Stmt.codeAll (toTimestampBody options)
          recorded := if options.longForm == .long then [numberToLong.symbol] else []
        }
  | fromTimestamp => do
      let timestamp ← registry.symbol Field.timestampName
      return functionItem helper "t" (.symbol timestamp) .date
        { lines := Stmt.codeAll (fromTimestampBody options) }
  | fromJsonTimestamp => do
      let timestamp ← registry.symbol Field.timestampName
      return functionItem helper "o" .any .date
        {
          lines := Stmt.codeAll (fromJsonTimestampBody timestamp)
          recorded := [timestamp, fromTimestamp.symbol]
        }

/-- The helpers that are recorded for a declaration; none if there is no declaration. -/
def requested (declaration : Except GenerationError Item) : List Helper :=
  match declaration with
  | .ok item => all.filter (fun helper => item.recorded.contains helper.symbol)
  | .error _ => []

/-- The helpers of a list and those that they request. -/
def grow (requests : Helper → List Helper) (needed : List Helper) : List Helper :=
  all.filter (fun helper => needed.contains helper || (needed.flatMap requests).contains helper)

/-- However a list of helpers grows, it is no longer than the list of all. -/
theorem length_grow_le (requests : Helper → List Helper) (needed : List Helper)
    : (grow requests needed).length ≤ all.length :=
  List.length_filter_le _ _

/-- The helpers of a list and all that they request, directly or through others. -/
def close (requests : Helper → List Helper) (needed : List Helper) : List Helper :=
  if needed.length < (grow requests needed).length then close requests (grow requests needed)
  else needed
termination_by all.length - needed.length
decreasing_by
  have := length_grow_le requests needed
  omega

/-- The declarations of the helpers with given names and of all they need, in the order of
declaration. Other names are passed over.
-/
def declarations (registry : Registry) (options : Options) (names : List String)
    : Except GenerationError (List Item) :=
  let needed := all.filter (fun helper => names.contains helper.name)
  (close (fun helper => requested (declaration registry options helper)) needed).mapM
    (declaration registry options)

end ProtobufTypeScript.Helper
