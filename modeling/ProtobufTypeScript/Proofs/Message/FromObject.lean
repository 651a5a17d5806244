import ProtobufTypeScript.Message.FromJson
import ProtobufTypeScript.Message.FromPartial

/-!
The form that `fromJSON` and `fromPartial` have in common. Each of the two is written out on its
own; here they are found to be one sequence of statements in which only the conversion of values
differs, and whether undefined values of maps are skipped. What holds for every conversion then
holds of both.
-/

namespace ProtobufTypeScript.Message

open ProtobufTypeScript.Field Schema Target

/-- How values of an object become values of a message. -/
structure Conversion where
  /-- The value of a message made from one of the object. -/
  value : Kind → Expr → Expr
  /-- Whether undefined values of a map are skipped. -/
  skipsUndefined : Bool

/-- The conversion of JSON values. -/
def jsonConversion (options : Options) : Conversion :=
  { value := valueFromJson options, skipsUndefined := false }

/-- The conversion of the values of a partial message. -/
def partialConversion (options : Options) : Conversion :=
  { value := valueFromPartial options, skipsUndefined := true }

-----------------------------------------------------------------------------------------
-- Statements under a conversion
-----------------------------------------------------------------------------------------

/-- Whether an object has a field. -/
def isGiven (shape : Shape) : Expr :=
  .binary .and (.binary .notEqual (source shape) .undefined)
    (.binary .notEqual (source shape) (.name "null"))

/-- The value of a field that an object lacks. -/
def missingValue (options : Options) (shape : Shape) : Expr :=
  if shape.inOneof then .undefined else shape.default options

/-- The key of a map made from the key of an object. -/
def mapKey (options : Options) (key : Scalar) : Expr :=
  if hasNumericKey options key then converted "Number" (.name "key") else .name "key"

/-- Takes over the entries of a map under a conversion. -/
def takeMap (options : Options) (conversion : Conversion) (shape : Shape) (key : Scalar)
    (value : Kind)
    : Stmt :=
  let store : Stmt :=
    .assign (.element (place shape) (mapKey options key)) (conversion.value value (.name "value"))
  .callback none (.member (.method (.name "Object") "entries" [source shape]) "forEach") [] false
    [.pair "key" "value"]
    (if conversion.skipsUndefined then
      [.when (.binary .notEqual (.name "value") .undefined) [store]]
    else [store])

/-- Takes over a field that an object has. -/
def takeGiven (options : Options) (conversion : Conversion) (shape : Shape) : Stmt :=
  match shape.kind with
  | .map _ key value => takeMap options conversion shape key value
  | kind =>
      if shape.repeated then
        .each "e" (source shape)
          [.expression (.method (place shape) "push" [conversion.value kind (.name "e")])]
      else .assign (place shape) (conversion.value kind (source shape))

/-- Takes over a field, or gives it its default. -/
def takeField (options : Options) (conversion : Conversion) (shape : Shape) : Stmt :=
  .branch (isGiven shape) [takeGiven options conversion shape]
    (if shape.repeated then .nothing
    else .block [.assign (place shape) (missingValue options shape)])

/-- The statements that make a message from an object under a conversion. -/
def fromObjectBody (options : Options) (conversion : Conversion) (name : String)
    (shapes : List Shape)
    : List Stmt :=
  seed name shapes ++ shapes.map (takeField options conversion) ++ [.result (.name "message")]

-----------------------------------------------------------------------------------------
-- Both functions have this form
-----------------------------------------------------------------------------------------

variable {options : Options} {shape : Shape}

/-- What takes over values that are given as JSON is what a conversion by JSON values
makes. The kinds of field are the cases.
-/
theorem takeGiven_json
    : FromJson.takeGiven options shape = takeGiven options (jsonConversion options) shape := by
  unfold FromJson.takeGiven takeGiven
  cases shape.kind <;> rfl

/-- What takes over values of a partial message is what a conversion of partial values
makes. The kinds of field are the cases.
-/
theorem takeGiven_partial
    : FromPartial.takeGiven options shape
      = takeGiven options (partialConversion options) shape := by
  unfold FromPartial.takeGiven takeGiven
  cases shape.kind <;> rfl

/-- What `fromJSON` does for a field is what is done for it when JSON values are
converted: its two branches are one with nothing, or with the default, behind it.
-/
theorem takeField_json
    : FromJson.takeField options shape = takeField options (jsonConversion options) shape := by
  rw [FromJson.takeField, takeField, takeGiven_json]
  cases shape.repeated <;> rfl

/-- What `fromPartial` does for a field is what is done for it when values of a partial
message are converted.
-/
theorem takeField_partial
    : FromPartial.takeField options shape
      = takeField options (partialConversion options) shape := by
  rw [FromPartial.takeField, takeField, takeGiven_partial]
  cases shape.repeated <;> rfl

/-- The body for JSON is the common one with the conversion of JSON values: seeds, tests
and defaults are written twice in the same way.
-/
theorem body_json (options : Options) (name : String) (shapes : List Shape)
    : FromJson.body options name shapes
      = fromObjectBody options (jsonConversion options) name shapes := by
  rw [FromJson.body, fromObjectBody, List.map_congr_left (fun shape _ => takeField_json)]

/-- The body for partial messages is the common one with the conversion of partial values.
-/
theorem body_partial (options : Options) (name : String) (shapes : List Shape)
    : FromPartial.body options name shapes
      = fromObjectBody options (partialConversion options) name shapes := by
  rw [FromPartial.body, fromObjectBody, List.map_congr_left (fun shape _ => takeField_partial)]

/-- The lines of `fromJSON` are those of the statements under the conversion of JSON
values.
-/
theorem lines_fromJson (options : Options) (name : String) (shapes : List Shape)
    : (fromJson options name shapes).body.lines
      = Stmt.codeAll (fromObjectBody options (jsonConversion options) name shapes) := by
  rw [← body_json]
  rfl

/-- The lines of `fromPartial` are those of the statements under the conversion of the
values of a partial message.
-/
theorem lines_fromPartial (options : Options) (name : String) (shapes : List Shape)
    : (fromPartial options name shapes).body.lines
      = Stmt.codeAll (fromObjectBody options (partialConversion options) name shapes) := by
  rw [← body_partial]
  rfl

end ProtobufTypeScript.Message
