import ProtobufTypeScript.Message.Codec
import ProtobufTypeScript.Proofs.Field.WellFormed
import ProtobufTypeScript.Proofs.Message.FromObject

/-!
Code for fields without fallbacks. The functions that make the code of one value have branches for
maps, and where a value is written by a method there may be none of its own; the strict forms of the
functions that make the code of a field give up there. On a classified field they never do, so that
what stands in these branches makes no difference.
-/

namespace ProtobufTypeScript.Message

open ProtobufTypeScript.Field Schema Target

namespace Strict

/-- What is made of a value of a kind, given up for maps: their values are passed one by
one.
-/
def flat {α : Type} (kind : Kind) (result : α) : Option α :=
  if kind.isMap then none else some result

-----------------------------------------------------------------------------------------
-- Writing and reading
-----------------------------------------------------------------------------------------

/-- Writes one value with its tag, a bare one by the method of its kind. -/
def writeValue (kind : Kind) (tag : UInt32) (value : Expr) : Option Expr :=
  match kind with
  | .scalar _ | .enumeration _ =>
      kind.wireMethod?.map (fun method => .method (writeTag tag) method [value])
  | kind => flat kind (Message.writeValue kind tag value)

/-- Writes a field; a packed run by the method of its kind. -/
def writeField (options : Options) (shape : Shape) : Option Stmt :=
  match shape.kind with
  | .map entry key _ => some (writeMap options shape entry key)
  | kind =>
      if shape.isPacked then kind.wireMethod?.map (writePacked shape)
      else if shape.repeated then
        (writeValue kind shape.tag (.present (.name "v"))).map
          (fun write => .each "v" (place shape) [.expression write])
      else
        (writeValue kind shape.tag (place shape)).map
          (fun write => .when (writeCondition options shape) [.expression write])

/-- Reads a field. -/
def readField (options : Options) (shape : Shape) : Option (List Stmt) :=
  match shape.kind with
  | .map entry _ _ => some (readEntry shape entry)
  | kind =>
      (flat kind (readValue options kind)).map fun value =>
        let append : Stmt := .expression (.method (place shape) "push" [value])
        if shape.isPacked then [readPacked append]
        else if shape.repeated then [append]
        else [.assign (place shape) value]

-----------------------------------------------------------------------------------------
-- Objects and JSON
-----------------------------------------------------------------------------------------

/-- Takes over the entries of a map. -/
def takeMap (options : Options) (conversion : Conversion) (shape : Shape) (key : Scalar)
    (value : Kind)
    : Option Stmt :=
  (flat value (conversion.value value (.name "value"))).map fun content =>
    let store : Stmt := .assign (.element (place shape) (mapKey options key)) content
    .callback none (.member (.method (.name "Object") "entries" [source shape]) "forEach") [] false
      [.pair "key" "value"]
      (if conversion.skipsUndefined then
        [.when (.binary .notEqual (.name "value") .undefined) [store]]
      else [store])

/-- Takes over a field that the object has. -/
def takeGiven (options : Options) (conversion : Conversion) (shape : Shape) : Option Stmt :=
  match shape.kind with
  | .map _ key value => takeMap options conversion shape key value
  | kind =>
      if shape.repeated then
        (flat kind (conversion.value kind (.name "e"))).map fun element =>
          .each "e" (source shape) [.expression (.method (place shape) "push" [element])]
      else
        (flat kind (conversion.value kind (source shape))).map
          (fun value => .assign (place shape) value)

/-- Takes over a field, or gives it its default. -/
def takeField (options : Options) (conversion : Conversion) (shape : Shape) : Option Stmt :=
  (takeGiven options conversion shape).map fun given =>
    .branch (isGiven shape) [given]
      (if shape.repeated then .nothing
      else .block [.assign (place shape) (missingValue options shape)])

/-- Gives the JSON object a map. -/
def giveMap (options : Options) (shape : Shape) (value : Kind) : Option (List Stmt) :=
  (flat value (valueToJson options .element value (.name "v"))).map fun content =>
    [
      .assign (output shape) (.object []),
      .when (place shape)
        [
          .callback none (.member (.method (.name "Object") "entries" [place shape]) "forEach") []
            false [.pair "k" "v"]
            [.assign (.element (output shape) (.name "k")) content]
        ]
    ]

/-- Gives the JSON object a list. -/
def giveList (options : Options) (shape : Shape) : Option Stmt :=
  (flat shape.kind (valueToJson options .element shape.kind (.name "e"))).map fun element =>
    .either (place shape)
      [.assign (output shape) (.method (place shape) "map" [.arrow ["e"] element])]
      [.assign (output shape) (.list [])]

/-- Gives the JSON object a field. -/
def giveField (options : Options) (shape : Shape) : Option (List Stmt) :=
  match shape.kind with
  | .map _ _ value => giveMap options shape value
  | kind =>
      if shape.repeated then (giveList options shape).map (fun give => [give])
      else
        (flat kind (valueToJson options (presenceOf shape) kind (place shape))).map
          (fun value => [.assign (output shape) value])

-----------------------------------------------------------------------------------------
-- What no field gets to
-----------------------------------------------------------------------------------------

variable {options : Options} {shape : Shape}

/-- What is not a map has a result where maps have none. -/
theorem flat_eq_some {α : Type} {kind : Kind} (single : kind.isMap = false) (result : α)
    : flat kind result = some result := by
  rw [flat, single]
  rfl

/-- A packed run has a method, and every other value is written one by one. -/
theorem writeField_eq_some (options : Options) (shape : Shape)
    : writeField options shape = some (Message.writeField options shape) := by
  rcases shape with ⟨name, number, repeated, inOneof, kind⟩
  cases repeated <;> cases kind with
  | scalar scalar => cases scalar <;> rfl
  | _ => rfl

/-- Reading a field never gets to a case that is left to chance, whatever the shape is. -/
theorem readField_eq_some (options : Options) (shape : Shape)
    : readField options shape = some (Message.readField options shape) := by
  rcases shape with ⟨name, number, repeated, inOneof, kind⟩
  cases kind <;> rfl

/-- Taking over a field never gets to a case that is left to chance if its shape is
well-formed.
-/
theorem takeGiven_eq_some (wellFormed : shape.IsWellFormed) (conversion : Conversion)
    : takeGiven options conversion shape = some (Message.takeGiven options conversion shape) := by
  rcases shape with ⟨name, number, repeated, inOneof, kind⟩
  cases kind with
  | map entry key value =>
      have single : value.isMap = false := wellFormed.value_not_map entry key value rfl
      simp only [takeGiven, takeMap, flat_eq_some single, Option.map_some]
      rfl
  | _ => cases repeated <;> rfl

/-- This holds with the default of the field as well. -/
theorem takeField_eq_some (wellFormed : shape.IsWellFormed) (conversion : Conversion)
    : takeField options conversion shape = some (Message.takeField options conversion shape) := by
  rw [takeField, takeGiven_eq_some wellFormed]
  rfl

/-- Giving out a field never gets to a case that is left to chance if its shape is
well-formed.
-/
theorem giveField_eq_some (wellFormed : shape.IsWellFormed)
    : giveField options shape = some (Message.giveField options shape) := by
  rcases shape with ⟨name, number, repeated, inOneof, kind⟩
  cases kind with
  | map entry key value =>
      have single : value.isMap = false := wellFormed.value_not_map entry key value rfl
      simp only [giveField, giveMap, flat_eq_some single, Option.map_some]
      rfl
  | _ => cases repeated <;> rfl

end Strict

/-- The code of a field is the same if its making gives up where a fallback would be
taken.
-/
structure NeedsNoFallback (options : Options) (shape : Shape) : Prop where
  write : Strict.writeField options shape = some (writeField options shape)
  read : Strict.readField options shape = some (readField options shape)
  fromJson
    : Strict.takeField options (jsonConversion options) shape
      = some (FromJson.takeField options shape)
  fromPartial
    : Strict.takeField options (partialConversion options) shape
      = some (FromPartial.takeField options shape)
  toJson : Strict.giveField options shape = some (giveField options shape)

/-- Classification never ends with an unknown field type, and where it succeeds, the shape
is well-formed and its code is made without any fallback.
-/
theorem classified_fields_need_no_fallback (registry : Registry) (options : Options)
    (message : Message) (field : Schema.Field)
    : (∀ unknownType,
        classify unknownType registry message field (decide (field.label = .repeated))
        = fieldKind registry message field)
      ∧ ∀ shape,
          shapeOf registry options message field = .ok shape
          → shape.IsWellFormed
            ∧ shape.HasDeclaredKey registry field
            ∧ NeedsNoFallback options shape := by
  refine ⟨fun unknownType => classify_eq_fieldKind unknownType registry message field, ?_⟩
  intro shape found
  have wellFormed := isWellFormed_shapeOf found
  refine ⟨wellFormed, hasDeclaredKey_shapeOf found, ?_⟩
  exact {
    write := Strict.writeField_eq_some options shape
    read := Strict.readField_eq_some options shape
    fromJson := (Strict.takeField_eq_some wellFormed _).trans (congrArg some takeField_json.symm)
    fromPartial :=
      (Strict.takeField_eq_some wellFormed _).trans (congrArg some takeField_partial.symm)
    toJson := Strict.giveField_eq_some wellFormed
  }

/-- An entry that declares a repeated field of entries of its own as its value: the map
holds messages.
-/
theorem classified_fields_need_no_fallback_nested_entry
    : let entry : Message :=
        {
          name := "LinksEntry"
          fields :=
            [
              { name := "key", number := 1, type := .scalar .int64 },
              {
                name := "value"
                number := 2
                label := .repeated
                type := .message
                typeName := ".Node.LinksEntry"
              }
            ]
          mapEntry := true
        }
      let registry : Registry :=
        {
          entries :=
            [
              (
                ".Node.LinksEntry",
                { unit := "node", identifier := "Node_LinksEntry", definition := .message entry }
              )
            ]
        }
      let field : Schema.Field :=
        {
          name := "links"
          number := 7
          label := .repeated
          type := .message
          typeName := ".Node.LinksEntry"
        }
      let symbol : Symbol := .ofUnit "Node_LinksEntry" "node"
      let shape : Shape :=
        {
          name := "links"
          number := 7
          repeated := true
          inOneof := false
          kind := .map symbol .int64 (.message symbol)
        }
      shapeOf registry {} { name := "Node" } field = .ok shape
      ∧ shape.IsWellFormed
      ∧ shape.HasDeclaredKey registry field
      ∧ NeedsNoFallback {} shape := by
  intro entry registry field symbol shape
  have found : shapeOf registry {} { name := "Node" } field = .ok shape := by decide +kernel
  exact ⟨found, (classified_fields_need_no_fallback registry {} _ field).2 shape found⟩

end ProtobufTypeScript.Message
