import ProtobufTypeScript.Proofs.Field.Kinds

/-!
The shapes that classification gives. A map is repeated, its key is the scalar that the entry
declares, and its values are no maps, whatever the entry declares; what is packed has a method of
its own. Classification is the same as one function that calls itself for the values of maps.
-/

namespace ProtobufTypeScript.Field

open Schema Target

/-- What makes a shape well-formed. -/
structure Shape.IsWellFormed (shape : Shape) : Prop where
  repeated_of_map : shape.isMap = true → shape.repeated = true
  value_not_map : ∀ entry key value, shape.kind = .map entry key value → value.isMap = false
  bare_of_packed
    : shape.isPacked = true
      → (∃ method, shape.kind.wireMethod? = some method) ∧ shape.kind.wireType.code ≠ 2

/-- The key of a map is the scalar that the first field of the entry holds, where the
entry is registered under the type name of the field.
-/
def Shape.HasDeclaredKey (registry : Registry) (field : Schema.Field) (shape : Shape) : Prop :=
  ∀ entry key value,
    shape.kind = .map entry key value
    → ∃ target keyField valueField others,
        registry.message field.typeName = .ok target
        ∧ target.fields = keyField :: valueField :: others
        ∧ keyField.type = .scalar key

variable {registry : Registry} {options : Options} {message : Message} {field : Schema.Field}

-----------------------------------------------------------------------------------------
-- Maps
-----------------------------------------------------------------------------------------

/-- A message type is not classified as a map, which takes a field that holds many
entries: none of the ways to find its kind ends with one.
-/
theorem isMap_messageKind {typeName : String} {kind : Kind}
    (named : IsMessageKind registry typeName kind)
    : kind.isMap = false := by
  cases named <;> rfl

/-- A single value is no map. The ways to find its kind are the cases, of which messages
are the one that matters.
-/
theorem isMap_elementKind {kind : Kind} (single : IsElementKind registry field kind)
    : kind.isMap = false := by
  cases single with
  | message _ type named => exact isMap_messageKind named
  | _ => rfl

/-- Only a repeated field of entries is a map, and its key and value are those of the
entries: the first two fields of the message that the field names.
-/
theorem fieldKind_eq_map {entry : Symbol} {key : Scalar} {value : Kind}
    (found : fieldKind registry message field = .ok (.map entry key value))
    : field.label = .repeated
      ∧ ∃ target keyField valueField others,
        registry.message field.typeName = .ok target
        ∧ target.fields = keyField :: valueField :: others
        ∧ keyField.type = .scalar key
        ∧ IsElementKind registry valueField value := by
  cases fieldKind_eq_ok.mp found with
  | element _ single plain => cases isMap_elementKind single
  | map entry key value target keyField valueField _ single declared entries fields type held =>
      exact ⟨entries.1, target, keyField, valueField, _, declared, fields, type, held⟩

-----------------------------------------------------------------------------------------
-- Packed runs
-----------------------------------------------------------------------------------------

/-- What may be packed is read and written by a method, and is not framed by its length.
Witness: the kinds, and the scalars one by one.
-/
theorem Kind.bare_of_isPackable {kind : Kind} (packable : kind.isPackable = true)
    : (∃ method, kind.wireMethod? = some method) ∧ kind.wireType.code ≠ 2 := by
  cases kind with
  | scalar scalar =>
      refine ⟨⟨scalar.keyword, rfl⟩, ?_⟩
      cases scalar with
      | string | bytes => cases packable
      | _ => decide
  | enumeration symbol =>
      refine ⟨⟨"int32", rfl⟩, ?_⟩
      change WireType.varint.code ≠ 2
      decide
  | _ => cases packable

-----------------------------------------------------------------------------------------
-- The shape of a field
-----------------------------------------------------------------------------------------

/-- The shape of a field is well-formed: maps hold many entries, their values are no maps,
and packed fields have values that need no message around them.
-/
theorem isWellFormed_shapeOf {shape : Shape}
    (found : shapeOf registry options message field = .ok shape)
    : shape.IsWellFormed := by
  obtain ⟨kind, classified, rest⟩ := bind_eq_ok.mp found
  cases rest
  refine { repeated_of_map := ?_, value_not_map := ?_, bare_of_packed := ?_ }
  · intro isMap
    cases kind with
    | map entry key value => exact decide_eq_true (fieldKind_eq_map classified).1
    | _ => cases isMap
  · rintro entry key value rfl
    obtain ⟨-, target, keyField, valueField, others, -, -, -, held⟩ := fieldKind_eq_map classified
    exact isMap_elementKind held
  · intro packed
    exact Kind.bare_of_isPackable (Bool.and_eq_true_iff.mp packed).2

/-- The key of a map is the scalar that the entry declares for it, for every field that is
classified.
-/
theorem hasDeclaredKey_shapeOf {shape : Shape}
    (found : shapeOf registry options message field = .ok shape)
    : shape.HasDeclaredKey registry field := by
  obtain ⟨kind, classified, rest⟩ := bind_eq_ok.mp found
  cases rest
  rintro entry key value rfl
  obtain ⟨-, target, keyField, valueField, others, registered, fields, type, -⟩ :=
    fieldKind_eq_map classified
  exact ⟨target, keyField, valueField, others, registered, fields, type⟩

-----------------------------------------------------------------------------------------
-- Classification in one function
-----------------------------------------------------------------------------------------

/-- The scalar of a field type, if it is one. -/
def scalarOf? : FieldType → Option Scalar
  | .scalar scalar => some scalar
  | _ => none

/-- The kind of a field of a message, where `many` says whether it may be a map: it may
not where the function calls itself, for the value of a map. A type that is none of the
others and no scalar either has an error of its own.
-/
def classify (unknownType : GenerationError) (registry : Registry) (message : Message)
    (field : Schema.Field) (many : Bool)
    : Except GenerationError Kind :=
  match field.type with
  | .group => .error (.unsupportedField message.plainName field.name .group)
  | .enumeration => return .enumeration (← registry.symbol field.typeName)
  | .message =>
      match wrapperScalar field.typeName with
      | some scalar => return .wrapper (← registry.symbol field.typeName) scalar
      | none =>
          if field.typeName = timestampName then
            return .timestamp (← registry.symbol field.typeName)
          else do
            let entry ← registry.entry field.typeName
            let target ← registry.message field.typeName
            if _ : many = true ∧ target.mapEntry = true then
              match target.fields with
              | key :: value :: _ =>
                  match scalarOf? key.type with
                  | some scalar =>
                      return .map entry.symbol scalar
                        (← classify unknownType registry target value false)
                  | none => throw (.unsupportedField message.plainName field.name .keyNotScalar)
              | _ => throw (.unsupportedField message.plainName field.name .entryWithoutValue)
            else return .message entry.symbol
  | type =>
      match scalarOf? type with
      | some scalar => .ok (.scalar scalar)
      | none => .error unknownType
termination_by many.toNat
decreasing_by simp_all

/-- An ordinary message has been looked up once its symbol is known. -/
theorem messageKind_eq {typeName : String} (noWrapper : wrapperScalar typeName = none)
    (notTimestamp : typeName ≠ timestampName)
    : messageKind registry typeName
      = do
        let entry ← registry.entry typeName
        let _ ← registry.message typeName
        return .message entry.symbol := by
  unfold messageKind Registry.symbol Registry.message
  simp only [noWrapper, if_neg notTimestamp]
  cases registry.entry typeName with
  | error error => rfl
  | ok entry => cases entry.definition <;> rfl

/-- A field that holds one value is classified as this value alone, since only a field of
many entries is looked at again.
-/
theorem classify_single (unknownType : GenerationError) (registry : Registry) (message : Message)
    (field : Schema.Field)
    : classify unknownType registry message field false = elementKind registry message field := by
  rw [classify, elementKind]
  cases type : field.type with
  | message =>
      cases wrapper : wrapperScalar field.typeName with
      | some scalar => simp only [messageKind, wrapper]
      | none =>
          by_cases isTimestamp : field.typeName = timestampName
          · simp only [messageKind, wrapper, if_pos isTimestamp]
          · simp only [messageKind_eq wrapper isTimestamp, if_neg isTimestamp, Bool.false_eq_true,
              false_and, dite_false]
  | _ => rfl

/-- A message type that is neither a wrapper nor a point in time: only such a type may be
a map. Both sides look up the same entry and message, in a different order.
-/
theorem classify_ordinary (unknownType : GenerationError) (type : field.type = .message)
    (noWrapper : wrapperScalar field.typeName = none)
    (notTimestamp : field.typeName ≠ timestampName)
    : classify unknownType registry message field (decide (field.label = .repeated))
      = fieldKind registry message field := by
  rw [classify, fieldKind, elementKind]
  simp only [type, noWrapper, messageKind_eq noWrapper notTimestamp, if_neg notTimestamp]
  cases registry.entry field.typeName with
  | error error => rfl
  | ok entry =>
      cases registry.message field.typeName with
      | error error => rfl
      | ok target =>
          simp only [bind, Except.bind, pure, Except.pure, classify_single, dite_eq_ite,
            Bool.and_eq_true]
          congr 1
          -- What is left is how the scalar of a key is asked for.
          rcases target.fields with _ | ⟨key, _ | ⟨value, others⟩⟩
          · rfl
          · rfl
          · dsimp only
            cases key.type <;> rfl

/-- Whatever the error for unknown field types is, one function gives the same, because no
declared type is left for that error.
-/
theorem classify_eq_fieldKind (unknownType : GenerationError) (registry : Registry)
    (message : Message) (field : Schema.Field)
    : classify unknownType registry message field (decide (field.label = .repeated))
      = fieldKind registry message field := by
  cases type : field.type with
  | message =>
      cases wrapper : wrapperScalar field.typeName with
      | some scalar =>
          rw [classify, fieldKind, elementKind]
          simp only [type, messageKind, wrapper]
          cases registry.symbol field.typeName <;> rfl
      | none =>
          by_cases isTimestamp : field.typeName = timestampName
          · rw [classify, fieldKind, elementKind]
            simp only [type, messageKind, wrapper, if_pos isTimestamp]
            cases registry.symbol field.typeName <;> rfl
          · exact classify_ordinary unknownType type wrapper isTimestamp
  | enumeration =>
      rw [classify, fieldKind, elementKind, type]
      cases registry.symbol field.typeName <;> rfl
  | _ =>
      rw [classify, fieldKind, elementKind, type]
      rfl

end ProtobufTypeScript.Field
