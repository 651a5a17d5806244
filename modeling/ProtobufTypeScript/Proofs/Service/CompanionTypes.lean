import ProtobufTypeScript.Proofs.Schema.Registry
import ProtobufTypeScript.Proofs.Service.Companion

/-!
The types of companions next to those that the messages of the batch method declare. The request is
taken to list keys and a map in the response to be indexed by them; neither is looked at, so that
the types agree only where the schema has it so.
-/

namespace ProtobufTypeScript.Service

open ProtobufTypeScript.Field Schema Target

variable {registry : Registry} {options : Options} {service : Schema.Service} {method : Method}
  {companion : Companion} {shape : Shape}

/-- Whether single values of a kind are of the type that indexes a map with given keys. -/
def Indexes (options : Options) (key : Scalar) (kind : Kind) : Prop :=
  ∃ scalar, kind = .scalar scalar ∧ scalarType options scalar = keyType options key

-----------------------------------------------------------------------------------------
-- Repeated fields
-----------------------------------------------------------------------------------------

/-- A repeated field is declared as an array of its values unless it is a map, which is
declared as an object instead.
-/
theorem type_eq_array_iff (many : shape.repeated = true)
    : shape.type options = .array (shape.kind.elementType options) ↔ shape.isMap = false := by
  unfold Shape.type
  cases isMap : shape.isMap with
  | false => simp [many]
  | true =>
      obtain ⟨name, number, repeated, inOneof, kind⟩ := shape
      cases kind with
      | map entry key value => simp [Kind.elementType]
      | _ => cases isMap

/-- The type of a field that is a map is that of objects with its keys and values. -/
theorem type_eq_index {entry : Symbol} {key : Scalar} {value : Kind}
    (isMap : shape.kind = .map entry key value)
    : shape.type options = .index (keyType options key) (value.elementType options) := by
  simp [Shape.type, Shape.isMap, isMap, Kind.isMap, Kind.elementType]

/-- Maps are indexed by numbers or strings, and no values but scalars have such a type.
Witness: the kinds of values, with the type of each.
-/
theorem elementType_eq_keyType_iff {key : Scalar} {kind : Kind}
    : kind.elementType options = keyType options key ↔ Indexes options key kind := by
  have plain : keyType options key = .simple "number" ∨ keyType options key = .simple "string" := by
    unfold keyType
    split
    · exact Or.inl rfl
    · exact Or.inr rfl
  constructor
  · intro same
    rw [← same] at plain
    cases kind with
    | scalar scalar => exact ⟨scalar, rfl, same⟩
    | _ =>
        simp [Kind.elementType, TypeExpr.optional, TypeExpr.date] at plain
  · rintro ⟨scalar, rfl, same⟩
    exact same

-----------------------------------------------------------------------------------------
-- Results
-----------------------------------------------------------------------------------------

/-- The results in a map have the type of its values, and are found by key. -/
theorem resultType_of_isMap (options : Options) {kind : Kind} (isMap : kind.isMap = true)
    : ∃ entry key value,
        kind = .map entry key value
        ∧ resultType options kind = (value.elementType options, true) := by
  cases kind with
  | map entry key value => exact ⟨entry, key, value, rfl, rfl⟩
  | _ => cases isMap

/-- The results in a list have the type of its elements, and are found by position. -/
theorem resultType_of_not_isMap {kind : Kind} (plain : kind.isMap = false)
    : resultType options kind = (kind.elementType options, false) := by
  cases kind with
  | map entry key value => cases plain
  | _ => rfl

/-- The request of a batch method declares an array of the keys of the companion unless
its field is a map. The response declares an array of the results if they are found in
order; if they are found by key, it declares an object indexed by the keys exactly if
these are scalars of the type that indexes the map.
-/
theorem companion_types_agree_iff
    (found : companion? registry options service method = .ok (some companion))
    : ∃ input output keyField resultField keys results,
        registry.message method.input = .ok input
        ∧ registry.message method.output = .ok output
        ∧ IsOnlyField registry options input keyField keys
        ∧ IsOnlyField registry options output resultField results
        ∧ (keys.type options = .array companion.keyType ↔ keys.isMap = false)
        ∧ (companion.byKey = false → results.type options = .array companion.valueType)
        ∧ (companion.byKey = true
          → ∃ entry key value,
              results.kind = .map entry key value
              ∧ (results.type options = .index companion.keyType companion.valueType
                ↔ Indexes options key keys.kind)) := by
  obtain ⟨input, output, keyField, resultField, keys, results, gathered, onlyKey, onlyResult⟩ :=
    exists_isOnlyField found
  refine ⟨input, output, keyField, resultField, keys, results, gathered.request, gathered.response,
    onlyKey, onlyResult, ?_⟩
  rw [gathered.parts]
  refine ⟨type_eq_array_iff onlyKey.repeated_eq, ?_⟩
  cases isMap : results.kind.isMap with
  | false =>
      rw [resultType_of_not_isMap isMap]
      exact ⟨fun _ => (type_eq_array_iff onlyResult.repeated_eq).mpr isMap, nofun⟩
  | true =>
      obtain ⟨entry, key, value, kind, same⟩ := resultType_of_isMap options isMap
      rw [same]
      refine ⟨nofun, fun _ => ⟨entry, key, value, kind, ?_⟩⟩
      rw [type_eq_index kind, TypeExpr.index.injEq, ← elementType_eq_keyType_iff]
      simp [eq_comm]

/-- The request of a batch method holds a map, which is no array of keys. -/
theorem companion_types_agree_iff_map
    : let entry : Message :=
        {
          name := "CountsEntry"
          fields :=
            [
              { name := "key", number := 1, type := .scalar .string },
              { name := "value", number := 2, type := .scalar .int32 }
            ]
          mapEntry := true
        }
      let counts : Schema.Field :=
        {
          name := "counts"
          number := 1
          label := .repeated
          type := .message
          typeName := ".Counts.CountsEntry"
        }
      let items : Schema.Field :=
        { name := "items", number := 1, label := .repeated, type := .scalar .string }
      let method : Method := { name := "BatchGetItems", input := ".Counts", output := ".Items" }
      let service : Schema.Service := { name := "Shop", methods := [method] }
      let file : File :=
        {
          name := "shop.proto"
          messages :=
            [
              { name := "Counts", fields := [counts], nested := [entry] },
              { name := "Items", fields := [items] }
            ]
          services := [service]
        }
      let options : Options := { context := true }
      ∃ registry companion input keyField keys,
        Registry.ofFiles options [file] = .ok registry
        ∧ companion? registry options service method = .ok (some companion)
        ∧ registry.message method.input = .ok input
        ∧ IsOnlyField registry options input keyField keys
        ∧ keys.type options ≠ .array companion.keyType := by
  intro entry counts items method service file options
  have some
      : (Registry.ofFiles options [file]
          >>= fun registry => companion? registry options service method).toOption.join.isSome
        = true := by
    decide +kernel
  have maps
      : (Registry.ofFiles options [file]
            >>= fun registry => registry.message method.input
            >>= fun input => input.fields.mapM (shapeOf registry options input)).map
          (List.map Shape.isMap)
        = .ok [true] := by
    decide +kernel
  obtain ⟨companion, kept⟩ := Option.isSome_iff_exists.mp some
  obtain ⟨registry, built, found⟩ :=
    bind_eq_ok.mp (toOption_eq_some.mp (Option.join_eq_some_iff.mp kept))
  obtain ⟨input, output, keyField, resultField, keys, results, inputFound, -, only, -, agree, -⟩ :=
    companion_types_agree_iff found
  refine ⟨registry, companion, input, keyField, keys, built, found, inputFound, only, ?_⟩
  rw [ne_eq, agree]
  simpa [built, inputFound, only.only, only.classified, bind, Except.bind, Except.map, pure,
    Except.pure] using maps

end ProtobufTypeScript.Service
