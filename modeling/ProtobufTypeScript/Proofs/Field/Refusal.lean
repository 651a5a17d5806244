import ProtobufTypeScript.Proofs.Field.Kinds
import ProtobufTypeScript.Proofs.Schema.Lookup

/-!
Which fields are refused. A single value is refused if it is a group or if its type name does not
lead to a type of the right sort; a field is refused if its single value is, or if it is a map whose
entries lack a key or a value that can be read.
-/

namespace ProtobufTypeScript.Field

open Schema Target

/-- Whether a type name stands for a wrapper or a point in time, whatever is declared
under it.
-/
def IsWellKnown (typeName : String) : Prop :=
  (wrapperScalar typeName).isSome = true ∨ typeName = timestampName

/-- Why a single value of a field cannot be read. -/
inductive ValueFault (files : List File) (field : Schema.Field) : Prop
  | group (type : field.type = .group)
  | unknownEnumeration (type : field.type = .enumeration)
    (unknown : IsUnknown files field.typeName)
  | unknownMessage (type : field.type = .message) (unknown : IsUnknown files field.typeName)
  | notMessage (type : field.type = .message) (ordinary : ¬ IsWellKnown field.typeName)
    (enumeration : Enumeration)
    (declared : Declares files field.typeName (.enumeration enumeration))

/-- Why the entries of a map cannot be read. -/
inductive EntryFault (files : List File) (entry : Message) : Prop
  | incomplete (few : entry.fields.length < 2)
  | keyNotScalar (key value : Schema.Field) (others : List Schema.Field)
    (fields : entry.fields = key :: value :: others)
    (notScalar : ∀ scalar, key.type ≠ .scalar scalar)
  | value (key value : Schema.Field) (others : List Schema.Field)
    (fields : entry.fields = key :: value :: others) (fault : ValueFault files value)

/-- Why a field cannot be classified. -/
inductive KindFault (files : List File) (field : Schema.Field) : Prop
  | value (fault : ValueFault files field)
  | entry (type : field.type = .message) (many : field.label = .repeated)
    (ordinary : ¬ IsWellKnown field.typeName) (entry : Message)
    (declared : Declares files field.typeName (.message entry)) (isEntry : entry.mapEntry = true)
    (fault : EntryFault files entry)

variable {options : Options} {files : List File} {registry : Registry}

/-- A message type cannot be classified exactly if it is unknown, or if it is an enum and
not a well-known type. The steps of the classification are gone through in turn.
-/
theorem fails_messageKind (built : Registry.ofFiles options files = .ok registry)
    {typeName : String}
    : Fails (messageKind registry typeName)
      ↔ IsUnknown files typeName
        ∨ ¬ IsWellKnown typeName
          ∧ ∃ enumeration, Declares files typeName (.enumeration enumeration) := by
  unfold messageKind
  split
  · rename_i scalar wrapper
    have wellKnown : IsWellKnown typeName := Or.inl (by simp [wrapper])
    rw [fails_bind_pure, Registry.fails_symbol built]
    simp only [wellKnown, not_true, false_and, or_false]
  · rename_i noWrapper
    split
    · rename_i isTimestamp
      have wellKnown : IsWellKnown typeName := Or.inr isTimestamp
      rw [fails_bind_pure, Registry.fails_symbol built]
      simp only [wellKnown, not_true, false_and, or_false]
    · rename_i notTimestamp
      have ordinary : ¬ IsWellKnown typeName := by simp [IsWellKnown, noWrapper, notTimestamp]
      rw [fails_bind, Registry.fails_message built]
      simp only [fails_bind_pure, Registry.fails_symbol built, ordinary, not_false_eq_true,
        true_and]
      refine or_iff_left_of_imp ?_
      rintro ⟨_, _, unknown⟩
      exact Or.inl unknown

/-- One value of a field cannot be classified exactly if the field has a fault in its
value: a group, or a type that is unknown or of the wrong kind.
-/
theorem fails_elementKind (built : Registry.ofFiles options files = .ok registry)
    {message : Message} {field : Schema.Field}
    : Fails (elementKind registry message field) ↔ ValueFault files field := by
  unfold elementKind
  split
  · rename_i type
    exact iff_of_true (fails_error _) (.group type)
  · rename_i type
    rw [fails_bind_pure, Registry.fails_symbol built]
    refine ⟨.unknownEnumeration type, fun fault => ?_⟩
    cases fault <;> simp_all
  · rename_i type
    rw [fails_messageKind built]
    constructor
    · rintro (unknown | ⟨ordinary, enumeration, declared⟩)
      · exact .unknownMessage type unknown
      · exact .notMessage type ordinary enumeration declared
    · intro fault
      cases fault with
      | group other | unknownEnumeration other => simp [type] at other
      | unknownMessage _ unknown => exact Or.inl unknown
      | notMessage _ ordinary enumeration declared =>
          exact Or.inr ⟨ordinary, enumeration, declared⟩
  · rename_i scalar type
    refine iff_of_false (not_fails_ok _) (fun fault => ?_)
    cases fault <;> simp_all

/-- What is classified as a plain message is not one of the well-known types, as these are
found in other ways.
-/
theorem messageKind_eq_message {typeName : String} {symbol : Symbol}
    (named : IsMessageKind registry typeName (.message symbol))
    : ¬ IsWellKnown typeName := by
  cases named with
  | message _ target noWrapper notTimestamp declared known =>
      simp [IsWellKnown, noWrapper, notTimestamp]

/-- A value that is classified as a plain message has a field of a message type, and not
of a well-known one, as no other way ends with this kind.
-/
theorem elementKind_eq_message {message : Message} {field : Schema.Field} {symbol : Symbol}
    (found : elementKind registry message field = .ok (.message symbol))
    : field.type = .message ∧ ¬ IsWellKnown field.typeName := by
  cases elementKind_eq_ok.mp found with
  | message _ type named => exact ⟨type, messageKind_eq_message named⟩

/-- An ordinary message is read as what it is: it has a symbol, and its definition is
found under its name.
-/
theorem exists_elementKind (built : Registry.ofFiles options files = .ok registry)
    (message : Message) {entry : Message} {field : Schema.Field} (type : field.type = .message)
    (ordinary : ¬ IsWellKnown field.typeName)
    (declared : Declares files field.typeName (.message entry))
    : ∃ symbol, elementKind registry message field = .ok (.message symbol) := by
  obtain ⟨noWrapper, notTimestamp⟩ := not_or.mp ordinary
  rw [Option.isSome_iff_ne_none, ne_eq, not_not] at noWrapper
  have known : ¬ Fails (registry.symbol field.typeName) := by
    rw [Registry.fails_symbol built]
    exact fun unknown => unknown _ declared
  obtain ⟨symbol, known⟩ := not_fails_iff.mp known
  refine ⟨symbol, ?_⟩
  simp [elementKind, type, messageKind, noWrapper, notTimestamp,
    (Registry.message_eq_ok_iff built).mpr declared, known, bind, Except.bind, pure, Except.pure]

/-- A field that cannot be classified has a fault. Either its value has one, or it holds
many entries of a map that lack a key or a value, or have a fault in one of them.
-/
theorem kindFault_of_fails (built : Registry.ofFiles options files = .ok registry)
    {message : Message} {field : Schema.Field} (failed : Fails (fieldKind registry message field))
    : KindFault files field := by
  rcases fails_bind.mp failed with failed | ⟨kind, single, failed⟩
  · exact .value ((fails_elementKind built).mp failed)
  -- What kind of value a field holds matters only if it is a message: it may be an entry of a map.
  cases kind with
  | message symbol =>
      obtain ⟨type, ordinary⟩ := elementKind_eq_message single
      rcases fails_bind.mp failed with missing | ⟨entry, found, failed⟩
      · rcases (Registry.fails_message built).mp missing with unknown | ⟨enumeration, declared⟩
        · exact .value (.unknownMessage type unknown)
        · exact .value (.notMessage type ordinary enumeration declared)
      have declared := (Registry.message_eq_ok_iff built).mp found
      split at failed
      · rename_i isMap
        rw [Bool.and_eq_true, decide_eq_true_iff] at isMap
        refine .entry type isMap.1 ordinary entry declared isMap.2 ?_
        split at failed
        · rename_i key value others fields
          split at failed
          · rw [fails_bind_pure, fails_elementKind built] at failed
            exact .value key value others fields failed
          · rename_i notScalar
            exact .keyNotScalar key value others fields notScalar
        · rename_i noValue
          refine .incomplete ?_
          rcases fields : entry.fields with - | ⟨key, - | ⟨value, others⟩⟩
          · exact Nat.zero_lt_two
          · exact Nat.one_lt_two
          · exact (noValue key value others fields).elim
      · exact absurd failed (not_fails_pure _)
  | _ => exact absurd failed (not_fails_pure _)

/-- A field with a fault cannot be classified: whichever fault it is, the step that meets
it fails, after the steps before it have results.
-/
theorem fails_of_kindFault (built : Registry.ofFiles options files = .ok registry)
    {message : Message} {field : Schema.Field} (fault : KindFault files field)
    : Fails (fieldKind registry message field) := by
  rw [fieldKind, fails_bind, fails_elementKind built]
  cases fault with
  | value fault => exact Or.inl fault
  | entry type many ordinary entry declared isEntry fault =>
      obtain ⟨symbol, single⟩ := exists_elementKind built message type ordinary declared
      have found := (Registry.message_eq_ok_iff built).mpr declared
      refine Or.inr ⟨_, single, fails_bind.mpr (Or.inr ⟨entry, found, ?_⟩)⟩
      rw [if_pos (by simp [many, isEntry])]
      cases fault with
      | incomplete few =>
          split
          · rename_i fields
            simp only [fields, List.length_cons] at few
            omega
          · exact fails_throw _
      | keyNotScalar key value others fields notScalar =>
          simp only [fields]
          exact fails_throw _
      | value key value others fields fault =>
          simp only [fields]
          split
          · rw [fails_bind_pure, fails_elementKind built]
            exact fault
          · exact fails_throw _

/-- The shape of a field cannot be found exactly if its kind cannot, as all the rest of it
is read off the field.
-/
theorem fails_shapeOf (built : Registry.ofFiles options files = .ok registry)
    {message : Message} {field : Schema.Field}
    : Fails (shapeOf registry options message field) ↔ KindFault files field := by
  rw [shapeOf, fails_bind_pure]
  exact ⟨kindFault_of_fails built, fails_of_kindFault built⟩

/-- The fields of a message fail to be classified exactly if one of them has a fault. -/
theorem fails_shapesOf (built : Registry.ofFiles options files = .ok registry)
    {message : Message}
    : Fails (shapesOf registry options message)
      ↔ ∃ field ∈ message.fields, KindFault files field := by
  rw [shapesOf, fails_mapM]
  simp only [fails_shapeOf built]

end ProtobufTypeScript.Field
