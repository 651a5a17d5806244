import ProtobufTypeScript.Field.Classification
import ProtobufTypeScript.Proofs.Except

/-!
The ways in which a kind is found. Each function of the classification has a relation with one
constructor for each way to its result and all that is met on that way, so that what holds of kinds
is shown by cases of the relation and not by going through the steps of the function.
-/

namespace ProtobufTypeScript.Field

open Schema Target

variable {registry : Registry} {message : Message} {field : Schema.Field} {kind : Kind}

/-- The kinds that message types have by their names: wrappers and points in time are told
by these, and all others have to be messages.
-/
inductive IsMessageKind (registry : Registry) (typeName : String) : Kind → Prop where
  | wrapper (symbol : Symbol) (scalar : Scalar) (wraps : wrapperScalar typeName = some scalar)
    (known : registry.symbol typeName = .ok symbol)
    : IsMessageKind registry typeName (.wrapper symbol scalar)
  | timestamp (symbol : Symbol) (noWrapper : wrapperScalar typeName = none)
    (named : typeName = timestampName) (known : registry.symbol typeName = .ok symbol)
    : IsMessageKind registry typeName (.timestamp symbol)
  | message (symbol : Symbol) (target : Message) (noWrapper : wrapperScalar typeName = none)
    (notTimestamp : typeName ≠ timestampName)
    (declared : registry.message typeName = .ok target)
    (known : registry.symbol typeName = .ok symbol)
    : IsMessageKind registry typeName (.message symbol)

/-- A message type is classified in just these ways. Witness: the names in the order in which
they are compared, and for each of them what is looked up.
-/
theorem messageKind_eq_ok {typeName : String}
    : messageKind registry typeName = .ok kind ↔ IsMessageKind registry typeName kind := by
  constructor
  · intro found
    unfold messageKind at found
    split at found
    · rename_i scalar wraps
      obtain ⟨symbol, known, rest⟩ := bind_eq_ok.mp found
      cases rest
      exact .wrapper symbol scalar wraps known
    · rename_i noWrapper
      split at found
      · rename_i named
        obtain ⟨symbol, known, rest⟩ := bind_eq_ok.mp found
        cases rest
        exact .timestamp symbol noWrapper named known
      · rename_i notTimestamp
        obtain ⟨target, declared, found⟩ := bind_eq_ok.mp found
        obtain ⟨symbol, known, rest⟩ := bind_eq_ok.mp found
        cases rest
        exact .message symbol target noWrapper notTimestamp declared known
  · rintro (⟨symbol, scalar, wraps, known⟩ | ⟨symbol, noWrapper, rfl, known⟩
      | ⟨symbol, target, noWrapper, notTimestamp, declared, known⟩)
    · simp [messageKind, wraps, known, bind, Except.bind, pure, Except.pure]
    · simp [messageKind, noWrapper, known, bind, Except.bind, pure, Except.pure]
    · simp [messageKind, noWrapper, notTimestamp, declared, known, bind, Except.bind, pure,
        Except.pure]

/-- The kinds that one value of a field may have, by the declared type of the field. There is
none for groups.
-/
inductive IsElementKind (registry : Registry) (field : Schema.Field) : Kind → Prop where
  | scalar (scalar : Scalar) (type : field.type = .scalar scalar)
    : IsElementKind registry field (.scalar scalar)
  | enumeration (symbol : Symbol) (type : field.type = .enumeration)
    (known : registry.symbol field.typeName = .ok symbol)
    : IsElementKind registry field (.enumeration symbol)
  | message (kind : Kind) (type : field.type = .message)
    (named : IsMessageKind registry field.typeName kind)
    : IsElementKind registry field kind

/-- One value of a field is classified in just these ways, whatever message the field is in:
that one is only named in errors.
-/
theorem elementKind_eq_ok
    : elementKind registry message field = .ok kind ↔ IsElementKind registry field kind := by
  constructor
  · intro found
    unfold elementKind at found
    split at found
    · cases found
    · rename_i type
      obtain ⟨symbol, known, rest⟩ := bind_eq_ok.mp found
      cases rest
      exact .enumeration symbol type known
    · rename_i type
      exact .message kind type (messageKind_eq_ok.mp found)
    · rename_i scalar type
      cases found
      exact .scalar scalar type
  · rintro (⟨scalar, type⟩ | ⟨symbol, type, known⟩ | ⟨_, type, named⟩)
    · simp [elementKind, type]
    · simp [elementKind, type, known, bind, Except.bind, pure, Except.pure]
    · simp [elementKind, type, messageKind_eq_ok.mpr named]

/-- Whether a field of a plain message is one of many entries, which makes it a map. -/
def HoldsEntries (field : Schema.Field) (target : Message) : Prop :=
  field.label = .repeated ∧ target.mapEntry = true

/-- The kinds that a field may have: that of one of its values, or a map if it holds entries.
The key and the value of a map are the first two fields of the entry.
-/
inductive IsFieldKind (registry : Registry) (field : Schema.Field) : Kind → Prop where
  | element (kind : Kind) (single : IsElementKind registry field kind)
    (plain
      : ∀ symbol,
          kind = .message symbol
          → ∃ target,
              registry.message field.typeName = .ok target ∧ ¬ HoldsEntries field target)
    : IsFieldKind registry field kind
  | map (entry : Symbol) (key : Scalar) (value : Kind) (target : Message)
    (keyField valueField : Schema.Field) (others : List Schema.Field)
    (single : IsElementKind registry field (.message entry))
    (declared : registry.message field.typeName = .ok target)
    (entries : HoldsEntries field target)
    (fields : target.fields = keyField :: valueField :: others)
    (type : keyField.type = .scalar key)
    (held : IsElementKind registry valueField value)
    : IsFieldKind registry field (.map entry key value)

/-- A field is classified in just these ways. Witness: the kind of one of its values, which is
looked at again if it is a plain message.
-/
theorem fieldKind_eq_ok
    : fieldKind registry message field = .ok kind ↔ IsFieldKind registry field kind := by
  constructor
  · intro found
    obtain ⟨single, made, found⟩ := bind_eq_ok.mp found
    have element := elementKind_eq_ok.mp made
    split at found
    · rename_i symbol
      obtain ⟨target, declared, found⟩ := bind_eq_ok.mp found
      split at found
      · rename_i isEntry
        rw [Bool.and_eq_true, decide_eq_true_iff] at isEntry
        split at found
        · rename_i keyField valueField others fields
          split at found
          · rename_i scalar type
            obtain ⟨value, held, rest⟩ := bind_eq_ok.mp found
            cases rest
            exact .map symbol scalar value target keyField valueField others element declared
              isEntry fields type (elementKind_eq_ok.mp held)
          · cases found
        · cases found
      · rename_i notEntry
        cases found
        refine .element _ element (fun _ _ => ⟨target, declared, fun entries => notEntry ?_⟩)
        rw [Bool.and_eq_true, decide_eq_true_iff]
        exact entries
    · rename_i other
      cases found
      exact .element _ element (fun symbol same => absurd same (other symbol))
  · rintro (⟨_, single, plain⟩
      | ⟨entry, key, value, target, keyField, valueField, others, single, declared, entries, fields,
          type, held⟩)
    · have element : elementKind registry message field = .ok kind := elementKind_eq_ok.mpr single
      cases kind with
      | message symbol =>
          obtain ⟨target, declared, notEntry⟩ := plain symbol rfl
          have alone : (decide (field.label = .repeated) && target.mapEntry) = false := by
            simpa [HoldsEntries] using notEntry
          simp [fieldKind, element, declared, alone, bind, Except.bind, pure, Except.pure]
      | _ => simp [fieldKind, element, bind, Except.bind, pure, Except.pure]
    · have element : elementKind registry message field = .ok (.message entry) :=
        elementKind_eq_ok.mpr single
      have value : elementKind registry target valueField = .ok value :=
        elementKind_eq_ok.mpr held
      simp [fieldKind, element, declared, entries.1, entries.2, fields, type, value, bind,
        Except.bind, pure, Except.pure]

end ProtobufTypeScript.Field
