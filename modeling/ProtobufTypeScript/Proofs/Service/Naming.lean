import ProtobufTypeScript.Proofs.Text.Ends
import ProtobufTypeScript.Service.Naming

/-!
What method names make of each other: the name of a companion starts as those of cached methods do,
and the name of its batch method does not. The messages of a batch method have one field each.
-/

namespace ProtobufTypeScript.Service

open Schema

variable {name companion : String}

/-- At most a final `s` is missing. -/
theorem singular_cases (name : String)
    : singular name = name ∨ name = singular name ++ "s" := by
  unfold singular
  cases found : Text.beforeEnd? "s" name with
  | none => exact Or.inl rfl
  | some rest => exact Or.inr (Text.beforeEnd?_eq_some.mp found)

/-- The final `s` is no part of `Get`. Witness: what is left without it is a prefix as
long, or the whole name would end in another letter.
-/
theorem get_isPrefix_singular (starts : "Get".toList <+: name.toList)
    : "Get".toList <+: (singular name).toList := by
  rcases singular_cases name with same | shorter
  · rw [same]
    exact starts
  · have last : "s".toList = ['s'] := rfl
    rw [shorter, String.toList_append, last] at starts
    rcases List.prefix_concat_iff.mp starts with whole | inner
    · exact absurd (congrArg List.getLast? whole) (by simp)
    · exact inner

/-- A method with a companion has a name that starts with `Batch`. -/
theorem exists_batch_of_companionName (named : companionName name = some companion)
    : ∃ rest, name = "Batch" ++ rest := by
  unfold companionName at named
  split at named
  · cases named
  · rename_i rest found
    exact ⟨rest, Text.afterStart?_eq_some.mp found⟩

/-- The name of every companion starts with `Get`, as it is kept from the name of the
method or put in front of the rest.
-/
theorem get_isPrefix_of_companionName (named : companionName name = some companion)
    : "Get".toList <+: companion.toList := by
  unfold companionName at named
  split at named
  · cases named
  · rename_i rest _
    split at named
    · cases named
    · split at named
      · rename_i starts
        cases named
        exact get_isPrefix_singular (Text.isSome_afterStart?.mp starts)
      · cases named
        exact get_isPrefix_singular ⟨rest.toList, by rw [String.toList_append]⟩

/-- A batch method is never answered from a cache. -/
theorem isCacheable_of_companionName (named : companionName name = some companion)
    : isCacheable name = false := by
  obtain ⟨rest, rfl⟩ := exists_batch_of_companionName named
  unfold isCacheable
  cases found : Text.afterStart? "Get" ("Batch" ++ rest) with
  | none => rfl
  | some tail =>
      have same := congrArg (fun text => text.toList.head?) (Text.afterStart?_eq_some.mp found)
      simp at same

/-- A message consists of one repeated field exactly if this is its only field and has the
label.
-/
theorem onlyRepeatedField?_eq_some {message : Message} {field : Schema.Field}
    : onlyRepeatedField? message = some field
      ↔ message.fields = [field] ∧ field.label = .repeated := by
  unfold onlyRepeatedField?
  split
  · rename_i only fields
    rw [fields, List.singleton_inj]
    constructor
    · intro found
      split at found <;> cases found
      exact ⟨rfl, ‹_›⟩
    · rintro ⟨rfl, many⟩
      exact if_pos many
  · rename_i several
    simp only [reduceCtorEq, false_iff, not_and]
    exact fun fields => (several _ fields).elim

/-- A method is a batch exactly if its name has a companion in it, and its request and its
response consist of one repeated field each.
-/
theorem ofMethod?_eq_some {method : Method} {input output : Message} {batch : Batch}
    : Batch.ofMethod? method input output = some batch
      ↔ batch.method = method
        ∧ companionName method.name = some batch.companion
        ∧ onlyRepeatedField? input = some batch.keys
        ∧ onlyRepeatedField? output = some batch.results := by
  obtain ⟨_, _, _, _⟩ := batch
  simp only [Batch.ofMethod?, Option.bind_eq_bind, Option.bind_eq_some_iff, Option.pure_def,
    Option.some.injEq, Batch.mk.injEq]
  grind

end ProtobufTypeScript.Service
