import Mathlib.Data.List.DropRight
import Mathlib.Tactic.Push
import ProtobufTypeScript.Text.Ends

/-!
Beginnings and ends of texts: what is found beside them is what completes them to the text, and what
is left when they are dropped begins and ends with something else.
-/

namespace ProtobufTypeScript.Text

-----------------------------------------------------------------------------------------
-- What stands beside an end
-----------------------------------------------------------------------------------------

/-- What follows a beginning is what completes it to the text. -/
theorem afterStart?_eq_some {head text rest : String}
    : afterStart? head text = some rest ↔ text = head ++ rest := by
  have same : text = head ++ rest ↔ text.toList = head.toList ++ rest.toList := by
    rw [← String.toList_append, String.toList_inj]
  rw [afterStart?, same]
  by_cases starts : head.toList.isPrefixOf text.toList = true
  · rw [if_pos starts, Option.some.injEq]
    obtain ⟨back, whole⟩ := List.isPrefixOf_iff_prefix.mp starts
    rw [← whole, List.drop_left]
    constructor
    · rintro rfl
      rw [String.toList_ofList]
    · intro equal
      rw [List.append_cancel_left equal, String.ofList_toList]
  · rw [if_neg starts]
    constructor
    · nofun
    · intro whole
      exact absurd (List.isPrefixOf_iff_prefix.mpr ⟨rest.toList, whole.symm⟩) starts

/-- What stands before an end is what the end completes to the text. -/
theorem beforeEnd?_eq_some {tail text rest : String}
    : beforeEnd? tail text = some rest ↔ text = rest ++ tail := by
  have same : text = rest ++ tail ↔ text.toList = rest.toList ++ tail.toList := by
    rw [← String.toList_append, String.toList_inj]
  rw [beforeEnd?, same]
  by_cases ends : tail.toList.isSuffixOf text.toList = true
  · rw [if_pos ends, Option.some.injEq]
    obtain ⟨front, whole⟩ := List.isSuffixOf_iff_suffix.mp ends
    rw [← whole, List.length_append, Nat.add_sub_cancel, List.take_left]
    constructor
    · rintro rfl
      rw [String.toList_ofList]
    · intro equal
      rw [List.append_cancel_right equal, String.ofList_toList]
  · rw [if_neg ends]
    constructor
    · nofun
    · intro whole
      exact absurd (List.isSuffixOf_iff_suffix.mpr ⟨rest.toList, whole.symm⟩) ends

/-- A text starts with something exactly if there is something that follows. -/
theorem isSome_afterStart? {head text : String}
    : (afterStart? head text).isSome = true ↔ head.toList <+: text.toList := by
  unfold afterStart?
  split <;> simp_all

-----------------------------------------------------------------------------------------
-- What is dropped at both ends
-----------------------------------------------------------------------------------------

section Ends

variable {α : Type} {p : α → Bool} {values : List α}

/-- What is left of a list when values are dropped at both ends. -/
def dropEnds (p : α → Bool) (values : List α) : List α :=
  (values.dropWhile p).rdropWhile p

theorem dropEnds_subset
    : dropEnds p values ⊆ values :=
  fun _ member => (List.dropWhile_sublist p).subset ((List.rdropWhile_prefix p _).subset member)

/-- If there is a value to be kept, not everything is dropped from the ends. -/
theorem dropEnds_ne_nil {value : α} (member : value ∈ values) (kept : p value = false)
    : dropEnds p values ≠ [] := by
  intro none
  have all := List.rdropWhile_eq_nil_iff.mp none
  have dropped : values.dropWhile p ≠ [] := by
    intro none
    have all := List.dropWhile_eq_nil_iff.mp none value member
    rw [kept] at all
    cases all
  have first := List.head_dropWhile_not p dropped
  rw [all _ (List.head_mem dropped)] at first
  cases first

/-- The last value that is left is one to be kept, as all others were dropped at the end.
-/
theorem kept_of_getLast?_dropEnds
    : ∀ value ∈ (dropEnds p values).getLast?, p value = false := by
  intro value last
  obtain ⟨some, rfl⟩ := List.mem_getLast?_eq_getLast last
  exact Bool.eq_false_iff.mpr (List.rdropWhile_last_not p _ some)

/-- The first value that is left is one to be kept. Dropping at the end does not change
the start, unless nothing is left at all.
-/
theorem kept_of_head?_dropEnds
    : ∀ value ∈ (dropEnds p values).head?, p value = false := by
  intro value first
  obtain ⟨rest, starts⟩ := List.rdropWhile_prefix p (values.dropWhile p)
  have first : value ∈ (values.dropWhile p).head? := by
    rw [← starts, List.head?_append_of_ne_nil]
    · exact first
    · exact List.ne_nil_of_mem (List.mem_of_mem_head? first)
  have kept := List.head?_dropWhile_not p values
  rwa [Option.mem_def.mp first] at kept

/-- Dropping at the end stops at a value that is kept. Induction on what comes after it,
from its end.
-/
theorem rdropWhile_append_cons {value : α} (kept : p value = false) (before after : List α)
    : (before ++ value :: after).rdropWhile p = before ++ value :: after.rdropWhile p := by
  induction after using List.reverseRecOn with
  | nil => rw [List.rdropWhile_concat_neg _ _ _ (by simp [kept]), List.rdropWhile_nil]
  | append_singleton front last ih =>
      rw [← List.cons_append, ← List.append_assoc, List.rdropWhile_concat, List.rdropWhile_concat]
      by_cases dropped : p last = true
      · rw [if_pos dropped, if_pos dropped, ih]
      · rw [if_neg dropped, if_neg dropped]
        simp

/-- A value that is kept has the beginning dropped before it and the end behind it. -/
theorem dropEnds_append_cons {value : α} (kept : p value = false) (before after : List α)
    : dropEnds p (before ++ value :: after)
      = before.dropWhile p ++ value :: after.rdropWhile p := by
  have start
      : (before ++ value :: after).dropWhile p = before.dropWhile p ++ value :: after := by
    rw [List.dropWhile_append, List.dropWhile_cons_of_neg (by simp [kept])]
    split <;> simp_all
  rw [dropEnds, start, rdropWhile_append_cons kept]

theorem dropEnds_dropWhile
    : dropEnds p (values.dropWhile p) = dropEnds p values := by
  rw [dropEnds, dropEnds, List.dropWhile_idempotent]

/-- Dropping at the end first makes no difference. If all values are to be dropped,
nothing is left either way.
-/
theorem dropEnds_rdropWhile
    : dropEnds p (values.rdropWhile p) = dropEnds p values := by
  by_cases all : ∀ value ∈ values, p value = true
  · rw [List.rdropWhile_eq_nil_iff.mpr all, dropEnds, dropEnds, List.dropWhile_eq_nil_iff.mpr all]
    rfl
  · push Not at all
    obtain ⟨value, member, kept⟩ := all
    have kept := Bool.eq_false_iff.mpr kept
    obtain ⟨before, after, rfl⟩ := List.append_of_mem member
    rw [rdropWhile_append_cons kept, dropEnds_append_cons kept, dropEnds_append_cons kept,
      List.rdropWhile_idempotent]

end Ends

end ProtobufTypeScript.Text
