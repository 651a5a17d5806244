import ProtobufTypeScript.Text.UpperCase

/-!
Where capitals lie: no character is changed into a bracket or into one of the first three
private-use code points.
-/

namespace ProtobufTypeScript.Text

/-- The code points of the brackets, and the first three for private use. -/
def reserved : List Nat :=
  [0x28, 0x29, 0x5B, 0x5D, 0x7B, 0x7D, 0xE000, 0xE001, 0xE002]

/-- No run of characters with one capital has capitals around a reserved code point. -/
theorem capitalRuns_apart
    : ∀ run ∈ capitalRuns,
        ∀ code ∈ reserved, run.last + run.shift < code ∨ code < run.first + run.shift := by
  decide +kernel

/-- No character expands to a reserved one. -/
theorem expansions_apart
    : ∀ entry ∈ expansions, ∀ code ∈ entry.2, code ∉ reserved := by
  decide +kernel

/-- A character made from a code has that code, or zero if no character has it. -/
theorem toNat_ofNat (n : Nat)
    : (Char.ofNat n).toNat = n ∨ (Char.ofNat n).toNat = 0 := by
  by_cases valid : n.isValidChar
  · left
    rw [Char.ofNat, dif_pos valid]
    rfl
  · right
    rw [Char.ofNat, dif_neg valid]
    rfl

theorem pos_of_mem_reserved
    : ∀ code ∈ reserved, 0 < code := by
  decide

/-- A character of an upper-case form is the character itself or not a reserved one.
Witness: the runs of shifted codes and the longer forms, all of which keep off the
reserved codes.
-/
theorem toNat_of_mem_upperCase {c upper : Char} (member : upper ∈ upperCase c)
    : upper = c ∨ upper.toNat ∉ reserved := by
  unfold upperCase at member
  split at member
  · rename_i run found
    have inRun := List.find?_some found
    simp only [CaseRun.holds, Bool.and_eq_true, decide_eq_true_eq] at inRun
    rw [List.mem_singleton.mp member]
    refine Or.inr (fun inReserved => ?_)
    have positive := pos_of_mem_reserved _ inReserved
    have apart := capitalRuns_apart run (List.mem_of_find?_eq_some found) _ inReserved
    rcases toNat_ofNat (c.toNat + run.shift).toNat with same | zero <;> omega
  · split at member
    · rename_i codes found
      obtain ⟨code, inCodes, rfl⟩ := List.mem_map.mp member
      obtain ⟨before, after, split, -⟩ := List.lookup_eq_some_iff.mp found
      have apart := expansions_apart (c.toNat, codes) (by simp [split]) code inCodes
      refine Or.inr (fun inReserved => ?_)
      rcases toNat_ofNat code with same | zero
      · exact apart (same ▸ inReserved)
      · exact absurd (pos_of_mem_reserved _ inReserved) (by omega)
    · exact Or.inl (List.mem_singleton.mp member)

end ProtobufTypeScript.Text
