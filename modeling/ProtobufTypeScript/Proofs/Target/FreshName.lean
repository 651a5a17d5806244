import Mathlib.Data.List.Perm.Subperm
import ProtobufTypeScript.Proofs.Text.Numeral
import ProtobufTypeScript.Target.SourceUnit

/-!
Fresh names. The name given to an import is its own name if that is not taken, and else its own name
with the least positive number that makes it free. There always is one, so the search that tries one
number after the other comes to an end.
-/

namespace ProtobufTypeScript.Target

/-- A name that is not taken, or the name with the least positive number that frees it. -/
inductive LeastFree (taken : List String) (name : String) : String → Prop
  | own (free : name ∉ taken)
    : LeastFree taken name name
  | numbered (number : Nat) (used : name ∈ taken) (positive : 0 < number)
    (free : name ++ toString number ∉ taken)
    (least : ∀ smaller, 0 < smaller → smaller < number → name ++ toString smaller ∈ taken)
    : LeastFree taken name (name ++ toString number)

/-- The search for a free name from a candidate on: a candidate that is taken is given up
for the name with the next number.
-/
inductive Search (taken : List String) (name : String) : String → Nat → String → Prop
  | found (candidate : String) (number : Nat) (free : candidate ∉ taken)
    : Search taken name candidate number candidate
  | next (candidate : String) (number : Nat) (result : String) (used : candidate ∈ taken)
    (later : Search taken name (name ++ toString number) (number + 1) result)
    : Search taken name candidate number result

/-- Among more numbers than there are taken names one makes a name free. Otherwise all
numbered names would be taken, which are too many.
-/
theorem exists_number_free (taken : List String) (name : String)
    : ∃ number ≤ taken.length, name ++ toString (number + 1) ∉ taken := by
  apply Classical.byContradiction
  intro none
  simp only [not_exists, not_and, Classical.not_not] at none
  -- Otherwise all numbered names are taken, though there are more of them than taken names.
  let numbered := (List.range (taken.length + 1)).map (fun n => name ++ toString (n + 1))
  have distinct : numbered.Nodup := by
    refine List.Pairwise.map _ ?_ List.nodup_range
    intro m n different same
    exact different
      (Nat.succ.inj (Text.toString_nat_injective (String.append_right_inj name |>.mp same)))
  have used : numbered ⊆ taken := by
    intro candidate member
    obtain ⟨n, inRange, rfl⟩ := List.mem_map.mp member
    exact none n (Nat.le_of_lt_succ (List.mem_range.mp inRange))
  have bound : numbered.length ≤ taken.length :=
    (List.subperm_of_subset distinct used).length_le
  have length : numbered.length = taken.length + 1 := by simp [numbered]
  omega

/-- A fresh name is the first one that is free: the name itself, or else the first of the
numbered ones, which the search finds.
-/
theorem leastFree_freshName (taken : List String) (name : String)
    : LeastFree taken name (freshName taken name) := by
  by_cases used : name ∈ taken
  · rw [freshName, if_pos (List.contains_iff_mem.mpr used)]
    simp only [List.find?_map]
    cases found : (List.range (taken.length + 1)).find?
        ((fun candidate => !taken.contains candidate) ∘ fun n => name ++ toString (n + 1)) with
    | none =>
        obtain ⟨number, bound, free⟩ := exists_number_free taken name
        have tried := List.find?_eq_none.mp found number (List.mem_range.mpr (by omega))
        exact absurd (by simpa using tried) free
    | some number =>
        obtain ⟨free, -, least⟩ := List.find?_range_eq_some.mp found
        refine .numbered (number + 1) used (Nat.succ_pos number) (by simpa using free) ?_
        intro smaller positive below
        obtain ⟨previous, rfl⟩ := Nat.exists_eq_succ_of_ne_zero (Nat.ne_of_gt positive)
        simpa using least previous (by omega)
  · rw [freshName, if_neg (mt List.contains_iff_mem.mp used)]
    exact .own used

namespace LeastFree

variable {taken : List String} {name result : String}

/-- The least free name is not taken. -/
theorem not_mem (least : LeastFree taken name result)
    : result ∉ taken := by
  cases least with
  | own free => exact free
  | numbered number used positive free least => exact free

/-- A name that is not taken is the least free one for itself. -/
theorem eq_of_not_mem (least : LeastFree taken name result) (free : name ∉ taken)
    : result = name := by
  cases least with
  | own _ => rfl
  | numbered number used positive unused least => exact absurd used free

/-- Only which names are taken matters. -/
theorem congr {other : List String} (same : ∀ x, x ∈ taken ↔ x ∈ other)
    (least : LeastFree taken name result)
    : LeastFree other name result := by
  cases least with
  | own free => exact .own (mt (same _).mpr free)
  | numbered number used positive free least =>
      exact .numbered number ((same _).mp used) positive (mt (same _).mpr free)
        (fun smaller above below => (same _).mp (least smaller above below))

/-- The least free name is the result of the search that starts with the name and goes on
with numbers from one. The numbers before the one found are all taken.
-/
theorem search (least : LeastFree taken name result)
    : Search taken name name 1 result := by
  cases least with
  | own free => exact .found name 1 free
  | numbered number used positive free least =>
      have from_here
          : ∀ gap start,
              0 < start
              → start + gap = number
              → Search taken name (name ++ toString start) (start + 1)
                  (name ++ toString number) := by
        intro gap
        induction gap with
        | zero =>
            rintro start - rfl
            exact .found _ _ free
        | succ gap ih =>
            intro start startPositive sum
            refine .next _ _ _ (least start startPositive (by omega)) ?_
            exact ih (start + 1) (Nat.succ_pos start) (by omega)
      exact .next name 1 _ used (from_here (number - 1) 1 Nat.one_pos (by omega))

end LeastFree

/-- Each symbol gets one name, in order. Induction on the symbols, with the names taken so
far.
-/
theorem map_fst_assignNames (taken : List String) (symbols : List Symbol)
    : (assignNames taken symbols).map Prod.fst = symbols := by
  induction symbols generalizing taken with
  | nil => rfl
  | cons symbol rest ih => rw [assignNames, List.map_cons, ih]

/-- A symbol gets the first name that neither is taken nor was assigned before, by
induction on the symbols with the taken names generalised.
-/
theorem leastFree_of_assignNames {taken : List String} {symbols : List Symbol}
    {before after : List Import} {entry : Import}
    (split : assignNames taken symbols = before ++ entry :: after)
    : LeastFree (taken ++ before.map Prod.snd) entry.1.name entry.2 := by
  induction symbols generalizing taken before with
  | nil => simp [assignNames] at split
  | cons symbol rest ih =>
      rw [assignNames] at split
      cases before with
      | nil =>
          obtain ⟨rfl, -⟩ := List.cons.inj split
          rw [List.map_nil, List.append_nil]
          exact leastFree_freshName taken symbol.name
      | cons first later =>
          obtain ⟨rfl, tail⟩ := List.cons.inj split
          -- The first name moves from the assigned names to those that are taken for the others.
          refine (ih tail).congr ?_
          intro name
          simp only [List.map_cons, List.mem_append, List.mem_cons]
          grind

/-- No symbol gets a name that was taken at the start. -/
theorem not_mem_taken_of_assignNames {taken : List String} {symbols : List Symbol} {entry : Import}
    (member : entry ∈ assignNames taken symbols)
    : entry.2 ∉ taken := by
  obtain ⟨before, after, split⟩ := List.append_of_mem member
  exact fun used =>
    (leastFree_of_assignNames split).not_mem (List.mem_append_left _ used)

/-- No name is assigned twice. -/
theorem nodup_map_snd_assignNames (taken : List String) (symbols : List Symbol)
    : ((assignNames taken symbols).map Prod.snd).Nodup := by
  induction symbols generalizing taken with
  | nil => exact List.nodup_nil
  | cons symbol rest ih =>
      rw [assignNames, List.map_cons, List.nodup_cons]
      refine ⟨?_, ih _⟩
      intro again
      obtain ⟨entry, member, same⟩ := List.mem_map.mp again
      exact not_mem_taken_of_assignNames member (same ▸ List.mem_cons_self)

end ProtobufTypeScript.Target
