import Mathlib.Algebra.BigOperators.Group.List.Basic
import Mathlib.Algebra.Ring.Nat
import Mathlib.Data.List.Infix

/-!
How often a text has a part. Of a part with two characters, no occurrence reaches over a character
that is neither of them, so that the occurrences on both sides of such a character are all there
are.
-/

namespace ProtobufTypeScript.Text

/-- How often a text has a part, at whatever positions. -/
def occurrences (part text : List Char) : Nat :=
  text.tails.countP part.isPrefixOf

example : occurrences "*/".toList "a */ **/ /* b".toList = 2 := by decide

/-- A part occurs in a text where it starts at the first character, or as often as in the
rest.
-/
@[simp] theorem occurrences_cons (part : List Char) (c : Char) (rest : List Char)
    : occurrences part (c :: rest)
      = occurrences part rest + if part.isPrefixOf (c :: rest) then 1 else 0 := by
  rw [occurrences, List.tails_cons, List.countP_cons]
  rfl

variable {first second c : Char}

section Neutral

variable (notFirst : c ≠ first) (notSecond : c ≠ second)

include notFirst notSecond

/-- No occurrence of two characters reaches over a character that is neither of them.
Witness: induction on what comes before, where an occurrence at its start ends within it.
-/
theorem occurrences_append_cons (before after : List Char)
    : occurrences [first, second] (before ++ c :: after)
      = occurrences [first, second] before + occurrences [first, second] after := by
  induction before with
  | nil => simp [occurrences, List.isPrefixOf, Ne.symm notFirst]
  | cons d rest ih =>
      have here
          : [first, second].isPrefixOf (d :: (rest ++ c :: after))
            = [first, second].isPrefixOf (d :: rest) := by
        cases rest with
        | nil => simp [List.isPrefixOf, Ne.symm notSecond]
        | cons e others => simp [List.isPrefixOf]
      rw [List.cons_append, occurrences_cons, occurrences_cons, ih, here]
      omega

/-- Texts each of which such a character ends have the occurrences that they have one by
one, by induction on the texts.
-/
theorem occurrences_flatMap_append (texts : List (List Char))
    : occurrences [first, second] (texts.flatMap (· ++ [c]))
      = (texts.map (occurrences [first, second])).sum := by
  induction texts with
  | nil => simp [occurrences, List.isPrefixOf]
  | cons text rest ih =>
      rw [List.flatMap_cons, List.append_assoc, List.singleton_append,
        occurrences_append_cons notFirst notSecond, ih, List.map_cons, List.sum_cons]

/-- A run of one character ahead adds no occurrence of a part that does not start with
that character. Induction on the length of the run.
-/
theorem occurrences_replicate_append (count : Nat) (text : List Char)
    : occurrences [first, second] (List.replicate count c ++ text)
      = occurrences [first, second] text := by
  induction count with
  | zero => rfl
  | succ count ih =>
      have alone : occurrences [first, second] [] = 0 := by simp [occurrences, List.isPrefixOf]
      have start := occurrences_append_cons notFirst notSecond [] (List.replicate count c ++ text)
      rw [List.replicate_succ, List.cons_append]
      rwa [List.nil_append, alone, Nat.zero_add, ih] at start

end Neutral

end ProtobufTypeScript.Text
