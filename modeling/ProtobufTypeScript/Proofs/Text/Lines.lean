import ProtobufTypeScript.Text.Lines

/-!
The parts of a text between the occurrences of a separator. Written with the separator between them
they give the text back, and parts without the separator are read back from what was so written. A
text is cut in two at the first occurrence.
-/

namespace ProtobufTypeScript.Text

/-- Splitting at a separator is what the list library calls splitting. Witness: induction
on the text, as both add a character to the first of the later parts.
-/
theorem splitAt_eq_splitOn (separator : Char) (text : List Char)
    : splitAt separator text = text.splitOn separator := by
  induction text with
  | nil => rfl
  | cons c rest ih =>
      rw [splitAt, List.splitOn_cons_eq_if_modifyHead, ih]
      by_cases same : c = separator
      · rw [if_pos same, if_pos (beq_iff_eq.mpr same)]
      · rw [if_neg same, if_neg (mt beq_iff_eq.mp same)]
        cases parts : rest.splitOn separator with
        | nil => exact absurd parts (List.splitOn_ne_nil separator rest)
        | cons part others => rfl

/-- A text that is split at a separator has at least one part, which may be empty. -/
theorem partsAt_ne_nil (separator : Char) (text : String)
    : partsAt separator text ≠ [] := by
  rw [partsAt, splitAt_eq_splitOn, Ne, List.map_eq_nil_iff]
  exact List.splitOn_ne_nil separator _

/-- Joining the parts of a text with the separator gives the text back, as for lists that
are split and joined.
-/
theorem intercalate_partsAt {separator : String} {c : Char} (single : separator.toList = [c])
    (text : String)
    : separator.intercalate (partsAt c text) = text := by
  have parts : ((partsAt c text).map String.toList) = text.toList.splitOn c := by
    simp [partsAt, splitAt_eq_splitOn, Function.comp_def]
  rw [← String.toList_inj, String.toList_intercalate, parts, single, List.intercalate_splitOn]

/-- Texts without the separator are the parts of what is written with the separator
between them.
-/
theorem partsAt_intercalate {separator : String} {c : Char} (single : separator.toList = [c])
    {parts : List String} (some : parts ≠ []) (free : ∀ part ∈ parts, c ∉ part.toList)
    : partsAt c (separator.intercalate parts) = parts := by
  rw [partsAt, String.toList_intercalate, single, splitAt_eq_splitOn,
    List.splitOn_intercalate c (List.forall_mem_map.mpr free) (by simpa using some)]
  simp [Function.comp_def]

/-- No part of a text holds the separator at which it was split. Induction on the text. -/
theorem not_mem_of_mem_splitAt {separator : Char} {text part : List Char}
    (member : part ∈ splitAt separator text)
    : separator ∉ part := by
  induction text generalizing part with
  | nil => simp_all [splitAt]
  | cons c rest ih =>
      rw [splitAt] at member
      split at member
      · rcases List.mem_cons.mp member with rfl | later
        · exact List.not_mem_nil
        · exact ih later
      · rename_i different
        split at member
        · rw [List.mem_singleton.mp member]
          simpa using Ne.symm different
        · rename_i first others split
          rcases List.mem_cons.mp member with rfl | later
          · have plain : separator ∉ first := ih (by simp [split])
            simpa [plain] using Ne.symm different
          · exact ih (by simp [split, later])

theorem not_mem_of_mem_partsAt {separator : Char} {text part : String}
    (member : part ∈ partsAt separator text)
    : separator ∉ part.toList := by
  obtain ⟨chars, inParts, rfl⟩ := List.mem_map.mp member
  rw [String.toList_ofList]
  exact not_mem_of_mem_splitAt inParts

/-- A text without the separator cannot be cut. Induction on the text. -/
theorem cutAt_eq_none {separator : Char} {text : List Char} (absent : separator ∉ text)
    : cutAt separator text = none := by
  induction text with
  | nil => rfl
  | cons c rest ih =>
      rw [List.mem_cons, not_or] at absent
      rw [cutAt, if_neg (Ne.symm absent.1), ih absent.2]
      rfl

/-- A text is cut at the first separator in it: what comes before has none. Induction on
what comes before.
-/
theorem cutAt_append_cons {separator : Char} {before : List Char} (absent : separator ∉ before)
    (after : List Char)
    : cutAt separator (before ++ separator :: after) = some (before, after) := by
  induction before with
  | nil => simp [cutAt]
  | cons c rest ih =>
      rw [List.mem_cons, not_or] at absent
      rw [List.cons_append, cutAt, if_neg (Ne.symm absent.1), ih absent.2]
      rfl

/-- A text that was cut is the two parts with the separator between them, so that nothing
is lost. Induction on the text.
-/
theorem eq_append_of_cutAt {separator : Char} {text before after : List Char}
    (cut : cutAt separator text = some (before, after))
    : text = before ++ separator :: after := by
  induction text generalizing before with
  | nil => cases cut
  | cons c rest ih =>
      rw [cutAt] at cut
      split at cut
      · rename_i here
        cases cut
        rw [here, List.nil_append]
      · obtain ⟨⟨first, last⟩, found, same⟩ := Option.map_eq_some_iff.mp cut
        cases same
        rw [ih found, List.cons_append]

end ProtobufTypeScript.Text
