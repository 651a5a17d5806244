import ProtobufTypeScript.Proofs.Text.Casing
import ProtobufTypeScript.Proofs.Text.Lines

/-!
Camel case of a name component by component. Where every underscore has a component behind it, the
camel case of a name is its first component and then the others, each with a capital at its start,
and no underscore is left.
-/

namespace ProtobufTypeScript.Text

/-- Characters with the first one in upper case. -/
def capitalizedChars : List Char → List Char
  | [] => []
  | first :: rest => first.toUpper :: rest

/-- A text with its first character in upper case. -/
def capitalized (text : String) : String :=
  String.ofList (capitalizedChars text.toList)

/-- Whether a name consists of letters, digits and underscores, of which none stands at
the end or next to another one. One at the start has an empty component before it.
-/
structure IsParted (name : String) : Prop where
  characters : ∀ c ∈ name.toList, isWordPart c = true
  end_filled : ¬ ['_'] <:+ name.toList
  inside_filled : ¬ ['_', '_'] <:+: name.toList

variable {part rest first : List Char} {others : List (List Char)}

-----------------------------------------------------------------------------------------
-- The components of a name
-----------------------------------------------------------------------------------------

/-- A character of one of the parts stands in the joined text. Induction on the parts,
where the part that has it comes first or later.
-/
theorem mem_intercalate {c : Char} {parts : List (List Char)} (member : part ∈ parts)
    (inPart : c ∈ part)
    : c ∈ ['_'].intercalate parts := by
  induction parts with
  | nil => cases member
  | cons first others ih =>
      cases others with
      | nil => simpa [List.mem_singleton.mp member] using inPart
      | cons second others =>
          rw [List.intercalate_cons_cons, List.mem_append]
          rcases List.mem_cons.mp member with rfl | later
          · exact .inl (List.mem_append_left _ inPart)
          · exact .inr (ih later)

/-- An empty component is seen from an underscore at the end or from two in a row.
Witness: induction on the components, where what follows an empty one is nothing or
another underscore.
-/
theorem ne_nil_of_mem_components
    (ends : ¬ ['_'] <:+ ['_'].intercalate (first :: others))
    (inside : ¬ ['_', '_'] <:+: ['_'].intercalate (first :: others))
    : ∀ part ∈ others, part ≠ [] := by
  induction others generalizing first with
  | nil => nofun
  | cons next later ih =>
      rw [List.intercalate_cons_cons] at ends inside
      have after : ['_'].intercalate (next :: later)
          <:+ first ++ ['_'] ++ ['_'].intercalate (next :: later) :=
        List.suffix_append _ _
      rw [List.forall_mem_cons]
      refine ⟨?_, ih (fun atEnd => ends (atEnd.trans after))
        (fun within => inside (within.trans after.isInfix))⟩
      rintro rfl
      -- What follows an empty component is either nothing or another underscore.
      cases later with
      | nil => exact ends ⟨first, by simp⟩
      | cons third later =>
          refine inside ⟨first, ['_'].intercalate (third :: later), ?_⟩
          rw [List.intercalate_cons_cons]
          simp

/-- A name is made of its components, which hold no underscore and of which only the first
may be empty. They are the parts at which the list library splits it.
-/
theorem IsParted.exists_components {name : String} (parted : IsParted name)
    : ∃ first others,
        partsAt '_' name = String.ofList first :: others.map String.ofList
        ∧ name.toList = ['_'].intercalate (first :: others)
        ∧ (∀ part ∈ first :: others, '_' ∉ part ∧ ∀ c ∈ part, isWordPart c = true)
        ∧ ∀ part ∈ others, part ≠ [] := by
  obtain ⟨first, others, split⟩ :=
    List.exists_cons_of_ne_nil (List.splitOn_ne_nil '_' name.toList)
  have whole : name.toList = ['_'].intercalate (first :: others) := by
    rw [← split, List.intercalate_splitOn]
  refine ⟨first, others, ?_, whole, ?_, ?_⟩
  · rw [partsAt, splitAt_eq_splitOn, split, List.map_cons]
  · intro part member
    have inParts : part ∈ splitAt '_' name.toList := by
      rw [splitAt_eq_splitOn, split]
      exact member
    refine ⟨not_mem_of_mem_splitAt inParts, fun c inPart => parted.characters c ?_⟩
    rw [whole]
    exact mem_intercalate member inPart
  · exact ne_nil_of_mem_components (whole ▸ parted.end_filled) (whole ▸ parted.inside_filled)

-----------------------------------------------------------------------------------------
-- Their camel case
-----------------------------------------------------------------------------------------

/-- A part without underscores is converted to itself, and what follows it as if it stood
alone. Induction on the part.
-/
theorem camelChars_append (free : '_' ∉ part)
    : camelChars (part ++ rest) = part ++ camelChars rest := by
  induction part with
  | nil => rfl
  | cons c later ih =>
      rw [List.mem_cons, not_or] at free
      rw [List.cons_append, camelChars_cons (Ne.symm free.1), ih free.2, List.cons_append]

/-- Each underscore goes, and the start of the component behind it becomes a capital.
Witness: induction on the components; without its first character the next one is the
first of those that remain.
-/
theorem camelChars_intercalate
    (parts : ∀ part ∈ first :: others, '_' ∉ part ∧ ∀ c ∈ part, isWordPart c = true)
    (filled : ∀ part ∈ others, part ≠ [])
    : camelChars (['_'].intercalate (first :: others))
      = first ++ others.flatMap capitalizedChars := by
  induction others generalizing first with
  | nil =>
      have plain : camelChars (first ++ []) = first ++ camelChars [] :=
        camelChars_append (parts first (by simp)).1
      simpa [camelChars] using plain
  | cons next later ih =>
      obtain ⟨c, behind, rfl⟩ := List.exists_cons_of_ne_nil (filled next (by simp))
      simp only [List.forall_mem_cons] at parts filled
      obtain ⟨⟨free, -⟩, ⟨freeNext, wordStart, word⟩, parts⟩ := parts
      -- Once its first character is gone, the next component is the first of those that remain.
      have remaining := ih
        (List.forall_mem_cons.mpr ⟨⟨fun inBehind => freeNext (.tail _ inBehind), word⟩, parts⟩)
        filled.2
      calc camelChars (['_'].intercalate (first :: (c :: behind) :: later))
          = camelChars (first ++ '_' :: c :: ['_'].intercalate (behind :: later)) := by
            rw [List.intercalate_cons_cons, List.append_assoc]
            cases later <;> rfl
        _ = first ++ c.toUpper :: camelChars (['_'].intercalate (behind :: later)) := by
            rw [camelChars_append free, camelChars_underscore_cons wordStart]
        _ = first ++ ((c :: behind) :: later).flatMap capitalizedChars := by
            rw [remaining]
            rfl

/-- No capital is an underscore, unless the character is one itself. Every character of
identifiers is tried.
-/
theorem toUpper_ne_underscore
    : ∀ c : Char, isWordPart c = true → c ≠ '_' → c.toUpper ≠ '_' :=
  forall_isWordPart (by decide +kernel)

/-- Capitalising a part without underscores brings in none, as the capital of a character
of names is an underscore only if the character is.
-/
theorem underscore_not_mem_capitalizedChars
    (word : '_' ∉ part ∧ ∀ c ∈ part, isWordPart c = true)
    : '_' ∉ capitalizedChars part := by
  cases part with
  | nil => exact List.not_mem_nil
  | cons c rest =>
      obtain ⟨free, word⟩ := word
      rw [List.mem_cons, not_or] at free
      rw [capitalizedChars, List.mem_cons, not_or]
      exact ⟨(toUpper_ne_underscore c (word c (by simp)) (Ne.symm free.1)).symm, free.2⟩

/-- The camel case of a name of letters, digits and underscores, where none of the latter
stands at the end or next to another, is its first component followed by the other
components with a capital at the start of each, and has no underscore.
-/
theorem camelCase_joins_components (name : String) (parted : IsParted name)
    : ∃ first others,
        partsAt '_' name = first :: others
        ∧ camelCase name = String.join (first :: others.map capitalized)
        ∧ '_' ∉ (camelCase name).toList := by
  obtain ⟨first, others, components, whole, parts, filled⟩ := parted.exists_components
  have cased := camelChars_intercalate parts filled
  refine ⟨_, _, components, ?_, ?_⟩
  · rw [← String.toList_inj, camelCase, String.toList_ofList, whole, cased, String.toList_join]
    simp [capitalized, List.flatMap_map, Function.comp_def]
  · rw [camelCase, String.toList_ofList, whole, cased, List.mem_append, List.mem_flatMap, not_or]
    rw [List.forall_mem_cons] at parts
    refine ⟨parts.1.1, ?_⟩
    rintro ⟨part, member, found⟩
    exact underscore_not_mem_capitalizedChars (parts.2 part member) found

/-- Components of one letter, components of digits, and capitals inside a component. -/
theorem camelCase_joins_components_mixed
    : IsParted "a_b_2nd_userID_7"
      ∧ ∃ first others,
        partsAt '_' "a_b_2nd_userID_7" = first :: others
        ∧ camelCase "a_b_2nd_userID_7" = String.join (first :: others.map capitalized)
        ∧ '_' ∉ (camelCase "a_b_2nd_userID_7").toList :=
  have parted : IsParted "a_b_2nd_userID_7" :=
    ⟨List.all_eq_true.mp (by decide +kernel), by decide +kernel, by decide +kernel⟩
  ⟨parted, camelCase_joins_components _ parted⟩

end ProtobufTypeScript.Text
