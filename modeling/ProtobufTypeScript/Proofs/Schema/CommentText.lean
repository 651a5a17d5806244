import ProtobufTypeScript.Proofs.Target.Comments
import ProtobufTypeScript.Proofs.Text.Ends
import ProtobufTypeScript.Schema.Comment

/-!
The text that documents an element. It is made of tidy lines, so that a documentation comment with
this text, or with a name in front of it, ends where it is to end and not before.
-/

namespace ProtobufTypeScript.Schema

open Target.Layout (ClosesAtEnd IsTidy terminator docComment)
open Text
  (dropEnds_ne_nil dropEnds_subset isSpace kept_of_getLast?_dropEnds kept_of_head?_dropEnds
    occurrences splitLines trimChars)

-----------------------------------------------------------------------------------------
-- Terminators are parted
-----------------------------------------------------------------------------------------

/-- Breaking terminators does not touch the first character: a blank is put after it at
most.
-/
theorem head?_breakTerminators (text : List Char)
    : (breakTerminators text).head? = text.head? := by
  unfold breakTerminators
  split <;> rfl

theorem breakTerminators_eq_nil {text : List Char}
    : breakTerminators text = [] ↔ text = [] := by
  rw [← List.head?_eq_none_iff, head?_breakTerminators, List.head?_eq_none_iff]

/-- Breaking terminators does not touch the last character. Induction along the way
terminators are found.
-/
theorem getLast?_breakTerminators (text : List Char)
    : (breakTerminators text).getLast? = text.getLast? := by
  induction text using breakTerminators.induct with
  | case1 => rfl
  | case2 rest ih => simp [breakTerminators, List.getLast?_cons, ih]
  | case3 c rest plain ih =>
      rw [breakTerminators]
      · rw [List.getLast?_cons, List.getLast?_cons, ih]
      · exact plain

/-- Nothing but spaces is put into a text, by induction along the way terminators are
found.
-/
theorem mem_breakTerminators {text : List Char} {c : Char} (member : c ∈ breakTerminators text)
    : c ∈ text ∨ c = ' ' := by
  induction text using breakTerminators.induct with
  | case1 => cases member
  | case2 rest ih =>
      simp only [breakTerminators, List.mem_cons] at member ⊢
      rcases member with star | space | slash | later
      · exact .inl (.inl star)
      · exact .inr space
      · exact .inl (.inr (.inl slash))
      · exact (ih later).imp_left (fun inRest => .inr (.inr inRest))
  | case3 d rest plain ih =>
      rw [breakTerminators, List.mem_cons] at member
      · rcases member with here | later
        · exact .inl (List.mem_cons.mpr (.inl here))
        · exact (ih later).imp_left (List.mem_cons_of_mem _)
      · exact plain

/-- Breaking terminators brings in no line feeds, only blanks. -/
theorem feed_not_mem_breakTerminators {text : List Char} (unfed : '\n' ∉ text)
    : '\n' ∉ breakTerminators text := by
  intro member
  rcases mem_breakTerminators member with inText | space
  · exact unfed inText
  · exact absurd space (by decide)

/-- No terminator is left. Witness: induction along the way terminators are found; one
that starts at a character that was kept would have been one of the text itself.
-/
theorem occurrences_breakTerminators (text : List Char)
    : occurrences terminator (breakTerminators text) = 0 := by
  induction text using breakTerminators.induct with
  | case1 => decide
  | case2 rest ih => simp [breakTerminators, ih, List.isPrefixOf]
  | case3 c rest plain ih =>
      rw [breakTerminators]
      · -- A terminator at the front would have been one in the text itself.
        have none : terminator.isPrefixOf (c :: breakTerminators rest) = false := by
          refine Bool.eq_false_iff.mpr (fun starts => ?_)
          obtain ⟨others, whole⟩ := List.isPrefixOf_iff_prefix.mp starts
          obtain ⟨rfl, after⟩ := List.cons.inj whole
          have slash : rest.head? = some '/' := by
            rw [← head?_breakTerminators, ← after]
            rfl
          obtain ⟨others, rfl⟩ := List.head?_eq_some_iff.mp slash
          exact plain others rfl rfl
        rw [Text.occurrences_cons, ih, none]
        rfl
      · exact plain

/-- Terminators do not reach over line feeds, so that they are broken line by line.
Induction on the first line.
-/
theorem breakTerminators_append_feed (line rest : List Char)
    : breakTerminators (line ++ '\n' :: rest)
      = breakTerminators line ++ '\n' :: breakTerminators rest := by
  induction line using breakTerminators.induct with
  | case1 =>
      rw [List.nil_append, breakTerminators]
      rfl
  | case2 others ih => simp [breakTerminators, ih]
  | case3 c others plain ih =>
      rw [List.cons_append, breakTerminators, ih, breakTerminators]
      · rfl
      · exact plain
      · rintro following rfl starts
        cases others with
        | nil => cases starts
        | cons d others =>
            obtain ⟨rfl, -⟩ := List.cons.inj starts
            exact plain others rfl rfl

/-- Terminators are parted line by line, by induction on the lines and as none of them
reaches over a line feed.
-/
theorem breakTerminators_intercalate (lines : List (List Char))
    : breakTerminators (['\n'].intercalate lines)
      = ['\n'].intercalate (lines.map breakTerminators) := by
  induction lines with
  | nil => rfl
  | cons first rest ih =>
      cases rest with
      | nil => simp
      | cons second others =>
          rw [List.intercalate_cons_cons, List.append_assoc, List.singleton_append,
            breakTerminators_append_feed, ih]
          simp [List.intercalate_cons_cons]

-----------------------------------------------------------------------------------------
-- Comments made fit
-----------------------------------------------------------------------------------------

/-- The lines of a comment that has been made fit for a comment block. -/
def fitLines (comment : List Char) : List (List Char) :=
  (dropOuterEmpty ((splitLines comment).map trimChars)).map breakTerminators

/-- A sanitized comment has the lines of the comment, each trimmed and with its
terminators broken.
-/
theorem sanitize_eq (comment : String)
    : sanitize comment = String.ofList (['\n'].intercalate (fitLines comment.toList)) := by
  rw [sanitize, breakTerminators_intercalate]
  rfl

/-- Each line that is kept comes from a line of the comment. -/
theorem mem_fitLines {comment line : List Char} (member : line ∈ fitLines comment)
    : ∃ whole ∈ splitLines comment, line = breakTerminators (trimChars whole) := by
  obtain ⟨trimmed, kept, rfl⟩ := List.mem_map.mp member
  obtain ⟨whole, inLines, rfl⟩ := List.mem_map.mp (dropEnds_subset kept)
  exact ⟨whole, inLines, rfl⟩

/-- A comment that is not blank is made into tidy lines: a line with something solid in it
is left, and the empty ones around it are dropped.
-/
theorem isTidy_fitLines {comment : String} (proper : Text.isBlank comment = false)
    : IsTidy (fitLines comment.toList) := by
  obtain ⟨c, member, solid⟩ : ∃ c ∈ comment.toList, isSpace c = false := by
    simpa [Text.isBlank] using proper
  obtain ⟨line, inLines, inLine⟩ := Text.exists_line_of_mem member solid
  have some : dropOuterEmpty ((splitLines comment.toList).map trimChars) ≠ [] := by
    refine dropEnds_ne_nil (List.mem_map_of_mem inLines) ?_
    rw [List.isEmpty_eq_false_iff]
    exact dropEnds_ne_nil inLine solid
  constructor
  · intro line member
    obtain ⟨whole, inLines, rfl⟩ := mem_fitLines member
    refine feed_not_mem_breakTerminators (fun inTrimmed => ?_)
    exact Text.feed_not_mem_of_mem_splitLines whole inLines (dropEnds_subset inTrimmed)
  · intro line member
    obtain ⟨whole, -, rfl⟩ := mem_fitLines member
    exact occurrences_breakTerminators _
  · intro line member
    obtain ⟨whole, -, rfl⟩ := mem_fitLines member
    rw [getLast?_breakTerminators]
    exact kept_of_getLast?_dropEnds
  · rw [fitLines, List.head?_map]
    obtain ⟨first, found⟩ := Option.ne_none_iff_exists'.mp (mt List.head?_eq_none_iff.mp some)
    refine ⟨breakTerminators first, by rw [found]; rfl, mt breakTerminators_eq_nil.mp ?_⟩
    exact List.isEmpty_eq_false_iff.mp (kept_of_head?_dropEnds first found)
  · rw [fitLines, List.getLast?_map]
    obtain ⟨last, found⟩ := Option.ne_none_iff_exists'.mp (mt List.getLast?_eq_none_iff.mp some)
    refine ⟨breakTerminators last, by rw [found]; rfl, mt breakTerminators_eq_nil.mp ?_⟩
    exact List.isEmpty_eq_false_iff.mp (kept_of_getLast?_dropEnds last found)

-----------------------------------------------------------------------------------------
-- The text that documents an element
-----------------------------------------------------------------------------------------

namespace Description

variable {description : Description} {text : String}

/-- There is no documentation exactly if neither comment has anything but blanks. A
comment that is blank gives way to the other one.
-/
theorem text_eq_none
    : description.text = none
      ↔ ∀ comment ∈ description.leading.toList ++ description.trailing.toList,
          Text.isBlank comment = true := by
  obtain ⟨leading, trailing⟩ := description
  simp only [Description.text, Option.map_eq_none_iff, Option.or_eq_none_iff,
    Option.filter_eq_none_iff, List.mem_append, Option.mem_toList, or_imp, forall_and]
  simp

/-- A text that documents an element is a comment that is not blank, made fit. -/
theorem exists_comment (found : description.text = some text)
    : ∃ comment, Text.isBlank comment = false ∧ text = sanitize comment := by
  obtain ⟨comment, chosen, rfl⟩ := Option.map_eq_some_iff.mp found
  refine ⟨comment, ?_, rfl⟩
  rcases Option.or_eq_some_iff.mp chosen with leading | ⟨-, trailing⟩
  · simpa using (Option.filter_eq_some_iff.mp leading).2
  · simpa using (Option.filter_eq_some_iff.mp trailing).2

/-- An element has no text exactly if its comments are blank or missing. A documentation
comment with its text is closed by its end and not before, whatever its depth; so is one
that has a name in front of the text.
-/
theorem doc_comments_close_at_end (description : Description)
    : (description.text = none
        ↔ ∀ comment ∈ description.leading.toList ++ description.trailing.toList,
            ∀ c ∈ comment.toList, isSpace c = true)
      ∧ ∀ text,
          description.text = some text
          → ∀ depth,
              ClosesAtEnd depth (docComment depth text)
              ∧ ∀ name : String,
                  '\n' ∉ name.toList
                  → occurrences terminator name.toList = 0
                  → ClosesAtEnd depth (docComment depth (name ++ " - " ++ text)) := by
  constructor
  · rw [text_eq_none]
    simp only [Text.isBlank, List.all_eq_true]
  · intro text found depth
    obtain ⟨comment, proper, rfl⟩ := exists_comment found
    have tidy := isTidy_fitLines proper
    rw [sanitize_eq]
    refine ⟨tidy.closesAtEnd depth, fun name unfed harmless => ?_⟩
    generalize fitLines comment.toList = lines at tidy ⊢
    cases lines with
    | nil => simpa using tidy.first
    | cons first rest =>
        have joined
            : name ++ " - " ++ String.ofList (['\n'].intercalate (first :: rest))
              = String.ofList
                  (['\n'].intercalate ((name.toList ++ " - ".toList ++ first) :: rest)) := by
          rw [← Text.append_intercalate, ← String.toList_inj]
          simp
        rw [joined]
        exact (tidy.named unfed harmless).closesAtEnd depth

/-- A comment of several lines with terminators in it, for a member of an enum. -/
theorem doc_comments_close_at_end_parted
    : let description : Description :=
        { leading := some "\r\n  Warm **/ */\n\n\t/colour*\n ", trailing := some " " }
      let text := "Warm ** / * /\n\n/colour*"
      description.text = some text
      ∧ '\n' ∉ "RED".toList
      ∧ occurrences terminator "RED".toList = 0
      ∧ ClosesAtEnd 2 (docComment 2 text)
      ∧ ClosesAtEnd 2 (docComment 2 ("RED" ++ " - " ++ text)) := by
  intro description text
  have found : description.text = some text := by decide +kernel
  have unfed : '\n' ∉ "RED".toList := by decide
  have harmless : occurrences terminator "RED".toList = 0 := by decide
  have ends := (doc_comments_close_at_end description).2 text found 2
  exact ⟨found, unfed, harmless, ends.1, ends.2 "RED" unfed harmless⟩

end Description

end ProtobufTypeScript.Schema
