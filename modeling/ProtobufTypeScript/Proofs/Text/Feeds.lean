import ProtobufTypeScript.Proofs.Schema.Declared
import ProtobufTypeScript.Proofs.Text.Lines
import ProtobufTypeScript.Text.Blank

/-!
Lines that are put together to a text with line feeds between them or behind them, and the lines
that are read from a text. What is read back is what was put together, unless a line has a feed of
its own or ends in a part of a line end.
-/

namespace ProtobufTypeScript.Text

variable {line rest text : List Char} {lines : List (List Char)}

-----------------------------------------------------------------------------------------
-- Lines of a text
-----------------------------------------------------------------------------------------

/-- No line of a text holds a line feed. Induction along the way the text is split. -/
theorem feed_not_mem_of_mem_splitLines
    : ∀ line ∈ splitLines text, '\n' ∉ line := by
  induction text using splitLines.induct with
  | case1 => simp [splitLines]
  | case2 rest ih =>
      rw [splitLines]
      exact List.forall_mem_cons.mpr ⟨List.not_mem_nil, ih⟩
  | case3 rest ih =>
      rw [splitLines]
      exact List.forall_mem_cons.mpr ⟨List.not_mem_nil, ih⟩
  | case4 c rest feed pair none ih =>
      rw [splitLines, none]
      · exact List.forall_mem_singleton.mpr (by simpa using Ne.symm feed)
      · exact feed
      · exact pair
  | case5 c rest feed pair line others some ih =>
      rw [some, List.forall_mem_cons] at ih
      rw [splitLines, some]
      · refine List.forall_mem_cons.mpr ⟨?_, ih.2⟩
        simpa using ⟨Ne.symm feed, ih.1⟩
      · exact feed
      · exact pair

/-- What is not white space is in some line. -/
theorem exists_line_of_mem {c : Char} (member : c ∈ text) (solid : isSpace c = false)
    : ∃ line ∈ splitLines text, c ∈ line := by
  have feed : c ≠ '\n' := by
    rintro rfl
    exact absurd solid (by decide)
  have carriage : c ≠ '\r' := by
    rintro rfl
    exact absurd solid (by decide)
  induction text using splitLines.induct with
  | case1 => cases member
  | case2 rest ih =>
      rw [splitLines]
      obtain ⟨line, inLines, inLine⟩ := ih ((List.mem_cons.mp member).resolve_left feed)
      exact ⟨line, List.mem_cons_of_mem _ inLines, inLine⟩
  | case3 rest ih =>
      rw [splitLines]
      have later : c ∈ rest := by simpa [feed, carriage] using member
      obtain ⟨line, inLines, inLine⟩ := ih later
      exact ⟨line, List.mem_cons_of_mem _ inLines, inLine⟩
  | case4 d rest unfed pair none ih =>
      rw [splitLines, none]
      · rcases List.mem_cons.mp member with rfl | later
        · exact ⟨[c], List.mem_cons_self, List.mem_cons_self⟩
        · simpa [none] using ih later
      · exact unfed
      · exact pair
  | case5 d rest unfed pair first others some ih =>
      rw [splitLines, some]
      · rcases List.mem_cons.mp member with rfl | later
        · exact ⟨c :: first, List.mem_cons_self, List.mem_cons_self⟩
        · obtain ⟨line, inLines, inLine⟩ := ih later
          rw [some] at inLines
          rcases List.mem_cons.mp inLines with rfl | inOthers
          · exact ⟨d :: line, List.mem_cons_self, List.mem_cons_of_mem _ inLine⟩
          · exact ⟨line, List.mem_cons_of_mem _ inOthers, inLine⟩
      · exact unfed
      · exact pair

-----------------------------------------------------------------------------------------
-- Feeds between lines
-----------------------------------------------------------------------------------------

/-- A line ends at the first line feed after it, which must not be part of a longer
ending. Induction on the characters of the line.
-/
theorem splitLines_append_feed (unfed : '\n' ∉ line) (whole : line.getLast? ≠ some '\r')
    : splitLines (line ++ '\n' :: rest) = line :: splitLines rest := by
  induction line with
  | nil => rfl
  | cons c others ih =>
      rw [List.mem_cons, not_or] at unfed
      have later : others.getLast? ≠ some '\r' := by
        intro last
        exact whole (by simp [List.getLast?_cons, last])
      rw [List.cons_append, splitLines, ih unfed.2 later]
      · exact Ne.symm unfed.1
      · rintro following rfl starts
        cases others with
        | nil => exact whole rfl
        | cons d others =>
            rw [List.cons_append] at starts
            exact unfed.2 ((List.cons.inj starts).1 ▸ List.mem_cons_self)

/-- Text without line feeds is a single line, if there is any text. Induction on its
characters.
-/
theorem splitLines_of_not_mem (unfed : '\n' ∉ line) (some : line ≠ [])
    : splitLines line = [line] := by
  induction line with
  | nil => exact absurd rfl some
  | cons c others ih =>
      rw [List.mem_cons, not_or] at unfed
      rw [splitLines]
      · cases others with
        | nil => rfl
        | cons d others => rw [ih unfed.2 (List.cons_ne_nil _ _)]
      · exact Ne.symm unfed.1
      · rintro following rfl rfl
        exact unfed.2 List.mem_cons_self

/-- Lines with feeds between them are read back, if the last one is not empty. -/
theorem splitLines_intercalate (unfed : ∀ line ∈ lines, '\n' ∉ line)
    (whole : ∀ line ∈ lines, line.getLast? ≠ some '\r') (last : lines.getLast? ≠ some [])
    : splitLines (['\n'].intercalate lines) = lines := by
  induction lines with
  | nil => rfl
  | cons first others ih =>
      rw [List.forall_mem_cons] at unfed whole
      cases others with
      | nil =>
          have some : first ≠ [] := by simpa using last
          simpa using splitLines_of_not_mem unfed.1 some
      | cons second others =>
          rw [List.intercalate_cons_cons, List.append_assoc, List.singleton_append,
            splitLines_append_feed unfed.1 whole.1, ih unfed.2 whole.2 (by simpa using last)]

/-- What stands before lines is a part of the first one. -/
theorem append_intercalate (start : List Char) {line : List Char} {others : List (List Char)}
    : start ++ ['\n'].intercalate (line :: others)
      = ['\n'].intercalate ((start ++ line) :: others) := by
  cases others <;> simp [List.intercalate_cons_cons]

-----------------------------------------------------------------------------------------
-- Feeds behind lines
-----------------------------------------------------------------------------------------

/-- Lines with a feed behind each of them are the parts at the feeds, after which there is
nothing more.
-/
theorem partsAt_join_feeds {lines : List String} (unfed : ∀ line ∈ lines, '\n' ∉ line.toList)
    : partsAt '\n' (String.join (lines.map (· ++ "\n"))) = lines ++ [""] := by
  have joined := Schema.intercalate_concat "\n" lines ""
  rw [String.append_empty] at joined
  rw [← joined]
  refine partsAt_intercalate (by decide) (by simp) ?_
  exact List.forall_mem_append.mpr ⟨unfed, by simp⟩

end ProtobufTypeScript.Text
