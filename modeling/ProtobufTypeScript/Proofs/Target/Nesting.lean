import ProtobufTypeScript.Proofs.Target.Comments
import ProtobufTypeScript.Proofs.Target.Export
import ProtobufTypeScript.Proofs.Target.Levels

/-!
Nested code. Lines that start one level deeper are written as they are at their own level, moved to
the right by two spaces, where only empty lines stay as they are. A braced part is therefore its
header, the moved text of what stands inside, and a closing brace.
-/

namespace ProtobufTypeScript.Target

namespace Layout

variable {lines : List (Line String)}

/-- A line moved to the right by one level; an empty one stays empty. -/
def shiftLine (line : String) : String :=
  if line.isEmpty then line else "  " ++ line

/-- A text with each of its lines moved to the right by one level. -/
def shift (text : String) : String :=
  "\n".intercalate ((Text.partsAt '\n' text).map shiftLine)

-----------------------------------------------------------------------------------------
-- The lines that are written
-----------------------------------------------------------------------------------------

/-- The lines that a step writes at a depth. -/
def stepLines (depth : Nat) : Line String → List String
  | .text content => [if Text.isBlank content then "" else indentation depth ++ content]
  | .doc comment => docLines depth (Text.lines comment)
  | .remark comment => remarkLines depth (Text.lines comment)
  | .blank => [""]
  | .indent => []
  | .dedent => []

/-- The lines that steps write, of which the first one stands at the given depth. -/
def writtenLines : Nat → List (Line String) → List String
  | _, [] => []
  | depth, line :: rest => stepLines depth line ++ writtenLines (line.depthAfter depth) rest

/-- A step writes its lines with a feed behind each of them. -/
theorem writeStep_eq_join (depth : Nat) (line : Line String)
    : writeStep depth line = String.join ((stepLines depth line).map (· ++ "\n")) := by
  cases line with
  | text content =>
      rw [writeStep, textLine, stepLines]
      split <;> simp
  | doc comment => exact docComment_eq_join depth comment
  | remark comment => exact lineComment_eq_join depth comment
  | blank => rfl
  | indent => rfl
  | dedent => rfl

/-- What steps write is their lines, each with a line feed. Induction on the steps, with
the depth before each.
-/
theorem join_writeSteps (depth : Nat) (lines : List (Line String))
    : String.join (writeSteps depth lines)
      = String.join ((writtenLines depth lines).map (· ++ "\n")) := by
  induction lines generalizing depth with
  | nil => rfl
  | cons line rest ih =>
      rw [writeSteps, String.join_cons, ih, writeStep_eq_join, writtenLines, List.map_append,
        String.join_append]

-----------------------------------------------------------------------------------------
-- Feeds
-----------------------------------------------------------------------------------------

/-- Indentation brings in no line feeds. -/
theorem unfed_indentation_append (depth : Nat) {content : String} (unfed : '\n' ∉ content.toList)
    : '\n' ∉ (indentation depth ++ content).toList := by
  rw [String.toList_append, indentation, String.toList_ofList, List.mem_append, not_or]
  exact ⟨fun member => absurd (List.eq_of_mem_replicate member) (by decide), unfed⟩

/-- Comments are read line by line, so that only a text can bring a feed into a line. -/
theorem unfed_of_mem_stepLines (depth : Nat) {step : Line String}
    (unfed : ∀ content, step = .text content → '\n' ∉ content.toList)
    : ∀ line ∈ stepLines depth step, '\n' ∉ line.toList := by
  have inComment (comment : String) : ∀ line ∈ Text.lines comment, '\n' ∉ line.toList := by
    refine List.forall_mem_map.mpr (fun line member => ?_)
    rw [String.toList_ofList]
    exact Text.feed_not_mem_of_mem_splitLines line member
  cases step with
  | text content =>
      refine List.forall_mem_singleton.mpr ?_
      split
      · exact List.not_mem_nil
      · exact unfed_indentation_append depth (unfed content rfl)
  | doc comment =>
      have plain := inComment comment
      rw [stepLines]
      generalize Text.lines comment = lines at plain
      rcases lines with _ | ⟨first, _ | ⟨second, others⟩⟩
      · exact List.forall_mem_nil _
      · refine List.forall_mem_singleton.mpr (unfed_indentation_append depth ?_)
        simpa using plain first List.mem_cons_self
      · refine List.forall_mem_append.mpr ⟨List.forall_mem_append.mpr ⟨?_, ?_⟩, ?_⟩
        · exact List.forall_mem_singleton.mpr (unfed_indentation_append depth (by decide))
        · refine List.forall_mem_map.mpr (fun line member => unfed_indentation_append depth ?_)
          split
          · decide
          · simpa using plain line member
        · exact List.forall_mem_singleton.mpr (unfed_indentation_append depth (by decide))
  | remark comment =>
      refine List.forall_mem_map.mpr (fun line member => unfed_indentation_append depth ?_)
      split
      · decide
      · simpa using inComment comment line member
  | blank => exact List.forall_mem_singleton.mpr List.not_mem_nil
  | indent => exact List.forall_mem_nil _
  | dedent => exact List.forall_mem_nil _

/-- No line that is written has a feed of its own, if none of the texts has one. -/
theorem unfed_of_mem_writtenLines (depth : Nat)
    (unfed : ∀ content, .text content ∈ lines → '\n' ∉ content.toList)
    : ∀ line ∈ writtenLines depth lines, '\n' ∉ line.toList := by
  induction lines generalizing depth with
  | nil => exact List.forall_mem_nil _
  | cons line rest ih =>
      rw [writtenLines, List.forall_mem_append]
      constructor
      · apply unfed_of_mem_stepLines
        rintro content rfl
        exact unfed content List.mem_cons_self
      · exact ih _ (fun content member => unfed content (List.mem_cons_of_mem _ member))

-----------------------------------------------------------------------------------------
-- One level deeper
-----------------------------------------------------------------------------------------

/-- A line one level further down is the line shifted by two blanks. -/
theorem shiftLine_indentation (depth : Nat) {content : String} (filled : content ≠ "")
    : shiftLine (indentation depth ++ content) = indentation (depth + 1) ++ content := by
  have deeper : indentation (depth + 1) = "  " ++ indentation depth := by
    rw [← String.toList_inj]
    simp [indentation, Nat.mul_add, List.replicate_succ]
  rw [shiftLine, if_neg (by simp [filled]), deeper, String.append_assoc]

/-- A step that stands one level deeper writes its lines moved to the right. An empty text
is not moved, and a comment is moved line by line.
-/
theorem stepLines_succ (depth : Nat) (line : Line String)
    : stepLines (depth + 1) line = (stepLines depth line).map shiftLine := by
  cases line with
  | text content =>
      rw [stepLines, stepLines, List.map_singleton]
      split
      · rfl
      · rename_i solid
        have filled : content ≠ "" := by
          rintro rfl
          exact solid rfl
        rw [shiftLine_indentation depth filled]
  | doc comment =>
      rw [stepLines, stepLines]
      rcases Text.lines comment with _ | ⟨first, _ | ⟨second, others⟩⟩
      · rfl
      · simp [docLines, shiftLine_indentation]
      · have marked (line : String) : (if line = "" then " *" else " * " ++ line) ≠ "" := by
          split
          · decide
          · simp
        simp [docLines, shiftLine_indentation, marked]
  | remark comment =>
      rw [stepLines, stepLines, remarkLines, remarkLines, List.map_map]
      refine List.map_congr_left (fun line _ => (shiftLine_indentation depth ?_).symm)
      split
      · decide
      · simp
  | blank => rfl
  | indent => rfl
  | dedent => rfl

/-- Lines that start one level deeper are written moved to the right, if they never go up
so far that the depth is cut off at zero.
-/
theorem writtenLines_succ (depth : Nat)
    (above : ∀ count, dedents (lines.take count) ≤ depth + indents (lines.take count))
    : writtenLines (depth + 1) lines = (writtenLines depth lines).map shiftLine := by
  induction lines generalizing depth with
  | nil => rfl
  | cons line rest ih =>
      have deeper : line.depthAfter (depth + 1) = line.depthAfter depth + 1 := by
        have here := above 1
        cases line <;> simp [Line.isIndent, Line.isDedent, Line.depthAfter] at here ⊢
        omega
      rw [writtenLines, writtenLines, stepLines_succ, deeper, ih _ (above_of_cons above),
        List.map_append]

/-- Lines with a feed behind each of them are moved one by one. -/
theorem shift_join {texts : List String} (unfed : ∀ text ∈ texts, '\n' ∉ text.toList)
    : shift (String.join (texts.map (· ++ "\n")))
      = String.join ((texts.map shiftLine).map (· ++ "\n")) := by
  rw [shift, Text.partsAt_join_feeds unfed, List.map_append, List.map_singleton,
    Schema.intercalate_concat]
  exact String.append_empty

/-- Level lines are written one level deeper as they are at depth zero, but moved to the
right.
-/
theorem join_writeSteps_one (level : IsLevel lines)
    (unfed : ∀ content, .text content ∈ lines → '\n' ∉ content.toList)
    : String.join (writeSteps 1 lines) = shift (write lines) := by
  rw [write, join_writeSteps, join_writeSteps, shift_join (unfed_of_mem_writtenLines 0 unfed),
    ← writtenLines_succ 0 (fun count => Nat.le_add_left_of_le (level.above count))]

end Layout

-----------------------------------------------------------------------------------------
-- Blocks
-----------------------------------------------------------------------------------------

namespace Block

open Layout

variable {block : Block}

/-- Under their own names symbols bring no feed into a text, as resolving adds no
characters to it.
-/
theorem unfed_named (unfed : ∀ text, .text text ∈ block → '\n' ∉ Snippet.written text)
    : ∀ content, .text content ∈ block.named Symbol.name → '\n' ∉ content.toList := by
  intro content member
  obtain ⟨line, inBlock, same⟩ := List.mem_map.mp member
  cases line with
  | text text =>
      cases same
      rw [Snippet.text, String.toList_ofList]
      exact fun feed => unfed text inBlock (resolve_name_subset _ feed)
  | doc comment => cases same
  | remark comment => cases same
  | blank => cases same
  | indent => cases same
  | dedent => cases same

/-- The lines of a braced part: those of its inside between a line that opens it and one
that closes it.
-/
theorem named_braced (names : Symbol → String) {header : String} (free : MarkFree header.toList)
    : (opening [.plain header] ++ block ++ closing).named names
      = [.text (header ++ " \x7b"), .indent] ++ block.named names ++ [.dedent, .text "\x7d"] := by
  have plain : MarkFree (Snippet.written ([.plain header] ++ [.plain " \x7b"])) := by
    have brace : MarkFree " \x7b".toList := by decide
    simpa [Snippet.written] using MarkFree.append_iff.mpr ⟨free, brace⟩
  have first : Snippet.text names ([.plain header] ++ [.plain " \x7b"]) = header ++ " \x7b" := by
    rw [Snippet.text_of_markFree names plain, ← String.toList_inj]
    simp [Snippet.written]
  rw [named, List.map_append, List.map_append, ← first]
  rfl

/-- A braced part is written as its header, its inside moved to the right, and a closing
brace. The inside is level, so that the brace is as deep as the header.
-/
theorem render_braced (level : IsLevel block)
    (unfed : ∀ text, .text text ∈ block → '\n' ∉ Snippet.written text) {header : String}
    (free : MarkFree header.toList)
    : (opening [.plain header] ++ block ++ closing).render
      = header ++ " \x7b\n" ++ shift block.render ++ "\x7d\n" := by
  have inside : IsLevel (block.named Symbol.name) := level.map _
  have after : depthFrom 1 (block.named Symbol.name) = 1 := inside.depthFrom_eq 1
  have opened
      : String.join (writeSteps 0 [.text (header ++ " \x7b"), .indent]) = header ++ " \x7b\n" := by
    have line : textLine 0 (header ++ " \x7b") = indentation 0 ++ (header ++ " \x7b") ++ "\n" :=
      textLine_of_mem (c := '\x7b') (by simp) (by decide)
    simp [writeSteps, writeStep, line, indentation, String.append_assoc]
  have closed : String.join (writeSteps 1 [.dedent, .text "\x7d"]) = "\x7d\n" := by decide
  calc (opening [.plain header] ++ block ++ closing).render
      = String.join (writeSteps 0 [.text (header ++ " \x7b"), .indent])
          ++ String.join (writeSteps 1 (block.named Symbol.name))
          ++ String.join (writeSteps 1 [.dedent, .text "\x7d"]) := by
        rw [render, named_braced _ free, write, List.append_assoc, writeSteps_append,
          writeSteps_append, String.join_append, String.join_append, String.append_assoc]
        change _ ++ (_ ++ String.join (writeSteps (depthFrom 1 _) _)) = _
        rw [after]
        rfl
    _ = header ++ " \x7b\n" ++ shift block.render ++ "\x7d\n" := by
        rw [opened, closed, join_writeSteps_one inside (unfed_named unfed)]
        rfl

/-- Blocks that follow one another are written each for itself, if the first one ends
where it starts, and a level block in braces is written as it is alone, moved to the
right.
-/
theorem nesting_only_indents (first second : Block)
    : (depthFrom 0 first = 0 → (first ++ second).render = first.render ++ second.render)
      ∧ (IsLevel second
        → (∀ text, .text text ∈ second → '\n' ∉ Snippet.written text)
        → ∀ header,
            MarkFree header.toList
            → (opening [.plain header] ++ second ++ closing).render
              = header ++ " \x7b\n" ++ shift second.render ++ "\x7d\n") := by
  constructor
  · intro ended
    rw [render, named, List.map_append]
    refine write_append_of_depthFrom ?_ _
    rw [depthFrom_map, ended]
  · intro level unfed header free
    exact render_braced level unfed free

/-- Code after an end too many, and a loop around a branch with a comment of several lines
and an empty line inside.
-/
theorem nesting_only_indents_branch
    : let first : Block := .dedent :: Block.statement [.plain "start()"]
      let inner : Block :=
        Block.doc (some "One.\n\nTwo.") ++ (.blank :: Block.line [.plain "two();"])
      let second : Block := Block.opening [.plain "if (a)"] ++ inner ++ Block.closing
      depthFrom 0 first = 0
      ∧ IsLevel second
      ∧ (∀ text, .text text ∈ second → '\n' ∉ Snippet.written text)
      ∧ MarkFree "for (;;)".toList
      ∧ (first ++ second).render = first.render ++ second.render
      ∧ second.render
        = "if (a) \x7b\n  /**\n   * One.\n   *\n   * Two.\n   */\n\n  two();\n\x7d\n"
      ∧ (Block.opening [.plain "for (;;)"] ++ second ++ Block.closing).render
        = "for (;;) \x7b\n  if (a) \x7b\n    /**\n     * One.\n     *\n     * Two.\n     */\n\n"
          ++ "    two();\n  \x7d\n\x7d\n" := by
  intro first inner second
  have ended : depthFrom 0 first = 0 := rfl
  have within : IsLevel inner := (isLevel_doc _).append (isLevel_blank.append (isLevel_line _))
  have level : IsLevel second := isLevel_opening _ within (isEnding_closingWith [])
  have unfed : ∀ text, .text text ∈ second → '\n' ∉ Snippet.written text := by
    intro text member
    simp [second, inner, opening, closing, closingWith, doc, line] at member
    rcases member with rfl | rfl | rfl <;> decide
  have free : MarkFree "for (;;)".toList := by decide
  obtain ⟨follows, braced⟩ := nesting_only_indents first second
  have written
      : second.render
        = "if (a) \x7b\n  /**\n   * One.\n   *\n   * Two.\n   */\n\n  two();\n\x7d\n" := by
    decide +kernel
  refine ⟨ended, level, unfed, free, follows ended, written, ?_⟩
  rw [braced level unfed _ free, written]
  decide +kernel

end Block

end ProtobufTypeScript.Target
