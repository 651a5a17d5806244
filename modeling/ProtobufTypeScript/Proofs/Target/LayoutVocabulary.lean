import ProtobufTypeScript.Proofs.Schema.Vocabulary
import ProtobufTypeScript.Target.Layout

/-!
The vocabulary of written lines: the layout adds indentation and comment signs to the texts of the
lines, and nothing else.
-/

namespace ProtobufTypeScript.Target.Vocabulary

variable {words : Vocabulary}

/-- The text of a step of the layout is within a vocabulary. -/
def SpellsLine (words : Vocabulary) : Line String → Prop
  | .text content => words.Spells content
  | .doc comment => words.Spells comment
  | .remark comment => words.Spells comment
  | .blank => True
  | .indent => True
  | .dedent => True

theorem spells_feed
    : words.Spells "\n" :=
  spells_of_isAscii (by decide)

/-- A line is within a vocabulary that has its text: indentation and line feeds are ASCII.
-/
theorem spells_textLine (depth : Nat) {text : String} (spelled : words.Spells text)
    : words.Spells (Layout.textLine depth text) := by
  unfold Layout.textLine
  split
  · exact spells_feed
  · have indentation : words.Spells (Layout.indentation depth) := by
      intro c member
      rw [Layout.indentation, String.toList_ofList] at member
      exact List.eq_of_mem_replicate member ▸ words.ascii ' ' (by decide)
    exact spells_append.mpr ⟨spells_append.mpr ⟨indentation, spelled⟩, spells_feed⟩

theorem spells_lines {text : String} (spelled : words.Spells text)
    : ∀ line ∈ Text.lines text, words.Spells line :=
  words.alphabet.spells_lines spelled

/-- A documentation comment is within a vocabulary that has its text, since all that is
put around its lines is plain.
-/
theorem spells_docComment (depth : Nat) {comment : String} (spelled : words.Spells comment)
    : words.Spells (Layout.docComment depth comment) := by
  have lines := spells_lines spelled
  unfold Layout.docComment
  split
  · exact spells_of_isAscii (by decide)
  · rename_i single only
    have content : words.Spells single := lines single (only ▸ List.mem_cons_self)
    exact spells_textLine depth (by simp (disch := decide) [spells_of_isAscii, content])
  · have opening : words.Spells "/**" := spells_of_isAscii (by decide)
    have closing : words.Spells " */" := spells_of_isAscii (by decide)
    have inner
        : ∀ line ∈ (Text.lines comment).map (Layout.docLine depth), words.Spells line := by
      refine List.forall_mem_map.mpr ?_
      intro line member
      refine spells_textLine depth ?_
      split
      · exact spells_of_isAscii (by decide)
      · exact spells_append.mpr ⟨spells_of_isAscii (by decide), lines line member⟩
    exact spells_append.mpr
      ⟨spells_append.mpr ⟨spells_textLine depth opening, spells_join.mpr inner⟩,
        spells_textLine depth closing⟩

/-- Line comments are within a vocabulary that has their text. -/
theorem spells_lineComment (depth : Nat) {comment : String} (spelled : words.Spells comment)
    : words.Spells (Layout.lineComment depth comment) := by
  refine spells_join.mpr (List.forall_mem_map.mpr ?_)
  intro line member
  refine spells_textLine depth ?_
  split
  · exact spells_of_isAscii (by decide)
  · exact spells_append.mpr
      ⟨spells_of_isAscii (by decide), spells_lines spelled line member⟩

/-- What a step writes is within a vocabulary that has the step. -/
theorem spells_writeStep (depth : Nat) {line : Line String} (spelled : words.SpellsLine line)
    : words.Spells (Layout.writeStep depth line) := by
  cases line with
  | text content => exact spells_textLine depth spelled
  | doc comment => exact spells_docComment depth spelled
  | remark comment => exact spells_lineComment depth spelled
  | blank => exact spells_feed
  | indent => exact spells_of_isAscii (show isAscii "" = true by decide)
  | dedent => exact spells_of_isAscii (show isAscii "" = true by decide)

/-- Written lines are within their vocabulary, by induction on the lines with the depth
generalised.
-/
theorem spells_write {lines : List (Line String)} (spelled : ∀ line ∈ lines, words.SpellsLine line)
    : words.Spells (Layout.write lines) := by
  have steps
      : ∀ depth, ∀ text ∈ Layout.writeSteps depth lines, words.Spells text := by
    induction lines with
    | nil => simp [Layout.writeSteps]
    | cons line rest ih =>
        rw [List.forall_mem_cons] at spelled
        intro depth
        rw [Layout.writeSteps, List.forall_mem_cons]
        exact ⟨spells_writeStep depth spelled.1, ih spelled.2 _⟩
  exact spells_join.mpr (steps 0)

end ProtobufTypeScript.Target.Vocabulary
