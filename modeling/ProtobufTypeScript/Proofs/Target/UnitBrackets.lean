import ProtobufTypeScript.Proofs.Target.Levels
import ProtobufTypeScript.Proofs.Target.SyntaxBrackets
import ProtobufTypeScript.Proofs.Target.UnitVocabulary

/-!
Brackets in rendered units. The layout keeps the brackets of the lines and adds none, and resolving
puts names without brackets in the place of symbols, so that a unit is rendered with balanced
brackets if its items are balanced.
-/

namespace ProtobufTypeScript.Target

open Text (IsBalanced owedAfter)

-- The brackets of literals are computed.
attribute [local simp] Text.brackets_cons Text.isBracket Text.closingOf? Text.isClosing
  Text.readBracket Text.closeWith IsBalanced

/-- The brackets of joined texts are those of the texts, in order. -/
theorem brackets_join (texts : List String)
    : Text.brackets (String.join texts).toList
      = texts.flatMap (fun text => Text.brackets text.toList) := by
  rw [Text.brackets, String.toList_join, List.filter_flatMap]
  rfl

-----------------------------------------------------------------------------------------
-- Lines
-----------------------------------------------------------------------------------------

namespace Layout

/-- Blank texts have no brackets: each of the six is tried. -/
theorem brackets_of_isBlank {text : String} (blank : Text.isBlank text = true)
    : Text.brackets text.toList = [] := by
  refine Text.brackets_of_plain (fun c member => Bool.eq_false_iff.mpr (fun bracket => ?_))
  have space := List.all_eq_true.mp blank c member
  rcases Text.isBracket_iff.mp bracket with rfl | rfl | rfl | rfl | rfl | rfl <;>
    exact absurd space (by decide)

theorem brackets_indentation (depth : Nat)
    : Text.brackets (indentation depth).toList = [] := by
  refine Text.brackets_of_plain (fun c member => ?_)
  rw [indentation, String.toList_ofList] at member
  rw [List.eq_of_mem_replicate member]
  decide

/-- A written line has the brackets of its text. -/
@[simp] theorem brackets_textLine (depth : Nat) (text : String)
    : Text.brackets (textLine depth text).toList = Text.brackets text.toList := by
  unfold textLine
  split
  · rename_i blank
    simp [brackets_of_isBlank blank]
  · simp [brackets_indentation]

/-- Line ends are no brackets, by induction along the way a text is split. -/
theorem brackets_splitLines (text : List Char)
    : (Text.splitLines text).flatMap Text.brackets = Text.brackets text := by
  induction text using Text.splitLines.induct with
  | case1 => rfl
  | case2 rest ih =>
      rw [Text.splitLines]
      simpa using ih
  | case3 rest ih =>
      rw [Text.splitLines]
      simpa using ih
  | case4 c rest feed pair none ih =>
      rw [none] at ih
      rw [Text.splitLines, none, Text.brackets_cons c rest, ← ih]
      · simp [Text.brackets_cons c []]
      · exact feed
      · exact pair
  | case5 c rest feed pair line others some ih =>
      rw [some, List.flatMap_cons] at ih
      rw [Text.splitLines, some, List.flatMap_cons, Text.brackets_cons c rest,
        Text.brackets_cons c line, ← ih]
      · split <;> rfl
      · exact feed
      · exact pair

/-- The lines of a text have its brackets, as what parts lines is no bracket. -/
theorem brackets_lines (text : String)
    : (Text.lines text).flatMap (fun line => Text.brackets line.toList)
      = Text.brackets text.toList := by
  rw [Text.lines, List.flatMap_map, ← brackets_splitLines text.toList]
  simp only [String.toList_ofList]

/-- A written comment has the brackets of its text. What is put around its lines has none.
-/
theorem brackets_docComment (depth : Nat) (comment : String)
    : Text.brackets (docComment depth comment).toList = Text.brackets comment.toList := by
  have kept := brackets_lines comment
  unfold docComment
  split
  · rename_i none
    rw [none] at kept
    exact kept
  · rename_i single only
    rw [only] at kept
    simpa using kept
  · have inner
        : ∀ line, Text.brackets (docLine depth line).toList = Text.brackets line.toList := by
      intro line
      unfold docLine
      split <;> simp_all
    simp [-String.toList_join, brackets_join, List.flatMap_map, inner, kept]

/-- Written line comments have the brackets of their text. -/
theorem brackets_lineComment (depth : Nat) (comment : String)
    : Text.brackets (lineComment depth comment).toList = Text.brackets comment.toList := by
  rw [lineComment, brackets_join, List.flatMap_map, ← brackets_lines comment]
  refine List.flatMap_congr (fun line _ => ?_)
  split <;> simp_all [show Text.brackets "//".toList = [] by decide]

/-- The brackets in a line of the layout. -/
abbrev lineBrackets : Line String → List Char :=
  Line.brackets (fun text => Text.brackets text.toList)

/-- What a step writes has the brackets of the step. -/
theorem brackets_writeStep (depth : Nat) (line : Line String)
    : Text.brackets (writeStep depth line).toList = lineBrackets line := by
  cases line with
  | text content => exact brackets_textLine depth content
  | doc comment => exact brackets_docComment depth comment
  | remark comment => exact brackets_lineComment depth comment
  | blank => simp [writeStep, Line.brackets]
  | indent => simp [writeStep, Line.brackets]
  | dedent => simp [writeStep, Line.brackets]

/-- The brackets of a written text are those of its lines, in order, by induction on the
lines with the depth generalised.
-/
theorem brackets_write (lines : List (Line String))
    : Text.brackets (write lines).toList = lines.flatMap lineBrackets := by
  have steps
      : ∀ depth,
          (writeSteps depth lines).flatMap (fun text => Text.brackets text.toList)
          = lines.flatMap lineBrackets := by
    induction lines with
    | nil => exact fun _ => rfl
    | cons line rest ih =>
        intro depth
        rw [writeSteps, List.flatMap_cons, List.flatMap_cons, brackets_writeStep, ih]
  rw [write, brackets_join]
  exact steps 0

/-- Written lines are balanced if their brackets are, read one line after the other. -/
theorem balances_write {lines : List (Line String)}
    (balanced : IsBalanced (lines.flatMap lineBrackets))
    : Text.Balances (write lines) := by
  rw [Text.Balances, ← Text.isBalanced_brackets, brackets_write]
  exact balanced

end Layout

/-- Names without brackets are put in for symbols, and all other brackets are kept. -/
theorem Snippet.brackets_text {snippet : Snippet} (names : Symbol → String)
    (clean : unmarked.Writes snippet)
    (plain
      : ∀ symbol ∈ snippet.symbols,
          Alphabet.unbracketed.Spells symbol.name
          ∧ Alphabet.unbracketed.Spells (names symbol))
    : Text.brackets (snippet.text names).toList = snippet.brackets := by
  rw [Snippet.text, String.toList_ofList, resolve_written names clean, Text.brackets,
    List.filter_flatMap, Snippet.brackets]
  refine List.flatMap_congr (fun piece member => ?_)
  cases piece with
  | plain text => rfl
  | symbol referent =>
      obtain ⟨own, chosen⟩ := plain referent (mem_symbols_iff.mpr member)
      rw [Piece.under]
      split
      · exact Text.brackets_of_plain chosen
      · exact Text.brackets_of_plain own

-----------------------------------------------------------------------------------------
-- Units
-----------------------------------------------------------------------------------------

/-- An import statement is balanced: its names have no brackets, and its braces belong
together.
-/
theorem ImportStatement.balances_text {statement : ImportStatement}
    (specified : Alphabet.unbracketed.Spells statement.specifier)
    (bound
      : ∀ entry ∈ statement.bound,
          Alphabet.unbracketed.Spells entry.1.name ∧ Alphabet.unbracketed.Spells entry.2)
    : Text.Balances statement.text := by
  have source : Text.Balances statement.specifier := Text.balances_of_plain specified
  rw [Text.Balances, ← Text.isBalanced_brackets]
  cases statement with
  | whole entry specifier =>
      have localName : Text.Balances entry.2 :=
        Text.balances_of_plain (bound entry List.mem_cons_self).2
      have source : Text.Balances specifier := source
      simp [ImportStatement.text, localName.owedAfter_eq, source.owedAfter_eq]
  | named entries specifier =>
      have clauses
          : Text.Balances
              (", ".intercalate (Text.sortStrings (entries.map Import.clause))) := by
        refine Text.balances_intercalate (by decide) (fun clause member => ?_)
        obtain ⟨entry, inEntries, rfl⟩ := List.mem_map.mp (Text.mem_sortStrings.mp member)
        obtain ⟨symbol, localName⟩ := bound entry inEntries
        exact Text.balances_of_plain (Alphabet.unbracketed.spells_clause symbol localName)
      have source : Text.Balances specifier := source
      simp [ImportStatement.text, -String.toList_intercalate, clauses.owedAfter_eq,
        source.owedAfter_eq]

namespace SourceUnit

/-- Whether the brackets are balanced in the text of a unit and in the text of each of its
items.
-/
structure IsBracketed (unit : SourceUnit) : Prop where
  text : Text.IsBalanced unit.render.toList
  items : ∀ item ∈ unit.items, Text.IsBalanced (Layout.write (unit.itemLines item)).toList

variable {unit : SourceUnit}
  (known : ∀ symbol ∈ unit.recorded, Alphabet.unbracketed.HasSymbol symbol)
include known

/-- The heading of a unit is balanced if its comment is, as the brackets of the comment
are those of its lines.
-/
theorem balances_heading (headed : ∀ comment ∈ unit.header, Text.Balances comment)
    : IsBalanced (unit.headingLines.flatMap Layout.lineBrackets) := by
  refine Text.isBalanced_flatMap ?_
  simp only [headingLines, heading, List.forall_mem_append, List.forall_mem_map]
  refine ⟨⟨?_, fun statement stated => ?_⟩, ?_⟩
  · intro line member
    obtain ⟨comment, present, rfl⟩ := Option.map_eq_some_iff.mp (Option.mem_toList.mp member)
    exact Text.isBalanced_brackets.mpr (headed comment present)
  · refine Text.isBalanced_brackets.mpr
      (ImportStatement.balances_text (spells_specifier known stated) (fun entry binds => ?_))
    obtain ⟨symbol, localName⟩ := spells_of_mem_bound known stated entry binds
    exact ⟨symbol.name, localName⟩
  · split
    · exact List.forall_mem_singleton.mpr Text.isBalanced_nil
    · simp

variable (records : ∀ item ∈ unit.items, item.RecordsMentions)
  (covered : ∀ item ∈ unit.items, unmarked.Covers item.block)
include records covered

/-- The lines of an item have the brackets of its block, since symbols and their names
have none.
-/
theorem brackets_itemLines {item : Item} (member : item ∈ unit.items)
    : (unit.itemLines item).flatMap Layout.lineBrackets = item.block.brackets := by
  rw [itemLines, Block.named, List.flatMap_map, Block.brackets]
  refine List.flatMap_congr (fun line inBlock => ?_)
  cases line with
  | text content =>
      refine Snippet.brackets_text _ (covered item member _ inBlock) (fun symbol inLine => ?_)
      have recorded : symbol ∈ unit.recorded :=
        (mem_recorded_iff records symbol).mpr
          (List.mem_flatMap.mpr
            ⟨item, member, Block.mem_symbols_iff.mpr ⟨content, inBlock, inLine⟩⟩)
      exact ⟨(known symbol recorded).name, spells_nameOf known recorded⟩
  | _ => rfl

/-- A unit is rendered with balanced brackets if its items are balanced, and so is each
item. Names are put in without changing any brackets.
-/
theorem isBracketed_of_items (headed : ∀ comment ∈ unit.header, Text.Balances comment)
    (balanced : ∀ item ∈ unit.items, item.block.Balances)
    : unit.IsBracketed := by
  have items
      : ∀ item ∈ unit.items, IsBalanced ((unit.itemLines item).flatMap Layout.lineBrackets) := by
    intro item member
    rw [brackets_itemLines known records covered member]
    exact balanced item member
  refine ⟨?_, fun item member => Layout.balances_write (items item member)⟩
  refine Layout.balances_write ?_
  have body : IsBalanced
      (([Line.blank].intercalate (unit.items.map unit.itemLines)).flatMap Layout.lineBrackets) :=
    Text.isBalanced_intercalate Text.isBalanced_nil (List.forall_mem_map.mpr items)
  have whole := (balances_heading known headed).append body
  rw [← List.flatMap_append] at whole
  exact whole

end SourceUnit

end ProtobufTypeScript.Target
