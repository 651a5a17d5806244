import ProtobufTypeScript.Proofs.Target.Undocumented

/-!
Levels of code. Lines are level if they come back to the depth they start at and never go above it.
Level lines are written at any depth without its reaching below that depth, so that lines that
follow one another can be written each for itself.
-/

namespace ProtobufTypeScript.Target

/-- Whether a step goes one level down into the code. -/
def Line.isIndent {α : Type} : Line α → Bool
  | .indent => true
  | _ => false

/-- Whether a step goes one level up out of the code. -/
def Line.isDedent {α : Type} : Line α → Bool
  | .dedent => true
  | _ => false

namespace Layout

variable {α β : Type} {lines first second : List (Line α)}

/-- How many steps go one level down. -/
def indents (lines : List (Line α)) : Nat :=
  lines.countP Line.isIndent

/-- How many steps go one level up. -/
def dedents (lines : List (Line α)) : Nat :=
  lines.countP Line.isDedent

/-- The depth after some lines. -/
def depthFrom (depth : Nat) (lines : List (Line α)) : Nat :=
  lines.foldl Line.depthAfter depth

/-- Lines that go down as often as up, and never up more often than down before. -/
structure IsLevel (lines : List (Line α)) : Prop where
  even : indents lines = dedents lines
  above : ∀ count, dedents (lines.take count) ≤ indents (lines.take count)

-----------------------------------------------------------------------------------------
-- Counting
-----------------------------------------------------------------------------------------

@[simp] theorem indents_nil
    : indents ([] : List (Line α)) = 0 :=
  rfl

@[simp] theorem dedents_nil
    : dedents ([] : List (Line α)) = 0 :=
  rfl

@[simp] theorem indents_cons (line : Line α) (rest : List (Line α))
    : indents (line :: rest) = indents rest + if line.isIndent then 1 else 0 :=
  List.countP_cons

@[simp] theorem dedents_cons (line : Line α) (rest : List (Line α))
    : dedents (line :: rest) = dedents rest + if line.isDedent then 1 else 0 :=
  List.countP_cons

@[simp] theorem indents_append
    : indents (first ++ second) = indents first + indents second :=
  List.countP_append

@[simp] theorem dedents_append
    : dedents (first ++ second) = dedents first + dedents second :=
  List.countP_append

/-- If the depth is never cut off at zero, it is not so after the first step either. -/
theorem above_of_cons {depth : Nat} {line : Line α}
    (above
      : ∀ count,
          dedents ((line :: lines).take count) ≤ depth + indents ((line :: lines).take count))
    (count : Nat)
    : dedents (lines.take count) ≤ line.depthAfter depth + indents (lines.take count) := by
  have here := above 1
  have whole := above (count + 1)
  cases line
    <;> simp [Line.isIndent, Line.isDedent, Line.depthAfter] at here whole ⊢
    <;> omega

/-- The depth changes by the difference of the counts, if it is never cut off at zero. -/
theorem depthFrom_add_dedents (depth : Nat)
    (above : ∀ count, dedents (lines.take count) ≤ depth + indents (lines.take count))
    : depthFrom depth lines + dedents lines = depth + indents lines := by
  induction lines generalizing depth with
  | nil => rfl
  | cons line rest ih =>
      have here := above 1
      have run := ih (line.depthAfter depth) (above_of_cons above)
      rw [depthFrom, List.foldl_cons, ← depthFrom, indents_cons, dedents_cons]
      cases line
        <;> simp [Line.isIndent, Line.isDedent, Line.depthAfter] at here run ⊢
        <;> omega

-----------------------------------------------------------------------------------------
-- Level lines
-----------------------------------------------------------------------------------------

theorem isLevel_nil
    : IsLevel ([] : List (Line α)) where
  even := rfl
  above count := by rw [List.take_nil]; exact Nat.le_refl _

/-- Level lines may follow one another. -/
theorem IsLevel.append (before : IsLevel first) (after : IsLevel second)
    : IsLevel (first ++ second) where
  even := by rw [indents_append, dedents_append, before.even, after.even]
  above count := by
    rw [List.take_append, indents_append, dedents_append]
    exact Nat.add_le_add (before.above _) (after.above _)

/-- Level lines may be set one level deeper: the step down comes before all of them, and
the step up that belongs to it after them.
-/
theorem IsLevel.nested (inner : IsLevel lines)
    : IsLevel (.indent :: lines ++ [.dedent]) where
  even := by
    have even := inner.even
    simp [Line.isIndent, Line.isDedent, even]
  above count := by
    cases count with
    | zero => exact Nat.le_refl _
    | succ count =>
        have within := inner.above count
        have last : dedents (([.dedent] : List (Line α)).take (count - lines.length)) ≤ 1 :=
          Nat.le_trans List.countP_le_length (List.length_take_le' ..)
        rw [List.cons_append, List.take_succ_cons, List.take_append, indents_cons, dedents_cons,
          indents_append, dedents_append]
        simp only [Line.isIndent, Line.isDedent, Bool.false_eq_true, ↓reduceIte]
        omega

/-- Lines that never change the depth are level, as nothing goes up or down in any part of
them.
-/
theorem isLevel_of_flat
    (flat : ∀ line ∈ lines, Line.isIndent line = false ∧ Line.isDedent line = false)
    : IsLevel lines := by
  have none {some : List (Line α)} (part : some ⊆ lines) : dedents some = 0 := by
    refine List.countP_eq_zero.mpr (fun line member => ?_)
    rw [(flat line (part member)).2]
    exact Bool.false_ne_true
  have down : indents lines = 0 := by
    refine List.countP_eq_zero.mpr (fun line member => ?_)
    rw [(flat line member).1]
    exact Bool.false_ne_true
  refine ⟨down.trans (none (List.Subset.refl lines)).symm, fun count => ?_⟩
  rw [none (List.take_subset count lines)]
  exact Nat.zero_le _

/-- A line that changes no depth is level. -/
theorem isLevel_singleton {line : Line α} (down : line.isIndent = false)
    (up : line.isDedent = false)
    : IsLevel [line] :=
  isLevel_of_flat (List.forall_mem_singleton.mpr ⟨down, up⟩)

theorem isLevel_map_text (values : List β) (text : β → α)
    : IsLevel (values.map (fun value => Line.text (text value))) :=
  isLevel_of_flat (List.forall_mem_map.mpr (fun _ _ => ⟨rfl, rfl⟩))

/-- Level parts in sequence are level, however many there are. -/
theorem isLevel_flatMap {values : List β} {code : β → List (Line α)}
    (each : ∀ value ∈ values, IsLevel (code value))
    : IsLevel (values.flatMap code) := by
  induction values with
  | nil => exact isLevel_nil
  | cons value rest ih =>
      obtain ⟨here, later⟩ := List.forall_mem_cons.mp each
      exact here.append (ih later)

theorem isLevel_blank
    : IsLevel [(Line.blank : Line α)] :=
  isLevel_singleton rfl rfl

/-- Level blocks are level with empty lines between any two of them. -/
theorem isLevel_intercalate {blocks : List (List (Line α))}
    (each : ∀ block ∈ blocks, IsLevel block)
    : IsLevel ([Line.blank].intercalate blocks) := by
  induction blocks with
  | nil => exact isLevel_nil
  | cons block rest ih =>
      obtain ⟨here, later⟩ := List.forall_mem_cons.mp each
      cases rest with
      | nil => simpa using here
      | cons next others =>
          rw [List.intercalate_cons_cons]
          exact (here.append isLevel_blank).append (ih later)

/-- What stands in the lines does not matter for how often the depth grows. -/
theorem indents_map (f : α → β) : indents (lines.map (Line.map f)) = indents lines := by
  rw [indents, List.countP_map]
  congr 1
  funext line
  cases line <;> rfl

theorem dedents_map (f : α → β) : dedents (lines.map (Line.map f)) = dedents lines := by
  rw [dedents, List.countP_map]
  congr 1
  funext line
  cases line <;> rfl

/-- What stands in the lines does not matter for the depth after them. Induction on the
lines.
-/
theorem depthFrom_map (f : α → β) (depth : Nat)
    : depthFrom depth (lines.map (Line.map f)) = depthFrom depth lines := by
  induction lines generalizing depth with
  | nil => rfl
  | cons line rest ih =>
      have here : (line.map f).depthAfter depth = line.depthAfter depth := by
        cases line <;> rfl
      rw [List.map_cons, depthFrom, List.foldl_cons, here]
      exact ih _

/-- What stands in the lines is of no account. -/
theorem IsLevel.map (level : IsLevel lines) (f : α → β)
    : IsLevel (lines.map (Line.map f)) where
  even := by rw [indents_map, dedents_map, level.even]
  above count := by
    rw [← List.map_take, indents_map, dedents_map]
    exact level.above count

/-- Level lines end at the depth they start at. -/
theorem IsLevel.depthFrom_eq (level : IsLevel lines) (depth : Nat)
    : depthFrom depth lines = depth := by
  have run := depthFrom_add_dedents depth (fun count => Nat.le_add_left_of_le (level.above count))
  have even := level.even
  omega

/-- In level lines, no step goes up from the depth that they start at, however small it
is.
-/
theorem IsLevel.depthFrom_pos (level : IsLevel lines) (depth : Nat) {front back : List (Line α)}
    (parted : lines = front ++ .dedent :: back)
    : depth < depthFrom depth front := by
  have enough := level.above (front.length + 1)
  have run : depthFrom depth front + dedents front = depth + indents front := by
    refine depthFrom_add_dedents depth (fun count => Nat.le_add_left_of_le ?_)
    have start := level.above (min count front.length)
    rwa [parted, List.take_append_of_le_length (Nat.min_le_right ..), ← List.take_eq_take_min]
      at start
  rw [parted, List.take_length_add_append] at enough
  simp [Line.isIndent, Line.isDedent] at enough
  omega

-----------------------------------------------------------------------------------------
-- Writing level lines
-----------------------------------------------------------------------------------------

/-- Lines in sequence are written one part after the other, the second part from the depth
that the first one ends at.
-/
theorem writeSteps_append (depth : Nat) (before after : List (Line String))
    : writeSteps depth (before ++ after)
      = writeSteps depth before ++ writeSteps (depthFrom depth before) after := by
  induction before generalizing depth with
  | nil => rfl
  | cons line rest ih =>
      rw [List.cons_append, writeSteps, ih, writeSteps, List.cons_append]
      rfl

/-- What follows lines that end at depth zero is written as if it stood alone. -/
theorem write_append_of_depthFrom {before : List (Line String)} (ended : depthFrom 0 before = 0)
    (after : List (Line String))
    : write (before ++ after) = write before ++ write after := by
  rw [write, writeSteps_append, ended, String.join_append]
  rfl

/-- What follows level lines is written as if it stood alone. -/
theorem write_append {before : List (Line String)} (level : IsLevel before)
    (after : List (Line String))
    : write (before ++ after) = write before ++ write after :=
  write_append_of_depthFrom (level.depthFrom_eq 0) after

/-- Level blocks are written each for itself, with an empty line between any two, by
induction on the blocks.
-/
theorem write_intercalate {blocks : List (List (Line String))}
    (each : ∀ block ∈ blocks, IsLevel block)
    : write ([Line.blank].intercalate blocks) = "\n".intercalate (blocks.map write) := by
  induction blocks with
  | nil => rfl
  | cons block rest ih =>
      obtain ⟨here, later⟩ := List.forall_mem_cons.mp each
      cases rest with
      | nil => simp
      | cons next others =>
          rw [List.intercalate_cons_cons, List.map_cons, List.map_cons,
            String.intercalate_cons_cons, List.append_assoc, write_append here,
            write_append isLevel_blank, ih later, List.map_cons, String.append_assoc]
          rfl

end Layout

-----------------------------------------------------------------------------------------
-- Blocks
-----------------------------------------------------------------------------------------

open Layout

/-- Lines that go one level up first and are level from there on. -/
def IsEnding (block : Block) : Prop :=
  ∃ rest, block = .dedent :: rest ∧ IsLevel rest

theorem isLevel_line (text : Snippet)
    : IsLevel (Block.line text) :=
  isLevel_singleton rfl rfl

theorem isLevel_statement (text : Snippet)
    : IsLevel (Block.statement text) :=
  isLevel_singleton rfl rfl

/-- A documentation comment is level, if there is one. -/
theorem isLevel_doc (comment : Option String)
    : IsLevel (Block.doc comment) := by
  cases comment with
  | none => exact isLevel_nil
  | some text => exact isLevel_singleton rfl rfl

theorem isEnding_closingWith (tail : Snippet)
    : IsEnding (Block.closingWith tail) :=
  ⟨_, rfl, isLevel_singleton rfl rfl⟩

/-- A part with a header is level if what stands inside is. -/
theorem isLevel_opening (header : Snippet) {body closing : Block} (inner : IsLevel body)
    (ending : IsEnding closing)
    : IsLevel (Block.opening header ++ body ++ closing) := by
  obtain ⟨rest, rfl, after⟩ := ending
  have parts := ((isLevel_line (header ++ [.plain " \x7b"])).append inner.nested).append after
  simpa [Block.opening, Block.line] using parts

/-- The end of one part and the header of the next go up once and are level from there on,
since the next part ends in turn.
-/
theorem isEnding_between (header : Snippet) {body closing : Block} (inner : IsLevel body)
    (ending : IsEnding closing)
    : IsEnding (Block.between header ++ body ++ closing) := by
  refine ⟨Block.opening ([.plain "\x7d "] ++ header) ++ body ++ closing, rfl, ?_⟩
  exact isLevel_opening _ inner ending

mutual
/-- The code of a statement is level. -/
theorem isLevel_stmt : ∀ statement : Stmt, IsLevel statement.code
  | .expression _ => isLevel_statement _
  | .const _ _ _ => isLevel_statement _
  | .mutable _ _ => isLevel_statement _
  | .assign _ _ => isLevel_statement _
  | .increase _ _ => isLevel_statement _
  | .result _ => isLevel_statement _
  | .raise _ => isLevel_statement _
  | .leave => isLevel_statement _
  | .branch _ body otherwise =>
      isLevel_opening _ (isLevel_stmts body) (isEnding_otherwise otherwise)
  | .loop _ body => isLevel_opening _ (isLevel_stmts body) (isEnding_closingWith _)
  | .each _ _ body => isLevel_opening _ (isLevel_stmts body) (isEnding_closingWith _)
  | .choose _ sections => isLevel_opening _ (isLevel_sections sections) (isEnding_closingWith _)
  | .callback _ _ _ _ _ body => isLevel_opening _ (isLevel_stmts body) (isEnding_closingWith _)
  | .build type parameters body argument => by
      have function :=
        isLevel_opening (Binding.header parameters) (isLevel_stmts body)
          (isEnding_closingWith [.plain ","])
      have inner := (function.append (isLevel_line argument.snippet)).nested
      have start := isLevel_line ([.plain "return new "] ++ type.snippet ++ [.plain "("])
      have parts := (start.append inner).append (isLevel_statement [.plain ")"])
      simpa [Stmt.code] using parts

/-- The code of statements in sequence is level. -/
theorem isLevel_stmts : ∀ statements : List Stmt, IsLevel (Stmt.codeAll statements)
  | [] => isLevel_nil
  | statement :: rest => (isLevel_stmt statement).append (isLevel_stmts rest)

/-- The code after the body of a branch ends that body and is level from there on. -/
theorem isEnding_otherwise : ∀ otherwise : Otherwise, IsEnding otherwise.code
  | .nothing => isEnding_closingWith _
  | .block body => isEnding_between _ (isLevel_stmts body) (isEnding_closingWith _)
  | .branch _ body otherwise =>
      isEnding_between _ (isLevel_stmts body) (isEnding_otherwise otherwise)

/-- The code of switch sections is level. -/
theorem isLevel_sections : ∀ sections : List Section, IsLevel (Section.codeAll sections)
  | [] => isLevel_nil
  | .mk labels body :: rest => by
      have start := isLevel_map_text labels CaseLabel.snippet
      have parts := (start.append (isLevel_stmts body).nested).append (isLevel_sections rest)
      simpa [Section.codeAll] using parts
end

-----------------------------------------------------------------------------------------
-- Declarations
-----------------------------------------------------------------------------------------

/-- A function is level, wherever it is declared, if its body is. -/
theorem isLevel_function (placement : Placement) {function : Function}
    (body : IsLevel function.body.lines)
    : IsLevel (function.code placement) := by
  refine (isLevel_doc function.doc).append ?_
  cases placement with
  | signature => exact isLevel_statement _
  | topLevel exported => exact isLevel_opening _ body (isEnding_closingWith _)
  | method => exact isLevel_opening _ body (isEnding_closingWith _)
  | entry => exact isLevel_opening _ body (isEnding_closingWith _)

theorem isLevel_signature (function : Function)
    : IsLevel (function.code .signature) :=
  (isLevel_doc function.doc).append (isLevel_statement _)

theorem isLevel_property (property : Property)
    : IsLevel property.code :=
  (isLevel_doc property.doc).append (isLevel_statement _)

/-- An interface is level: its members stand one level down, and each of them is level. -/
theorem isLevel_interface (interface : Interface)
    : IsLevel interface.code := by
  have properties : IsLevel (interface.properties.flatMap Property.code) :=
    isLevel_flatMap (fun property _ => isLevel_property property)
  have methods : IsLevel (interface.methods.flatMap (Function.code .signature)) :=
    isLevel_flatMap (fun method _ => isLevel_signature method)
  have members header :=
    isLevel_opening header (properties.append methods) (isEnding_closingWith [])
  simpa only [Interface.code, Block.closing, List.append_assoc]
    using (isLevel_doc interface.doc).append (members _)

/-- A class is level if the bodies of its functions are, since its properties are single
lines and all its members are nested.
-/
theorem isLevel_class {declared : ClassType}
    (bodies : ∀ function ∈ declared.functions, IsLevel function.body.lines)
    : IsLevel declared.code := by
  have properties : IsLevel (declared.properties.flatMap Property.code) :=
    isLevel_flatMap (fun property _ => isLevel_property property)
  have functions
      : ∀ code ∈ declared.functions.map (Function.code .method), IsLevel code :=
    List.forall_mem_map.mpr
      (fun function member => isLevel_function .method (bodies function member))
  have separated
      : IsLevel
          (if declared.properties.isEmpty then
            [Line.blank].intercalate (declared.functions.map (Function.code .method))
          else
            (declared.functions.map (Function.code .method)).flatMap ([Line.blank] ++ ·)) := by
    split
    · exact isLevel_intercalate functions
    · exact isLevel_flatMap (fun code member => isLevel_blank.append (functions code member))
  have members :=
    isLevel_opening declared.header (properties.append separated) (isEnding_closingWith [])
  simpa only [ClassType.code, Block.closing, List.append_assoc]
    using (isLevel_doc declared.doc).append members

/-- An object of values is level, whether it takes one line or more. -/
theorem isLevel_values (object : ValueObject)
    : IsLevel object.code := by
  rw [ValueObject.code]
  split
  · exact isLevel_statement _
  · refine isLevel_opening _ ?_ (isEnding_closingWith _)
    exact isLevel_map_text object.values
      (fun entry => [.plain (entry.1 ++ ": ")] ++ entry.2.snippet ++ [.plain ","])

/-- An entry is level if the body of its function is. -/
theorem isLevel_entry {entry : Entry}
    (body : ∀ function, entry = .method function → IsLevel function.body.lines)
    : IsLevel entry.code := by
  cases entry with
  | value doc name content => exact (isLevel_doc doc).append (isLevel_line _)
  | method function => exact isLevel_function .entry (body function rfl)
  | gap => exact isLevel_blank

/-- An object is level if the bodies of its methods are. -/
theorem isLevel_object {object : ObjectConst}
    (bodies : ∀ function, .method function ∈ object.entries → IsLevel function.body.lines)
    : IsLevel object.code := by
  have entries : IsLevel (object.entries.flatMap Entry.code) :=
    isLevel_flatMap
      (fun entry member => isLevel_entry (fun function same => bodies function (same ▸ member)))
  have members :=
    isLevel_opening [.plain ("export const " ++ object.name ++ " =")] entries
      (isEnding_closingWith [.plain ";"])
  simpa only [ObjectConst.code, List.append_assoc] using (isLevel_doc object.doc).append members

/-- An enum is level if the bodies of its functions are. -/
theorem isLevel_enumeration {declared : NumberedEnum}
    (bodies : ∀ function, .method function ∈ declared.object.entries → IsLevel function.body.lines)
    : IsLevel declared.code :=
  ((isLevel_object bodies).append isLevel_blank).append (isLevel_statement _)

-----------------------------------------------------------------------------------------
-- Units
-----------------------------------------------------------------------------------------

namespace SourceUnit

/-- The lines of an item with the local names of the unit's imports. -/
def itemLines (unit : SourceUnit) (item : Item) : List (Line String) :=
  item.block.named (nameOf (unit.importNames unit.references))

/-- The lines of the heading of a unit, with its imports. -/
def headingLines (unit : SourceUnit) : List (Line String) :=
  unit.heading (unit.importNames unit.references)

/-- What stands in a unit before the item that follows some of its items. -/
def linesBefore (unit : SourceUnit) (items : List Item) : List (Line String) :=
  unit.headingLines ++ items.flatMap (fun item => unit.itemLines item ++ [.blank])

/-- How a unit is indented whose items are level. -/
structure IsLevelled (unit : SourceUnit) : Prop where
  /-- Every item goes down as often as up, and never up more often than down before. -/
  items : ∀ item ∈ unit.items, IsLevel item.block
  /-- The depth is never to fall below zero, where it would be kept at zero. -/
  unsaturated
    : ∀ before after, unit.lines = before ++ .dedent :: after → 0 < depthFrom 0 before
  /-- Every item starts at depth zero. -/
  start
    : ∀ before item after,
        unit.items = before ++ item :: after
        → depthFrom 0 (unit.linesBefore before) = 0
          ∧ unit.linesBefore before ++ unit.itemLines item <+: unit.lines
  /-- The text consists of the heading and of the texts of the items, each written for
  itself.
  -/
  text
    : unit.render
      = Layout.write unit.headingLines
        ++ "\n".intercalate (unit.items.map (fun item => Layout.write (unit.itemLines item)))

variable {unit : SourceUnit}

/-- The heading of a unit is level, as none of its lines changes the depth. -/
theorem isLevel_headingLines (unit : SourceUnit)
    : IsLevel unit.headingLines := by
  refine isLevel_of_flat (fun line member => ?_)
  have depth := (isFlat_of_mem_heading unit line member).depth
  cases line with
  | indent => cases depth 1
  | dedent => cases depth 1
  | _ => exact ⟨rfl, rfl⟩

theorem lines_eq
    : unit.lines = unit.headingLines ++ [Line.blank].intercalate (unit.items.map unit.itemLines) :=
  rfl

/-- A unit is levelled if its items are level. The heading never changes the depth, and
names leave the lines of items as they are.
-/
theorem isLevelled_of_items (items : ∀ item ∈ unit.items, IsLevel item.block)
    : unit.IsLevelled := by
  have named : ∀ item ∈ unit.items, IsLevel (unit.itemLines item) :=
    fun item member => (items item member).map _
  have blocks : ∀ block ∈ unit.items.map unit.itemLines, IsLevel block :=
    List.forall_mem_map.mpr named
  have heading := isLevel_headingLines unit
  have whole : IsLevel unit.lines := heading.append (isLevel_intercalate blocks)
  refine ⟨items, fun before after parted => whole.depthFrom_pos 0 parted, ?_, ?_⟩
  · intro before item after parted
    constructor
    · refine (heading.append (isLevel_flatMap (fun earlier member => ?_))).depthFrom_eq 0
      exact (named earlier (by simp [parted, member])).append isLevel_blank
    · rw [lines_eq, linesBefore, parted, List.append_assoc, List.prefix_append_right_inj]
      clear parted
      induction before with
      | nil =>
          cases after with
          | nil => simp
          | cons next others => simp [List.intercalate_cons_cons]
      | cons first rest ih =>
          cases rest <;> simp_all [List.intercalate_cons_cons]
  · rw [render_eq_write, lines_eq, write_append heading, write_intercalate blocks, List.map_map]
    rfl

end SourceUnit

end ProtobufTypeScript.Target
