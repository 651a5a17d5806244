import ProtobufTypeScript.Proofs.Target.ImportNaming

/-!
Code without its documentation. Nothing is recorded for a documentation comment, and it does not
change the depth, so that what a unit imports, and what is written for its other lines, follow from
its items without these comments.
-/

namespace ProtobufTypeScript.Target

/-- Whether a step of the layout is a documentation comment. -/
def Line.isDoc {α : Type} : Line α → Bool
  | .doc _ => true
  | _ => false

/-- The steps that are no documentation comments. -/
def withoutDocs {α : Type} (lines : List (Line α)) : List (Line α) :=
  lines.filter (fun line => !line.isDoc)

section WithoutDocs

variable {α β : Type}

@[simp] theorem withoutDocs_append (first second : List (Line α))
    : withoutDocs (first ++ second) = withoutDocs first ++ withoutDocs second :=
  List.filter_append ..

@[simp] theorem withoutDocs_flatMap (items : List β) (code : β → List (Line α))
    : withoutDocs (items.flatMap code)
      = items.flatMap (fun item => withoutDocs (code item)) :=
  List.filter_flatMap ..

/-- Leaving out comments can be done block by block, since empty lines stay. Induction on
the blocks.
-/
theorem withoutDocs_intercalate_blank (blocks : List (List (Line α)))
    : withoutDocs ([Line.blank].intercalate blocks)
      = [Line.blank].intercalate (blocks.map withoutDocs) := by
  induction blocks with
  | nil => rfl
  | cons first rest ih =>
      cases rest with
      | nil => simp
      | cons second others =>
          rw [List.intercalate_cons_cons, withoutDocs_append, withoutDocs_append, ih]
          simp only [List.map_cons, List.intercalate_cons_cons]
          rfl

@[simp] theorem withoutDocs_doc (comment : Option String)
    : withoutDocs (Block.doc comment) = [] := by
  cases comment <;> rfl

/-- Naming symbols leaves the kinds of lines alone. -/
theorem withoutDocs_named (names : Symbol → String) (block : Block)
    : withoutDocs (block.named names) = Block.named names (withoutDocs block) := by
  rw [withoutDocs, withoutDocs, Block.named, Block.named, List.filter_map]
  congr 1
  refine List.filter_congr (fun line _ => ?_)
  cases line <;> rfl

end WithoutDocs

-----------------------------------------------------------------------------------------
-- Written lines
-----------------------------------------------------------------------------------------

namespace Layout

/-- What the steps write that are no documentation, each at the depth where it stands. -/
def writeCode : Nat → List (Line String) → List String
  | _, [] => []
  | depth, line :: rest =>
      (if line.isDoc then [] else [writeStep depth line])
        ++ writeCode (line.depthAfter depth) rest

/-- A documentation comment does not change the depth. -/
theorem depthAfter_of_isDoc {line : Line String} (doc : line.isDoc = true) (depth : Nat)
    : line.depthAfter depth = depth := by
  cases line <;> simp_all [Line.isDoc, Line.depthAfter]

/-- The code is written as if there were no documentation. -/
theorem writeCode_eq (depth : Nat) (lines : List (Line String))
    : writeCode depth lines = writeSteps depth (withoutDocs lines) := by
  induction lines generalizing depth with
  | nil => rfl
  | cons line rest ih =>
      rw [writeCode, ih]
      cases kind : line.isDoc with
      | true => simp [depthAfter_of_isDoc kind, withoutDocs, kind]
      | false => simp [withoutDocs, kind, writeSteps]

/-- Whether a step writes something that is no documentation, and keeps the depth. -/
structure IsFlat (line : Line String) : Prop where
  code : line.isDoc = false
  depth : ∀ depth, line.depthAfter depth = depth

/-- Flat lines have no documentation to leave out. -/
theorem withoutDocs_of_isFlat {lines : List (Line String)} (flat : ∀ line ∈ lines, IsFlat line)
    : withoutDocs lines = lines :=
  List.filter_eq_self.mpr (fun line member => by rw [(flat line member).code]; rfl)

/-- Flat steps are written one by one at the depth before them, and so is what follows. -/
theorem writeSteps_append_of_isFlat {lines : List (Line String)}
    (flat : ∀ line ∈ lines, IsFlat line) (depth : Nat) (rest : List (Line String))
    : writeSteps depth (lines ++ rest)
      = lines.map (writeStep depth) ++ writeSteps depth rest := by
  induction lines with
  | nil => rfl
  | cons line others ih =>
      obtain ⟨here, later⟩ := List.forall_mem_cons.mp flat
      rw [List.cons_append, writeSteps, here.depth, ih later, List.map_cons, List.cons_append]

end Layout

-----------------------------------------------------------------------------------------
-- Units
-----------------------------------------------------------------------------------------

/-- What an item is but for its documentation: its other lines, the name it keeps imports
from taking, and what is recorded for it.
-/
def Item.undocumented (item : Item) : Block × Option String × List Symbol :=
  (withoutDocs item.block, item.reservedName, item.recorded)

namespace SourceUnit

/-- What a unit is but for its heading comment and its documentation. -/
def undocumented (unit : SourceUnit)
    : String × List String × List (Block × Option String × List Symbol) :=
  (unit.module, unit.declared, unit.items.map Item.undocumented)

/-- All lines of a unit. -/
def lines (unit : SourceUnit) : List (Line String) :=
  let imports := unit.importNames unit.references
  unit.heading imports ++ unit.body imports

theorem render_eq_write (unit : SourceUnit)
    : unit.render = Layout.write unit.lines :=
  rfl

/-- The heading comment of a unit. -/
def headerLines (unit : SourceUnit) : List (Line String) :=
  (unit.header.map Line.remark).toList

/-- The empty line below a heading, which is there if the heading is not empty. -/
def headingGap (unit : SourceUnit) : List (Line String) :=
  let statements := unit.importStatements (unit.importNames unit.references)
  if unit.header.isSome || !statements.isEmpty then [.blank] else []

/-- Whether two units are the same but for their comments. -/
structure SameCode (left right : SourceUnit) : Prop where
  module : left.module = right.module
  /-- The items have the same lines besides their documentation. -/
  blocks
    : left.items.map (fun item => withoutDocs item.block)
      = right.items.map (fun item => withoutDocs item.block)
  helpers : left.references.helpers = right.references.helpers
  /-- The same symbols are imported under the same names. -/
  imports : left.importNames left.references = right.importNames right.references
  statements
    : left.importStatements (left.importNames left.references)
      = right.importStatements (right.importNames right.references)
  /-- Besides documentation the same is written, but for the heading comment and the empty
  line below the heading.
  -/
  written
    : ∃ imports items,
        Layout.writeCode 0 left.lines
          = left.headerLines.map (Layout.writeStep 0) ++ imports
            ++ left.headingGap.map (Layout.writeStep 0) ++ items
        ∧ Layout.writeCode 0 right.lines
          = right.headerLines.map (Layout.writeStep 0) ++ imports
            ++ right.headingGap.map (Layout.writeStep 0) ++ items

variable {left right : SourceUnit}

/-- Units are the same without their documentation exactly if their modules, their names
and their items are.
-/
theorem undocumented_eq_iff
    : left.undocumented = right.undocumented
      ↔ left.module = right.module
        ∧ left.declared = right.declared
        ∧ left.items.map Item.undocumented = right.items.map Item.undocumented := by
  simp only [undocumented, Prod.mk.injEq]

/-- Nothing is recorded for documentation. -/
theorem recorded_eq_flatMap_undocumented (unit : SourceUnit)
    : unit.recorded = (unit.items.map Item.undocumented).flatMap (fun item => item.2.2) := by
  rw [recorded, List.flatMap_map]
  rfl

/-- What a unit has recorded can be told without its documentation. -/
theorem references_eq_of_undocumented
    (items : left.items.map Item.undocumented = right.items.map Item.undocumented)
    : left.references = right.references := by
  refine congrArg References.ofSymbols ?_
  rw [recorded_eq_flatMap_undocumented, recorded_eq_flatMap_undocumented, items]

/-- The lines of the import statements. -/
def importLines (unit : SourceUnit) : List (Line String) :=
  (unit.importStatements (unit.importNames unit.references)).map
    (fun statement => .text statement.text)

/-- The lines of the items besides their documentation. -/
def bodyCode (unit : SourceUnit) : List (Line String) :=
  [Line.blank].intercalate
    (unit.items.map
      (fun item =>
        Block.named (nameOf (unit.importNames unit.references)) (withoutDocs item.block)))

/-- Without documentation, the body of a unit is the code of its items. -/
theorem withoutDocs_body (unit : SourceUnit)
    : withoutDocs (unit.body (unit.importNames unit.references)) = unit.bodyCode := by
  rw [body, withoutDocs_intercalate_blank, List.map_map, bodyCode]
  congr 2
  funext item
  exact withoutDocs_named _ _

theorem heading_eq (unit : SourceUnit)
    : unit.heading (unit.importNames unit.references)
      = unit.headerLines ++ unit.importLines ++ unit.headingGap :=
  rfl

/-- The lines of the heading are flat: line comments, imports and empty lines, none of
which changes the depth or is a documentation comment.
-/
theorem isFlat_of_mem_heading (unit : SourceUnit)
    : ∀ line ∈ unit.heading (unit.importNames unit.references), Layout.IsFlat line := by
  rw [heading_eq]
  refine List.forall_mem_append.mpr ⟨List.forall_mem_append.mpr ⟨?_, ?_⟩, ?_⟩
  · intro line member
    obtain ⟨comment, -, rfl⟩ := Option.map_eq_some_iff.mp (Option.mem_toList.mp member)
    exact ⟨rfl, fun _ => rfl⟩
  · intro line member
    obtain ⟨statement, -, rfl⟩ := List.mem_map.mp member
    exact ⟨rfl, fun _ => rfl⟩
  · intro line member
    dsimp only [headingGap] at member
    split at member
    · rw [List.mem_singleton.mp member]
      exact ⟨rfl, fun _ => rfl⟩
    · cases member

/-- Besides documentation a unit consists of its heading and the lines of its items. -/
theorem writeCode_lines (unit : SourceUnit)
    : Layout.writeCode 0 unit.lines
      = unit.headerLines.map (Layout.writeStep 0) ++ unit.importLines.map (Layout.writeStep 0)
          ++ unit.headingGap.map (Layout.writeStep 0) ++ Layout.writeSteps 0 unit.bodyCode := by
  have flat := isFlat_of_mem_heading unit
  rw [Layout.writeCode_eq, lines, withoutDocs_append, Layout.withoutDocs_of_isFlat flat,
    withoutDocs_body, Layout.writeSteps_append_of_isFlat flat, heading_eq, List.map_append,
    List.map_append]

/-- Of a unit, import statements depend on its module only. -/
theorem importStatements_eq_of_module (module : left.module = right.module)
    (imports : List Import)
    : left.importStatements imports = right.importStatements imports := by
  have specifier : left.specifier = right.specifier := by
    funext source
    cases source with
    | package name => rfl
    | generated path => rw [SourceUnit.specifier, SourceUnit.specifier, module]
  have places : left.placeOf? = right.placeOf? := by
    funext entry
    rw [placeOf?, placeOf?, specifier]
  have statements : left.statementsFrom = right.statementsFrom := by
    funext imports place
    simp only [statementsFrom, places]
  rw [importStatements, importStatements, SourceUnit.places, SourceUnit.places, places, statements]

/-- The names of imports are chosen without a look at documentation: what is recorded and
what is reserved does not depend on it.
-/
theorem importNames_eq_of_undocumented (same : left.undocumented = right.undocumented)
    : left.importNames left.references = right.importNames right.references := by
  obtain ⟨module, declared, items⟩ := undocumented_eq_iff.mp same
  have reserved (unit : SourceUnit)
      : unit.items.filterMap Item.reservedName
        = (unit.items.map Item.undocumented).filterMap (fun item => item.2.1) := by
    rw [List.filterMap_map]
    rfl
  have imported : left.imports = right.imports := by
    funext symbol
    rw [SourceUnit.imports, SourceUnit.imports, module]
  rw [importNames, importNames, takenNames, takenNames, reserved, reserved, declared, items,
    references_eq_of_undocumented items, imported]

/-- Units that differ in their comments only are the same but for these in all that is
written: the items, and the imports above them.
-/
theorem sameCode_of_undocumented (same : left.undocumented = right.undocumented)
    : SameCode left right := by
  obtain ⟨module, -, items⟩ := undocumented_eq_iff.mp same
  have blocks
      : left.items.map (fun item => withoutDocs item.block)
        = right.items.map (fun item => withoutDocs item.block) := by
    simpa [Item.undocumented, Function.comp_def] using congrArg (List.map Prod.fst) items
  have imports := importNames_eq_of_undocumented same
  have statements
      : left.importStatements (left.importNames left.references)
        = right.importStatements (right.importNames right.references) :=
    imports ▸ importStatements_eq_of_module module _
  have importLines : left.importLines = right.importLines := by
    rw [SourceUnit.importLines, SourceUnit.importLines, statements]
  have bodyCode : left.bodyCode = right.bodyCode := by
    have named (unit : SourceUnit)
        : unit.bodyCode
          = [Line.blank].intercalate
              ((unit.items.map (fun item => withoutDocs item.block)).map
                (Block.named (nameOf (unit.importNames unit.references)))) := by
      rw [SourceUnit.bodyCode, List.map_map]
      rfl
    rw [named, named, imports, blocks]
  exact {
    module
    blocks
    helpers := congrArg References.helpers (references_eq_of_undocumented items)
    imports
    statements
    written := ⟨
      left.importLines.map (Layout.writeStep 0), Layout.writeSteps 0 left.bodyCode,
      writeCode_lines left, importLines ▸ bodyCode ▸ writeCode_lines right
    ⟩
  }

end SourceUnit

end ProtobufTypeScript.Target
