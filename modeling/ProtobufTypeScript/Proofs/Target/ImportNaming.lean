import ProtobufTypeScript.Proofs.Lookup
import ProtobufTypeScript.Proofs.Target.FreshName
import ProtobufTypeScript.Proofs.Target.ImportText
import ProtobufTypeScript.Proofs.Target.Marks
import ProtobufTypeScript.Proofs.Target.Recording
import ProtobufTypeScript.Proofs.Target.Symbol

/-!
The local names of imports: which symbols have one, that no two share one and none is taken by
something else, and that the text of the heading binds the very names that the code of the items is
written with.
-/

namespace ProtobufTypeScript.Target.SourceUnit

variable {unit : SourceUnit} {imports : List Import}

/-- The symbols that the items of a unit mention. -/
def mentioned (unit : SourceUnit) : List Symbol :=
  unit.items.flatMap (fun item => item.block.symbols)

/-- If for each item just what its lines mention is recorded, then so it is for the unit.
-/
theorem mem_recorded_iff (records : ∀ item ∈ unit.items, item.RecordsMentions) (symbol : Symbol)
    : symbol ∈ unit.recorded ↔ symbol ∈ unit.mentioned := by
  rw [recorded, mentioned, List.mem_flatMap, List.mem_flatMap]
  exact exists_congr (fun item => and_congr_right
    (fun member => records item member symbol))

-----------------------------------------------------------------------------------------
-- The symbols that are named
-----------------------------------------------------------------------------------------

/-- What a unit imports comes from a module. -/
theorem isFromModule_of_imports {symbol : Symbol} (imported : unit.imports symbol = true)
    : symbol.isFromModule = true := by
  obtain ⟨name, origin⟩ := symbol
  cases origin with
  | own => cases imported
  | helper => cases imported
  | named module => rfl
  | wholeModule module => rfl

/-- The symbols that get local names are the recorded ones that the unit imports. -/
theorem map_fst_importNames (unit : SourceUnit) (references : References)
    : (unit.importNames references).map Prod.fst = references.imports.filter unit.imports :=
  map_fst_assignNames _ _

/-- The names are given to the imports among the recorded symbols. -/
theorem mem_map_fst_importNames {symbol : Symbol}
    : symbol ∈ (unit.importNames unit.references).map Prod.fst
      ↔ symbol ∈ unit.recorded ∧ unit.imports symbol = true := by
  rw [map_fst_importNames, List.mem_filter, references, References.mem_imports_ofSymbols]
  exact ⟨
    fun ⟨⟨member, _⟩, imported⟩ => ⟨member, imported⟩,
    fun ⟨member, imported⟩ => ⟨⟨member, isFromModule_of_imports imported⟩, imported⟩
  ⟩

/-- The imports of a unit stand in the order of their symbols, each once. -/
theorem pairwise_importNames (unit : SourceUnit)
    : ((unit.importNames unit.references).map Prod.fst).Pairwise
        (fun a b => a.atMost b = true ∧ a ≠ b) := by
  rw [map_fst_importNames]
  exact (References.pairwise_imports _).filter _

/-- No symbol is named twice. -/
theorem nodup_map_fst_importNames (unit : SourceUnit)
    : ((unit.importNames unit.references).map Prod.fst).Nodup :=
  (pairwise_importNames unit).imp And.right

/-- The name of an import stands for its symbol. -/
theorem nameOf_of_mem (once : (imports.map Prod.fst).Nodup) {entry : Import}
    (member : entry ∈ imports)
    : nameOf imports entry.1 = entry.2 := by
  rw [nameOf, lookup_of_mem once member, Option.getD_some]

-----------------------------------------------------------------------------------------
-- The import statements
-----------------------------------------------------------------------------------------

/-- The statements for a place bind what is read from there: each whole module in a
statement of its own, all other names in one statement.
-/
theorem bound_statementsFrom (names : (imports.map Prod.snd).Nodup) (place : Nat × String)
    : ((unit.statementsFrom imports place).flatMap ImportStatement.bound).Perm
        (imports.filter (fun entry => unit.placeOf? entry = some place)) := by
  let read := imports.filter (fun entry => unit.placeOf? entry = some place)
  let named := read.filter (fun entry => !entry.isWhole)
  have once : read.Nodup := (List.Nodup.of_map Prod.snd names).filter _
  have whole
      : (((Text.sortDistinct Import.atMost (read.filter Import.isWhole)).map
            (ImportStatement.whole · place.2)).flatMap ImportStatement.bound).Perm
          (read.filter Import.isWhole) := by
    rw [List.flatMap_map]
    simpa only [ImportStatement.bound, List.flatMap_singleton'] using
      Text.sortDistinct_perm Import.atMost (once.filter Import.isWhole)
  have rest
      : (if named.isEmpty then [] else [ImportStatement.named named place.2]).flatMap
          ImportStatement.bound = named := by
    split <;> rename_i empty
    · exact (List.isEmpty_iff.mp empty).symm
    · exact List.flatMap_singleton _ _
  rw [statementsFrom, List.flatMap_append, rest]
  exact (whole.append_right named).trans (List.filter_append_perm Import.isWhole read)

/-- The import statements together bind every import once. Witness: the places, which are
different, with the imports read from each.
-/
theorem bound_importStatements (names : (imports.map Prod.snd).Nodup)
    (placed : ∀ entry ∈ imports, (unit.placeOf? entry).isSome = true)
    : ((unit.importStatements imports).flatMap ImportStatement.bound).Perm imports := by
  have once : imports.Nodup := List.Nodup.of_map Prod.snd names
  rw [importStatements, List.flatMap_assoc]
  have grouped
      : ((unit.places imports).flatMap
            (fun place => (unit.statementsFrom imports place).flatMap ImportStatement.bound)).Perm
          ((unit.places imports).flatMap
            (fun place => imports.filter (fun entry => unit.placeOf? entry = some place))) :=
    List.Perm.flatMap_left _ (fun place _ => bound_statementsFrom names place)
  -- Both sides hold every import once, so that it is enough that they have the same members.
  refine grouped.trans ((List.perm_ext_iff_of_nodup ?_ once).mpr ?_)
  · rw [List.nodup_flatMap]
    refine ⟨fun place _ => once.filter _, ?_⟩
    refine (Text.nodup_sortDistinct _ _).imp ?_
    intro here there different entry inHere inThere
    have first := (List.mem_filter.mp inHere).2
    have second := (List.mem_filter.mp inThere).2
    simp only [decide_eq_true_eq] at first second
    exact different (Option.some.inj (first.symm.trans second))
  · intro entry
    simp only [List.mem_flatMap, List.mem_filter, decide_eq_true_eq]
    constructor
    · rintro ⟨place, -, member, -⟩
      exact member
    · intro member
      obtain ⟨place, found⟩ := Option.isSome_iff_exists.mp (placed entry member)
      refine ⟨place, ?_, member, found⟩
      exact Text.mem_sortDistinct.mpr (List.mem_filterMap.mpr ⟨entry, member, found⟩)

/-- A statement reads from the place of each import it makes, and binds a whole module
exactly for the imports that stand for one.
-/
theorem placeOf?_of_bound {statement : ImportStatement}
    (member : statement ∈ unit.importStatements imports) {entry : Import}
    (bound : entry ∈ statement.bound)
    : (∃ place, unit.placeOf? entry = some place ∧ statement.specifier = place.2)
      ∧ (entry.isWhole = true ↔ statement = .whole entry statement.specifier) := by
  obtain ⟨place, -, member⟩ := List.mem_flatMap.mp member
  rw [statementsFrom, List.mem_append] at member
  rcases member with whole | named
  · obtain ⟨other, found, rfl⟩ := List.mem_map.mp whole
    rw [Text.mem_sortDistinct, List.mem_filter, List.mem_filter] at found
    rw [List.mem_singleton.mp bound]
    exact ⟨⟨place, of_decide_eq_true found.1.2, rfl⟩, fun _ => rfl, fun _ => found.2⟩
  · split at named
    · cases named
    · rw [List.mem_singleton.mp named] at bound ⊢
      rw [ImportStatement.bound, List.mem_filter, List.mem_filter] at bound
      refine ⟨⟨place, of_decide_eq_true bound.1.2, rfl⟩, fun whole => ?_, fun same => by cases same⟩
      simp [whole] at bound

/-- A statement binds something: no clause in braces is written for a place from which
nothing but whole modules is read.
-/
theorem bound_ne_nil {statement : ImportStatement}
    (member : statement ∈ unit.importStatements imports)
    : statement.bound ≠ [] := by
  obtain ⟨place, -, member⟩ := List.mem_flatMap.mp member
  rw [statementsFrom, List.mem_append] at member
  rcases member with whole | named
  · obtain ⟨entry, -, rfl⟩ := List.mem_map.mp whole
    exact List.cons_ne_nil _ _
  · split at named
    · cases named
    · rename_i some
      rw [List.mem_singleton.mp named]
      exact fun none => some (List.isEmpty_iff.mpr none)

/-- The text lines of a heading are the texts of the import statements. -/
theorem text_mem_heading {text : String}
    : .text text ∈ unit.heading imports
      ↔ ∃ statement ∈ unit.importStatements imports, statement.text = text := by
  have comment : Line.text text ∉ (unit.header.map Line.remark).toList := by
    cases unit.header <;> simp
  have gap
      : Line.text text ∉ (if unit.header.isSome || !(unit.importStatements imports).isEmpty then
          [Line.blank] else []) := by
    split <;> simp
  simp only [heading, List.mem_append, comment, gap, false_or, or_false, List.mem_map,
    Line.text.injEq]

/-- What is imported was recorded, and is from another unit. -/
theorem recorded_of_mem_importNames {entry : Import}
    (member : entry ∈ unit.importNames unit.references)
    : entry.1 ∈ unit.references.imports ∧ unit.imports entry.1 = true := by
  have named : entry.1 ∈ (unit.importNames unit.references).map Prod.fst :=
    List.mem_map_of_mem member
  rw [map_fst_importNames] at named
  exact List.mem_filter.mp named

/-- No two imports share a local name. -/
theorem nodup_map_snd_importNames (unit : SourceUnit)
    : ((unit.importNames unit.references).map Prod.snd).Nodup :=
  nodup_map_snd_assignNames _ _

/-- The statements of the heading bind every import of the unit once. -/
theorem bound_importNames (unit : SourceUnit)
    : ((unit.importStatements (unit.importNames unit.references)).flatMap
        ImportStatement.bound).Perm (unit.importNames unit.references) := by
  refine bound_importStatements (nodup_map_snd_importNames unit) ?_
  intro entry member
  rw [placeOf?, Option.isSome_map]
  exact isFromModule_of_imports (recorded_of_mem_importNames member).2

-----------------------------------------------------------------------------------------
-- The naming as a whole
-----------------------------------------------------------------------------------------

/-- The names that no import may take. -/
inductive Reserved (unit : SourceUnit) (name : String) : Prop
  /-- The unit sets it aside. -/
  | declared (member : name ∈ unit.declared)
  /-- An item has it. -/
  | item (item : Item) (member : item ∈ unit.items) (named : item.reservedName = some name)
  /-- It is a helper that is recorded. -/
  | helper (member : Symbol.ofHelper name ∈ unit.recorded)
  /-- It is recorded as a name from the unit's own module. -/
  | own (member : Symbol.ofUnit name unit.module ∈ unit.recorded)

/-- A symbol from a module that is not imported belongs to the unit's own module. -/
theorem eq_ofUnit_of_not_imports {symbol : Symbol} (fromModule : symbol.isFromModule = true)
    (here : unit.imports symbol = false)
    : symbol = Symbol.ofUnit symbol.name unit.module := by
  obtain ⟨name, origin⟩ := symbol
  cases origin with
  | own => cases fromModule
  | helper => cases fromModule
  | named module =>
      have same : module = .generated unit.module := by simpa [imports] using here
      rw [same]
      rfl
  | wholeModule module => cases here

/-- The reserved names are taken before any import is named. Witness: the reasons for
which a name is reserved, one for each list of taken names.
-/
theorem mem_takenNames {name : String}
    : name ∈ unit.takenNames unit.references ↔ unit.Reserved name := by
  simp only [takenNames, references, List.mem_append, List.mem_filterMap, List.mem_map,
    List.mem_filter, References.mem_helpers_ofSymbols, References.mem_imports_ofSymbols]
  constructor
  · rintro
      (((aside | ⟨item, member, named⟩) | helper) | ⟨symbol, ⟨⟨member, fromModule⟩, here⟩, rfl⟩)
    · exact .declared aside
    · exact .item item member named
    · exact .helper helper
    · have same := eq_ofUnit_of_not_imports fromModule (by simpa using here)
      exact .own (same ▸ member)
  · rintro (aside | ⟨item, member, named⟩ | helper | own)
    · exact Or.inl (Or.inl (Or.inl aside))
    · exact Or.inl (Or.inl (Or.inr ⟨item, member, named⟩))
    · exact Or.inl (Or.inr helper)
    · exact Or.inr ⟨_, ⟨⟨own, rfl⟩, by simp [imports, Symbol.ofUnit]⟩, rfl⟩

/-- What the heading of a unit says of its imports: which statements its lines are, what
each of these binds, and where it reads it from.
-/
structure HeadingStates (unit : SourceUnit) (imports : List Import) : Prop where
  /-- The statements bind every import once. -/
  bound : ((unit.importStatements imports).flatMap ImportStatement.bound).Perm imports
  /-- The text lines of the heading are the texts of these statements. -/
  stated
    : ∀ text,
        .text text ∈ unit.heading imports
        ↔ ∃ statement ∈ unit.importStatements imports, statement.text = text
  /-- A statement reads from the place of each import it makes. -/
  placed
    : ∀ statement ∈ unit.importStatements imports,
        ∀ entry ∈ statement.bound,
          ∃ place, unit.placeOf? entry = some place ∧ statement.specifier = place.2
  /-- The text of a statement binds the local names of its imports to what is imported, in
  a clause for each or as a whole module.
  -/
  binds
    : ∀ statement ∈ unit.importStatements imports,
        ImportStatement.Binds statement.specifier statement.bound statement.text
  /-- A reader of the text finds just these bindings, if the names are words. -/
  read
    : ∀ statement ∈ unit.importStatements imports,
        (∀ entry ∈ statement.bound, entry.HasWords)
        → '\'' ∉ statement.specifier.toList
        → ∃ bindings,
            readImport? statement.text = some (bindings, statement.specifier)
            ∧ ∀ binding, binding ∈ bindings ↔ binding ∈ statement.bound.map Import.binding

/-- The heading of a unit states the imports of the unit, each in one statement. Witness:
a statement is for a whole module just if its import stands for one, so that its text has
the form that binds it.
-/
theorem headingStates_importNames (unit : SourceUnit)
    : unit.HeadingStates (unit.importNames unit.references) where
  bound := bound_importNames unit
  stated _ := text_mem_heading
  placed _ stated _ binds := (placeOf?_of_bound stated binds).1
  binds _ stated := ImportStatement.binds_text (fun _ binds => (placeOf?_of_bound stated binds).2)
  read _ stated words plain :=
    ImportStatement.readImport?_text (fun _ binds => (placeOf?_of_bound stated binds).2)
      (bound_ne_nil stated) words plain

/-- What the local names of the imports of a unit are like. -/
structure ImportNaming (unit : SourceUnit) (imports : List Import) : Prop where
  /-- Exactly the recorded symbols that the unit imports are named. -/
  named
    : ∀ symbol,
        symbol ∈ imports.map Prod.fst ↔ symbol ∈ unit.recorded ∧ unit.imports symbol = true
  /-- The symbols are named in their order, each once. -/
  ordered : (imports.map Prod.fst).Pairwise (fun a b => a.atMost b = true ∧ a ≠ b)
  /-- No two symbols share a name. -/
  distinct : (imports.map Prod.snd).Nodup
  /-- No reserved name is chosen. -/
  avoids : ∀ entry ∈ imports, ¬ unit.Reserved entry.2
  /-- Each symbol gets the first name that is neither reserved nor chosen before. -/
  least
    : ∀ before entry after,
        imports = before ++ entry :: after
        → ∃ taken,
            (∀ name, name ∈ taken ↔ unit.Reserved name ∨ name ∈ before.map Prod.snd)
            ∧ LeastFree taken entry.1.name entry.2
            ∧ Search taken entry.1.name entry.1.name 1 entry.2
  /-- The heading states the imports under these names. -/
  heading : unit.HeadingStates imports
  /-- The unit consists of these statements and of the items under these names. -/
  written : unit.render = Layout.write (unit.heading imports ++ unit.body imports)
  /-- Every mark of an import in a line of an item is replaced by the name that the
  heading binds for it.
  -/
  replaced
    : ∀ statement ∈ unit.importStatements imports,
        ∀ entry ∈ statement.bound,
        ∀ item ∈ unit.items,
        ∀ line, .text line ∈ item.block →
        ∀ before after,
          line.written = before ++ (entry.1.mark ++ after)
          → LeavesMarks before
          → line.text (nameOf imports)
              = String.ofList (resolve (nameOf imports) before) ++ entry.2
                ++ String.ofList (resolve (nameOf imports) after)

end ProtobufTypeScript.Target.SourceUnit
