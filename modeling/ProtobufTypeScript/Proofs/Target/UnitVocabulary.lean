import ProtobufTypeScript.Proofs.Target.ImportNaming
import ProtobufTypeScript.Proofs.Target.LayoutVocabulary
import ProtobufTypeScript.Proofs.Target.MarkVocabulary
import ProtobufTypeScript.Proofs.Target.ModulePath

/-!
The alphabet and the vocabulary of rendered units: local names and specifiers are made of the
characters of the names and paths of symbols, so that a unit whose code is free of stray mark
characters is rendered without any.
-/

namespace ProtobufTypeScript.Target

open SourceUnit

namespace Alphabet

variable {letters : Alphabet}

/-- The least free name for a name has a numeral more at most. -/
theorem spells_leastFree {taken : List String} {name result : String}
    (least : LeastFree taken name result) (spelled : letters.Spells name)
    : letters.Spells result := by
  cases least with
  | own free => exact spelled
  | numbered number used positive free least => simp [spelled]

/-- The segments of a path are parts of it. -/
theorem spells_segments {path : String} (spelled : letters.Spells path)
    : ∀ segment ∈ ModulePath.segments path, letters.Spells segment := by
  refine List.forall_mem_map.mpr ?_
  intro part member c inPart
  rw [String.toList_ofList] at inPart
  exact letter_splitAt '/' spelled part member c inPart

/-- A relative path is within the alphabet of its target. All that comes in are dots and
slashes.
-/
theorem spells_relative (source : String) {target : String} (spelled : letters.Spells target)
    : letters.Spells (ModulePath.relative source target) := by
  have segments := spells_segments spelled
  obtain ⟨common, -, shared⟩ :=
    ModulePath.exists_dropCommon (ModulePath.directories source) (ModulePath.directories target)
  rw [ModulePath.segments_eq, shared] at segments
  simp only [List.forall_mem_append] at segments
  rw [ModulePath.relative_eq, spells_intercalate (spells_of_isPlain (by decide)),
    ModulePath.route]
  simp only [List.forall_mem_append]
  refine ⟨?_, segments.1.2, segments.2⟩
  split <;> simp (disch := decide) [spells_of_isPlain]

/-- The name of a symbol and the path of its module are within an alphabet. -/
structure HasSymbol (letters : Alphabet) (symbol : Symbol) : Prop where
  name : letters.Spells symbol.name
  path : ∀ module ∈ symbol.origin.module?, letters.Spells module.path

/-- The clause of an import is made of the two names. -/
theorem spells_clause {entry : Import} (symbol : letters.Spells entry.1.name)
    (localName : letters.Spells entry.2)
    : letters.Spells entry.clause := by
  unfold Import.clause
  split
  · exact localName
  · simp (disch := decide) [spells_of_isPlain, symbol, localName]

end Alphabet

namespace Vocabulary

variable {words : Vocabulary}

/-- A statement is written within a vocabulary if its names and its specifier are. Both
forms of statements are the cases.
-/
theorem spells_statement {statement : ImportStatement}
    (specified : words.Spells statement.specifier)
    (named : ∀ entry ∈ statement.bound, words.Spells entry.1.name ∧ words.Spells entry.2)
    : words.Spells statement.text := by
  cases statement with
  | whole entry specifier =>
      have specified : words.Spells specifier := specified
      have localName := (named entry List.mem_cons_self).2
      simp (disch := decide) [ImportStatement.text, spells_of_isAscii, localName, specified]
  | named entries specifier =>
      have specified : words.Spells specifier := specified
      have clauses
          : ∀ clause ∈ Text.sortStrings (entries.map Import.clause), words.Spells clause := by
        intro clause member
        obtain ⟨entry, inEntries, rfl⟩ := List.mem_map.mp (Text.mem_sortStrings.mp member)
        obtain ⟨symbol, localName⟩ := named entry inEntries
        exact words.alphabet.spells_clause symbol localName
      have joined
          : words.Spells
              (", ".intercalate (Text.sortStrings (entries.map Import.clause))) :=
        (spells_intercalate (by decide)).mpr clauses
      simp (disch := decide) [ImportStatement.text, spells_of_isAscii, joined, specified]

end Vocabulary

namespace SourceUnit

/-- An import is made from what is recorded for the unit, and its local name is fresh for
its symbol.
-/
theorem leastFree_of_mem_importNames {unit : SourceUnit} {entry : Import}
    (member : entry ∈ unit.importNames unit.references)
    : ∃ taken, LeastFree taken entry.1.name entry.2 := by
  obtain ⟨before, after, split⟩ := List.append_of_mem member
  exact ⟨_, leastFree_of_assignNames split⟩

-----------------------------------------------------------------------------------------
-- Local names and specifiers
-----------------------------------------------------------------------------------------

section Alphabet

variable {letters : Alphabet} {unit : SourceUnit}
  (known : ∀ symbol ∈ unit.recorded, letters.HasSymbol symbol)
include known

/-- An import is within the vocabulary of what was recorded, and its local name is made of
the symbol's name and digits.
-/
theorem spells_of_mem_importNames {entry : Import}
    (member : entry ∈ unit.importNames unit.references)
    : letters.HasSymbol entry.1 ∧ letters.Spells entry.2 := by
  have recorded := (mem_map_fst_importNames.mp (List.mem_map_of_mem member)).1
  have symbol := known entry.1 recorded
  obtain ⟨taken, least⟩ := leastFree_of_mem_importNames member
  exact ⟨symbol, letters.spells_leastFree least symbol.name⟩

/-- What stands for a symbol is within the alphabet of the symbols of a unit. -/
theorem spells_nameOf {symbol : Symbol} (recorded : symbol ∈ unit.recorded)
    : letters.Spells (nameOf (unit.importNames unit.references) symbol) := by
  unfold nameOf
  cases found : (unit.importNames unit.references).lookup symbol with
  | none => exact (known symbol recorded).name
  | some localName =>
      obtain ⟨before, after, split, -⟩ := List.lookup_eq_some_iff.mp found
      have member : (symbol, localName) ∈ unit.importNames unit.references := by
        rw [split]
        exact List.mem_append_right _ List.mem_cons_self
      exact (spells_of_mem_importNames known member).2

variable {statement : ImportStatement}
  (stated : statement ∈ unit.importStatements (unit.importNames unit.references))
include stated

/-- What a statement binds are imports of the unit, so that the same holds of it. -/
theorem spells_of_mem_bound
    : ∀ entry ∈ statement.bound, letters.HasSymbol entry.1 ∧ letters.Spells entry.2 :=
  fun _ binds =>
    spells_of_mem_importNames known
      ((bound_importNames unit).mem_iff.mp (List.mem_flatMap.mpr ⟨_, stated, binds⟩))

/-- The specifier of a statement is made of the paths of the unit and of the module. -/
theorem spells_specifier
    : letters.Spells statement.specifier := by
  obtain ⟨entry, binds⟩ := List.exists_mem_of_ne_nil _ (bound_ne_nil stated)
  obtain ⟨⟨place, placed, same⟩, -⟩ := placeOf?_of_bound stated binds
  obtain ⟨module, origin, rfl⟩ := Option.map_eq_some_iff.mp placed
  have path := (spells_of_mem_bound known stated entry binds).1.path module origin
  rw [same]
  cases module with
  | package name => exact path
  | generated target => exact letters.spells_relative _ path

end Alphabet

-----------------------------------------------------------------------------------------
-- Units without stray mark characters
-----------------------------------------------------------------------------------------

section Unmarked

variable {unit : SourceUnit} (records : ∀ item ∈ unit.items, item.RecordsMentions)
  (covered : ∀ item ∈ unit.items, unmarked.Covers item.block)
include covered

/-- What the items of a unit mention is free of marks, if their code is. -/
theorem markFree_of_mentioned {symbol : Symbol} (mentioned : symbol ∈ unit.mentioned)
    : symbol.MarkFree := by
  obtain ⟨item, inUnit, member⟩ := List.mem_flatMap.mp mentioned
  obtain ⟨line, inBlock, inLine⟩ := Block.mem_symbols_iff.mp member
  exact covered item inUnit _ inBlock _ (Snippet.mem_symbols_iff.mp inLine)

include records

/-- What is recorded for a unit is mentioned by it, so that it is free of marks as well.
-/
theorem hasSymbol_of_recorded
    : ∀ symbol ∈ unit.recorded, unmarked.alphabet.HasSymbol symbol :=
  fun symbol recorded =>
    have free := markFree_of_mentioned covered ((mem_recorded_iff records symbol).mp recorded)
    ⟨free.name, free.path⟩

/-- The names for symbols in code without stray mark characters are free of mark
characters.
-/
theorem markFree_nameOf {symbol : Symbol} (mentioned : symbol ∈ unit.mentioned)
    : MarkFree (nameOf (unit.importNames unit.references) symbol).toList :=
  spells_nameOf (hasSymbol_of_recorded records covered)
    ((mem_recorded_iff records symbol).mpr mentioned)

/-- Import statements are free of marks, as all names and paths in them are. -/
theorem markFree_statement {statement : ImportStatement}
    (stated : statement ∈ unit.importStatements (unit.importNames unit.references))
    : MarkFree statement.text.toList := by
  have known := hasSymbol_of_recorded records covered
  have specified : unmarked.Spells statement.specifier := spells_specifier known stated
  refine Vocabulary.spells_statement specified (fun entry binds => ?_)
  obtain ⟨symbol, localName⟩ := spells_of_mem_bound known stated entry binds
  exact ⟨symbol.name, localName⟩

/-- The heading of a unit is free of marks if its comment is. -/
theorem spellsLine_heading (headed : ∀ comment ∈ unit.header, unmarked.Spells comment)
    : ∀ line ∈ unit.heading (unit.importNames unit.references), unmarked.SpellsLine line := by
  simp only [heading, List.forall_mem_append, List.forall_mem_map]
  refine ⟨⟨?_, fun statement stated => markFree_statement records covered stated⟩, ?_⟩
  · intro line member
    obtain ⟨comment, present, rfl⟩ := Option.map_eq_some_iff.mp (Option.mem_toList.mp member)
    exact headed comment present
  · split <;> simp [Vocabulary.SpellsLine]

/-- The body of code without stray mark characters is free of mark characters, as each
mark in it has been resolved to a name.
-/
theorem spellsLine_body
    : ∀ line ∈ unit.body (unit.importNames unit.references), unmarked.SpellsLine line := by
  refine (forall_mem_intercalate (by simp [Vocabulary.SpellsLine])).mpr ?_
  refine List.forall_mem_map.mpr (fun item inUnit => List.forall_mem_map.mpr ?_)
  intro line inBlock
  have known := covered item inUnit line inBlock
  cases line with
  | text content =>
      refine Snippet.markFree_text _ known ?_
      intro symbol inLine
      refine markFree_nameOf records covered (List.mem_flatMap.mpr ⟨item, inUnit, ?_⟩)
      exact Block.mem_symbols_iff.mpr ⟨content, inBlock, inLine⟩
  | doc comment => exact known
  | remark comment => exact known
  | blank => exact known
  | indent => exact known
  | dedent => exact known

/-- A unit whose code and heading are free of stray mark characters is rendered without
any.
-/
theorem markFree_render (headed : ∀ comment ∈ unit.header, unmarked.Spells comment)
    : MarkFree unit.render.toList :=
  Vocabulary.spells_write
    (List.forall_mem_append.mpr
      ⟨spellsLine_heading records covered headed, spellsLine_body records covered⟩)

end Unmarked

end SourceUnit

end ProtobufTypeScript.Target
