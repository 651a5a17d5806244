import ProtobufTypeScript.Proofs.Generation.Items
import ProtobufTypeScript.Proofs.Target.UnitVocabulary

/-!
Imports are what is used. A unit imports what its generators recorded while they wrote, and they
recorded what they wrote: in the units of a request without mark characters, the heading imports a
symbol exactly if it belongs elsewhere and its mark stands in the code, and no mark character is
left in the text.
-/

namespace ProtobufTypeScript.Generation

open Schema Target

/-- Whether a symbol belongs to a package or to a module other than that of a unit. -/
def IsForeign (unit : SourceUnit) (symbol : Symbol) : Prop :=
  ∃ module ∈ symbol.origin.module?, module ≠ .generated unit.module

/-- Whether the mark of a symbol stands in some text line of an item of a unit. -/
def MarkOccurs (unit : SourceUnit) (symbol : Symbol) : Prop :=
  ∃ item ∈ unit.items, ∃ line, .text line ∈ item.block
    ∧ ∃ before after, line.written = before ++ (symbol.mark ++ after)

/-- What the imports of a unit are for. -/
structure ImportUse (unit : SourceUnit) : Prop where
  /-- What was recorded for the items is what stands in their lines: nothing is missing
  and nothing was recorded that is not written.
  -/
  recorded : ∀ symbol, symbol ∈ unit.recorded ↔ symbol ∈ unit.mentioned
  /-- The heading imports what belongs elsewhere and has a mark in the code, and nothing
  else.
  -/
  used
    : ∀ symbol,
        (∃ statement ∈ unit.importStatements (unit.importNames unit.references),
          ∃ entry ∈ statement.bound, entry.1 = symbol)
        ↔ symbol.MarkFree ∧ IsForeign unit symbol ∧ MarkOccurs unit symbol
  /-- The text of the heading says just what its statements bind. -/
  heading : unit.HeadingStates (unit.importNames unit.references)
  /-- No mark character is left in the text. -/
  clean : MarkFree unit.render.toList

/-- If no text of the files holds characters of marks, neither does anything that is
registered: a type comes from a node of some file, and its names from the texts there.
-/
theorem hasRegistry_unmarked {options : Options} {files : List File} {registry : Registry}
    (free : ∀ file ∈ files, ∀ text ∈ file.texts, MarkFree text.toList)
    (built : Registry.ofFiles options files = .ok registry)
    : unmarked.HasRegistry registry := by
  refine ⟨fun item member => ?_, fun _ _ helper _ => markFree_helper helper⟩
  obtain ⟨file, inFiles, nodes, found, node, inNodes, rfl⟩ :=
    Registry.comesFrom_of_mem_entries built item member
  have has : unmarked.HasNode node :=
    Vocabulary.hasNode_nodes (free file inFiles) found node inNodes
  have path : unmarked.Spells (unitPath file.name) :=
    unmarked.alphabet.spells_unitPath (free file inFiles _ (by simp [File.texts]))
  refine ⟨⟨has.identifier, ?_⟩, has.definition⟩
  intro module origin
  cases origin
  exact path

/-- A known symbol is imported exactly if it belongs elsewhere. Witness: the symbols of
the libraries one by one, the helpers, and the registered types.
-/
theorem imports_iff_isForeign {unit : SourceUnit} {registry : Registry} {symbol : Symbol}
    (known : IsKnown registry symbol)
    : unit.imports symbol = true ↔ IsForeign unit symbol := by
  cases known with
  | library symbol member =>
      simp only [librarySymbols, List.mem_cons, List.not_mem_nil, or_false] at member
      rcases member with rfl | rfl | rfl | rfl | rfl <;>
        simp [SourceUnit.imports, IsForeign, Origin.module?, Library.reader, Library.writer,
          Library.long, Library.dataLoader, Library.hash, Symbol.ofPackage, Symbol.wholePackage]
  | helper helper =>
      simp [SourceUnit.imports, IsForeign, Origin.module?, Helper.symbol, Symbol.ofHelper]
  | type name entry member =>
      simp [SourceUnit.imports, IsForeign, Origin.module?, TypeEntry.symbol, Symbol.ofUnit]

/-- In code without stray mark characters, a foreign symbol is mentioned exactly if its
mark occurs.
-/
theorem mentioned_iff_markOccurs {unit : SourceUnit} {symbol : Symbol}
    (covered : ∀ item ∈ unit.items, unmarked.Covers item.block)
    (imported : symbol.isFromModule = true)
    : symbol ∈ unit.mentioned ↔ symbol.MarkFree ∧ MarkOccurs unit symbol := by
  constructor
  · intro member
    obtain ⟨item, inUnit, member⟩ := List.mem_flatMap.mp member
    obtain ⟨line, inBlock, inLine⟩ := Block.mem_symbols_iff.mp member
    have piece := Snippet.mem_symbols_iff.mp inLine
    refine ⟨covered item inUnit _ inBlock _ piece, item, inUnit, line, inBlock, ?_⟩
    obtain ⟨before, after, rfl⟩ := List.append_of_mem piece
    exact ⟨Snippet.written before, Snippet.written after, by simp [Snippet.written]⟩
  · rintro ⟨free, item, inUnit, line, inBlock, before, after, occurs⟩
    have clean : unmarked.Writes line := covered item inUnit _ inBlock
    have inLine := Snippet.mem_of_mark_occurs clean imported free occurs
    exact List.mem_flatMap.mpr
      ⟨item, inUnit, Block.mem_symbols_iff.mpr ⟨line, inBlock, inLine⟩⟩

/-- The imports of the unit for a file are what it uses. Witness: what is recorded, which
is what stands in the items, and the marks by which this is seen in their text.
-/
theorem importUse_unit {registry : Registry} {options : Options} {file : File} {unit : SourceUnit}
    (has : unmarked.HasRegistry registry) (free : ∀ text ∈ file.texts, MarkFree text.toList)
    (made : Generation.unit registry options file = .ok unit)
    : ImportUse unit := by
  have covered := Vocabulary.covers_unit has free made
  have records := recordsMentions_unit made
  have bound := SourceUnit.bound_importNames unit
  refine { recorded := mem_recorded_unit made
           used := ?used
           heading := SourceUnit.headingStates_importNames unit
           clean := ?clean }
  case used =>
    intro symbol
    -- Together the statements bind the imports of the unit, in some order.
    have named
        : (∃ statement ∈ unit.importStatements (unit.importNames unit.references),
            ∃ entry ∈ statement.bound, entry.1 = symbol)
          ↔ symbol ∈ (unit.importNames unit.references).map Prod.fst := by
      simp only [List.mem_map, ← bound.mem_iff, List.mem_flatMap]
      grind
    rw [named, SourceUnit.mem_map_fst_importNames, mem_recorded_unit made]
    constructor
    · rintro ⟨mentioned, imported⟩
      obtain ⟨clean, occurs⟩ :=
        (mentioned_iff_markOccurs covered (SourceUnit.isFromModule_of_imports imported)).mp
          mentioned
      have known := isKnown_of_mentioned made symbol mentioned
      exact ⟨clean, (imports_iff_isForeign known).mp imported, occurs⟩
    · rintro ⟨clean, foreign, occurs⟩
      have imported : symbol.isFromModule = true := by
        obtain ⟨module, origin, -⟩ := foreign
        exact Option.isSome_iff_exists.mpr ⟨module, origin⟩
      have mentioned := (mentioned_iff_markOccurs covered imported).mpr ⟨clean, occurs⟩
      have known := isKnown_of_mentioned made symbol mentioned
      exact ⟨mentioned, (imports_iff_isForeign known).mpr foreign⟩
  case clean =>
    refine SourceUnit.markFree_render records covered ?_
    rw [(heading_of_unit made).2.1]
    exact Vocabulary.documents_root free [] _

/-- In an accepted request without mark characters, each unit imports exactly what it
uses. Witness: the unit of which each output is the text.
-/
theorem imports_are_what_is_used {request : Request} {results : List Output}
    (free : ∀ file ∈ request.files, ∀ text ∈ file.texts, MarkFree text.toList)
    (accepted : outputs request = .ok results)
    : List.Forall₂
        (fun file output =>
          ∃ unit,
            Generated request file unit
            ∧ output = { name := outputName file.name, content := unit.render }
            ∧ ImportUse unit)
        (request.files.filter (selects request)) results := by
  refine (outputs_eq_ok accepted).imp ?_
  rintro file output ⟨unit, generated, same⟩
  obtain ⟨registry, built, made⟩ := generated.made
  exact ⟨unit, generated, same,
    importUse_unit (hasRegistry_unmarked free built) (free file generated.member) made⟩

/-- A message with a field whose type belongs to another file. -/
theorem imports_are_what_is_used_two_files
    : let request : Request :=
        {
          parameter := "outputEncodeMethods=false,outputJsonMethods=false"
          files :=
            [
              {
                name := "shop/cart.proto"
                package := "shop"
                messages :=
                  [
                    {
                      name := "Cart"
                      fields := [{ name := "owner", type := .message, typeName := ".base.User" }]
                    }
                  ]
              },
              { name := "base/user.proto", package := "base", messages := [{ name := "User" }] }
            ]
        }
      (∀ file ∈ request.files, ∀ text ∈ file.texts, MarkFree text.toList)
      ∧ ∃ results,
          outputs request = .ok results
          ∧ List.Forall₂
              (fun file output =>
                ∃ unit,
                  Generated request file unit
                  ∧ output = { name := outputName file.name, content := unit.render }
                  ∧ ImportUse unit)
              (request.files.filter (selects request)) results := by
  intro request
  have free : ∀ file ∈ request.files, ∀ text ∈ file.texts, MarkFree text.toList := by
    decide +kernel
  have some : (outputs request).toOption.isSome = true := by decide +kernel
  obtain ⟨results, kept⟩ := Option.isSome_iff_exists.mp some
  have accepted := toOption_eq_some.mp kept
  exact ⟨free, results, accepted, imports_are_what_is_used free accepted⟩

end ProtobufTypeScript.Generation
