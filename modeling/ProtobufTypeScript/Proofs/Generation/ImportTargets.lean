import ProtobufTypeScript.Proofs.Generation.Items
import ProtobufTypeScript.Proofs.Schema.Registry
import ProtobufTypeScript.Proofs.Target.Export
import ProtobufTypeScript.Proofs.Target.MarkVocabulary
import ProtobufTypeScript.Proofs.Target.ModulePath

/-!
Where imports lead. When code is generated for all files of a request, every name that a unit
imports by a relative path is exported by the unit at the end of that path, which is another one.
-/

namespace ProtobufTypeScript.Generation

open Schema Target

section Exported

variable {registry : Registry} {options : Options}

/-- The declarations for a type export its identifier. -/
theorem exports_nodeItems (names : Symbol → String) {node : Node} {items : List Item}
    (free : MarkFree node.identifier.toList)
    (found : nodeItems registry options node = .ok items)
    : ∃ item ∈ items, item.Exports names node.identifier := by
  cases nodeItems_eq_ok.mp found with
  | message => exact ⟨_, List.mem_cons_self, Item.exports_interface names rfl rfl free⟩
  | enumeration => exact ⟨_, List.mem_cons_self, Item.exports_enumeration names free⟩

/-- The declarations for the types of a file are among the items of its unit. -/
theorem typeItems_subset {file : File} {unit : SourceUnit}
    (found : Generation.unit registry options file = .ok unit)
    : ∃ types, typeItems registry options file = .ok types ∧ types ⊆ unit.items := by
  obtain ⟨types, services, others, typesFound, -, items⟩ := exists_items_of_unit found
  refine ⟨types, typesFound, ?_⟩
  rw [items, List.append_assoc]
  exact List.subset_append_left _ _

/-- The unit for a file has the items of each type of the file. -/
theorem exists_nodeItems_root {file : File} {unit : SourceUnit} {nodes : List Node}
    (walked : file.nodes (.root file) options = .ok nodes)
    (found : Generation.unit registry options file = .ok unit) {node : Node}
    (member : node ∈ nodes)
    : ∃ items, nodeItems registry options node = .ok items ∧ items ⊆ unit.items := by
  obtain ⟨types, typesFound, subset⟩ := typeItems_subset found
  obtain ⟨placed, parts, samePlaced, made, rfl⟩ := typeItems_eq_ok.mp typesFound
  cases Except.ok.inj (walked.symm.trans samePlaced)
  obtain ⟨part, inParts, declared⟩ := exists_of_mem_left made member
  exact ⟨part, declared, fun item inPart => subset (List.mem_flatten.mpr ⟨part, inParts, inPart⟩)⟩

/-- The nodes were registered without comments; the unit has their items with them. -/
theorem exists_nodeItems {file : File} {unit : SourceUnit} {nodes : List Node}
    (walked : file.nodes .blind options = .ok nodes)
    (found : Generation.unit registry options file = .ok unit) {node : Node}
    (member : node ∈ nodes)
    : ∃ items,
        nodeItems registry options (node.below (.root file)) = .ok items
        ∧ items ⊆ unit.items := by
  have placed
      : file.nodes (.root file) options = .ok (nodes.map (Node.below (.root file))) := by
    rw [File.nodes_below, walked]
    rfl
  exact exists_nodeItems_root placed found (List.mem_map_of_mem member)

/-- The unit for a file exports the name of each type of the file. -/
theorem exports_unit {file : File} {unit : SourceUnit} {nodes : List Node}
    (walked : file.nodes .blind options = .ok nodes)
    (found : Generation.unit registry options file = .ok unit) {node : Node}
    (member : node ∈ nodes) (free : MarkFree node.identifier.toList)
    : unit.Exports node.identifier := by
  obtain ⟨items, declared, subset⟩ := exists_nodeItems walked found member
  have placed : MarkFree (node.below (.root file)).identifier.toList := free
  obtain ⟨item, inItems, exported⟩ := exports_nodeItems _ placed declared
  exact ⟨item, subset inItems, exported⟩

end Exported

variable {request : Request} {results : List Output}

/-- A request that selects no file in particular gives a unit for each of its files. -/
theorem exists_generated (everything : request.selected = [])
    (accepted : outputs request = .ok results) {file : File} (member : file ∈ request.files)
    : ∃ unit,
        Generated request file unit
        ∧ { name := outputName file.name, content := unit.render } ∈ results := by
  have selected : file ∈ request.files.filter (selects request) :=
    List.mem_filter.mpr ⟨member, by simp [selects, everything]⟩
  obtain ⟨output, inResults, unit, generated, rfl⟩ :=
    exists_of_mem_left (outputs_eq_ok accepted) selected
  exact ⟨unit, generated, inResults⟩

/-- A generated unit has the path of its file. -/
theorem Generated.module_eq {file : File} {unit : SourceUnit}
    (generated : Generated request file unit)
    : unit.module = unitPath file.name := by
  obtain ⟨registry, -, made⟩ := generated.made
  exact (heading_of_unit made).1

/-- The units of a request export the names of all registered types, as each type comes
from a file, whose unit declares and exports it.
-/
theorem exists_exporting (everything : request.selected = [])
    (ascii : ∀ file ∈ request.files, ∀ name ∈ file.typeNames, Vocabulary.isAscii name = true)
    (accepted : outputs request = .ok results) {registry : Registry}
    (built
      : Registry.ofFiles (Options.ofParameter request.parameter) request.files = .ok registry)
    {name : String} {entry : TypeEntry} (member : (name, entry) ∈ registry.entries)
    : ∃ file unit,
        Generated request file unit
        ∧ { name := outputName file.name, content := unit.render } ∈ results
        ∧ unit.module = entry.unit
        ∧ unit.Exports entry.identifier := by
  obtain ⟨file, inFiles, nodes, walked, node, inNodes, same⟩ :=
    Registry.comesFrom_of_mem_entries built _ member
  cases same
  obtain ⟨unit, generated, inResults⟩ := exists_generated everything accepted inFiles
  obtain ⟨_, -, made⟩ := generated.made
  have named : ∀ name ∈ file.typeNames, unmarked.Spells name :=
    fun name declared => Vocabulary.spells_of_isAscii (ascii file inFiles name declared)
  have spelled : unmarked.Spells node.identifier :=
    unmarked.alphabet.spells_identifier_nodes named walked node inNodes
  exact ⟨file, unit, generated, inResults, generated.module_eq,
    exports_unit walked made inNodes spelled⟩

/-- Libraries are not imported by relative paths. -/
theorem not_isRelative_library {symbol : Symbol} (member : symbol ∈ librarySymbols)
    {unit : SourceUnit} {place : Nat × String}
    (read : symbol.origin.module?.map unit.specifier = some place)
    : ¬ ModulePath.IsRelative place.2 := by
  intro relative
  have dotted := relative.head?_toList
  simp only [librarySymbols, List.mem_cons, List.not_mem_nil, or_false] at member
  rcases member with rfl | rfl | rfl | rfl | rfl <;>
    · cases read
      simp [SourceUnit.specifier] at dotted

/-- An import by a relative path is that of a registered type of another unit: the
specifiers of libraries are not relative.
-/
theorem exists_type_of_isRelative {registry : Registry} {options : Options} {file : File}
    {unit : SourceUnit} (made : Generation.unit registry options file = .ok unit)
    {statement : ImportStatement}
    (stated : statement ∈ unit.importStatements (unit.importNames unit.references))
    (relative : ModulePath.IsRelative statement.specifier) {entry : Import}
    (bound : entry ∈ statement.bound)
    : ∃ name type,
        (name, type) ∈ registry.entries
        ∧ entry.1.name = type.identifier
        ∧ statement.specifier = ModulePath.relative unit.module type.unit
        ∧ type.unit ≠ unit.module := by
  obtain ⟨⟨place, read, specified⟩, -⟩ := SourceUnit.placeOf?_of_bound stated bound
  rw [specified] at relative ⊢
  have member : entry ∈ unit.importNames unit.references :=
    (SourceUnit.bound_importNames unit).mem_iff.mp
      (List.mem_flatMap.mpr ⟨statement, stated, bound⟩)
  obtain ⟨recorded, imported⟩ :=
    SourceUnit.mem_map_fst_importNames.mp (List.mem_map_of_mem member)
  obtain ⟨symbol, localName⟩ := entry
  -- Of the symbols that code can mention, only those of registered types are in generated units.
  have known := isKnown_of_mentioned made symbol ((mem_recorded_unit made symbol).mp recorded)
  cases known with
  | library symbol inLibraries => exact absurd relative (not_isRelative_library inLibraries read)
  | helper helper => cases imported
  | type name type registered =>
      cases read
      have apart : type.unit ≠ unit.module := by
        intro same
        simp [SourceUnit.imports, TypeEntry.symbol, Symbol.ofUnit, same] at imported
      exact ⟨name, type, registered, rfl, rfl, apart⟩

/-- When code is generated for all files, a name that is imported by a relative path is
exported by another unit, at the end of that path. Witness: the registered type of that
name, and the file that it comes from.
-/
theorem relative_imports_are_exported (everything : request.selected = [])
    (ascii : ∀ file ∈ request.files, ∀ name ∈ file.typeNames, Vocabulary.isAscii name = true)
    (proper : ∀ file ∈ request.files, ModulePath.IsProper (unitPath file.name))
    (accepted : outputs request = .ok results) {file : File} {unit : SourceUnit}
    (generated : Generated request file unit) {statement : ImportStatement}
    (stated : statement ∈ unit.importStatements (unit.importNames unit.references))
    (relative : ModulePath.IsRelative statement.specifier) {entry : Import}
    (bound : entry ∈ statement.bound)
    : ∃ target targetUnit,
        Generated request target targetUnit
        ∧ { name := outputName target.name, content := targetUnit.render } ∈ results
        ∧ ModulePath.resolve unit.module statement.specifier = some targetUnit.module
        ∧ targetUnit.module ≠ unit.module
        ∧ targetUnit.Exports entry.1.name := by
  obtain ⟨registry, built, made⟩ := generated.made
  obtain ⟨name, type, registered, named, specified, apart⟩ :=
    exists_type_of_isRelative made stated relative bound
  obtain ⟨target, targetUnit, targetGenerated, inResults, module, exported⟩ :=
    exists_exporting everything ascii accepted built registered
  have here : ModulePath.IsProper unit.module := by
    rw [generated.module_eq]
    exact proper file generated.member
  have there : ModulePath.IsProper targetUnit.module := by
    rw [targetGenerated.module_eq]
    exact proper target targetGenerated.member
  refine ⟨target, targetUnit, targetGenerated, inResults, ?_, ?_, ?_⟩
  · rw [specified, ← module]
    exact ModulePath.resolve_relative here there
  · rw [module]
    exact apart
  · rw [named]
    exact exported

/-- A message with a field whose type belongs to a file in another directory. -/
theorem relative_imports_are_exported_two_files
    : let cart : File :=
        {
          name := "shop/cart.proto"
          package := "shop"
          messages :=
            [
              {
                name := "Cart"
                fields := [{ name := "owner", type := .message, typeName := ".base.User" }]
              }
            ]
        }
      let request : Request :=
        {
          parameter := "outputEncodeMethods=false,outputJsonMethods=false"
          files :=
            [
              cart,
              { name := "base/user.proto", package := "base", messages := [{ name := "User" }] }
            ]
        }
      let entry : Import := (Symbol.ofUnit "User" "base/user", "User")
      let statement : ImportStatement := .named [entry] "../base/user"
      request.selected = []
      ∧ (∀ file ∈ request.files, ∀ name ∈ file.typeNames, Vocabulary.isAscii name = true)
      ∧ (∀ file ∈ request.files, ModulePath.IsProper (unitPath file.name))
      ∧ ModulePath.IsRelative statement.specifier
      ∧ entry ∈ statement.bound
      ∧ ∃ results unit,
          outputs request = .ok results
          ∧ Generated request cart unit
          ∧ statement ∈ unit.importStatements (unit.importNames unit.references)
          ∧ ∃ target targetUnit,
              Generated request target targetUnit
              ∧ { name := outputName target.name, content := targetUnit.render } ∈ results
              ∧ ModulePath.resolve unit.module statement.specifier = some targetUnit.module
              ∧ targetUnit.module ≠ unit.module
              ∧ targetUnit.Exports entry.1.name := by
  intro cart request entry statement
  have ascii : ∀ file ∈ request.files, ∀ name ∈ file.typeNames, Vocabulary.isAscii name = true := by
    decide +kernel
  have proper : ∀ file ∈ request.files, ModulePath.IsProper (unitPath file.name) := by
    decide +kernel
  have relative : ModulePath.IsRelative statement.specifier := ⟨"base/user", Or.inr rfl⟩
  have bound : entry ∈ statement.bound := List.mem_cons_self
  have some : (outputs request).toOption.isSome = true := by decide +kernel
  have written
      : (Registry.ofFiles (Options.ofParameter request.parameter) request.files
          >>= fun registry =>
            Generation.unit registry (Options.ofParameter request.parameter) cart).toOption.map
          (fun unit => unit.importStatements (unit.importNames unit.references))
        = .some [statement] := by
    decide +kernel
  obtain ⟨results, kept⟩ := Option.isSome_iff_exists.mp some
  have accepted := toOption_eq_some.mp kept
  obtain ⟨unit, found, statements⟩ := Option.map_eq_some_iff.mp written
  obtain ⟨registry, built, made⟩ := bind_eq_ok.mp (toOption_eq_some.mp found)
  have generated : Generated request cart unit :=
    ⟨List.mem_cons_self, rfl, registry, built, made⟩
  have stated : statement ∈ unit.importStatements (unit.importNames unit.references) := by
    rw [statements]
    exact List.mem_cons_self
  exact ⟨rfl, ascii, proper, relative, bound, results, unit, accepted, generated, stated,
    relative_imports_are_exported rfl ascii proper accepted generated stated relative bound⟩

end ProtobufTypeScript.Generation
