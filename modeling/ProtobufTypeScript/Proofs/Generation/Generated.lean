import ProtobufTypeScript.Proofs.Generation.Vocabulary
import ProtobufTypeScript.Proofs.Target.ImportNaming

/-!
The units of a request, and the symbols that they mention: those of the libraries, of the helpers
and of the registered types, and no others.
-/

namespace ProtobufTypeScript.Generation

open Schema Target

/-- A unit that is generated for a file of a request. -/
structure Generated (request : Request) (file : File) (unit : SourceUnit) : Prop where
  member : file ∈ request.files
  selected : selects request file = true
  made
    : ∃ registry,
        Registry.ofFiles (Options.ofParameter request.parameter) request.files = .ok registry
        ∧ Generation.unit registry (Options.ofParameter request.parameter) file = .ok unit

/-- The unit for a file of a request, if there is one. -/
def unit? (request : Request) (file : File) : Option SourceUnit :=
  let options := Options.ofParameter request.parameter
  (Registry.ofFiles options request.files
    >>= fun registry => Generation.unit registry options file).toOption

/-- What is found to hold of the unit for a selected file holds of a unit that is
generated.
-/
theorem exists_generated_of_unit? {request : Request} {file : File} {p : SourceUnit → Bool}
    (member : file ∈ request.files) (selected : selects request file = true)
    (found : (unit? request file).map p = some true)
    : ∃ unit, Generated request file unit ∧ p unit = true := by
  obtain ⟨unit, made, held⟩ := Option.map_eq_some_iff.mp found
  obtain ⟨registry, built, made⟩ := bind_eq_ok.mp (toOption_eq_some.mp made)
  exact ⟨unit, ⟨member, selected, registry, built, made⟩, held⟩

/-- A unit that is generated for a file is the one that is found for it. -/
theorem Generated.unit?_eq {request : Request} {file : File} {unit : SourceUnit}
    (generated : Generated request file unit)
    : unit? request file = some unit := by
  obtain ⟨registry, built, made⟩ := generated.made
  exact toOption_eq_some.mpr (bind_eq_ok.mpr ⟨registry, built, made⟩)

/-- The outputs of a request are the texts of the units for its selected files, in order,
as each of them was made on its own.
-/
theorem outputs_eq_ok {request : Request} {results : List Output}
    (accepted : outputs request = .ok results)
    : List.Forall₂
        (fun file output =>
          ∃ unit,
            Generated request file unit
            ∧ output = { name := outputName file.name, content := unit.render })
        (request.files.filter (selects request)) results := by
  obtain ⟨registry, built, accepted⟩ := bind_eq_ok.mp accepted
  obtain ⟨-, -, accepted⟩ := bind_eq_ok.mp accepted
  have each :=
    (List.forall₂_and_left _ _).mpr ⟨fun file member => member, mapM_eq_ok.mp accepted⟩
  refine each.imp ?_
  rintro file output ⟨kept, found⟩
  obtain ⟨member, selected⟩ := List.mem_filter.mp kept
  obtain ⟨unit, made, rest⟩ := bind_eq_ok.mp found
  cases rest
  exact ⟨unit, ⟨member, selected, registry, built, made⟩, rfl⟩

/-- The outputs are named after the selected files, in order. -/
theorem names_of_outputs {request : Request} {results : List Output}
    (accepted : outputs request = .ok results)
    : results.map Output.name
      = (request.files.filter (selects request)).map (fun file => outputName file.name) := by
  rw [← List.forall₂_eq_eq_eq, List.forall₂_map_left_iff, List.forall₂_map_right_iff]
  refine (outputs_eq_ok accepted).flip.imp ?_
  rintro output file ⟨unit, -, rfl⟩
  rfl

/-- An accepted request has a unit for each selected file, and the outputs hold their
texts.
-/
theorem exists_units_of_outputs {request : Request} {results : List Output}
    (accepted : outputs request = .ok results)
    : ∃ units,
        List.Forall₂ (Generated request) (request.files.filter (selects request)) units
        ∧ List.Forall₂ (fun unit output => output.content = unit.render) units results := by
  refine exists_between ((outputs_eq_ok accepted).imp ?_)
  rintro file output ⟨unit, generated, rfl⟩
  exact ⟨unit, generated, rfl⟩

/-- The symbols of the libraries. -/
def librarySymbols : List Symbol :=
  [Library.reader, Library.writer, Library.long, Library.dataLoader, Library.hash]

/-- No registered type has the symbol of a helper. -/
theorem symbol_ne_helper {type : TypeEntry} {helper : Helper}
    : type.symbol ≠ helper.symbol := by
  intro same
  cases congrArg Symbol.origin same

/-- Whether code may mention a symbol when types are registered: it belongs to a library,
to a helper or to a registered type.
-/
inductive IsKnown (registry : Registry) : Symbol → Prop
  | library (symbol : Symbol) (member : symbol ∈ librarySymbols)
    : IsKnown registry symbol
  | helper (helper : Helper)
    : IsKnown registry helper.symbol
  | type (name : String) (entry : TypeEntry) (member : (name, entry) ∈ registry.entries)
    : IsKnown registry entry.symbol

/-- All characters, and the symbols that code may mention when types are registered. -/
def known (registry : Registry) : Vocabulary where
  letter _ := True
  symbol := IsKnown registry
  ascii _ _ := trivial
  upperCase _ _ _ _ := trivial
  reader := .library _ (by decide)
  writer := .library _ (by decide)
  long := .library _ (by decide)
  dataLoader := .library _ (by decide)
  hash := .library _ (by decide)
  helper helper _ := .helper helper

/-- The vocabulary of known symbols has all of a registry. -/
theorem hasRegistry_known (registry : Registry)
    : (known registry).HasRegistry registry := by
  refine ⟨fun item member => ⟨.type item.1 item.2 member, ?_⟩, fun _ _ helper _ => .helper helper⟩
  cases definition : item.2.definition with
  | message message => exact fun _ _ _ _ => trivial
  | enumeration enumeration => exact fun _ _ _ _ => trivial

/-- The symbols of a unit are known. -/
theorem isKnown_of_mentioned {registry : Registry} {options : Options} {file : File}
    {unit : SourceUnit} (made : Generation.unit registry options file = .ok unit)
    : ∀ symbol ∈ unit.mentioned, IsKnown registry symbol := by
  intro symbol mentioned
  obtain ⟨item, inUnit, member⟩ := List.mem_flatMap.mp mentioned
  obtain ⟨line, inBlock, inLine⟩ := Block.mem_symbols_iff.mp member
  have covered := Vocabulary.covers_unit (hasRegistry_known registry)
    (fun _ _ _ _ => trivial) made item inUnit
  exact covered _ inBlock _ (Snippet.mem_symbols_iff.mp inLine)

/-- A helper that a unit mentions is one that there is. -/
theorem exists_helper_of_mentioned {registry : Registry} {options : Options} {file : File}
    {unit : SourceUnit} (made : Generation.unit registry options file = .ok unit) {name : String}
    (mentioned : Symbol.ofHelper name ∈ unit.mentioned)
    : ∃ helper : Helper, helper.name = name := by
  generalize same : Symbol.ofHelper name = symbol at mentioned
  cases isKnown_of_mentioned made symbol mentioned with
  | library symbol inLibraries =>
      have plain : ∀ symbol ∈ librarySymbols, symbol.isHelper = false := by decide
      subst same
      cases plain _ inLibraries
  | helper helper => exact ⟨helper, (congrArg Symbol.name same).symm⟩
  | type _ entry _ => cases congrArg Symbol.origin same

end ProtobufTypeScript.Generation
