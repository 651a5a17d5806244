import Mathlib.Order.Bounds.Defs
import ProtobufTypeScript.Proofs.Generation.Acceptance
import ProtobufTypeScript.Proofs.Generation.Items

/-!
Helpers are declared exactly when they are mentioned. The declarations for given names are those of
the least set of helpers that has the names and all that its declarations mention; they fail only
for want of the timestamp message, and never for a unit. What a unit declares last are the helpers
that it mentions, in their order.
-/

namespace ProtobufTypeScript

open Schema Target

namespace Helper

/-- Whether a set of helpers has those of given names, and with a helper all that the
declaration of this mentions.
-/
structure IsComplete (registry : Registry) (options : Options) (names : List String)
    (helpers : Set Helper)
    : Prop where
  asked : ∀ helper : Helper, helper.name ∈ names → helper ∈ helpers
  mentioned
    : ∀ other ∈ helpers,
        ∀ item,
          declaration registry options other = .ok item
          → ∀ helper : Helper, helper.symbol ∈ item.block.symbols → helper ∈ helpers

/-- What the declarations of the helpers for given names are, and when there are none. -/
structure DeclaresNeeded (registry : Registry) (options : Options) (names : List String)
    : Prop where
  least
    : IsLeast {helpers | IsComplete registry options names helpers}
        {helper | Needed registry options names helper}
  /-- There is one declaration for each helper that is needed, in the order of all
  helpers.
  -/
  declared
    : ∀ items,
        declarations registry options names = .ok items
        → ∃ helpers : List Helper,
            helpers.Sublist all
            ∧ (∀ helper, helper ∈ helpers ↔ Needed registry options names helper)
            ∧ List.Forall₂ (fun helper item => declaration registry options helper = .ok item)
                helpers items
  fails
    : Fails (declarations registry options names)
      ↔ (∃ helper, Needed registry options names helper ∧ helper.needsTimestamp = true)
        ∧ registry.get? Field.timestampName = none

variable {registry : Registry} {options : Options} {names : List String}

/-- The needed helpers are the least ones that are complete. Whatever is complete has them
all, by induction on why they are needed.
-/
theorem isLeast_needed
    : IsLeast {helpers | IsComplete registry options names helpers}
        {helper | Needed registry options names helper} := by
  constructor
  · exact {
      asked := .asked
      mentioned := fun other needed item declared helper member =>
        .mentioned helper other needed item declared member
    }
  · intro helpers complete helper needed
    induction needed with
    | asked helper named => exact complete.asked helper named
    | mentioned helper other _ item declared member ih =>
        exact complete.mentioned other ih item declared helper member

/-- A type has no symbol exactly if it is not registered. -/
theorem fails_symbol_iff {name : String}
    : Fails (registry.symbol name) ↔ registry.get? name = none := by
  rw [Registry.symbol, fails_map, Registry.entry]
  cases registry.get? name <;> simp

/-- What is declared for some names are the needed helpers, each once and in order, or
nothing if one of them cannot be declared.
-/
theorem declaresNeeded (registry : Registry) (options : Options) (names : List String)
    : DeclaresNeeded registry options names where
  least := isLeast_needed
  declared items found :=
    ⟨_, neededFor_sublist, fun _ => mem_neededFor, declarations_eq_ok.mp found⟩
  fails := by
    rw [fails_declarations]
    simp only [Generation.fails_declaration, fails_symbol_iff]
    rw [← exists_and_right]
    exact exists_congr (fun helper => and_assoc.symm)

end Helper

namespace Generation

variable {registry : Registry} {options : Options} {file : File} {bare unit : SourceUnit}

/-- What the helpers in a unit are, which are added to the code for its file. -/
structure HelperUse (registry : Registry) (options : Options) (bare unit : SourceUnit)
    (helpers : List Helper) (items : List Item)
    : Prop where
  last : unit.items = bare.items ++ items
  declared
    : List.Forall₂ (fun helper item => Helper.declaration registry options helper = .ok item)
        helpers items
  /-- Each item declares the name of its helper. -/
  named : List.Forall₂ (fun helper item => helper.name ∈ item.declaredNames) helpers items
  /-- Each helper is declared once, in the order of all helpers. -/
  ordered : helpers.Sublist Helper.all
  /-- The helpers are those that the unit mentions, in their own declarations or before.
  -/
  mentioned : ∀ name, name ∈ unit.references.helpers ↔ ∃ helper ∈ helpers, helper.name = name
  /-- No helper is declared before. -/
  apart : ∀ item ∈ bare.items, ∀ helper, Helper.declaration registry options helper ≠ .ok item

/-- Whether the unit for a file of a request ends with the helpers that it mentions. -/
def EndsWithHelpers (request : Request) (file : File) (unit : SourceUnit) : Prop :=
  let options := Options.ofParameter request.parameter
  ∃ registry bare helpers items,
    Registry.ofFiles options request.files = .ok registry
    ∧ bareUnit registry options file = .ok bare
    ∧ HelperUse registry options bare unit helpers items

/-- A helper is declared as a function or as lines of code. Witness: the helpers one by
one, of which those for timestamps look up a type first.
-/
theorem isCode_of_helper {helper : Helper} {item : Item}
    (declared : Helper.declaration registry options helper = .ok item)
    : (∃ function, item = .function function false) ∨ ∃ block, item = .code block := by
  cases helper with
  | longToNumber | longToString | numberToLong =>
      cases declared
      exact Or.inl ⟨_, rfl⟩
  | deepPartial =>
      cases declared
      exact Or.inr ⟨_, rfl⟩
  | toTimestamp | fromTimestamp | fromJsonTimestamp =>
      obtain ⟨timestamp, -, declared⟩ := bind_eq_ok.mp declared
      cases declared
      exact Or.inl ⟨_, rfl⟩

/-- The code for a file declares no helper. Its items are of the kinds that units are made
of, taken for a unit that mentions no helper.
-/
theorem declaration_ne_of_mem_bareUnit (found : bareUnit registry options file = .ok bare)
    {item : Item} (member : item ∈ bare.items) (helper : Helper)
    : Helper.declaration registry options helper ≠ .ok item := by
  intro declared
  have isCode := isCode_of_helper declared
  -- A unit without items mentions no helper, so that what is made for it is none.
  have made : Makes registry options file { module := "" } item :=
    makes_of_mem_bareUnit found item member
  cases made with
  | shared _ inShared =>
      obtain ⟨interface, rfl⟩ := isInterface_of_mem_shared inShared
      simp at isCode
  | helper other _ _ mentioned => cases mentioned
  | interface | base | codec | enumeration | contract | client => simp at isCode

/-- A unit ends with the declarations of the helpers that it mentions. Witness: the unit
without helpers, the helpers needed for what it mentions, and their items.
-/
theorem exists_helperUse (made : Generation.unit registry options file = .ok unit)
    : ∃ bare helpers items,
        bareUnit registry options file = .ok bare
        ∧ HelperUse registry options bare unit helpers items := by
  have known
      : ∀ name ∈ unit.references.helpers, ∃ helper : Helper, helper.name = name :=
    fun _ member =>
      exists_helper_of_mentioned made
        ((mem_recorded_unit made _).mp (References.mem_helpers_ofSymbols.mp member))
  have records := mem_recorded_unit made
  obtain ⟨bare, items, bareFound, found, rfl⟩ := unit_eq_ok.mp made
  have each := Helper.declarations_eq_ok.mp found
  refine ⟨bare, _, items, bareFound, {
    last := rfl
    declared := each
    named :=
      each.imp (fun helper item declared =>
        declaredNames_of_helper declared ▸ name_mem_helperNames helper)
    ordered := Helper.neededFor_sublist
    mentioned := ?_
    apart := fun item member => declaration_ne_of_mem_bareUnit bareFound member
  }⟩
  intro name
  have parted
      : name ∈ (SourceUnit.references { bare with items := bare.items ++ items }).helpers
        ↔ name ∈ bare.references.helpers
          ∨ ∃ item ∈ items, Symbol.ofHelper name ∈ item.block.symbols := by
    rw [SourceUnit.references, SourceUnit.references, References.mem_helpers_ofSymbols,
      References.mem_helpers_ofSymbols, records, mem_recorded_bareUnit bareFound]
    simp [SourceUnit.mentioned, List.flatMap_append]
  constructor
  · intro mentioned
    obtain ⟨helper, rfl⟩ := known name mentioned
    refine ⟨helper, Helper.mem_neededFor.mpr ?_, rfl⟩
    rcases parted.mp mentioned with asked | ⟨item, inItems, member⟩
    · exact .asked helper asked
    · obtain ⟨other, needed, declared⟩ := exists_of_mem_right each inItems
      exact .mentioned helper other (Helper.mem_neededFor.mp needed) item declared member
  · rintro ⟨helper, needed, rfl⟩
    rw [parted]
    cases Helper.mem_neededFor.mp needed with
    | asked _ named => exact Or.inl named
    | mentioned _ other also item declared member =>
        obtain ⟨listed, inItems, same⟩ := exists_of_mem_left each (Helper.mem_neededFor.mpr also)
        rw [declared, Except.ok.injEq] at same
        exact Or.inr ⟨listed, inItems, same ▸ member⟩

/-- The units for the selected files of a request before helpers are added. -/
def bareUnits (request : Request) : Except GenerationError (List SourceUnit) := do
  let options := Options.ofParameter request.parameter
  let registry ← Registry.ofFiles options request.files
  request.selected.forM (checkSelected request.files)
  (request.files.filter (selects request)).mapM (bareUnit registry options)

/-- A request is accepted if its units can be made as far as the helpers, since helpers
that are mentioned can always be declared.
-/
theorem exists_outputs_of_bareUnits {request : Request} {units : List SourceUnit}
    (found : bareUnits request = .ok units)
    : ∃ results, outputs request = .ok results := by
  obtain ⟨registry, built, found⟩ := bind_eq_ok.mp found
  obtain ⟨_, checked, found⟩ := bind_eq_ok.mp found
  rw [← not_fails_iff, outputs, built]
  show ¬ Fails (request.selected.forM (checkSelected request.files) >>= fun _ => _)
  rw [checked]
  show ¬ Fails ((request.files.filter (selects request)).mapM
    (output registry (Options.ofParameter request.parameter)))
  rw [fails_mapM]
  rintro ⟨file, kept, failed⟩
  obtain ⟨bare, -, bareFound⟩ := exists_of_mem_left (mapM_eq_ok.mp found) kept
  rw [output, fails_bind_pure, Generation.unit, bareFound] at failed
  exact not_fails_declarations bareFound (fails_bind_pure.mp failed)

/-- In the units of an accepted request exactly those helpers are declared that are
mentioned; no unit fails for want of a helper; and in general the declarations for given
names are those of the least complete set of helpers. Each part is shown for all requests,
options and names.
-/
theorem helpers_are_those_mentioned
    : (∀ request results,
        outputs request = .ok results
        → List.Forall₂
            (fun file output =>
              ∃ unit,
                Generated request file unit
                ∧ output = { name := outputName file.name, content := unit.render }
                ∧ EndsWithHelpers request file unit)
            (request.files.filter (selects request)) results)
      ∧ (∀ registry options file bare,
          bareUnit registry options file = .ok bare
          → ∃ items, Helper.declarations registry options bare.references.helpers = .ok items)
      ∧ ∀ registry options names, Helper.DeclaresNeeded registry options names := by
  refine ⟨fun request results accepted => ?_, fun registry options file bare found => ?_,
    Helper.declaresNeeded⟩
  · refine (outputs_eq_ok accepted).imp ?_
    rintro file output ⟨unit, generated, same⟩
    obtain ⟨registry, built, made⟩ := generated.made
    obtain ⟨bare, helpers, items, found, used⟩ := exists_helperUse made
    exact ⟨unit, generated, same, registry, bare, helpers, items, built, found, used⟩
  · exact not_fails_iff.mp (not_fails_declarations found)

/-- A point in time and long-integer objects: the helper that makes such an object is
mentioned by no field, only by a helper.
-/
theorem helpers_are_those_mentioned_visits
    : let visit : Message :=
        {
          name := "Visit"
          fields :=
            [
              {
                name := "time"
                number := 1
                type := .message
                typeName := ".google.protobuf.Timestamp"
              }
            ]
        }
      let times : File :=
        {
          name := "google/protobuf/timestamp.proto"
          package := "google.protobuf"
          messages :=
            [{ name := "Timestamp", fields := [{ name := "seconds", type := .scalar .int64 }] }]
        }
      let request : Request :=
        {
          selected := ["visit.proto"]
          parameter := "forceLong=long"
          files := [{ name := "visit.proto", messages := [visit] }, times]
        }
      ∃ results,
        outputs request = .ok results
        ∧ List.Forall₂
            (fun file output =>
              ∃ unit,
                Generated request file unit
                ∧ output = { name := outputName file.name, content := unit.render }
                ∧ EndsWithHelpers request file unit)
            (request.files.filter (selects request)) results := by
  intro visit times request
  have some : (bareUnits request).toOption.isSome = true := by decide +kernel
  obtain ⟨units, kept⟩ := Option.isSome_iff_exists.mp some
  obtain ⟨results, accepted⟩ := exists_outputs_of_bareUnits (toOption_eq_some.mp kept)
  exact ⟨results, accepted, helpers_are_those_mentioned.1 request results accepted⟩

end Generation

end ProtobufTypeScript
