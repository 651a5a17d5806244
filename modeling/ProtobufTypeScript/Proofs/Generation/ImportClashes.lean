import ProtobufTypeScript.Proofs.Generation.Items

/-!
Imports next to the declarations of a unit. The local name of an import is none of the names that
the unit declares, but for those that are not set aside when imports are named: the names of base
instances, and the name of the type of values that partial messages keep.
-/

namespace ProtobufTypeScript.Target

namespace SourceUnit

variable {unit : SourceUnit} {name : String}

/-- The names that the imports of a unit bind. -/
def boundNames (unit : SourceUnit) : List String :=
  (unit.importStatements (unit.importNames unit.references)).flatMap
    (fun statement => statement.bound.map Prod.snd)

/-- The names that the items of a unit declare. -/
def declaredNames (unit : SourceUnit) : List String :=
  unit.items.flatMap Item.declaredNames

/-- The bound names are the local names of the imports. -/
theorem mem_boundNames
    : name ∈ unit.boundNames ↔ ∃ entry ∈ unit.importNames unit.references, entry.2 = name := by
  rw [boundNames, ← List.map_flatMap, List.mem_map]
  simp only [(bound_importNames unit).mem_iff]

/-- An import never takes a reserved name. -/
theorem not_reserved_of_mem_boundNames (bound : name ∈ unit.boundNames)
    : ¬ unit.Reserved name := by
  obtain ⟨entry, member, rfl⟩ := mem_boundNames.mp bound
  exact fun reserved => not_mem_taken_of_assignNames member (mem_takenNames.mpr reserved)

end SourceUnit

end ProtobufTypeScript.Target

namespace ProtobufTypeScript.Generation

open Schema Target

/-- The names that a unit declares without setting them aside. -/
inductive Unguarded (unit : SourceUnit) : String → Prop
  /-- The name of the base instance of one of its messages. -/
  | base (identifier : String) (declared : identifier ∈ unit.declared)
    : Unguarded unit (Message.baseName identifier)
  | builtin : Unguarded unit "Builtin"

variable {registry : Registry} {options : Options} {file : File} {unit : SourceUnit} {item : Item}

/-- Every name that an item of a unit declares is reserved or unguarded. Witness: the
kinds of items, with what each of them declares.
-/
theorem reserved_or_unguarded
    (aside
      : ∀ nodes,
          file.nodes (.root file) options = .ok nodes
          → ∀ node ∈ nodes, node.identifier ∈ unit.declared)
    (records : ∀ symbol, symbol ∈ unit.recorded ↔ symbol ∈ unit.mentioned)
    (member : item ∈ unit.items) (made : Makes registry options file unit item)
    : ∀ name ∈ item.declaredNames, unit.Reserved name ∨ Unguarded unit name := by
  intro name declared
  cases made with
  | interface node message shapes found =>
      rw [List.mem_singleton.mp declared]
      exact Or.inl (.item _ member rfl)
  | base node message shapes found wanted =>
      obtain ⟨nodes, walked, inFile⟩ := found.inFile
      rw [List.mem_singleton.mp declared]
      exact Or.inr (.base node.identifier (aside nodes walked node inFile))
  | codec node message shapes found wanted =>
      obtain ⟨nodes, walked, inFile⟩ := found.inFile
      rw [List.mem_singleton.mp declared]
      exact Or.inl (.declared (aside nodes walked node inFile))
  | enumeration node enumeration found =>
      obtain ⟨nodes, walked, inFile⟩ := found.inFile
      rw [List.mem_singleton.mp declared]
      exact Or.inl (.declared (aside nodes walked node inFile))
  | contract service cursor endpoints inFile found =>
      rw [List.mem_singleton.mp declared]
      exact Or.inl (.item _ member rfl)
  | client service endpoints inFile found wanted =>
      rw [List.mem_singleton.mp declared]
      exact Or.inl (.item _ member rfl)
  | shared shared inShared =>
      obtain ⟨interface, rfl⟩ := isInterface_of_mem_shared inShared
      rw [List.mem_singleton.mp declared]
      exact Or.inl (.item _ member rfl)
  | helper helper item found mentioned =>
      rcases declaredNames_helper found name declared with rfl | rfl
      · exact Or.inl (.helper ((records _).mpr mentioned))
      · exact Or.inr .builtin

/-- An import has the name of a declaration of its unit only if that name is not guarded.
Names that are guarded are reserved, and no import gets these.
-/
theorem unguarded_of_clash {request : Request} (generated : Generated request file unit)
    {name : String} (bound : name ∈ unit.boundNames) (declared : name ∈ unit.declaredNames)
    : Unguarded unit name := by
  obtain ⟨registry, built, made⟩ := generated.made
  obtain ⟨item, member, inItem⟩ := List.mem_flatMap.mp declared
  have aside
      : ∀ nodes,
          file.nodes (.root file) (Options.ofParameter request.parameter) = .ok nodes
          → ∀ node ∈ nodes, node.identifier ∈ unit.declared := by
    intro nodes walked node inFile
    rw [(heading_of_unit made).2.2]
    exact identifier_mem_identifiersIn built generated.member walked inFile
  rcases reserved_or_unguarded aside (mem_recorded_unit made) member
      (makes_of_mem_unit made item member) _ inItem
    with reserved | unguarded
  · exact absurd reserved (SourceUnit.not_reserved_of_mem_boundNames bound)
  · exact unguarded

/-- One message has a field of a type with the name of its base instance, another one a
field of a type with the name of the type of the values to keep.
-/
theorem unguarded_of_clash_base_and_builtin
    : let user : File :=
        {
          name := "user.proto"
          messages :=
            [
              {
                name := "User"
                fields := [{ name := "origin", type := .message, typeName := ".baseUser" }]
              }
            ]
        }
      let cart : File :=
        {
          name := "cart.proto"
          messages :=
            [
              {
                name := "Cart"
                fields := [{ name := "origin", type := .message, typeName := ".Builtin" }]
              }
            ]
        }
      let base : File :=
        { name := "base.proto", messages := [{ name := "baseUser" }, { name := "Builtin" }] }
      let request : Request :=
        { parameter := "outputEncodeMethods=false", files := [user, cart, base] }
      (outputs request).toOption.isSome = true
      ∧ (∃ unit,
          Generated request user unit
          ∧ "baseUser" ∈ unit.boundNames
          ∧ "baseUser" ∈ unit.declaredNames
          ∧ Unguarded unit "baseUser")
      ∧ ∃ unit,
          Generated request cart unit
          ∧ "Builtin" ∈ unit.boundNames
          ∧ "Builtin" ∈ unit.declaredNames
          ∧ Unguarded unit "Builtin" := by
  intro user cart base request
  have accepted : (outputs request).toOption.isSome = true := by decide +kernel
  have clashing
      : ∀ file ∈ request.files, ∀ name,
          (unit? request file).map
              (fun unit => unit.boundNames.contains name && unit.declaredNames.contains name)
            = some true
          → ∃ unit,
              Generated request file unit
              ∧ name ∈ unit.boundNames
              ∧ name ∈ unit.declaredNames
              ∧ Unguarded unit name := by
    intro file member name found
    obtain ⟨unit, generated, both⟩ := exists_generated_of_unit? member rfl found
    rw [Bool.and_eq_true, List.contains_iff_mem, List.contains_iff_mem] at both
    exact ⟨unit, generated, both.1, both.2, unguarded_of_clash generated both.1 both.2⟩
  have inUser := clashing user (by simp [request]) "baseUser" (by decide +kernel)
  have inCart := clashing cart (by simp [request]) "Builtin" (by decide +kernel)
  exact ⟨accepted, inUser, inCart⟩

end ProtobufTypeScript.Generation
