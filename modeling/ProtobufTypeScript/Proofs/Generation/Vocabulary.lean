import ProtobufTypeScript.Proofs.Enumeration
import ProtobufTypeScript.Proofs.Generation.Stages
import ProtobufTypeScript.Proofs.Helper.Vocabulary
import ProtobufTypeScript.Proofs.Message.Vocabulary
import ProtobufTypeScript.Proofs.Service.Vocabulary

/-!
The vocabulary of units: all code that is generated for a file is within a vocabulary if the texts
of the file and the registered types are.
-/

namespace ProtobufTypeScript.Target.Vocabulary

open Generation Schema

variable {words : Vocabulary} {registry : Registry} {options : Options}

/-- The declarations for a visited type are within a vocabulary that has its texts, its
comments and the symbols of the registry: for a message its interface, its base instance and
its codec are, and for an enum its object.
-/
theorem covers_nodeItems (has : words.HasRegistry registry) {node : Node}
    (known : words.HasNode node) (documented : words.Documents node.cursor) {items : List Item}
    (found : nodeItems registry options node = .ok items)
    : ∀ item ∈ items, words.Covers item.block := by
  obtain ⟨named, spelled⟩ := known
  cases nodeItems_eq_ok.mp found with
  | message message shapes definition classified =>
      rw [definition] at spelled
      have hasShapes := hasShape_shapesOf has spelled classified
      refine List.forall_mem_cons.mpr ⟨?_, ?_⟩
      · exact covers_interface (hasInterface_interface named hasShapes documented)
      · split
        · refine List.forall_mem_cons.mpr ⟨?_, List.forall_mem_singleton.mpr ?_⟩
          · exact covers_baseInstance named hasShapes
          · exact covers_object (hasObject_codec named hasShapes)
        · simp
  | enumeration enumeration definition =>
      rw [definition] at spelled
      exact List.forall_mem_singleton.mpr
        (covers_enumeration (hasObject_enumeration named spelled documented))

variable {file : File}

/-- The declarations for the types of a file are within such a vocabulary. -/
theorem covers_typeItems (has : words.HasRegistry registry)
    (spelled : ∀ text ∈ file.texts, words.Spells text) {items : List Item}
    (found : typeItems registry options file = .ok items)
    : ∀ item ∈ items, words.Covers item.block := by
  intro item member
  obtain ⟨nodes, node, part, walked, inNodes, declared, inPart⟩ :=
    exists_node_of_mem_typeItems found member
  exact covers_nodeItems has (hasNode_nodes spelled walked node inNodes)
    (words.alphabet.documents_nodes spelled walked node inNodes) declared item inPart

/-- The declarations for the services of a file are within such a vocabulary. They are
made one by one from the texts of the file.
-/
theorem covers_serviceItems (has : words.HasRegistry registry)
    (spelled : ∀ text ∈ file.texts, words.Spells text) {items : List Item}
    (found : serviceItems registry options file = .ok items)
    : ∀ item ∈ items, words.Covers item.block := by
  intro item member
  obtain ⟨service, position, part, placed, declared, inPart⟩ :=
    exists_service_of_mem_serviceItems found member
  have serviceTexts : ∀ text ∈ service.texts, words.Spells text := by
    intro text inService
    refine spelled text ?_
    simp only [File.texts, List.mem_append, List.mem_flatMap]
    exact Or.inl (Or.inr ⟨service, List.fst_mem_of_mem_zipIdx placed, inService⟩)
  exact covers_declarations has (spelled _ (by simp [File.texts])) serviceTexts
    (documents_root spelled _) declared item inPart

/-- All items of a unit without helpers are within such a vocabulary. -/
theorem covers_bareUnit (has : words.HasRegistry registry)
    (spelled : ∀ text ∈ file.texts, words.Spells text) {bare : SourceUnit}
    (found : bareUnit registry options file = .ok bare)
    : ∀ item ∈ bare.items, words.Covers item.block := by
  obtain ⟨types, services, typesFound, servicesFound, rfl⟩ := bareUnit_eq_ok.mp found
  refine List.forall_mem_append.mpr ⟨List.forall_mem_append.mpr ⟨?_, ?_⟩, ?_⟩
  · exact covers_typeItems has spelled typesFound
  · exact covers_serviceItems has spelled servicesFound
  · split
    · simp
    · exact covers_shared options

/-- The unit for a file is within a vocabulary. -/
theorem covers_unit (has : words.HasRegistry registry)
    (spelled : ∀ text ∈ file.texts, words.Spells text) {unit : SourceUnit}
    (found : Generation.unit registry options file = .ok unit)
    : ∀ item ∈ unit.items, words.Covers item.block := by
  obtain ⟨bare, helpers, bareFound, helpersFound, rfl⟩ := unit_eq_ok.mp found
  exact List.forall_mem_append.mpr
    ⟨covers_bareUnit has spelled bareFound, covers_helpers has helpersFound⟩

end ProtobufTypeScript.Target.Vocabulary
