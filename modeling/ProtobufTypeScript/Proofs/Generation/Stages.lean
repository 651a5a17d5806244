import ProtobufTypeScript.Generation
import ProtobufTypeScript.Proofs.Except

/-!
The stages of a unit. Each stage is described by what it is made of once it has a result, so that
what holds of the items of a unit is shown from the stage that they come from and not by going
through its steps.
-/

namespace ProtobufTypeScript.Generation

open Schema Target

variable {registry : Registry} {options : Options} {file : File} {node : Node} {items : List Item}

/-- The declarations that a type may have: up to three for a message whose fields are read as
given shapes, and one for an enum.
-/
inductive IsNodeItems (registry : Registry) (options : Options) (node : Node)
    : List Item → Prop where
  | message (message : Message) (shapes : List Field.Shape)
    (definition : node.definition = .message message)
    (classified : Field.shapesOf registry options message = .ok shapes)
    : IsNodeItems registry options node
        (.interface (Message.interface options node.identifier shapes node.cursor)
          :: if options.hasCodecs then
              [
                .values (Message.baseInstance options node.identifier shapes),
                .object (Message.codec options node.identifier shapes)
              ]
            else [])
  | enumeration (enumeration : Enumeration)
    (definition : node.definition = .enumeration enumeration)
    : IsNodeItems registry options node
        [.enumeration (Enumeration.declaration options node.identifier enumeration node.cursor)]

/-- The declarations for a type are just these. -/
theorem nodeItems_eq_ok
    : nodeItems registry options node = .ok items ↔ IsNodeItems registry options node items := by
  constructor
  · intro found
    unfold nodeItems at found
    split at found
    · rename_i message definition
      obtain ⟨shapes, classified, rest⟩ := bind_eq_ok.mp found
      cases rest
      exact .message message shapes definition classified
    · rename_i enumeration definition
      cases found
      exact .enumeration enumeration definition
  · rintro (⟨message, shapes, definition, classified⟩ | ⟨enumeration, definition⟩)
    · simp only [nodeItems, definition]
      exact bind_eq_ok.mpr ⟨shapes, classified, rfl⟩
    · simp only [nodeItems, definition]

/-- The declarations for the types of a file are those for each node of the walk, in order. -/
theorem typeItems_eq_ok
    : typeItems registry options file = .ok items
      ↔ ∃ nodes parts,
          file.nodes (.root file) options = .ok nodes
          ∧ List.Forall₂ (fun node part => nodeItems registry options node = .ok part) nodes parts
          ∧ items = parts.flatten := by
  constructor
  · intro found
    obtain ⟨nodes, walked, found⟩ := bind_eq_ok.mp found
    obtain ⟨parts, made, rest⟩ := bind_eq_ok.mp found
    cases rest
    exact ⟨nodes, parts, walked, mapM_eq_ok.mp made, rfl⟩
  · rintro ⟨nodes, parts, walked, made, rfl⟩
    exact bind_eq_ok.mpr ⟨nodes, walked, bind_eq_ok.mpr ⟨parts, mapM_eq_ok.mpr made, rfl⟩⟩

/-- Each declaration for the types of a file is one of those for some node of the walk. -/
theorem exists_node_of_mem_typeItems (found : typeItems registry options file = .ok items)
    {item : Item} (member : item ∈ items)
    : ∃ nodes node part,
        file.nodes (.root file) options = .ok nodes
        ∧ node ∈ nodes
        ∧ nodeItems registry options node = .ok part
        ∧ item ∈ part := by
  obtain ⟨nodes, parts, walked, made, rfl⟩ := typeItems_eq_ok.mp found
  obtain ⟨part, inParts, inPart⟩ := List.mem_flatten.mp member
  obtain ⟨node, inNodes, declared⟩ := exists_of_mem_right made inParts
  exact ⟨nodes, node, part, walked, inNodes, declared, inPart⟩

/-- The declarations for the services of a file are those for each of them at its place, in
order.
-/
theorem serviceItems_eq_ok
    : serviceItems registry options file = .ok items
      ↔ ∃ parts,
          List.Forall₂
            (fun (service, position) part =>
              Service.declarations registry options file.package service
                  ((Cursor.root file).enter Child.serviceInFile position)
                = .ok part)
            file.services.zipIdx parts
          ∧ items = parts.flatten := by
  constructor
  · intro found
    obtain ⟨parts, made, rest⟩ := bind_eq_ok.mp found
    cases rest
    rw [mapM_eq_ok, File.servicesAt, List.forall₂_map_left_iff] at made
    exact ⟨parts, made, rfl⟩
  · rintro ⟨parts, made, rfl⟩
    refine bind_eq_ok.mpr ⟨parts, ?_, rfl⟩
    rw [mapM_eq_ok, File.servicesAt, List.forall₂_map_left_iff]
    exact made

/-- The items for the services of a file are those for each of them, wherever they stand. -/
theorem exists_parts_of_serviceItems (found : serviceItems registry options file = .ok items)
    : ∃ parts,
        items = parts.flatten
        ∧ List.Forall₂
            (fun service part =>
              ∃ cursor,
                Service.declarations registry options file.package service cursor = .ok part)
            file.services parts := by
  obtain ⟨parts, made, rfl⟩ := serviceItems_eq_ok.mp found
  refine ⟨parts, rfl, ?_⟩
  rw [← List.zipIdx_map_fst 0 file.services, List.forall₂_map_left_iff]
  exact made.imp (fun placed part declared => ⟨_, declared⟩)

/-- Each declaration for the services of a file is one of those for some service of it. -/
theorem exists_service_of_mem_serviceItems
    (found : serviceItems registry options file = .ok items) {item : Item} (member : item ∈ items)
    : ∃ service position part,
        (service, position) ∈ file.services.zipIdx
        ∧ Service.declarations registry options file.package service
              ((Cursor.root file).enter Child.serviceInFile position)
            = .ok part
        ∧ item ∈ part := by
  obtain ⟨parts, made, rfl⟩ := serviceItems_eq_ok.mp found
  obtain ⟨part, inParts, inPart⟩ := List.mem_flatten.mp member
  obtain ⟨⟨service, position⟩, placed, declared⟩ := exists_of_mem_right made inParts
  exact ⟨service, position, part, placed, declared, inPart⟩

/-- The unit for a file before helpers are added has the declarations for its types, those for
its services, and what services share if there are any.
-/
theorem bareUnit_eq_ok {bare : SourceUnit}
    : bareUnit registry options file = .ok bare
      ↔ ∃ types services,
          typeItems registry options file = .ok types
          ∧ serviceItems registry options file = .ok services
          ∧ bare = {
              module := unitPath file.name
              header := ((Cursor.root file).lookupSingle Child.syntaxOfFile).text
              items :=
                types ++ services ++ if file.services.isEmpty then [] else Service.shared options
              declared := registry.identifiersIn (unitPath file.name)
            } := by
  constructor
  · intro found
    obtain ⟨types, typesFound, found⟩ := bind_eq_ok.mp found
    obtain ⟨services, servicesFound, rest⟩ := bind_eq_ok.mp found
    cases rest
    exact ⟨types, services, typesFound, servicesFound, rfl⟩
  · rintro ⟨types, services, typesFound, servicesFound, rfl⟩
    exact bind_eq_ok.mpr ⟨types, typesFound, bind_eq_ok.mpr ⟨services, servicesFound, rfl⟩⟩

/-- The unit for a file is the one without helpers, and behind its items those of the helpers
that are needed for what it records.
-/
theorem unit_eq_ok {unit : SourceUnit}
    : Generation.unit registry options file = .ok unit
      ↔ ∃ bare helpers,
          bareUnit registry options file = .ok bare
          ∧ Helper.declarations registry options bare.references.helpers = .ok helpers
          ∧ unit = { bare with items := bare.items ++ helpers } := by
  constructor
  · intro found
    obtain ⟨bare, bareFound, found⟩ := bind_eq_ok.mp found
    obtain ⟨helpers, helpersFound, rest⟩ := bind_eq_ok.mp found
    cases rest
    exact ⟨bare, helpers, bareFound, helpersFound, rfl⟩
  · rintro ⟨bare, helpers, bareFound, helpersFound, rfl⟩
    exact bind_eq_ok.mpr ⟨bare, bareFound, bind_eq_ok.mpr ⟨helpers, helpersFound, rfl⟩⟩

/-- The items of a unit begin with those for the types of its file and those for its
services.
-/
theorem exists_items_of_unit {unit : SourceUnit}
    (found : Generation.unit registry options file = .ok unit)
    : ∃ types services others,
        typeItems registry options file = .ok types
        ∧ serviceItems registry options file = .ok services
        ∧ unit.items = types ++ services ++ others := by
  obtain ⟨bare, helpers, bareFound, -, rfl⟩ := unit_eq_ok.mp found
  obtain ⟨types, services, typesFound, servicesFound, rfl⟩ := bareUnit_eq_ok.mp bareFound
  exact ⟨types, services, _, typesFound, servicesFound, List.append_assoc ..⟩

/-- The module, the heading and the names that are set aside for types are those of the file. -/
theorem heading_of_unit {unit : SourceUnit}
    (found : Generation.unit registry options file = .ok unit)
    : unit.module = unitPath file.name
      ∧ unit.header = ((Cursor.root file).lookupSingle Child.syntaxOfFile).text
      ∧ unit.declared = registry.identifiersIn (unitPath file.name) := by
  obtain ⟨bare, helpers, bareFound, -, rfl⟩ := unit_eq_ok.mp found
  obtain ⟨types, services, -, -, rfl⟩ := bareUnit_eq_ok.mp bareFound
  exact ⟨rfl, rfl, rfl⟩

end ProtobufTypeScript.Generation
