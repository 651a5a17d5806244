import ProtobufTypeScript.Proofs.Generation.Generated
import ProtobufTypeScript.Proofs.Helper.Closure
import ProtobufTypeScript.Proofs.Message.Recording
import ProtobufTypeScript.Proofs.Schema.RegistryContents
import ProtobufTypeScript.Proofs.Service.Recording

/-!
What the unit for a file is made of: the declarations for its messages, its enums and its services,
what the services share, and helpers.
-/

namespace ProtobufTypeScript.Target

/-- The name of the type that a line declares, if it declares one. -/
def declaredType? (line : List Char) : Option String :=
  if "type ".toList.isPrefixOf line then
    some (String.ofList ((line.drop 5).takeWhile (fun c => c ≠ ' ' && c ≠ '<')))
  else none

/-- The names that an item declares. -/
def Item.declaredNames : Item → List String
  | .interface declared => [declared.name]
  | .classType declared => [declared.name]
  | .function declared _ => [declared.name]
  | .values declared => [declared.name]
  | .object declared => [declared.name]
  | .enumeration declared => [declared.object.name]
  | .code written =>
      written.lines.filterMap fun
        | .text line => declaredType? line.written
        | _ => none

end ProtobufTypeScript.Target

namespace ProtobufTypeScript.Generation

open Schema Target

variable {registry : Registry} {options : Options} {file : File} {unit : SourceUnit}

/-- Whether a message is at a node of a file, and its fields are read as given shapes. -/
structure IsMessage (registry : Registry) (options : Options) (file : File) (node : Node)
    (message : Message) (shapes : List Field.Shape)
    : Prop where
  inFile : ∃ nodes, file.nodes (.root file) options = .ok nodes ∧ node ∈ nodes
  definition : node.definition = .message message
  classified : Field.shapesOf registry options message = .ok shapes

/-- Whether an enum is at a node of a file. -/
structure IsEnumeration (options : Options) (file : File) (node : Node) (enumeration : Enumeration)
    : Prop where
  inFile : ∃ nodes, file.nodes (.root file) options = .ok nodes ∧ node ∈ nodes
  definition : node.definition = .enumeration enumeration

/-- The items of the unit for a file. A helper is one of them only if the unit mentions
it.
-/
inductive Makes (registry : Registry) (options : Options) (file : File) (unit : SourceUnit)
    : Item → Prop
  | interface (node : Node) (message : Message) (shapes : List Field.Shape)
    (found : IsMessage registry options file node message shapes)
    : Makes registry options file unit
        (.interface (Message.interface options node.identifier shapes node.cursor))
  | base (node : Node) (message : Message) (shapes : List Field.Shape)
    (found : IsMessage registry options file node message shapes)
    (wanted : options.hasCodecs = true)
    : Makes registry options file unit
        (.values (Message.baseInstance options node.identifier shapes))
  | codec (node : Node) (message : Message) (shapes : List Field.Shape)
    (found : IsMessage registry options file node message shapes)
    (wanted : options.hasCodecs = true)
    : Makes registry options file unit (.object (Message.codec options node.identifier shapes))
  | enumeration (node : Node) (enumeration : Enumeration)
    (found : IsEnumeration options file node enumeration)
    : Makes registry options file unit
        (.enumeration (Enumeration.declaration options node.identifier enumeration node.cursor))
  | contract (service : Schema.Service) (cursor : Cursor) (endpoints : List Service.Endpoint)
    (inFile : service ∈ file.services)
    (found : Service.endpoints registry options service = .ok endpoints)
    : Makes registry options file unit
        (.interface (Service.contract options service endpoints cursor))
  | client (service : Schema.Service) (endpoints : List Service.Endpoint)
    (inFile : service ∈ file.services)
    (found : Service.endpoints registry options service = .ok endpoints)
    (wanted : Service.hasClients options = true)
    : Makes registry options file unit
        (.classType (Service.client options file.package service endpoints))
  | shared (item : Item) (member : item ∈ Service.shared options)
    : Makes registry options file unit item
  | helper (helper : Helper) (item : Item)
    (found : Helper.declaration registry options helper = .ok item)
    (mentioned : helper.symbol ∈ unit.mentioned)
    : Makes registry options file unit item

-----------------------------------------------------------------------------------------
-- Every item is one of these
-----------------------------------------------------------------------------------------

/-- The declarations for a visited type are of the kinds that units are made of: up to
three for a message, and one for an enum.
-/
theorem makes_of_mem_nodeItems {nodes : List Node} {node : Node} {items : List Item}
    (walked : file.nodes (.root file) options = .ok nodes) (inFile : node ∈ nodes)
    (found : nodeItems registry options node = .ok items)
    : ∀ item ∈ items, Makes registry options file unit item := by
  cases nodeItems_eq_ok.mp found with
  | message message shapes definition classified =>
      have isMessage : IsMessage registry options file node message shapes :=
        ⟨⟨nodes, walked, inFile⟩, definition, classified⟩
      refine List.forall_mem_cons.mpr ⟨.interface node message shapes isMessage, ?_⟩
      split
      · rename_i wanted
        exact List.forall_mem_cons.mpr
          ⟨.base node message shapes isMessage wanted,
            List.forall_mem_singleton.mpr (.codec node message shapes isMessage wanted)⟩
      · simp
  | enumeration enumeration definition =>
      exact List.forall_mem_singleton.mpr
        (.enumeration node enumeration ⟨⟨nodes, walked, inFile⟩, definition⟩)

/-- The declarations for the types of a file are of the kinds that units are made of. -/
theorem makes_of_mem_typeItems {items : List Item}
    (found : typeItems registry options file = .ok items)
    : ∀ item ∈ items, Makes registry options file unit item := by
  intro item member
  obtain ⟨nodes, node, part, walked, inFile, declared, inPart⟩ :=
    exists_node_of_mem_typeItems found member
  exact makes_of_mem_nodeItems walked inFile declared item inPart

/-- The declarations for the services of a file are of the kinds that units are made of:
an interface, and a client where clients are wanted.
-/
theorem makes_of_mem_serviceItems {items : List Item}
    (found : serviceItems registry options file = .ok items)
    : ∀ item ∈ items, Makes registry options file unit item := by
  intro item member
  obtain ⟨service, position, part, placed, declared, inPart⟩ :=
    exists_service_of_mem_serviceItems found member
  have inFile : service ∈ file.services := List.fst_mem_of_mem_zipIdx placed
  obtain ⟨endpoints, unary, rfl⟩ := Service.exists_endpoints_of_declarations declared
  rcases List.mem_cons.mp inPart with rfl | inPart
  · exact .contract service _ endpoints inFile unary
  · split at inPart
    · rename_i wanted
      rw [List.mem_singleton.mp inPart]
      exact .client service endpoints inFile unary wanted
    · cases inPart

/-- All items of a unit without helpers are of the kinds that units are made of: those for
types, those for services, and what services share.
-/
theorem makes_of_mem_bareUnit {bare : SourceUnit}
    (found : bareUnit registry options file = .ok bare)
    : ∀ item ∈ bare.items, Makes registry options file unit item := by
  obtain ⟨types, services, typesFound, servicesFound, rfl⟩ := bareUnit_eq_ok.mp found
  refine List.forall_mem_append.mpr ⟨List.forall_mem_append.mpr ⟨?_, ?_⟩, ?_⟩
  · exact makes_of_mem_typeItems typesFound
  · exact makes_of_mem_serviceItems servicesFound
  · intro item member
    split at member
    · cases member
    · exact .shared item member

-----------------------------------------------------------------------------------------
-- What is recorded for the items
-----------------------------------------------------------------------------------------

/-- For each item just the symbols are recorded that its lines mention: every generator
hands on what it recorded while it wrote, and a function what it recorded for its defaults
and its body.
-/
theorem recordsMentions_of_makes {item : Item} (made : Makes registry options file unit item)
    : item.RecordsMentions := by
  cases made with
  | interface => exact Interface.recordsMentions nofun
  | base => exact Message.recordsMentions_baseInstance _ _ _
  | codec => exact Message.recordsMentions_codec _ _ _
  | enumeration => exact Enumeration.recordsMentions_enumeration
  | contract service cursor endpoints => exact Service.recordsMentions_contract endpoints cursor
  | client service endpoints => exact Service.recordsMentions_client endpoints
  | shared item member => exact Service.recordsMentions_shared item member
  | helper helper item found => exact Helper.recordsMentions_declaration found

/-- Before helpers are added, a unit records what it mentions. -/
theorem mem_recorded_bareUnit {bare : SourceUnit}
    (found : bareUnit registry options file = .ok bare) (symbol : Symbol)
    : symbol ∈ bare.recorded ↔ symbol ∈ bare.mentioned :=
  have made : ∀ item ∈ bare.items, Makes registry options file bare item :=
    makes_of_mem_bareUnit found
  SourceUnit.mem_recorded_iff
    (fun item member => recordsMentions_of_makes (made item member)) symbol

/-- The unit for a file has nothing but the declarations for the file, and behind them
those of the helpers that are needed.
-/
theorem makes_of_mem_unit (found : Generation.unit registry options file = .ok unit)
    : ∀ item ∈ unit.items, Makes registry options file unit item := by
  obtain ⟨bare, helpers, bareFound, helpersFound, rfl⟩ := unit_eq_ok.mp found
  refine List.forall_mem_append.mpr ⟨makes_of_mem_bareUnit bareFound, ?_⟩
  intro item member
  obtain ⟨helper, declared, mentioned⟩ :=
    Helper.exists_helper_of_mem_declarations helpersFound member
  refine .helper helper item declared ?_
  rw [SourceUnit.mentioned, List.flatMap_append, List.mem_append]
  rcases mentioned with recorded | ⟨other, also, inBlock⟩
  · exact Or.inl
      ((mem_recorded_bareUnit bareFound _).mp (References.mem_helpers_ofSymbols.mp recorded))
  · exact Or.inr (List.mem_flatMap.mpr ⟨other, also, inBlock⟩)

/-- For each item of a unit just the symbols are recorded that it mentions. -/
theorem recordsMentions_unit (found : Generation.unit registry options file = .ok unit)
    : ∀ item ∈ unit.items, item.RecordsMentions :=
  fun item member => recordsMentions_of_makes (makes_of_mem_unit found item member)

/-- The symbols recorded for the unit for a file are those that its code mentions. -/
theorem mem_recorded_unit (found : Generation.unit registry options file = .ok unit)
    (symbol : Symbol)
    : symbol ∈ unit.recorded ↔ symbol ∈ unit.mentioned :=
  SourceUnit.mem_recorded_iff (recordsMentions_unit found) symbol

/-- What the services of a unit share are interfaces. -/
theorem isInterface_of_mem_shared {item : Item} (member : item ∈ Service.shared options)
    : ∃ declared, item = .interface declared := by
  simp only [Service.shared, List.mem_append] at member
  rcases member with transport | loaders
  · split at transport
    · exact ⟨_, List.mem_singleton.mp transport⟩
    · cases transport
  · split at loaders
    · rcases List.mem_pair.mp loaders with rfl | rfl
      · exact ⟨_, rfl⟩
      · exact ⟨_, rfl⟩
    · cases loaders

-----------------------------------------------------------------------------------------
-- The names of helpers
-----------------------------------------------------------------------------------------

/-- The names that the declaration of a helper declares. The type of partial messages is
declared after the type of the values to keep.
-/
def helperNames : Helper → List String
  | .deepPartial => ["Builtin", "DeepPartial"]
  | helper => [helper.name]

/-- Every helper declares its own name. -/
theorem name_mem_helperNames (helper : Helper)
    : helper.name ∈ helperNames helper := by
  cases helper <;> decide

theorem declaredNames_deepPartial
    : Item.declaredNames
          (.code
            { lines := Helper.deepPartialLines.flatMap (fun line => Block.line [.plain line]) })
        = ["Builtin", "DeepPartial"] := by
  decide

/-- The item for a helper declares the names of the helper, whatever the options and the
registered types: these only have a part in what the code of the helper does.
-/
theorem declaredNames_of_helper {helper : Helper} {item : Item}
    (found : Helper.declaration registry options helper = .ok item)
    : item.declaredNames = helperNames helper := by
  cases helper with
  | longToNumber | longToString | numberToLong =>
      cases found
      rfl
  | toTimestamp | fromTimestamp | fromJsonTimestamp =>
      obtain ⟨timestamp, -, found⟩ := bind_eq_ok.mp found
      cases found
      rfl
  | deepPartial =>
      cases found
      exact declaredNames_deepPartial

/-- A helper declares no names but its own and the one for the types that stay as they
are.
-/
theorem declaredNames_helper {helper : Helper} {item : Item}
    (found : Helper.declaration registry options helper = .ok item)
    : ∀ name ∈ item.declaredNames, name = helper.name ∨ name = "Builtin" := by
  rw [declaredNames_of_helper found]
  cases helper <;> simp [helperNames, Helper.name]

-----------------------------------------------------------------------------------------
-- The names of types
-----------------------------------------------------------------------------------------

/-- A node of a file stands for a type that the file declares. -/
theorem exists_declared_of_node {cursor : Cursor} {nodes : List Node} {node : Node}
    (walked : file.nodes cursor options = .ok nodes) (inFile : node ∈ nodes)
    : ∃ declared ∈ file.declared, declared.identifier options = node.identifier := by
  have bare : node.bare ∈ file.declared.map (Declared.node options) := by
    rw [← (File.nodes_eq_ok_declared walked).2]
    exact List.mem_map_of_mem inFile
  obtain ⟨declared, inDeclared, same⟩ := List.mem_map.mp bare
  exact ⟨declared, inDeclared, congrArg Node.identifier same⟩

/-- The identifiers of a file's types are those registered for its unit. -/
theorem identifier_mem_identifiersIn {files : List File} {cursor : Cursor} {nodes : List Node}
    {node : Node} (built : Registry.ofFiles options files = .ok registry) (member : file ∈ files)
    (walked : file.nodes cursor options = .ok nodes) (inFile : node ∈ nodes)
    : node.identifier ∈ registry.identifiersIn (unitPath file.name) := by
  exact ((Registry.registers_of_ofFiles built).identifiers _ _).mpr
    ⟨file, member, rfl, exists_declared_of_node walked inFile⟩

end ProtobufTypeScript.Generation
