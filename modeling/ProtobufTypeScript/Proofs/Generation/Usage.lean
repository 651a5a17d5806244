import ProtobufTypeScript.Proofs.Enumeration
import ProtobufTypeScript.Proofs.Generation.Items
import ProtobufTypeScript.Proofs.Helper.Usage
import ProtobufTypeScript.Proofs.Message.Usage
import ProtobufTypeScript.Proofs.Service.Usage

/-!
The use of symbols in a unit. Where fields and methods name registered types of the right sort, all
items of a unit use the types as the run generates them.
-/

namespace ProtobufTypeScript

open Schema Target

namespace Schema

/-- Whether a message is registered under a name. -/
def Registry.HasMessage (registry : Registry) (name : String) : Prop :=
  ∃ type message, registry.entry name = .ok type ∧ type.definition = .message message

/-- Whether an enum is registered under a name. -/
def Registry.HasEnumeration (registry : Registry) (name : String) : Prop :=
  ∃ type enumeration, registry.entry name = .ok type ∧ type.definition = .enumeration enumeration

/-- Whether the fields of a message name registered types of the right sort. -/
structure Message.Resolves (registry : Registry) (message : Message) : Prop where
  enumerations
    : ∀ field ∈ message.fields,
        field.type = .enumeration → registry.HasEnumeration field.typeName
  messages : ∀ field ∈ message.fields, field.type = .message → registry.HasMessage field.typeName

/-- Whether the messages and the services of a file name registered types of the right
sort.
-/
structure File.Resolves (registry : Registry) (file : File) : Prop where
  messages
    : ∀ declared ∈ file.declared,
        ∀ message, declared.definition = .message message → message.Resolves registry
  methods
    : ∀ service ∈ file.services,
        ∀ method ∈ service.methods,
          registry.HasMessage method.input ∧ registry.HasMessage method.output

/-- A registered message is one of a file. -/
theorem Registry.resolves_of_message {registry : Registry} {options : Options} {files : List File}
    (built : Registry.ofFiles options files = .ok registry)
    (resolves : ∀ file ∈ files, file.Resolves registry) {name : String} {message : Message}
    (found : registry.message name = .ok message)
    : message.Resolves registry := by
  obtain ⟨-, entries, -⟩ := ofFiles_eq_ok.mp built
  obtain ⟨type, member, definition⟩ := message_eq_ok found
  rw [entries, mem_items] at member
  obtain ⟨file, inFiles, declared, inFile, same⟩ := member
  cases same
  exact (resolves file inFiles).messages declared inFile message definition

/-- A message at a node of a file is one that the file declares. -/
theorem File.Resolves.of_node {registry : Registry} {options : Options} {file : File}
    (resolves : file.Resolves registry) {cursor : Cursor} {nodes : List Node} {node : Node}
    (walked : file.nodes cursor options = .ok nodes) (inFile : node ∈ nodes) {message : Message}
    (definition : node.definition = .message message)
    : message.Resolves registry := by
  have bare : node.bare ∈ file.declared.map (Declared.node options) := by
    rw [← (File.nodes_eq_ok_declared walked).2]
    exact List.mem_map_of_mem inFile
  obtain ⟨declared, inDeclared, same⟩ := List.mem_map.mp bare
  have held : declared.definition = node.definition := congrArg Node.definition same
  exact resolves.messages declared inDeclared message (held.trans definition)

end Schema

namespace Target.Usage

open ProtobufTypeScript.Field

/-- Whether all that a run generates for the registered types may be used. -/
structure GrantsProvided (usage : Usage) (registry : Registry) (options : Options) : Prop where
  type : ∀ name symbol, registry.symbol name = .ok symbol → usage.Frees symbol
  message
    : ∀ name symbol,
        registry.symbol name = .ok symbol
        → registry.HasMessage name
        → usage.GrantsMessage options symbol
  enumeration
    : ∀ name symbol,
        registry.symbol name = .ok symbol
        → registry.HasEnumeration name
        → usage.GrantsEnumeration options symbol
  timestamp
    : options.jsonMethods = true
      → registry.HasMessage timestampName
      → usage.Frees Helper.fromJsonTimestamp.symbol

variable {usage : Usage} {registry : Registry} {options : Options}

-----------------------------------------------------------------------------------------
-- Fields
-----------------------------------------------------------------------------------------

/-- The kind of a message type is allowed by every usage that grants what is provided. The
well-known types are provided with their symbols.
-/
theorem allowsKind_messageKind (grants : usage.GrantsProvided registry options)
    {typeName : String} (isMessage : registry.HasMessage typeName) {kind : Kind}
    (named : IsMessageKind registry typeName kind)
    : usage.AllowsKind options kind := by
  cases named with
  | wrapper symbol scalar wraps known => exact grants.message typeName symbol known isMessage
  | timestamp symbol noWrapper named known =>
      exact ⟨grants.message typeName symbol known isMessage,
        fun wanted => grants.timestamp wanted (named ▸ isMessage)⟩
  | message symbol target noWrapper notTimestamp declared known =>
      exact grants.message typeName symbol known isMessage

/-- The kind of one value of a field is allowed by every usage that grants what is
provided. Witness: the ways to find it, of which two look up a registered type.
-/
theorem allowsKind_elementKind (grants : usage.GrantsProvided registry options)
    {message : Message} (resolves : message.Resolves registry) {field : Schema.Field}
    (inMessage : field ∈ message.fields) {kind : Kind}
    (single : IsElementKind registry field kind)
    : usage.AllowsKind options kind := by
  cases single with
  | scalar scalar type => trivial
  | enumeration symbol type known =>
      exact grants.enumeration field.typeName symbol known
        (resolves.enumerations field inMessage type)
  | message _ type named =>
      exact allowsKind_messageKind grants (resolves.messages field inMessage type) named

section Registered

variable {files : List File} (built : Registry.ofFiles options files = .ok registry)
  (resolved : ∀ file ∈ files, file.Resolves registry)
  (grants : usage.GrantsProvided registry options)

include built resolved grants

/-- The kind of a field is allowed, the values of a map included. For a map this is asked
of the entry and of the second field in it.
-/
theorem allowsKind_fieldKind {message : Message} (resolves : message.Resolves registry)
    {field : Schema.Field} (inMessage : field ∈ message.fields) {kind : Kind}
    (found : fieldKind registry message field = .ok kind)
    : usage.AllowsKind options kind := by
  cases fieldKind_eq_ok.mp found with
  | element _ single plain => exact allowsKind_elementKind grants resolves inMessage single
  | map entry key value target keyField valueField _ single declared entries fields type held =>
      have targetResolves := Registry.resolves_of_message built resolved declared
      have inTarget : valueField ∈ target.fields := by simp [fields]
      exact ⟨allowsKind_elementKind grants resolves inMessage single,
        allowsKind_elementKind grants targetResolves inTarget held⟩

/-- The kind of a field's shape is allowed. -/
theorem allowsKind_shapeOf {message : Message} (resolves : message.Resolves registry)
    {field : Schema.Field} (inMessage : field ∈ message.fields) {shape : Shape}
    (found : shapeOf registry options message field = .ok shape)
    : usage.AllowsKind options shape.kind := by
  obtain ⟨kind, classified, rest⟩ := bind_eq_ok.mp found
  cases rest
  exact allowsKind_fieldKind built resolved grants resolves inMessage classified

/-- The kinds of all fields of a message are allowed. -/
theorem allowsKind_shapesOf {message : Message} (resolves : message.Resolves registry)
    {shapes : List Shape} (found : shapesOf registry options message = .ok shapes)
    : ∀ shape ∈ shapes, usage.AllowsKind options shape.kind := by
  intro shape member
  obtain ⟨field, inMessage, classified⟩ := exists_of_mem_right (mapM_eq_ok.mp found) member
  exact allowsKind_shapeOf built resolved grants resolves inMessage classified

-----------------------------------------------------------------------------------------
-- Services
-----------------------------------------------------------------------------------------

/-- The types of a companion are allowed, as they are made of kinds that are: those of the
only fields of the two messages.
-/
theorem allowsCompanion_companion? {service : Schema.Service} {method : Method}
    {companion : Service.Companion}
    (found : Service.companion? registry options service method = .ok (some companion))
    : usage.AllowsCompanion companion := by
  obtain ⟨input, output, keys, results, made⟩ := Service.exists_isGathered found
  obtain ⟨keyField, inInput, keyFound⟩ := made.gathered
  obtain ⟨resultField, inOutput, resultFound⟩ := made.answered
  have key := allowsKind_shapeOf built resolved grants
    (Registry.resolves_of_message built resolved made.request) inInput keyFound
  have result := allowsKind_shapeOf built resolved grants
    (Registry.resolves_of_message built resolved made.response) inOutput resultFound
  rw [made.parts]
  refine ⟨admits_elementType key, ?_⟩
  unfold Service.resultType
  split
  · rename_i entry key value same
    rw [same] at result
    exact admits_elementType result.2
  · exact admits_elementType result

/-- What is found out about a method is allowed, if its request and its response are
messages.
-/
theorem allowsEndpoint_endpoint {service : Schema.Service} {method : Method}
    (input : registry.HasMessage method.input) (output : registry.HasMessage method.output)
    {endpoint : Service.Endpoint}
    (found : Service.endpoint registry options service method = .ok endpoint)
    : usage.AllowsEndpoint options endpoint := by
  obtain ⟨request, requestFound, found⟩ := bind_eq_ok.mp found
  obtain ⟨response, responseFound, found⟩ := bind_eq_ok.mp found
  obtain ⟨companion, companionFound, found⟩ := bind_eq_ok.mp found
  cases found
  refine ⟨grants.message method.input request requestFound input,
    grants.message method.output response responseFound output, ?_⟩
  rintro single rfl
  exact allowsCompanion_companion? built resolved grants companionFound

/-- What is found out about the methods of a service is allowed. -/
theorem allowsEndpoint_endpoints {file : File} (inFiles : file ∈ files)
    {service : Schema.Service} (inFile : service ∈ file.services)
    {endpoints : List Service.Endpoint}
    (found : Service.endpoints registry options service = .ok endpoints)
    : ∀ endpoint ∈ endpoints, usage.AllowsEndpoint options endpoint := by
  intro endpoint member
  obtain ⟨-, -, found⟩ := bind_eq_ok.mp found
  obtain ⟨method, inService, made⟩ := exists_of_mem_right (mapM_eq_ok.mp found) member
  obtain ⟨input, output⟩ := (resolved file inFiles).methods service inFile method inService
  exact allowsEndpoint_endpoint built resolved grants input output made

-----------------------------------------------------------------------------------------
-- Units
-----------------------------------------------------------------------------------------

/-- The items of a unit use their symbols in ways that are allowed if what the run
generates may be used, and if the timestamp message has `fromJSON` where a helper calls
it.
-/
theorem allowsLines_of_makes {file : File} (inFiles : file ∈ files) {unit : SourceUnit}
    (timestamp
      : Helper.fromJsonTimestamp.symbol ∈ unit.mentioned
        → ∀ symbol,
            registry.symbol timestampName = .ok symbol → usage.Grants symbol "fromJSON")
    {item : Item} (made : Generation.Makes registry options file unit item)
    : usage.AllowsLines item.block := by
  have shapesAllowed
      : ∀ node message shapes,
          Generation.IsMessage registry options file node message shapes
          → ∀ shape ∈ shapes, usage.AllowsKind options shape.kind := by
    intro node message shapes found
    obtain ⟨nodes, walked, inFile⟩ := found.inFile
    exact allowsKind_shapesOf built resolved grants
      ((resolved file inFiles).of_node walked inFile found.definition) found.classified
  cases made with
  | interface node message shapes found =>
      exact allowsLines_messageInterface (shapesAllowed node message shapes found)
  | base node message shapes found wanted => exact allowsLines_baseInstance
  | codec node message shapes found wanted =>
      exact allowsLines_codec (shapesAllowed node message shapes found)
  | enumeration node enumeration found => exact allowsLines_enumerationDeclaration
  | contract service cursor endpoints inFile found =>
      exact allowsLines_contract
        (allowsEndpoint_endpoints built resolved grants inFiles inFile found)
  | client service endpoints inFile found wanted =>
      exact allowsLines_client wanted
        (allowsEndpoint_endpoints built resolved grants inFiles inFile found)
  | shared item member => exact allowsLines_shared item member
  | helper helper item found mentioned =>
      refine allowsLines_helper (fun symbol => grants.type timestampName symbol) ?_ found
      rintro symbol known rfl
      exact timestamp mentioned symbol known

end Registered

end Target.Usage

end ProtobufTypeScript
