import ProtobufTypeScript.Proofs.Generation.Items
import ProtobufTypeScript.Proofs.Service.Refusal
import ProtobufTypeScript.Wire.Response

/-!
Which requests are accepted. A request is refused exactly if its types cannot be registered, if it
selects a file that it does not have, or if a selected file has a field or a method with a fault.
Helpers are never a reason: those that need the timestamp message are mentioned only by code that
refers to it.
-/

namespace ProtobufTypeScript.Generation

open Schema Target

variable {registry : Registry} {options : Options} {file : File}

-----------------------------------------------------------------------------------------
-- Helpers
-----------------------------------------------------------------------------------------

/-- All characters and symbols, but the helpers that need the timestamp message only if it
is registered.
-/
def withTimestamp (registry : Registry) : Vocabulary where
  letter _ := True
  symbol symbol :=
    ∀ helper : Helper,
      helper.needsTimestamp = true
      → symbol = helper.symbol
      → ∃ timestamp, registry.symbol Field.timestampName = .ok timestamp
  ascii _ _ := trivial
  upperCase _ _ _ _ := trivial
  reader := nofun
  writer := nofun
  long := nofun
  dataLoader := nofun
  hash := nofun
  helper helper _ other _ same := by
    cases helper <;> cases other <;>
      simp_all [Helper.needsTimestamp, Helper.symbol, Symbol.ofHelper, Helper.name]

/-- The vocabulary with the timestamp has all of a registry, whatever else it has. -/
theorem hasRegistry_withTimestamp (registry : Registry)
    : (withTimestamp registry).HasRegistry registry := by
  refine ⟨fun item member => ⟨fun helper _ same => absurd same symbol_ne_helper, ?_⟩,
    fun symbol known helper _ _ _ _ => ⟨symbol, known⟩⟩
  cases definition : item.2.definition with
  | message message => exact fun _ _ _ _ => trivial
  | enumeration enumeration => exact fun _ _ _ _ => trivial

/-- A block within the vocabulary mentions a helper that needs the timestamp message only
if this is registered.
-/
theorem exists_timestamp_of_mem_symbols {block : Block} {helper : Helper}
    (covered : (withTimestamp registry).Covers block) (needs : helper.needsTimestamp = true)
    (mentioned : helper.symbol ∈ block.symbols)
    : ∃ timestamp, registry.symbol Field.timestampName = .ok timestamp := by
  obtain ⟨line, inBlock, inLine⟩ := Block.mem_symbols_iff.mp mentioned
  exact covered _ inBlock _ (Snippet.mem_symbols_iff.mp inLine) helper needs rfl

/-- A helper cannot be declared exactly if it needs the timestamp message and this is not
registered.
-/
theorem fails_declaration {helper : Helper}
    : Fails (Helper.declaration registry options helper)
      ↔ helper.needsTimestamp = true ∧ Fails (registry.symbol Field.timestampName) := by
  cases helper <;> simp [Helper.declaration, Helper.needsTimestamp]

/-- The helpers that a unit mentions can be declared. Those for timestamps are only
mentioned, or requested by one that is, if the timestamp message is registered.
-/
theorem not_fails_declarations {bare : SourceUnit}
    (found : bareUnit registry options file = .ok bare)
    : ¬ Fails (Helper.declarations registry options bare.references.helpers) := by
  have has := hasRegistry_withTimestamp registry
  rw [Helper.declarations, fails_mapM]
  rintro ⟨helper, needed, failed⟩
  obtain ⟨needs, error, missing⟩ := fails_declaration.mp failed
  have registered : ∃ timestamp, registry.symbol Field.timestampName = .ok timestamp := by
    rcases Helper.exists_request_of_mem_close needed with asked | ⟨other, -, requests⟩
    · have named : helper.name ∈ bare.references.helpers := by simpa [Helper.mem_all] using asked
      obtain ⟨item, inUnit, mentioned⟩ :=
        List.mem_flatMap.mp
          ((mem_recorded_bareUnit found _).mp (References.mem_helpers_ofSymbols.mp named))
      exact exists_timestamp_of_mem_symbols
        (Vocabulary.covers_bareUnit has (fun _ _ _ _ => trivial) found item inUnit) needs mentioned
    · obtain ⟨item, made, mentioned⟩ := Helper.mem_requested.mp requests
      exact exists_timestamp_of_mem_symbols (Vocabulary.covers_helper has other made) needs
        mentioned
  obtain ⟨timestamp, known⟩ := registered
  rw [missing] at known
  cases known

-----------------------------------------------------------------------------------------
-- Units
-----------------------------------------------------------------------------------------

/-- Whether a type is a message of which a field cannot be classified. -/
inductive HasFieldFault (files : List File) : Definition → Prop
  | field (message : Message) (field : Schema.Field) (inMessage : field ∈ message.fields)
    (fault : Field.KindFault files field)
    : HasFieldFault files (.message message)

/-- Why no unit can be generated for a file: a field of one of its messages or a method of
one of its services has a fault.
-/
inductive UnitFault (options : Options) (files : List File) (file : File) : Prop
  | type (declared : Declared) (inFile : declared ∈ file.declared)
    (fault : HasFieldFault files declared.definition)
    : UnitFault options files file
  | method (service : Schema.Service) (inFile : service ∈ file.services) (method : Method)
    (inService : method ∈ service.methods)
    (fault : Service.EndpointFault options files service method)
    : UnitFault options files file

section Units

variable {files : List File} (built : Registry.ofFiles options files = .ok registry)

include built

/-- The declarations for a type cannot be made exactly if it is a message with a field
that cannot be classified; those for an enum can always be made.
-/
theorem fails_nodeItems {node : Node}
    : Fails (nodeItems registry options node) ↔ HasFieldFault files node.definition := by
  unfold nodeItems
  split
  · rename_i message definition
    rw [messageItems, fails_bind_pure, Field.fails_shapesOf built, definition]
    constructor
    · rintro ⟨field, inMessage, fault⟩
      exact .field message field inMessage fault
    · rintro ⟨_, field, inMessage, fault⟩
      exact ⟨field, inMessage, fault⟩
  · rename_i enumeration definition
    rw [definition]
    refine iff_of_false (not_fails_ok _) ?_
    intro fault
    cases fault

/-- The declarations for the types of a file cannot be made exactly if a field in one of
them cannot be classified. All types of the file are visited, at any depth.
-/
theorem fails_typeItems (member : file ∈ files)
    : Fails (typeItems registry options file)
      ↔ ∃ declared ∈ file.declared, HasFieldFault files declared.definition := by
  have fine := Registry.exists_ofFiles_iff.mp ⟨registry, built⟩
  obtain ⟨nodes, walked⟩ := File.exists_nodes (.root file) options (fine.named file member)
  -- The nodes have the definitions of the declared types.
  have definitions : nodes.map Node.definition = file.declared.map Declared.definition := by
    have bare := congrArg (List.map Node.definition) (File.nodes_eq_ok_declared walked).2
    rw [List.map_map, List.map_map] at bare
    exact bare
  calc Fails (typeItems registry options file)
      ↔ Fails (nodes.mapM (nodeItems registry options)) := by
        rw [typeItems, walked]
        exact fails_bind_pure
    _ ↔ ∃ definition ∈ nodes.map Node.definition, HasFieldFault files definition := by
        rw [fails_mapM]
        simp [fails_nodeItems built]
    _ ↔ ∃ declared ∈ file.declared, HasFieldFault files declared.definition := by
        rw [definitions]
        simp

/-- The declarations for the services of a file cannot be made exactly if one of their
methods has a fault. They are made one by one.
-/
theorem fails_serviceItems
    : Fails (serviceItems registry options file)
      ↔ ∃ service ∈ file.services, ∃ method ∈ service.methods,
          Service.EndpointFault options files service method := by
  have services : (file.servicesAt (.root file)).map Prod.fst = file.services := by
    rw [File.servicesAt, List.map_map]
    exact List.zipIdx_map_fst ..
  calc Fails (serviceItems registry options file)
      ↔ ∃ service ∈ (file.servicesAt (.root file)).map Prod.fst,
          ∃ method ∈ service.methods, Service.EndpointFault options files service method := by
        rw [serviceItems, fails_bind_pure, fails_mapM]
        simp [Service.declarations_eq_map, fails_map, Service.fails_endpoints built]
    _ ↔ ∃ service ∈ file.services, ∃ method ∈ service.methods,
          Service.EndpointFault options files service method := by
        rw [services]

/-- The unit for a file fails exactly if the file has a fault in a type or in a method.
The helpers of a unit never make it fail.
-/
theorem fails_unit (member : file ∈ files)
    : Fails (Generation.unit registry options file) ↔ UnitFault options files file := by
  have bare
      : Fails (bareUnit registry options file) ↔ UnitFault options files file := by
    rw [bareUnit, fails_bind_iff (fun _ _ => fails_bind_pure), fails_typeItems built member,
      fails_serviceItems built]
    constructor
    · rintro (⟨declared, inFile, fault⟩ | ⟨service, inFile, method, inService, fault⟩)
      · exact .type declared inFile fault
      · exact .method service inFile method inService fault
    · rintro (⟨declared, inFile, fault⟩ | ⟨service, inFile, method, inService, fault⟩)
      · exact Or.inl ⟨declared, inFile, fault⟩
      · exact Or.inr ⟨service, inFile, method, inService, fault⟩
  rw [Generation.unit, fails_bind, bare, or_iff_left]
  rintro ⟨unit, found, failed⟩
  exact not_fails_declarations found (fails_bind_pure.mp failed)

end Units

-----------------------------------------------------------------------------------------
-- Requests
-----------------------------------------------------------------------------------------

/-- Why a request is refused. -/
inductive Refused (request : Request) : Prop
  | unnamed (file : File) (member : file ∈ request.files) (declared : Declared)
    (inFile : declared ∈ file.declared) (missing : ¬ declared.IsNamed)
    : Refused request
  | sharedName
    (shared
      : ¬ (request.files.flatMap
            (fun file => file.declared.map (Declared.fullName file.package))).Nodup)
    : Refused request
  | sharedPlace
    (shared
      : ¬ (request.files.flatMap
            (fun file =>
              file.declared.map
                (Declared.place (Options.ofParameter request.parameter) file))).Nodup)
    : Refused request
  | unknownFile (name : String) (selected : name ∈ request.selected)
    (absent : ∀ file ∈ request.files, file.name ≠ name)
    : Refused request
  | unit (file : File) (member : file ∈ request.files) (selected : selects request file = true)
    (fault : UnitFault (Options.ofParameter request.parameter) request.files file)
    : Refused request

/-- Files cannot be registered exactly if they are not registrable. -/
theorem fails_ofFiles {files : List File}
    : Fails (Registry.ofFiles options files) ↔ ¬ Registry.Registrable options files := by
  rw [← Registry.exists_ofFiles_iff, ← not_fails_iff, not_not]

/-- A selected name is refused exactly if no file has it. -/
theorem fails_checkSelected {files : List File} {name : String}
    : Fails (checkSelected files name) ↔ ∀ file ∈ files, file.name ≠ name := by
  unfold checkSelected
  split <;> simp_all

/-- A request with types that cannot be registered is refused: the first of their faults
is a reason.
-/
theorem refused_of_not_registrable {request : Request}
    (fault
      : ¬ Registry.Registrable (Options.ofParameter request.parameter) request.files)
    : Refused request := by
  by_contra fine
  refine fault ⟨fun file member declared inFile => ?_, ?_, ?_⟩
  · by_contra missing
    exact fine (.unnamed file member declared inFile missing)
  · by_contra shared
    exact fine (.sharedName shared)
  · by_contra shared
    exact fine (.sharedPlace shared)

/-- Once its types are registered, a request fails because of the files that it selects.
-/
theorem fails_respond {request : Request}
    (built
      : Registry.ofFiles (Options.ofParameter request.parameter) request.files = .ok registry)
    : Fails request.respond
      ↔ (∃ name ∈ request.selected, ∀ file ∈ request.files, file.name ≠ name)
        ∨ ∃ file ∈ request.files,
            selects request file = true
            ∧ UnitFault (Options.ofParameter request.parameter) request.files file := by
  rw [Request.respond, outputs, built]
  show Fails (request.selected.forM (checkSelected request.files) >>= fun _ => _) ↔ _
  rw [fails_bind_iff (fun _ _ => fails_mapM), fails_forM]
  simp only [fails_checkSelected, output, fails_bind_pure, List.mem_filter, and_assoc]
  refine or_congr_right (exists_congr (fun file => and_congr_right (fun member => ?_)))
  rw [fails_unit built member]

/-- A request with registrable types is refused exactly if it selects a file that it does
not have, or a selected file has a fault. The other reasons are about types.
-/
theorem refused_iff_of_registrable {request : Request}
    (fine : Registry.Registrable (Options.ofParameter request.parameter) request.files)
    : Refused request
      ↔ (∃ name ∈ request.selected, ∀ file ∈ request.files, file.name ≠ name)
        ∨ ∃ file ∈ request.files,
            selects request file = true
            ∧ UnitFault (Options.ofParameter request.parameter) request.files file := by
  constructor
  · intro refused
    cases refused with
    | unnamed file member declared inFile missing =>
        exact absurd (fine.named file member declared inFile) missing
    | sharedName shared => exact absurd fine.names shared
    | sharedPlace shared => exact absurd fine.places shared
    | unknownFile name selected absent => exact Or.inl ⟨name, selected, absent⟩
    | unit file member selected fault => exact Or.inr ⟨file, member, selected, fault⟩
  · rintro (⟨name, selected, absent⟩ | ⟨file, member, selected, fault⟩)
    · exact .unknownFile name selected absent
    · exact .unit file member selected fault

/-- A request is answered with an error exactly if there is a reason to refuse it, and
else with one output for each selected file, in order. Witness: whether the files have a
registry.
-/
theorem respond_fails_iff_refused (request : Request)
    : (Fails request.respond ↔ Refused request)
      ∧ ∀ results,
          request.respond = .ok results
          → results.map Output.name
            = (request.files.filter (selects request)).map (fun file => outputName file.name) := by
  refine ⟨?_, fun results accepted => names_of_outputs accepted⟩
  by_cases fault : Fails (Registry.ofFiles (Options.ofParameter request.parameter) request.files)
  · exact iff_of_true (fails_bind.mpr (Or.inl fault))
      (refused_of_not_registrable (fails_ofFiles.mp fault))
  · obtain ⟨registry, built⟩ := not_fails_iff.mp fault
    have fine := Registry.exists_ofFiles_iff.mp ⟨registry, built⟩
    rw [fails_respond built, refused_iff_of_registrable fine]

/-- Whether a field holds many entries of a map that lack a key or a value. -/
def HoldsIncompleteEntries (files : List File) (field : Schema.Field) : Prop :=
  field.type = .message
  ∧ field.label = .repeated
  ∧ ∃ entry,
      Declares files field.typeName (.message entry)
      ∧ entry.mapEntry = true
      ∧ entry.fields.length < 2

/-- Incomplete entries are no reason to refuse a request where they stand for points in
time, nor where they are the values of another map.
-/
theorem accepts_incomplete_entries
    : let value : Schema.Field :=
        { name := "value", number := 2, label := .repeated, type := .message, typeName := ".Empty" }
      let pairs : Message :=
        {
          name := "Pairs"
          fields := [{ name := "key", number := 1, type := .scalar .string }, value]
          mapEntry := true
        }
      let visits : Schema.Field :=
        {
          name := "visits"
          number := 1
          label := .repeated
          type := .message
          typeName := ".google.protobuf.Timestamp"
        }
      let marks : Schema.Field :=
        { name := "marks", number := 2, label := .repeated, type := .message, typeName := ".Pairs" }
      let user : File :=
        { name := "user.proto", messages := [{ name := "User", fields := [visits, marks] }] }
      let times : File :=
        {
          name := "google/protobuf/timestamp.proto"
          package := "google.protobuf"
          messages := [{ name := "Timestamp", mapEntry := true }]
        }
      let entries : File :=
        { name := "entries.proto", messages := [pairs, { name := "Empty", mapEntry := true }] }
      let request : Request :=
        {
          selected := ["user.proto"]
          parameter := "outputEncodeMethods=false,outputJsonMethods=false"
          files := [user, times, entries]
        }
      user ∈ request.files
      ∧ selects request user = true
      ∧ (∃ message ∈ user.messages, visits ∈ message.fields ∧ marks ∈ message.fields)
      ∧ HoldsIncompleteEntries request.files visits
      ∧ (marks.type = .message ∧ marks.label = .repeated
        ∧ Declares request.files marks.typeName (.message pairs)
        ∧ pairs.mapEntry = true
        ∧ pairs.fields[1]? = some value
        ∧ HoldsIncompleteEntries request.files value)
      ∧ ∃ results, request.respond = .ok results := by
  intro value pairs visits marks user times entries request
  have some : request.respond.toOption.isSome = true := by decide +kernel
  obtain ⟨results, kept⟩ := Option.isSome_iff_exists.mp some
  have accepted := toOption_eq_some.mp kept
  let timestamp : Message := { name := "Timestamp", mapEntry := true }
  let empty : Message := { name := "Empty", mapEntry := true }
  have declaresTimestamp
      : Declares request.files ".google.protobuf.Timestamp" (.message timestamp) :=
    ⟨times, by simp [request], ⟨["Timestamp"], .message timestamp⟩, List.mem_cons_self,
      by decide +kernel, rfl⟩
  have declaresPairs : Declares request.files ".Pairs" (.message pairs) :=
    ⟨entries, by simp [request], ⟨["Pairs"], .message pairs⟩, List.mem_cons_self,
      by decide +kernel, rfl⟩
  have declaresEmpty : Declares request.files ".Empty" (.message empty) :=
    ⟨entries, by simp [request], ⟨["Empty"], .message empty⟩,
      List.mem_cons_of_mem _ List.mem_cons_self, by decide +kernel, rfl⟩
  exact ⟨List.mem_cons_self, by decide, ⟨_, List.mem_cons_self, by simp, by simp⟩,
    ⟨rfl, rfl, timestamp, declaresTimestamp, rfl, by decide⟩,
    ⟨rfl, rfl, declaresPairs, rfl, rfl, rfl, rfl, empty, declaresEmpty, rfl, by decide⟩, results,
    accepted⟩

end ProtobufTypeScript.Generation
