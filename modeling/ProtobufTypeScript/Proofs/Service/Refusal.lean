import ProtobufTypeScript.Proofs.Field.Refusal
import ProtobufTypeScript.Proofs.Service.Declaration
import ProtobufTypeScript.Proofs.Service.Naming

/-!
Which methods are refused: those that stream, those whose types are unknown, and with a context also
those whose types are enums and those whose companion cannot be given its types.
-/

namespace ProtobufTypeScript.Service

open ProtobufTypeScript.Field Schema

/-- Whether a method gathers keys into a list for results, and the service has no method
for a single key itself.
-/
structure Gathers (files : List File) (service : Schema.Service) (method : Method)
    (keys results : Schema.Field)
    : Prop where
  companion
    : ∃ name,
        companionName method.name = some name ∧ ∀ other ∈ service.methods, other.name ≠ name
  input : ∃ input, Declares files method.input (.message input) ∧ input.fields = [keys]
  output : ∃ output, Declares files method.output (.message output) ∧ output.fields = [results]
  manyKeys : keys.label = .repeated
  manyResults : results.label = .repeated

/-- Why no code can be generated for a method of a service. -/
inductive EndpointFault (options : Options) (files : List File) (service : Schema.Service)
    (method : Method)
    : Prop
  | streaming (streams : method.clientStreaming = true ∨ method.serverStreaming = true)
  | unknown (name : String) (used : name = method.input ∨ name = method.output)
    (unknown : IsUnknown files name)
  | enumeration (context : options.context = true) (name : String)
    (used : name = method.input ∨ name = method.output) (enumeration : Enumeration)
    (declared : Declares files name (.enumeration enumeration))
  | companion (context : options.context = true) (keys results field : Schema.Field)
    (gathers : Gathers files service method keys results) (used : field = keys ∨ field = results)
    (fault : KindFault files field)

variable {options : Options} {files : List File} {registry : Registry}
  {service : Schema.Service} {method : Method}

/-- A service lacks a method exactly if none of its methods has the name. -/
theorem hasMethod_eq_false {name : String}
    : hasMethod service name = false ↔ ∀ other ∈ service.methods, other.name ≠ name := by
  simp [hasMethod]

/-- The lists of keys and results are those of the batch method, if the service has no
method for a single key. Both sides ask for the only field of the two messages.
-/
theorem gathers_iff (built : Registry.ofFiles options files = .ok registry) {input output : Message}
    (inputFound : registry.message method.input = .ok input)
    (outputFound : registry.message method.output = .ok output) {keys results : Schema.Field}
    : Gathers files service method keys results
      ↔ ∃ name,
          Batch.ofMethod? method input output = some ⟨method, name, keys, results⟩
          ∧ hasMethod service name = false := by
  simp only [ofMethod?_eq_some, hasMethod_eq_false, onlyRepeatedField?_eq_some]
  constructor
  · intro gathers
    obtain ⟨name, named, free⟩ := gathers.companion
    obtain ⟨_, inputDeclared, inputFields⟩ := gathers.input
    obtain ⟨_, outputDeclared, outputFields⟩ := gathers.output
    rw [← Registry.message_eq_ok_iff built, inputFound] at inputDeclared
    rw [← Registry.message_eq_ok_iff built, outputFound] at outputDeclared
    cases inputDeclared
    cases outputDeclared
    exact ⟨name, ⟨trivial, named, ⟨inputFields, gathers.manyKeys⟩, outputFields,
      gathers.manyResults⟩, free⟩
  · rintro ⟨name, ⟨-, named, ⟨inputFields, manyKeys⟩, outputFields, manyResults⟩, free⟩
    exact {
      companion := ⟨name, named, free⟩
      input := ⟨input, (Registry.message_eq_ok_iff built).mp inputFound, inputFields⟩
      output := ⟨output, (Registry.message_eq_ok_iff built).mp outputFound, outputFields⟩
      manyKeys := manyKeys
      manyResults := manyResults
    }

/-- A companion cannot be made exactly if the field of the keys or that of the results
cannot be classified.
-/
theorem fails_companionOf (built : Registry.ofFiles options files = .ok registry)
    {input output : Message} {batch : Batch}
    : Fails (companionOf registry options input output batch)
      ↔ KindFault files batch.keys ∨ KindFault files batch.results := by
  rw [companionOf, fails_bind_iff (fun _ _ => fails_bind_pure), fails_shapeOf built,
    fails_shapeOf built]

/-- With a context, a type of a method that is not found as a message is a fault of the
method.
-/
theorem endpointFault_of_fails_message (built : Registry.ofFiles options files = .ok registry)
    (context : options.context = true) {name : String}
    (used : name = method.input ∨ name = method.output) (missing : Fails (registry.message name))
    : EndpointFault options files service method := by
  rcases (Registry.fails_message built).mp missing with unknown | ⟨enumeration, declared⟩
  · exact .unknown name used unknown
  · exact .enumeration context name used enumeration declared

/-- If the companion of a method cannot be found, the method has a fault. Each step of
finding it is followed back to its fault.
-/
theorem endpointFault_of_fails_companion (built : Registry.ofFiles options files = .ok registry)
    (failed : Fails (companion? registry options service method))
    : EndpointFault options files service method := by
  unfold companion? at failed
  split at failed
  · rename_i context
    rcases fails_bind.mp failed with missing | ⟨input, inputFound, later⟩
    · exact endpointFault_of_fails_message built context (Or.inl rfl) missing
    rcases fails_bind.mp later with missing | ⟨output, outputFound, last⟩
    · exact endpointFault_of_fails_message built context (Or.inr rfl) missing
    split at last
    · exact absurd last (not_fails_pure _)
    · rename_i batch chosen
      split at last
      · exact absurd last (not_fails_pure _)
      · rename_i free
        rw [fails_bind_pure, fails_companionOf built] at last
        obtain rfl : batch.method = method := (ofMethod?_eq_some.mp chosen).1
        have gathers := (gathers_iff built inputFound outputFound).mpr
          ⟨batch.companion, chosen, Bool.not_eq_true _ ▸ free⟩
        rcases last with fault | fault
        · exact .companion context _ _ _ gathers (Or.inl rfl) fault
        · exact .companion context _ _ _ gathers (Or.inr rfl) fault
  · exact absurd failed (not_fails_pure _)

/-- A method that gathers keys fails to get its companion if one of the two fields has a
fault, as each of them is classified once it is found.
-/
theorem fails_companion?_of_gathers (built : Registry.ofFiles options files = .ok registry)
    (context : options.context = true) {keys results field : Schema.Field}
    (gathers : Gathers files service method keys results) (used : field = keys ∨ field = results)
    (fault : KindFault files field)
    : Fails (companion? registry options service method) := by
  obtain ⟨input, inputDeclared, -⟩ := gathers.input
  obtain ⟨output, outputDeclared, -⟩ := gathers.output
  have inputFound := (Registry.message_eq_ok_iff built).mpr inputDeclared
  have outputFound := (Registry.message_eq_ok_iff built).mpr outputDeclared
  obtain ⟨name, chosen, free⟩ := (gathers_iff built inputFound outputFound).mp gathers
  have faults : KindFault files keys ∨ KindFault files results := by
    rcases used with rfl | rfl
    · exact Or.inl fault
    · exact Or.inr fault
  rw [companion?, if_pos context, fails_bind]
  refine Or.inr ⟨input, inputFound, fails_bind.mpr (Or.inr ⟨output, outputFound, ?_⟩)⟩
  simp only [chosen, free, Bool.false_eq_true, if_false]
  rw [fails_bind_pure, fails_companionOf built]
  exact faults

/-- With a context, the types of a method have to be messages. An enum is found as a type,
but not as a message.
-/
theorem fails_companion?_of_enumeration (built : Registry.ofFiles options files = .ok registry)
    (context : options.context = true) {name : String}
    (used : name = method.input ∨ name = method.output) {enumeration : Enumeration}
    (declared : Declares files name (.enumeration enumeration))
    : Fails (companion? registry options service method) := by
  have missing : Fails (registry.message name) :=
    (Registry.fails_message built).mpr (Or.inr ⟨enumeration, declared⟩)
  rw [companion?, if_pos context, fails_bind]
  rcases used with rfl | rfl
  · exact Or.inl missing
  · by_cases known : Fails (registry.message method.input)
    · exact Or.inl known
    · obtain ⟨input, found⟩ := not_fails_iff.mp known
      exact Or.inr ⟨input, found, fails_bind.mpr (Or.inl missing)⟩

/-- A service fails exactly if one of its methods has a fault. Streams are refused first;
then each endpoint is found for itself.
-/
theorem fails_endpoints (built : Registry.ofFiles options files = .ok registry)
    : Fails (endpoints registry options service)
      ↔ ∃ method ∈ service.methods, EndpointFault options files service method := by
  have streams {method : Method}
      : Fails (checkUnary service method)
        ↔ method.clientStreaming = true ∨ method.serverStreaming = true := by
    rw [checkUnary, ← Bool.or_eq_true]
    split <;> simp_all
  have each {method : Method}
      : Fails (endpoint registry options service method)
        ↔ IsUnknown files method.input
          ∨ IsUnknown files method.output
          ∨ Fails (companion? registry options service method) := by
    rw [endpoint,
      fails_bind_iff (fun _ _ => fails_bind_iff (fun _ _ => fails_bind_pure)),
      Registry.fails_symbol built, Registry.fails_symbol built]
  rw [endpoints, fails_bind_iff (fun _ _ => fails_mapM), fails_forM]
  simp only [streams, each]
  constructor
  · rintro (⟨method, inService, streaming⟩ | ⟨method, inService, fault⟩)
    · exact ⟨method, inService, .streaming streaming⟩
    · refine ⟨method, inService, ?_⟩
      rcases fault with unknown | unknown | failed
      · exact .unknown method.input (Or.inl rfl) unknown
      · exact .unknown method.output (Or.inr rfl) unknown
      · exact endpointFault_of_fails_companion built failed
  · rintro ⟨method, inService, fault⟩
    cases fault with
    | streaming streaming => exact Or.inl ⟨method, inService, streaming⟩
    | unknown name used unknown =>
        rcases used with rfl | rfl
        · exact Or.inr ⟨method, inService, Or.inl unknown⟩
        · exact Or.inr ⟨method, inService, Or.inr (Or.inl unknown)⟩
    | enumeration context name used enumeration declared =>
        exact Or.inr ⟨method, inService,
          Or.inr (Or.inr (fails_companion?_of_enumeration built context used declared))⟩
    | companion context keys results field gathers used fault =>
        exact Or.inr ⟨method, inService,
          Or.inr (Or.inr (fails_companion?_of_gathers built context gathers used fault))⟩

end ProtobufTypeScript.Service
