import Mathlib.Data.List.Lattice
import Mathlib.Data.List.Pairwise
import ProtobufTypeScript.Proofs.Service.Companion
import ProtobufTypeScript.Proofs.Service.Conformance
import ProtobufTypeScript.Proofs.Service.Naming
import ProtobufTypeScript.Proofs.Service.Refusal

/-!
The names of the members that an interface and a client have for a service. A companion never has
the name of a method that the service declares, as such a method is looked for; other companions are
not, so that two batch methods may get companions of one name.
-/

namespace ProtobufTypeScript

open Schema Target

namespace Target

/-- The names of the members of an interface, in order. -/
def Interface.memberNames (declared : Interface) : List String :=
  declared.properties.map Property.name ++ declared.methods.map Function.name

/-- The names of the members of a class, in order. -/
def ClassType.memberNames (declared : ClassType) : List String :=
  declared.properties.map Property.name ++ declared.functions.map Function.name

end Target

namespace Service

/-- Whether two methods of a service gather keys for companions of one name. -/
def SharesCompanion (options : Options) (files : List File) (service : Schema.Service) : Prop :=
  options.context = true
  ∧ ∃ first ∈ service.methods, ∃ second ∈ service.methods,
      first.name ≠ second.name
      ∧ companionName first.name = companionName second.name
      ∧ (∃ keys results, Gathers files service first keys results)
      ∧ ∃ keys results, Gathers files service second keys results

/-- The name of the companion of an endpoint, if there is one. -/
def Endpoint.added (endpoint : Endpoint) : List String :=
  (endpoint.companion.map Companion.name).toList

/-- The names of the methods for an endpoint: its own, and that of its companion. -/
def Endpoint.names (endpoint : Endpoint) : List String :=
  endpoint.method.name :: endpoint.added

variable {registry : Registry} {options : Options} {files : List File} {package : String}
  {service : Schema.Service} {method : Method} {cursor : Cursor} {endpoints : List Endpoint}

-----------------------------------------------------------------------------------------
-- The names of the members
-----------------------------------------------------------------------------------------

theorem map_name_endpointSignatures (endpoint : Endpoint)
    : (endpointSignatures options endpoint).map Signature.name = endpoint.names := by
  unfold endpointSignatures Endpoint.names Endpoint.added
  cases endpoint.companion <;> rfl

theorem map_name_eq_of_signatures (functions : List Function)
    : functions.map Function.name = (functions.map Function.signature).map Signature.name := by
  rw [List.map_map]
  rfl

/-- The members of the interface of a service are named as its endpoints, in order. -/
theorem memberNames_contract
    : (contract options service endpoints cursor).memberNames
      = endpoints.flatMap Endpoint.names := by
  show (contract options service endpoints cursor).methods.map Function.name = _
  rw [map_name_eq_of_signatures, signature_contract, List.map_flatMap]
  exact List.flatMap_congr (fun endpoint _ => map_name_endpointSignatures endpoint)

/-- A client has the members of the interface, its transport and its constructor. Witness:
the signatures of the client are those of the interface in another order, and so are their
names.
-/
theorem memberNames_client
    (found
      : List.Forall₂
          (fun method endpoint => Service.endpoint registry options service method = .ok endpoint)
          service.methods endpoints)
    : (client options package service endpoints).memberNames.Perm
        ("rpc" :: "constructor" :: endpoints.flatMap Endpoint.names) := by
  refine List.Perm.cons "rpc" (List.Perm.cons "constructor" ?_)
  rw [map_name_eq_of_signatures]
  refine (signature_client found).map Signature.name |>.trans ?_
  rw [List.map_flatMap]
  exact .of_eq (List.flatMap_congr (fun endpoint _ => map_name_endpointSignatures endpoint))

/-- The names of endpoints are those of the methods and those that companions add, up to
order.
-/
theorem perm_flatMap_names
    : (endpoints.flatMap Endpoint.names).Perm
        (endpoints.map (fun endpoint => endpoint.method.name)
          ++ endpoints.flatMap Endpoint.added) := by
  rw [List.map_eq_flatMap]
  exact (List.flatMap_append_perm endpoints (fun endpoint => [endpoint.method.name])
    Endpoint.added).symm

-----------------------------------------------------------------------------------------
-- Which methods get a companion
-----------------------------------------------------------------------------------------

/-- With a context, the methods that gather keys get a companion, and no others. Witness:
the steps of finding it, of which the messages have results as the companion was found.
-/
theorem exists_companion_iff (built : Registry.ofFiles options files = .ok registry)
    {chosen : Option Companion} (found : companion? registry options service method = .ok chosen)
    : (∃ companion, chosen = some companion)
      ↔ options.context = true ∧ ∃ keys results, Gathers files service method keys results := by
  unfold companion? at found
  split at found
  case isFalse blind =>
    cases found
    simp [blind]
  case isTrue context =>
    obtain ⟨input, inputFound, found⟩ := bind_eq_ok.mp found
    obtain ⟨output, outputFound, found⟩ := bind_eq_ok.mp found
    simp only [context, true_and, gathers_iff built inputFound outputFound]
    split at found
    case h_1 none =>
      cases found
      simp [none]
    case h_2 batch some =>
      split at found
      case isTrue taken =>
        cases found
        refine iff_of_false nofun ?_
        rintro ⟨keys, results, name, same, free⟩
        cases Option.some.inj (some.symm.trans same)
        exact absurd taken (Bool.eq_false_iff.mp free)
      case isFalse free =>
        obtain ⟨companion, -, same⟩ := bind_eq_ok.mp found
        cases same
        obtain rfl := (ofMethod?_eq_some.mp some).1
        exact iff_of_true ⟨companion, rfl⟩
          ⟨batch.keys, batch.results, batch.companion, some, Bool.not_eq_true _ ▸ free⟩

/-- The name of the companion that a method gets is made from the name of the method, so
that it is known before the messages are looked up.
-/
theorem mem_added_iff (built : Registry.ofFiles options files = .ok registry)
    {chosen : Option Companion} (found : companion? registry options service method = .ok chosen)
    {name : String}
    : name ∈ (chosen.map Companion.name).toList
      ↔ options.context = true
        ∧ companionName method.name = some name
        ∧ ∃ keys results, Gathers files service method keys results := by
  have gets := exists_companion_iff built found
  have named {companion : Companion} (some : chosen = some companion)
      : companionName method.name = .some companion.name := by
    obtain ⟨_, _, _, _, gathered⟩ := exists_isGathered (some ▸ found)
    exact gathered.name
  rw [Option.mem_toList, Option.map_eq_some_iff]
  constructor
  · rintro ⟨companion, some, rfl⟩
    obtain ⟨context, gathers⟩ := gets.mp ⟨companion, some⟩
    exact ⟨context, named some, gathers⟩
  · rintro ⟨context, same, gathers⟩
    obtain ⟨companion, some⟩ := gets.mpr ⟨context, gathers⟩
    exact ⟨companion, some, Option.some.inj ((named some).symm.trans same)⟩

section Endpoints

variable
  (found
    : List.Forall₂
        (fun method endpoint => Service.endpoint registry options service method = .ok endpoint)
        service.methods endpoints)

include found

/-- The endpoints of a service stand for its methods, in order. -/
theorem map_method
    : endpoints.map Endpoint.method = service.methods := by
  rw [← List.forall₂_eq_eq_eq, List.forall₂_map_left_iff]
  refine found.flip.imp ?_
  rintro endpoint method made
  obtain ⟨rfl, -⟩ := endpoint_eq_ok.mp made
  rfl

/-- The endpoints of a service have the names of its methods, in order. -/
theorem map_method_name
    : endpoints.map (fun endpoint => endpoint.method.name) = service.methods.map Method.name := by
  rw [← map_method found, List.map_map]
  rfl

/-- Each endpoint stands for a method of the service, with the companion that is found for
it.
-/
theorem exists_method_of_mem {endpoint : Endpoint} (member : endpoint ∈ endpoints)
    : endpoint.method ∈ service.methods
      ∧ companion? registry options service endpoint.method = .ok endpoint.companion := by
  obtain ⟨method, inService, made⟩ := exists_of_mem_right found member
  obtain ⟨rfl, -, -, companion⟩ := endpoint_eq_ok.mp made
  exact ⟨inService, companion⟩

/-- Each method of a service has an endpoint, with the companion that is found for it. -/
theorem exists_endpoint_of_mem (inService : method ∈ service.methods)
    : ∃ endpoint ∈ endpoints, endpoint.method = method
        ∧ companion? registry options service method = .ok endpoint.companion := by
  obtain ⟨endpoint, member, made⟩ := exists_of_mem_left found inService
  obtain ⟨same, -, -, companion⟩ := endpoint_eq_ok.mp made
  exact ⟨endpoint, member, same, companion⟩

/-- The name of a companion is made from that of its method, and no declared method has
it.
-/
theorem apart_of_mem_added {name : String} (member : name ∈ endpoints.flatMap Endpoint.added)
    : "Get".toList <+: name.toList ∧ ∀ other ∈ service.methods, other.name ≠ name := by
  obtain ⟨endpoint, inEndpoints, chosen⟩ := List.mem_flatMap.mp member
  obtain ⟨companion, present, rfl⟩ := Option.map_eq_some_iff.mp (Option.mem_toList.mp chosen)
  obtain ⟨-, made⟩ := exists_method_of_mem found inEndpoints
  obtain ⟨_, _, _, _, gathered⟩ := exists_isGathered (present ▸ made)
  exact ⟨get_isPrefix_of_companionName gathered.name, hasMethod_eq_false.mp gathered.free⟩

/-- Where methods have different names, so have companions, unless two methods gather keys
for one name. Each endpoint adds one name at most.
-/
theorem nodup_flatMap_added_iff (built : Registry.ofFiles options files = .ok registry)
    (distinct : (service.methods.map Method.name).Nodup)
    : (endpoints.flatMap Endpoint.added).Nodup ↔ ¬ SharesCompanion options files service := by
  have apart := map_method_name found ▸ distinct
  constructor
  · rintro nodup ⟨context, first, inService, second, inService', differ, same,
      ⟨keys, results, gathered⟩, gathers'⟩
    obtain ⟨endpoint, member, rfl, made⟩ := exists_endpoint_of_mem found inService
    obtain ⟨other, member', rfl, made'⟩ := exists_endpoint_of_mem found inService'
    obtain ⟨name, named, -⟩ := gathered.companion
    have inNames := (mem_added_iff built made).mpr ⟨context, named, keys, results, gathered⟩
    have inNames' := (mem_added_iff built made').mpr ⟨context, same ▸ named, gathers'⟩
    have parted := (List.nodup_flatMap.mp nodup).2
    have : Std.Symm (Function.onFun List.Disjoint Endpoint.added) :=
      ⟨fun _ _ => List.Disjoint.symm⟩
    refine parted.forall member member' (fun equal => differ ?_) inNames inNames'
    exact congrArg (fun endpoint => endpoint.method.name) equal
  · intro none
    refine List.nodup_flatMap.mpr ⟨fun endpoint _ => ?_, ?_⟩
    · unfold Endpoint.added
      cases endpoint.companion <;> simp
    · refine apart.of_map.pairwise_of_forall_ne ?_
      intro first inFirst second inSecond differ name inNames inNames'
      obtain ⟨inService, made⟩ := exists_method_of_mem found inFirst
      obtain ⟨inService', made'⟩ := exists_method_of_mem found inSecond
      obtain ⟨context, named, gathers⟩ := (mem_added_iff built made).mp inNames
      obtain ⟨-, named', gathers'⟩ := (mem_added_iff built made').mp inNames'
      refine none ⟨context, _, inService, _, inService', ?_, named.trans named'.symm, gathers,
        gathers'⟩
      exact fun same => differ (List.inj_on_of_nodup_map apart inFirst inSecond same)

/-- The names of the methods and of the companions differ if those of the companions do.
-/
theorem nodup_flatMap_names_iff (built : Registry.ofFiles options files = .ok registry)
    (distinct : (service.methods.map Method.name).Nodup)
    : (endpoints.flatMap Endpoint.names).Nodup ↔ ¬ SharesCompanion options files service := by
  rw [perm_flatMap_names.nodup_iff, List.nodup_append', map_method_name found,
    nodup_flatMap_added_iff found built distinct]
  refine ⟨fun parts => parts.2.1, fun none => ⟨distinct, none, ?_⟩⟩
  intro name declared isCompanion
  obtain ⟨method, inService, rfl⟩ := List.mem_map.mp declared
  exact (apart_of_mem_added found isCompanion).2 method inService rfl

/-- A declared method is the only member of its name in the interface. -/
theorem count_memberNames_contract (distinct : (service.methods.map Method.name).Nodup)
    (inService : method ∈ service.methods)
    : (contract options service endpoints cursor).memberNames.count method.name = 1 := by
  have declared : (service.methods.map Method.name).count method.name = 1 :=
    List.count_eq_one_of_mem distinct (List.mem_map_of_mem inService)
  have companions : (endpoints.flatMap Endpoint.added).count method.name = 0 :=
    List.count_eq_zero.mpr
      (fun member => (apart_of_mem_added found member).2 method inService rfl)
  rw [memberNames_contract, perm_flatMap_names.count_eq, List.count_append, map_method_name found,
    declared, companions]

/-- No companion has the name of the transport or of the constructor of a client, but a
method may.
-/
theorem not_mem_flatMap_names_iff {name : String} (other : ¬ "Get".toList <+: name.toList)
    : name ∉ endpoints.flatMap Endpoint.names ↔ ∀ method ∈ service.methods, method.name ≠ name := by
  rw [perm_flatMap_names.mem_iff, List.mem_append, map_method_name found]
  have noCompanion : name ∉ endpoints.flatMap Endpoint.added :=
    fun member => other (apart_of_mem_added found member).1
  simp [noCompanion]

/-- The members of a client are told apart by their names exactly if no two methods share
a companion and no method has a name that the client needs for itself.
-/
theorem nodup_memberNames_client_iff (built : Registry.ofFiles options files = .ok registry)
    (distinct : (service.methods.map Method.name).Nodup)
    : (client options package service endpoints).memberNames.Nodup
      ↔ ¬ SharesCompanion options files service
        ∧ ∀ method ∈ service.methods, method.name ≠ "rpc" ∧ method.name ≠ "constructor" := by
  rw [(memberNames_client found).nodup_iff, List.nodup_cons, List.nodup_cons, List.mem_cons, not_or,
    not_mem_flatMap_names_iff found (by decide), not_mem_flatMap_names_iff found (by decide),
    nodup_flatMap_names_iff found built distinct]
  have differ : "rpc" ≠ "constructor" := by decide
  grind

end Endpoints

end Service

end ProtobufTypeScript
