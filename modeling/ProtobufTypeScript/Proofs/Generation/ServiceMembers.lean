import ProtobufTypeScript.Proofs.Generation.Generated
import ProtobufTypeScript.Proofs.Service.Members

/-!
The members of what the units of a request have for services. They have different names unless two
batch methods get companions of one name, or a method is named like the transport or the constructor
of a client.
-/

namespace ProtobufTypeScript.Generation

open Schema Target

/-- The items for a service are its interface and perhaps its client. No two members of
the interface have one name, unless two batch methods get companions of one name; and no
two members of the client, unless a method has the name of another member.
-/
inductive HasMembers (options : Options) (files : List File) (service : Service)
    : List Item → Prop
  | mk (interface : Interface) (clients : List ClassType)
    (contractName : interface.name = service.name)
    (clientName : ∀ client ∈ clients, client.name = service.name ++ "ClientImpl")
    (wanted : clients.length = if Service.hasClients options then 1 else 0)
    (once : ∀ method ∈ service.methods, interface.memberNames.count method.name = 1)
    (contract
      : interface.memberNames.Nodup ↔ ¬ Service.SharesCompanion options files service)
    (client
      : ∀ client ∈ clients,
          client.memberNames.Nodup
          ↔ ¬ Service.SharesCompanion options files service
            ∧ ∀ method ∈ service.methods, method.name ≠ "rpc" ∧ method.name ≠ "constructor")
    : HasMembers options files service (.interface interface :: clients.map Item.classType)

/-- What is declared for a service has the members that it asks for, in the interface and
in the client. Witness: the endpoints, with one member each and one for a companion.
-/
theorem hasMembers_declarations {registry : Registry} {options : Options} {files : List File}
    {package : String} {service : Service} {cursor : Cursor} {items : List Item}
    (built : Registry.ofFiles options files = .ok registry)
    (distinct : (service.methods.map Method.name).Nodup)
    (declared : Service.declarations registry options package service cursor = .ok items)
    : HasMembers options files service items := by
  obtain ⟨endpoints, found, rfl⟩ := Service.declarations_eq_ok declared
  let interface := Service.contract options service endpoints cursor
  let client := Service.client options package service endpoints
  have once
      : ∀ method ∈ service.methods, interface.memberNames.count method.name = 1 :=
    fun method inService => Service.count_memberNames_contract found distinct inService
  have contract
      : interface.memberNames.Nodup ↔ ¬ Service.SharesCompanion options files service := by
    rw [Service.memberNames_contract]
    exact Service.nodup_flatMap_names_iff found built distinct
  by_cases wanted : Service.hasClients options = true
  · rw [Service.itemsFor, if_pos wanted]
    exact .mk interface [client] rfl (by simp [client, Service.client]) (by simp [wanted]) once
      contract
      (List.forall_mem_singleton.mpr (Service.nodup_memberNames_client_iff found built distinct))
  · rw [Service.itemsFor, if_neg wanted]
    exact .mk interface [] rfl (List.forall_mem_nil _) (by simp [wanted]) once contract
      (List.forall_mem_nil _)

/-- In every unit the items for the services stand in the order of the services. The
members of each of them have different names, unless two batch methods get companions of
one name or a method has the name of another member of the client; a declared method never
shares its name in the interface.
-/
theorem members_apart_iff {request : Request} {file : File} {unit : SourceUnit}
    (generated : Generated request file unit)
    : ∃ before parts after,
        unit.items = before ++ parts.flatten ++ after
        ∧ List.Forall₂
            (fun service part =>
              (service.methods.map Method.name).Nodup
              → HasMembers (Options.ofParameter request.parameter) request.files service part)
            file.services parts := by
  obtain ⟨registry, built, made⟩ := generated.made
  obtain ⟨types, services, others, -, servicesFound, items⟩ := exists_items_of_unit made
  obtain ⟨parts, rfl, each⟩ := exists_parts_of_serviceItems servicesFound
  refine ⟨types, parts, others, items, each.imp ?_⟩
  rintro service part ⟨cursor, declared⟩ distinct
  exact hasMembers_declarations built distinct declared

/-- Two batch methods of different names get companions of one name, which the interface
and the client then have twice.
-/
theorem members_apart_iff_shared_companion
    : let keys : Schema.Field := { name := "ids", label := .repeated, type := .scalar .string }
      let tags : Schema.Field := { name := "tags", label := .repeated, type := .scalar .string }
      let service : Service :=
        {
          name := "Tagging"
          methods :=
            [
              { name := "BatchTags", input := ".Keys", output := ".Tags" },
              { name := "BatchGetTags", input := ".Keys", output := ".Tags" }
            ]
        }
      let file : File :=
        {
          name := "tags.proto"
          messages := [{ name := "Keys", fields := [keys] }, { name := "Tags", fields := [tags] }]
          services := [service]
        }
      let request : Request :=
        { parameter := "context=true,outputJsonMethods=false", files := [file] }
      (outputs request).toOption.isSome = true
      ∧ (service.methods.map Method.name).Nodup
      ∧ Service.SharesCompanion (Options.ofParameter request.parameter) request.files service
      ∧ ∃ unit before interface client after,
          Generated request file unit
          ∧ unit.items = before ++ [.interface interface, .classType client] ++ after
          ∧ ¬ interface.memberNames.Nodup
          ∧ ¬ client.memberNames.Nodup := by
  intro keys tags service file request
  have accepted : (outputs request).toOption.isSome = true := by decide +kernel
  have distinct : (service.methods.map Method.name).Nodup := by decide
  have declaresKeys
      : Declares request.files ".Keys" (.message { name := "Keys", fields := [keys] }) :=
    ⟨file, List.mem_cons_self, ⟨["Keys"], .message { name := "Keys", fields := [keys] }⟩,
      List.mem_cons_self, by decide +kernel, rfl⟩
  have declaresTags
      : Declares request.files ".Tags" (.message { name := "Tags", fields := [tags] }) :=
    ⟨file, List.mem_cons_self, ⟨["Tags"], .message { name := "Tags", fields := [tags] }⟩,
      List.mem_cons_of_mem _ List.mem_cons_self, by decide +kernel, rfl⟩
  have named
      : ∀ method ∈ service.methods,
          Service.companionName method.name = some "GetTag"
          ∧ method.input = ".Keys"
          ∧ method.output = ".Tags" := by
    decide
  have free : ∀ method ∈ service.methods, method.name ≠ "GetTag" := by decide
  have gathers
      : ∀ method ∈ service.methods,
          ∃ keys results, Service.Gathers request.files service method keys results := by
    intro method member
    obtain ⟨name, input, output⟩ := named method member
    exact ⟨keys, tags, ⟨"GetTag", name, free⟩, ⟨_, input ▸ declaresKeys, rfl⟩,
      ⟨_, output ▸ declaresTags, rfl⟩, rfl, rfl⟩
  have shares
      : Service.SharesCompanion (Options.ofParameter request.parameter) request.files service :=
    ⟨by decide +kernel, _, List.mem_cons_self, _, List.mem_cons_of_mem _ List.mem_cons_self,
      by decide, by decide, gathers _ List.mem_cons_self,
      gathers _ (List.mem_cons_of_mem _ List.mem_cons_self)⟩
  have found : (unit? request file).map (fun _ => true) = some true := by decide +kernel
  obtain ⟨unit, generated, -⟩ := exists_generated_of_unit? List.mem_cons_self rfl found
  obtain ⟨before, parts, after, items, each⟩ := members_apart_iff generated
  obtain ⟨part, rest, members, none, rfl⟩ := List.forall₂_cons_left_iff.mp each
  obtain rfl := List.forall₂_nil_left_iff.mp none
  cases members distinct with
  | mk interface clients contractName clientName wanted once contract client =>
      have single : clients.length = 1 := wanted.trans (by decide +kernel)
      obtain ⟨only, rfl⟩ := List.length_eq_one_iff.mp single
      refine ⟨accepted, distinct, shares, unit, before, interface, only, after, generated, items,
        fun nodup => contract.mp nodup shares,
        fun nodup => ((client only List.mem_cons_self).mp nodup).1 shares⟩

end ProtobufTypeScript.Generation
