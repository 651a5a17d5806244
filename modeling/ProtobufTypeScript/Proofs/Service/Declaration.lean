import ProtobufTypeScript.Proofs.Except
import ProtobufTypeScript.Service.Declaration

/-!
The declarations for a service, made of one list of methods. The interface and the client find the
types of the methods each for itself, and in a different order; where the interface finds all of
them, the client finds the same.
-/

namespace ProtobufTypeScript.Service

open Schema Target

variable {registry : Registry} {options : Options} {package : String} {service : Schema.Service}
  {cursor : Cursor} {method : Method} {endpoint : Endpoint}

/-- Only with a context does a method get a companion. -/
theorem context_of_companion? {companion : Companion}
    (found : companion? registry options service method = .ok (some companion))
    : options.context = true := by
  unfold companion? at found
  split at found
  case isTrue context => exact context
  case isFalse => cases found

/-- An endpoint is a method with the symbols of its types and its companion. -/
theorem endpoint_eq_ok
    : Service.endpoint registry options service method = .ok endpoint
      ↔ endpoint.method = method
        ∧ registry.symbol method.input = .ok endpoint.request
        ∧ registry.symbol method.output = .ok endpoint.response
        ∧ companion? registry options service method = .ok endpoint.companion := by
  simp only [Service.endpoint, bind_eq_ok, pure, Except.pure, Except.ok.injEq]
  constructor
  · rintro ⟨request, input, response, output, companion, found, rfl⟩
    exact ⟨rfl, input, output, found⟩
  · rintro ⟨rfl, input, output, found⟩
    exact ⟨_, input, _, output, _, found, rfl⟩

/-- The client finds an endpoint just where the interface does; it looks for the same
things, in another order.
-/
theorem clientEndpoint_eq_ok_iff
    : clientEndpoint registry options service method = .ok endpoint
      ↔ Service.endpoint registry options service method = .ok endpoint := by
  rw [endpoint_eq_ok]
  simp only [clientEndpoint, bind_eq_ok, pure, Except.pure, Except.ok.injEq]
  constructor
  · rintro ⟨companion, found, request, input, response, output, rfl⟩
    exact ⟨rfl, input, output, found⟩
  · rintro ⟨rfl, input, output, found⟩
    exact ⟨_, found, _, input, _, output, rfl⟩

/-- If the interface finds the endpoints of all methods, the client finds the same ones.
-/
theorem mapM_clientEndpoint {endpoints : List Endpoint}
    (found : service.methods.mapM (Service.endpoint registry options service) = .ok endpoints)
    : service.methods.mapM (clientEndpoint registry options service) = .ok endpoints :=
  mapM_eq_ok.mpr ((mapM_eq_ok.mp found).imp (fun _ _ => clientEndpoint_eq_ok_iff.mpr))

/-- The methods of a service with the types they work on; none of them may stream. -/
def endpoints (registry : Registry) (options : Options) (service : Schema.Service)
    : Except GenerationError (List Endpoint) := do
  service.methods.forM (checkUnary service)
  service.methods.mapM (Service.endpoint registry options service)

/-- The interface of a service and perhaps its client, for one list of endpoints. -/
def itemsFor (options : Options) (package : String) (service : Schema.Service) (cursor : Cursor)
    (endpoints : List Endpoint)
    : List Item :=
  .interface (contract options service endpoints cursor)
    :: if hasClients options then [.classType (client options package service endpoints)] else []

/-- What is declared for a service is declared for one list of endpoints, if they are all
found, and else nothing is. The client finds its endpoints again, and they are the same.
-/
theorem declarations_eq_map
    : declarations registry options package service cursor
      = (endpoints registry options service).map (itemsFor options package service cursor) := by
  unfold declarations endpoints
  cases service.methods.forM (checkUnary service) with
  | error error => rfl
  | ok checked =>
      cases found : service.methods.mapM (Service.endpoint registry options service) with
      | error error => rfl
      | ok endpoints =>
          have served := mapM_clientEndpoint found
          cases wanted : hasClients options <;>
            simp [bind, Except.bind, Except.map, itemsFor, pure, Except.pure, wanted, served]

/-- What is declared for a service stands for the endpoints that are found for it. -/
theorem exists_endpoints_of_declarations {items : List Item}
    (made : declarations registry options package service cursor = .ok items)
    : ∃ found,
        endpoints registry options service = .ok found
        ∧ items = itemsFor options package service cursor found := by
  rw [declarations_eq_map] at made
  obtain ⟨found, known, same⟩ := map_eq_ok.mp made
  exact ⟨found, known, same.symm⟩

/-- The declarations for a service are its interface, and perhaps its client, for one list
with an endpoint for each of its methods.
-/
theorem declarations_eq_ok {items : List Item}
    (made : declarations registry options package service cursor = .ok items)
    : ∃ endpoints,
        List.Forall₂
          (fun method endpoint => Service.endpoint registry options service method = .ok endpoint)
          service.methods endpoints
        ∧ items = itemsFor options package service cursor endpoints := by
  obtain ⟨endpoints, known, rfl⟩ := exists_endpoints_of_declarations made
  obtain ⟨-, -, known⟩ := bind_eq_ok.mp known
  exact ⟨endpoints, mapM_eq_ok.mp known, rfl⟩

/-- The only interface that is declared for a service is its contract. -/
theorem eq_contract_of_mem {endpoints : List Endpoint} {interface : Interface}
    (declared : .interface interface ∈ itemsFor options package service cursor endpoints)
    : interface = contract options service endpoints cursor := by
  rcases List.mem_cons.mp declared with same | other
  · exact Item.interface.inj same
  · split at other <;> simp at other

/-- The only class that is declared for a service is its client. -/
theorem eq_client_of_mem {endpoints : List Endpoint} {implementation : ClassType}
    (implemented
      : .classType implementation ∈ itemsFor options package service cursor endpoints)
    : implementation = client options package service endpoints := by
  rcases List.mem_cons.mp implemented with other | inRest
  · cases other
  · split at inRest
    · exact Item.classType.inj (List.mem_singleton.mp inRest)
    · cases inRest

end ProtobufTypeScript.Service
