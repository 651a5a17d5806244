import Mathlib.Data.List.Perm.Basic
import ProtobufTypeScript.Proofs.Service.Declaration

/-!
The client of a service conforms to the interface of the service: both have the same methods, each
with the same parameters and the same result. These are the declared methods and the companions of
batch methods, and no others.

The methods of the client are built apart from the signatures of the interface. A method that sends
its request takes the context if there is one; a method that answers from a cache and a companion
always take it, and are built only if there is one.
-/

namespace ProtobufTypeScript

open Schema Target

/-- What callers see of a method: its name, the names and types of its parameters, and its
result type.
-/
structure Target.Signature where
  name : String
  params : List (String × TypeExpr)
  returns : Option TypeExpr

/-- What callers see of a function. -/
def Target.Function.signature (function : Function) : Signature :=
  {
    name := function.name
    params := function.params.map (fun param => (param.name, param.type))
    returns := function.returns
  }

namespace Service

/-- The parameters of a method that takes a context first, if there is one. -/
def paramsWithContext (options : Options) (name : String) (type : TypeExpr)
    : List (String × TypeExpr) :=
  (if options.context then [("ctx", .simple "Context")] else []) ++ [(name, type)]

/-- Whether a service is to offer a method of a given signature: the service declares it,
or it goes with a batch method that the service declares.
-/
inductive IsOffered (registry : Registry) (options : Options) (service : Schema.Service)
    : Signature → Prop
  | declared (method : Method) (request response : Symbol) (member : method ∈ service.methods)
    (input : registry.symbol method.input = .ok request)
    (output : registry.symbol method.output = .ok response)
    : IsOffered registry options service
        {
          name := method.name
          params := paramsWithContext options "request" (.symbol request)
          returns := TypeExpr.promise (.symbol response)
        }
  | companion (method : Method) (companion : Companion) (member : method ∈ service.methods)
    (found : companion? registry options service method = .ok (some companion))
    : IsOffered registry options service
        {
          name := companion.name
          params := paramsWithContext options (singular companion.keys) companion.keyType
          returns := TypeExpr.promise companion.valueType
        }

/-- A client has the methods of an interface, and these are what the service is to offer.
-/
structure Conforms (registry : Registry) (options : Options) (service : Schema.Service)
    (contract : Interface) (client : ClassType)
    : Prop where
  /-- The client has each method as often as the interface, and no others. -/
  methods
    : (client.methods.map Function.signature).Perm (contract.methods.map Function.signature)
  offered
    : ∀ signature,
        signature ∈ contract.methods.map Function.signature
        ↔ IsOffered registry options service signature
  declared
    : ∀ method ∈ service.methods, method.name ∈ contract.methods.map Function.name

variable {registry : Registry} {options : Options} {package : String} {service : Schema.Service}
  {cursor : Cursor}

/-- The signatures for an endpoint: its own, and that of its companion. -/
def endpointSignatures (options : Options) (endpoint : Endpoint) : List Signature :=
  (methodSignature options endpoint).signature
    :: (endpoint.companion.map
          (fun companion => (companionSignature options companion).signature)).toList

-----------------------------------------------------------------------------------------
-- The two lists of methods
-----------------------------------------------------------------------------------------

/-- The functions in the interface for a method have the signatures of the endpoint.
Comments are not part of a signature.
-/
theorem signature_signatures (endpoint : Endpoint) (position : Nat)
    : (signatures options cursor endpoint position).map Function.signature
      = endpointSignatures options endpoint := by
  unfold signatures endpointSignatures
  cases endpoint.companion <;> rfl

/-- The interface lists the signatures endpoint by endpoint; the comments that stand at
them are no part of the signatures.
-/
theorem signature_contract (endpoints : List Endpoint)
    : (contract options service endpoints cursor).methods.map Function.signature
      = endpoints.flatMap (endpointSignatures options) := by
  calc (contract options service endpoints cursor).methods.map Function.signature
      = endpoints.zipIdx.flatMap (fun placed => endpointSignatures options placed.1) := by
        simp only [contract, List.map_flatMap, signature_signatures]
    _ = (endpoints.zipIdx.map Prod.fst).flatMap (endpointSignatures options) := by
        rw [List.flatMap_map]
    _ = endpoints.flatMap (endpointSignatures options) := by
        rw [List.zipIdx_map_fst]

/-- A method that answers from a cache takes the context in any case, as the interface has
it where there is one.
-/
theorem signature_cachingMethod (context : options.context = true) (endpoint : Endpoint)
    : (cachingMethod package service endpoint).signature
      = (methodSignature options endpoint).signature := by
  simp [cachingMethod, methodSignature, contextParams, contextType, context, Function.signature]

/-- A companion takes the context in any case, as the interface has it where there is one.
-/
theorem signature_batchingMethod (context : options.context = true) (method : Method)
    (companion : Companion)
    : (batchingMethod package service method companion).signature
      = (companionSignature options companion).signature := by
  simp [batchingMethod, companionSignature, contextParams, contextType, context,
    Function.signature]

/-- Answered from a cache or not, a method has the signature that the interface gives it:
it is answered from one only if there is a context.
-/
theorem signature_ownMethod (endpoint : Endpoint)
    : (if isCached options endpoint.method then cachingMethod package service endpoint
        else regularMethod options package service endpoint).signature
      = (methodSignature options endpoint).signature := by
  split
  case isTrue cached =>
    exact signature_cachingMethod (Bool.and_eq_true_iff.mp cached).1 endpoint
  case isFalse => rfl

/-- For an endpoint the client has the methods that the interface has signatures for,
though it has a companion before its batch method. Witness: where there is a companion
there is a context.
-/
theorem signature_clientMethods {endpoint : Endpoint} {method : Method}
    (found : companion? registry options service method = .ok endpoint.companion)
    : ((clientMethods options package service endpoint).map Function.signature).Perm
        (endpointSignatures options endpoint) := by
  unfold clientMethods endpointSignatures
  cases chosen : endpoint.companion with
  | none => simp [signature_ownMethod]
  | some companion =>
      have context : options.context = true := context_of_companion? (chosen ▸ found)
      simp only [Option.map_some, Option.toList_some, List.singleton_append, List.map_cons,
        List.map_nil, signature_batchingMethod context, signature_ownMethod]
      exact List.Perm.swap _ _ []

/-- The client goes through the endpoints in the order in which the interface does, and
for each of them both have the same signatures.
-/
theorem signature_client {endpoints : List Endpoint}
    (found
      : List.Forall₂
          (fun method endpoint => Service.endpoint registry options service method = .ok endpoint)
          service.methods endpoints)
    : ((client options package service endpoints).methods.map Function.signature).Perm
        (endpoints.flatMap (endpointSignatures options)) := by
  rw [client, List.map_flatMap]
  refine List.Perm.flatMap_left endpoints (fun endpoint member => ?_)
  obtain ⟨method, -, made⟩ := exists_of_mem_right found member
  exact signature_clientMethods (endpoint_eq_ok.mp made).2.2.2

-----------------------------------------------------------------------------------------
-- What a service is to offer
-----------------------------------------------------------------------------------------

/-- The signature of a method takes the request, behind the context if there is one, and
promises the response.
-/
theorem signature_methodSignature (endpoint : Endpoint)
    : (methodSignature options endpoint).signature
      = {
          name := endpoint.method.name
          params := paramsWithContext options "request" (.symbol endpoint.request)
          returns := TypeExpr.promise (.symbol endpoint.response)
        } := by
  simp only [methodSignature, Function.signature, paramsWithContext, contextParams]
  split <;> rfl

/-- The signature of a companion takes a key, behind the context if there is one, and
promises a value.
-/
theorem signature_companionSignature (companion : Companion)
    : (companionSignature options companion).signature
      = {
          name := companion.name
          params := paramsWithContext options (singular companion.keys) companion.keyType
          returns := TypeExpr.promise companion.valueType
        } := by
  simp only [companionSignature, Function.signature, paramsWithContext, contextParams]
  split <;> rfl

/-- The signatures of an endpoint are that of its method and that of its companion, if it
has one.
-/
theorem mem_endpointSignatures {endpoint : Endpoint} {signature : Signature}
    : signature ∈ endpointSignatures options endpoint
      ↔ signature = (methodSignature options endpoint).signature
        ∨ ∃ companion ∈ endpoint.companion,
            signature = (companionSignature options companion).signature := by
  simp [endpointSignatures, @eq_comm _ signature]

/-- The signatures for the methods of a service are those that it is to offer. Witness:
each endpoint is found for one method, and has its names and types.
-/
theorem isOffered_iff {endpoints : List Endpoint}
    (found
      : List.Forall₂
          (fun method endpoint => Service.endpoint registry options service method = .ok endpoint)
          service.methods endpoints)
    (signature : Signature)
    : signature ∈ endpoints.flatMap (endpointSignatures options)
      ↔ IsOffered registry options service signature := by
  rw [List.mem_flatMap]
  constructor
  · rintro ⟨endpoint, member, inEndpoint⟩
    obtain ⟨method, inService, made⟩ := exists_of_mem_right found member
    obtain ⟨rfl, input, output, companion⟩ := endpoint_eq_ok.mp made
    rcases mem_endpointSignatures.mp inEndpoint with rfl | ⟨single, chosen, rfl⟩
    · rw [signature_methodSignature]
      exact .declared endpoint.method endpoint.request endpoint.response inService input output
    · rw [signature_companionSignature]
      rw [Option.mem_def.mp chosen] at companion
      exact .companion endpoint.method single inService companion
  · intro offered
    cases offered with
    | declared method request response inService input output =>
        obtain ⟨endpoint, member, made⟩ := exists_of_mem_left found inService
        obtain ⟨rfl, sameInput, sameOutput, -⟩ := endpoint_eq_ok.mp made
        cases sameInput.symm.trans input
        cases sameOutput.symm.trans output
        refine ⟨endpoint, member, mem_endpointSignatures.mpr (Or.inl ?_)⟩
        rw [signature_methodSignature]
    | companion method companion inService chosen =>
        obtain ⟨endpoint, member, made⟩ := exists_of_mem_left found inService
        obtain ⟨rfl, -, -, same⟩ := endpoint_eq_ok.mp made
        have kept : endpoint.companion = some companion := Except.ok.inj (same.symm.trans chosen)
        refine ⟨endpoint, member, mem_endpointSignatures.mpr (Or.inr ⟨companion, kept, ?_⟩)⟩
        rw [signature_companionSignature]

/-- The client that is generated with the interface of a service conforms to it. -/
theorem client_conforms {items : List Item}
    (made : declarations registry options package service cursor = .ok items)
    {interface : Interface} (declared : .interface interface ∈ items) {implementation : ClassType}
    (implemented : .classType implementation ∈ items)
    : Conforms registry options service interface implementation := by
  obtain ⟨endpoints, found, rfl⟩ := declarations_eq_ok made
  obtain rfl := eq_contract_of_mem declared
  obtain rfl := eq_client_of_mem implemented
  refine { methods := ?methods, offered := ?offered, declared := ?declared }
  case methods =>
    rw [signature_contract]
    exact signature_client found
  case offered =>
    intro signature
    rw [signature_contract]
    exact isOffered_iff found signature
  case declared =>
    intro method inService
    obtain ⟨endpoint, member, made⟩ := exists_of_mem_left found inService
    obtain ⟨rfl, -⟩ := endpoint_eq_ok.mp made
    have own
        : (methodSignature options endpoint).signature
          ∈ (contract options service endpoints cursor).methods.map Function.signature := by
      rw [signature_contract]
      exact List.mem_flatMap.mpr ⟨endpoint, member, mem_endpointSignatures.mpr (Or.inl rfl)⟩
    obtain ⟨function, inContract, same⟩ := List.mem_map.mp own
    exact List.mem_map.mpr ⟨function, inContract, congrArg Signature.name same⟩

/-- A batch method that gets a companion, one whose companion the service declares itself,
and a method that is answered from a cache.
-/
theorem client_conforms_batch
    : let registry : Registry :=
        {
          entries :=
            [
              (
                ".Keys",
                {
                  unit := "shop"
                  identifier := "Keys"
                  definition :=
                    .message
                      {
                        name := "Keys"
                        fields :=
                          [{ name := "item_ids", label := .repeated, type := .scalar .int64 }]
                      }
                }
              ),
              (
                ".Items",
                {
                  unit := "shop"
                  identifier := "Items"
                  definition :=
                    .message
                      {
                        name := "Items"
                        fields :=
                          [{ label := .repeated, type := .message, typeName := ".Keys" }]
                      }
                }
              )
            ]
        }
      let service : Schema.Service :=
        {
          name := "Shop"
          methods :=
            [
              { name := "BatchGetItems", input := ".Keys", output := ".Items" },
              { name := "BatchStocks", input := ".Keys", output := ".Items" },
              { name := "GetStock", input := ".Keys", output := ".Items" }
            ]
        }
      let options : Options := { context := true, longForm := .string }
      ∃ items interface implementation,
        declarations registry options "" service {} = .ok items
        ∧ .interface interface ∈ items
        ∧ .classType implementation ∈ items
        ∧ Conforms registry options service interface implementation
        ∧ interface.methods.map Function.name
          = ["BatchGetItems", "GetItem", "BatchStocks", "GetStock"] := by
  intro registry service options
  have some
      : (declarations registry options "" service {}).toOption.isSome = true := by
    decide +kernel
  have names
      : (endpoints registry options service).map
            (fun found => (contract options service found {}).methods.map Function.name)
        = .ok ["BatchGetItems", "GetItem", "BatchStocks", "GetStock"] := by
    decide +kernel
  obtain ⟨items, kept⟩ := Option.isSome_iff_exists.mp some
  have made := toOption_eq_some.mp kept
  obtain ⟨found, known, rfl⟩ := exists_endpoints_of_declarations made
  rw [known] at names
  refine ⟨_, _, _, made, List.mem_cons_self, List.mem_cons_of_mem _ List.mem_cons_self,
    client_conforms made List.mem_cons_self (List.mem_cons_of_mem _ List.mem_cons_self),
    Except.ok.inj names⟩

end Service

end ProtobufTypeScript
