import Mathlib.Data.List.Flatten
import ProtobufTypeScript.Proofs.Service.CacheName
import ProtobufTypeScript.Proofs.Service.Members
import ProtobufTypeScript.Proofs.Target.Loaders

/-!
The loaders that the client of a service asks its context for. A method has one if it is answered
from the cache or has a companion, never both, and the loader has its name.
-/

namespace ProtobufTypeScript.Service

open Schema Target

variable {registry : Registry} {options : Options} {package : String} {service : Schema.Service}
  {endpoint : Endpoint} {endpoints : List Endpoint}

section Bodies

attribute [local simp] Stmt.codeAll Stmt.code Expr.snippet Expr.field Expr.method constSnippet
  callbackSnippet Binding.header

/-- A plain method has no loader. -/
theorem loaderNames_regularBody
    : Block.loaderNames (Stmt.codeAll (regularBody options package service endpoint)) = [] := by
  simp (disch := decide) [regularBody, writeRequest]

theorem loaderNames_sendEach
    : Block.loaderNames (Stmt.codeAll (sendEach package service endpoint)) = [] := by
  simp (disch := decide) [sendEach, writeRequest]

theorem loaderNames_callBatch {method : Method} {companion : Companion}
    : Block.loaderNames (Stmt.codeAll (callBatch method companion)) = [] := by
  simp (disch := decide) [callBatch]

/-- A method that loads by key asks for one loader; what the loader does asks for none. -/
theorem loaderNames_loadBody {name keys key : String} {keyType valueType : TypeExpr}
    {loadAll : List Stmt} (plain : Block.loaderNames (Stmt.codeAll loadAll) = [])
    : Block.loaderNames (Stmt.codeAll (loadBody name keyType valueType keys loadAll key))
      = [name] := by
  have call := Block.loaderNames_call name
  have header : IsOther ("(" ++ keys ++ ") =>") :=
    ((by decide : IsOther "(").append keys).append ") =>"
  simp (disch := first | decide | assumption) [loadBody, Binding.text, plain] at call ⊢
  exact call

end Bodies

/-- The names of the loaders for a method: its own if calls of the method or of its
companion go through one.
-/
def Endpoint.loaderNames (options : Options) (package : String) (service : Schema.Service)
    (endpoint : Endpoint)
    : List String :=
  if endpoint.companion.isSome || isCached options endpoint.method then
    [cacheName package service endpoint.method]
  else []

/-- A companion has one loader, under the name of the batch method's cache. -/
theorem loaderNames_batchingBody {method : Method} {companion : Companion}
    : Block.loaderNames (Stmt.codeAll (batchingBody package service method companion))
      = [cacheName package service method] := by
  unfold batchingBody
  exact loaderNames_loadBody loaderNames_callBatch

/-- A caching method has one loader, under the name of its cache. -/
theorem loaderNames_cachingBody
    : Block.loaderNames (Stmt.codeAll (cachingBody package service endpoint))
      = [cacheName package service endpoint.method] := by
  unfold cachingBody
  exact loaderNames_loadBody loaderNames_sendEach

/-- A method asks for a loader of its name if it is answered from the cache, and else for
none.
-/
theorem loaderNames_ownMethod (options : Options) (package : String) (service : Schema.Service)
    {endpoint : Endpoint} (dotless : '.' ∉ endpoint.method.name.toList)
    : (Function.code .method
          (if isCached options endpoint.method then cachingMethod package service endpoint
            else regularMethod options package service endpoint)).loaderNames
      = if isCached options endpoint.method then [cacheName package service endpoint.method]
        else [] := by
  split
  · refine (Function.loaderNames_code rfl rfl ?_).trans loaderNames_cachingBody
    exact .of_dotless dotless
  · refine (Function.loaderNames_code rfl rfl ?_).trans loaderNames_regularBody
    exact .of_dotless dotless

/-- A method that has a companion is not answered from the cache, so that it has one
loader: the name of such a method does not start as those of cached ones do.
-/
theorem loaderNames_clientMethods (dotless : '.' ∉ endpoint.method.name.toList)
    (made : companion? registry options service endpoint.method = .ok endpoint.companion)
    : (clientMethods options package service endpoint).flatMap
          (fun function => (function.code .method).loaderNames)
      = endpoint.loaderNames options package service := by
  have own := loaderNames_ownMethod options package service dotless
  unfold clientMethods Endpoint.loaderNames
  cases chosen : endpoint.companion with
  | none => simpa using own
  | some companion =>
      obtain ⟨_, _, _, _, gathered⟩ := exists_isGathered (chosen ▸ made)
      have uncached : isCached options endpoint.method = false := by
        rw [isCached, isCacheable_of_companionName gathered.name, Bool.and_false]
      have isOther : IsOther (companion.name ++ "(") :=
        .append
          (.of_isPrefix (by decide : IsOther "Get") (get_isPrefix_of_companionName gathered.name))
          "("
      have single
          : (Function.code .method
              (batchingMethod package service endpoint.method companion)).loaderNames
            = [cacheName package service endpoint.method] := by
        refine (Function.loaderNames_code rfl rfl ?_).trans loaderNames_batchingBody
        exact isOther
      rw [uncached] at own
      simpa [single, uncached] using own

section Client

variable
  (found
    : List.Forall₂
        (fun method endpoint => Service.endpoint registry options service method = .ok endpoint)
        service.methods endpoints)

include found

/-- A client asks for the loaders of its methods, in order. Its property and its
constructor ask for none.
-/
theorem loaderNames_client (dotless : ∀ method ∈ service.methods, '.' ∉ method.name.toList)
    : (client options package service endpoints).code.loaderNames
      = endpoints.flatMap (Endpoint.loaderNames options package service) := by
  have properties
      : ∀ property ∈ (client options package service endpoints).properties,
          property.code.loaderNames = [] := by
    refine List.forall_mem_singleton.mpr ?_
    simp (disch := decide) [Property.code, Block.doc]
  have constructor
      : ∀ function ∈ (client options package service endpoints).constructor.toList,
          (function.code .method).loaderNames = [] := by
    refine List.forall_mem_singleton.mpr ?_
    refine (Function.loaderNames_code rfl rfl ?_).trans ?_
    · exact (by decide : IsOther "constructor(")
    · simp (disch := decide) [Stmt.code, Expr.field, Expr.snippet]
  have methods
      : ∀ endpoint ∈ endpoints,
          (clientMethods options package service endpoint).flatMap
              (fun function => (function.code .method).loaderNames)
            = endpoint.loaderNames options package service := by
    intro endpoint member
    obtain ⟨inService, made⟩ := exists_method_of_mem found member
    exact loaderNames_clientMethods (dotless _ inService) made
  calc (client options package service endpoints).code.loaderNames
      = (client options package service endpoints).functions.flatMap
          (fun function => (function.code .method).loaderNames) :=
        ClassType.loaderNames_code rfl rfl rfl properties
    _ = endpoints.flatMap
          (fun endpoint =>
            (clientMethods options package service endpoint).flatMap
              (fun function => (function.code .method).loaderNames)) := by
        rw [ClassType.functions, List.flatMap_append, List.flatMap_eq_nil_iff.mpr constructor,
          List.nil_append, ← List.flatMap_assoc]
        rfl
    _ = endpoints.flatMap (Endpoint.loaderNames options package service) :=
        List.flatMap_congr methods

/-- Each method gives its name to at most one loader. -/
theorem sublist_loaderNames_client
    (dotless : ∀ method ∈ service.methods, '.' ∉ method.name.toList)
    : List.Sublist (client options package service endpoints).code.loaderNames
        (service.methods.map (cacheName package service)) := by
  rw [loaderNames_client found dotless, ← map_method found, List.map_map, List.map_eq_flatMap]
  refine List.Sublist.flatMap_right endpoints (fun endpoint _ => ?_)
  unfold Endpoint.loaderNames
  split
  · exact List.Sublist.refl _
  · exact List.nil_sublist _

end Client

end ProtobufTypeScript.Service
