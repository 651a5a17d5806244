import ProtobufTypeScript.Proofs.Field.Usage
import ProtobufTypeScript.Proofs.Target.DeclarationUsage
import ProtobufTypeScript.Service.Declaration

/-!
The use of symbols in service code. Only clients call methods of codecs, namely those for the binary
format, and there are clients only if the run generates these.
-/

namespace ProtobufTypeScript.Target.Usage

open ProtobufTypeScript.Field ProtobufTypeScript.Service Schema

variable {usage : Usage} {options : Options} {package : String} {service : Schema.Service}
  {endpoint : Endpoint} {companion : Companion}

attribute [local simp] Admits AdmitsAll AdmitsStmt AdmitsStmts AdmitsOtherwise AdmitsType
  AdmitsTypes isClosed Expr.method Expr.field Expr.undefined

/-- Whether the symbols in the types of a companion may be used as they are. -/
structure AllowsCompanion (usage : Usage) (companion : Companion) : Prop where
  keyType : usage.AdmitsType companion.keyType
  valueType : usage.AdmitsType companion.valueType

/-- Whether an endpoint may use its messages as the run generates them. -/
structure AllowsEndpoint (usage : Usage) (options : Options) (endpoint : Endpoint) : Prop where
  request : usage.GrantsMessage options endpoint.request
  response : usage.GrantsMessage options endpoint.response
  companion : ∀ companion ∈ endpoint.companion, usage.AllowsCompanion companion

-----------------------------------------------------------------------------------------
-- The interface of a service
-----------------------------------------------------------------------------------------

theorem allowsParam_contextParams
    : ∀ param ∈ contextParams options, usage.AllowsParam param := by
  unfold contextParams contextType
  split <;> simp [allowsParam_iff]

/-- The signature of a method is allowed if its endpoint is. -/
theorem allowsFunction_methodSignature (allowed : usage.AllowsEndpoint options endpoint)
    : usage.AllowsFunction (methodSignature options endpoint) where
  params := by
    refine List.forall_mem_append.mpr ⟨allowsParam_contextParams, ?_⟩
    simp [allowsParam_iff, allowed.request.free]
  returns := by simp [methodSignature, allowed.response.free]
  body := allowsLines_nil

/-- The signature of a companion is allowed if the companion is. -/
theorem allowsFunction_companionSignature (allowed : usage.AllowsCompanion companion)
    : usage.AllowsFunction (companionSignature options companion) where
  params := by
    refine List.forall_mem_append.mpr ⟨allowsParam_contextParams, ?_⟩
    simp [allowsParam_iff, allowed.keyType]
  returns := by simp [companionSignature, allowed.valueType]
  body := allowsLines_nil

/-- The interface of a service is allowed if its endpoints are: it mentions their types
and calls nothing.
-/
theorem allowsLines_contract {found : List Endpoint} {cursor : Cursor}
    (allowed : ∀ endpoint ∈ found, usage.AllowsEndpoint options endpoint)
    : usage.AllowsLines (contract options service found cursor).code := by
  refine allowsLines_interface nofun (List.forall_mem_flatMap.mpr ?_)
  rintro ⟨endpoint, position⟩ member
  have known := allowed endpoint (List.fst_mem_of_mem_zipIdx member)
  refine List.forall_mem_cons.mpr ⟨?_, ?_⟩
  · exact { allowsFunction_methodSignature known with }
  · intro function chosen
    obtain ⟨companion, present, rfl⟩ :=
      Option.map_eq_some_iff.mp (Option.mem_toList.mp chosen)
    exact allowsFunction_companionSignature (known.companion companion present)

-----------------------------------------------------------------------------------------
-- The client of a service
-----------------------------------------------------------------------------------------

/-- The call that sends a request is allowed if what stands ahead of the names it sends
is.
-/
theorem admits_callTransport {leading : List Expr} {method : Method}
    (each : usage.AdmitsAll leading)
    : usage.Admits (callTransport leading package service method) := by
  simp [callTransport, admitsAll_append, each]

/-- Writing a request calls `encode` of its message, which is offered where binary methods
are wanted.
-/
theorem admits_writeRequest (wanted : options.binaryMethods = true)
    (allowed : usage.AllowsEndpoint options endpoint)
    : usage.AdmitsStmt (writeRequest endpoint) := by
  simp [writeRequest, allowed.request.encode wanted]

/-- Reading a response calls `decode` of its message, which is offered where binary
methods are wanted.
-/
theorem admits_readResponse (wanted : options.binaryMethods = true)
    (allowed : usage.AllowsEndpoint options endpoint) {bytes : String}
    : usage.Admits (readResponse endpoint bytes) := by
  simp [readResponse, allowed.response.decode wanted]

/-- What loads through a loader is allowed if its types and the statements that load are.
-/
theorem admits_loadBody {cache keys key : String} {keyType valueType : TypeExpr}
    {loadAll : List Stmt} (keyAdmitted : usage.AdmitsType keyType)
    (valueAdmitted : usage.AdmitsType valueType) (loads : usage.AdmitsStmts loadAll)
    : usage.AdmitsStmts (loadBody cache keyType valueType keys loadAll key) := by
  simp [loadBody, keyAdmitted, valueAdmitted, loads]

/-- Sending a request calls two methods of codecs: the request is encoded and the response
is decoded, which the run generates.
-/
theorem admits_regularBody (wanted : options.binaryMethods = true)
    (allowed : usage.AllowsEndpoint options endpoint)
    : usage.AdmitsStmts (regularBody options package service endpoint) := by
  have call
      : usage.Admits
          (callTransport (if options.context then [.name "ctx"] else []) package service
            endpoint.method) :=
    admits_callTransport (by split <;> simp)
  simp [regularBody, admits_writeRequest wanted allowed, call, admits_readResponse wanted allowed]

/-- The body of a caching method is allowed: it writes the request and reads the response.
-/
theorem admits_cachingBody (wanted : options.binaryMethods = true)
    (allowed : usage.AllowsEndpoint options endpoint)
    : usage.AdmitsStmts (cachingBody package service endpoint) := by
  have call
      : usage.Admits (callTransport [.name "ctx"] package service endpoint.method) :=
    admits_callTransport (by simp)
  refine admits_loadBody allowed.request.free allowed.response.free ?_
  simp [sendEach, admits_writeRequest wanted allowed, call, admits_readResponse wanted allowed]

/-- A companion calls its batch method, and no method of a codec. -/
theorem admits_batchingBody {method : Method} (allowed : usage.AllowsCompanion companion)
    : usage.AdmitsStmts (batchingBody package service method companion) := by
  have results : usage.Admits (resultsOf companion) := by
    unfold resultsOf
    split <;> simp
  refine admits_loadBody allowed.keyType allowed.valueType ?_
  simp [callBatch, results]

/-- A plain method is allowed if its endpoint is, and binary methods are wanted. -/
theorem allowsFunction_regularMethod (wanted : options.binaryMethods = true)
    (allowed : usage.AllowsEndpoint options endpoint)
    : usage.AllowsFunction (regularMethod options package service endpoint) where
  params := (allowsFunction_methodSignature allowed).params
  returns := by simp [regularMethod, allowed.response.free]
  body := allowsLines_stmts _ (admits_regularBody wanted allowed)

/-- A caching method is allowed if its endpoint is, and binary methods are wanted. -/
theorem allowsFunction_cachingMethod (wanted : options.binaryMethods = true)
    (allowed : usage.AllowsEndpoint options endpoint)
    : usage.AllowsFunction (cachingMethod package service endpoint) where
  params := by simp [cachingMethod, allowsParam_iff, allowed.request.free]
  returns := by simp [cachingMethod, allowed.response.free]
  body := allowsLines_stmts _ (admits_cachingBody wanted allowed)

/-- A companion is allowed wherever its types are, since it calls only the client's own
methods.
-/
theorem allowsFunction_batchingMethod {method : Method}
    (allowed : usage.AllowsCompanion companion)
    : usage.AllowsFunction (batchingMethod package service method companion) where
  params := by simp [batchingMethod, allowsParam_iff, allowed.keyType]
  returns := by simp [batchingMethod, allowed.valueType]
  body := allowsLines_stmts _ (admits_batchingBody allowed)

/-- Each method of the client uses symbols in ways that are allowed, by whichever of the
three builders it is made.
-/
theorem allowsFunction_clientMethods (wanted : options.binaryMethods = true)
    (allowed : usage.AllowsEndpoint options endpoint)
    : ∀ function ∈ clientMethods options package service endpoint,
        usage.AllowsFunction function := by
  refine List.forall_mem_append.mpr ⟨?_, List.forall_mem_singleton.mpr ?_⟩
  · intro function chosen
    obtain ⟨companion, present, rfl⟩ :=
      Option.map_eq_some_iff.mp (Option.mem_toList.mp chosen)
    exact allowsFunction_batchingMethod (allowed.companion companion present)
  · split
    · exact allowsFunction_cachingMethod wanted allowed
    · exact allowsFunction_regularMethod wanted allowed

theorem admits_withContext {name : String}
    : usage.AdmitsType (withContext options name) := by
  unfold withContext contextType
  split <;> simp

/-- A client is allowed if its endpoints are. Clients are only generated where binary
methods are wanted.
-/
theorem allowsLines_client (wanted : hasClients options = true) {found : List Endpoint}
    (allowed : ∀ endpoint ∈ found, usage.AllowsEndpoint options endpoint)
    : usage.AllowsLines (client options package service found).code := by
  have binary : options.binaryMethods = true := (Bool.and_eq_true_iff.mp wanted).2
  have constructor
      : usage.AllowsFunction
          {
            name := "constructor"
            params := [{ name := "rpc", type := withContext options "Rpc" }]
            body := { lines := (Stmt.assign (.field "this" "rpc") (.name "rpc")).code }
          } :=
    {
      params := by simp [allowsParam_iff, admits_withContext]
      returns := nofun
      body := allowsLines_stmt _ (by simp)
    }
  refine allowsLines_class ?_ ?_ (List.forall_mem_cons.mpr ⟨constructor, ?_⟩)
  · exact List.forall_mem_singleton.mpr admits_withContext
  · exact List.forall_mem_singleton.mpr admits_withContext
  · exact List.forall_mem_flatMap.mpr
      (fun endpoint member => allowsFunction_clientMethods binary (allowed endpoint member))

-----------------------------------------------------------------------------------------
-- What services share
-----------------------------------------------------------------------------------------

theorem allowsLines_transport
    : usage.AllowsLines (transport options).code := by
  refine allowsLines_interface nofun (List.forall_mem_singleton.mpr ?_)
  exact {
    params := by
      refine List.forall_mem_append.mpr ⟨allowsParam_contextParams, ?_⟩
      simp [allowsParam_iff]
    returns := by simp
    body := allowsLines_nil
  }

theorem allowsLines_loaderOptions
    : usage.AllowsLines loaderOptions.code :=
  allowsLines_interface (List.forall_mem_singleton.mpr admits_languageTypes.2.2.1) nofun

theorem allowsLines_loaders
    : usage.AllowsLines loaders.code := by
  refine allowsLines_interface (List.forall_mem_singleton.mpr (by simp))
    (List.forall_mem_singleton.mpr ?_)
  exact { params := by simp [allowsParam_iff], returns := by simp, body := allowsLines_nil }

/-- What the services of a unit share mentions no symbols, and is allowed everywhere. -/
theorem allowsLines_shared
    : ∀ item ∈ shared options, usage.AllowsLines item.block := by
  unfold shared
  refine List.forall_mem_append.mpr ⟨?_, ?_⟩
  · split <;> simp [Item.block, allowsLines_transport]
  · split <;> simp [Item.block, allowsLines_loaderOptions, allowsLines_loaders]

end ProtobufTypeScript.Target.Usage
