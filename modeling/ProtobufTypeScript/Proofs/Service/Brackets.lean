import ProtobufTypeScript.Proofs.Field.Brackets
import ProtobufTypeScript.Proofs.Service.Vocabulary
import ProtobufTypeScript.Proofs.Target.DeclarationBrackets

/-!
Brackets in service code: what is declared for a service is written with balanced brackets if its
names and its comments are balanced.
-/

namespace ProtobufTypeScript.Service

open ProtobufTypeScript.Field Schema Target

variable {options : Options} {package : String} {service : Schema.Service} {method : Method}
  {endpoint : Endpoint} {companion : Companion}

attribute [local simp] Expr.Balances Expr.BalancesAll Stmt.Balances Stmt.BalancesAll
  Binding.Balances TypeExpr.Balances TypeExpr.BalancesAll Expr.method Expr.field

/-- Whether the names and types of a companion are balanced. -/
structure Companion.Balances (companion : Companion) : Prop where
  name : Text.Balances companion.name
  keys : Text.Balances companion.keys
  key : Text.Balances (singular companion.keys)
  results : Text.Balances companion.results
  keyType : companion.keyType.Balances
  valueType : companion.valueType.Balances

/-- Whether the names of an endpoint are balanced. -/
structure Endpoint.Balances (endpoint : Endpoint) : Prop where
  name : Text.Balances endpoint.method.name
  companion : ∀ companion ∈ endpoint.companion, companion.Balances

-----------------------------------------------------------------------------------------
-- Endpoints
-----------------------------------------------------------------------------------------

section Endpoints

variable {registry : Registry} (has : Alphabet.unbracketed.HasTypes registry)
include has

/-- A companion is balanced if the name of its method is: its own name is cut from it, and
its types are made of symbols.
-/
theorem balances_companion? (named : Alphabet.unbracketed.Spells method.name)
    (found : companion? registry options service method = .ok (some companion))
    : companion.Balances := by
  obtain ⟨input, output, keys, results, made⟩ := exists_isGathered found
  obtain ⟨keyField, inInput, keyFound⟩ := made.gathered
  obtain ⟨resultField, inOutput, resultFound⟩ := made.answered
  have key : Alphabet.unbracketed.Spells keys.name :=
    Alphabet.spells_shapeOf
      (has.spells_message made.request _ (Message.fieldName_mem_texts inInput)) keyFound
  have result : Alphabet.unbracketed.Spells results.name :=
    Alphabet.spells_shapeOf
      (has.spells_message made.response _ (Message.fieldName_mem_texts inOutput)) resultFound
  rw [made.parts]
  exact {
    name := Text.balances_of_plain (Alphabet.spells_companionName named _ made.name)
    keys := Text.balances_of_plain key
    key := Text.balances_of_plain (Alphabet.spells_singular key)
    results := Text.balances_of_plain result
    keyType := balances_elementType
    valueType := by
      unfold resultType
      split <;> exact balances_elementType
  }

/-- What is found out about a method is balanced if its name is. -/
theorem balances_endpoint (named : Alphabet.unbracketed.Spells method.name)
    (found : Service.endpoint registry options service method = .ok endpoint)
    : endpoint.Balances := by
  obtain ⟨request, -, found⟩ := bind_eq_ok.mp found
  obtain ⟨response, -, found⟩ := bind_eq_ok.mp found
  obtain ⟨companion, companionFound, found⟩ := bind_eq_ok.mp found
  cases found
  refine ⟨Text.balances_of_plain named, ?_⟩
  rintro single rfl
  exact balances_companion? has named companionFound

/-- The endpoints of a service are balanced if its texts and the registered types have no
brackets.
-/
theorem balances_endpoints
    (plain : ∀ text ∈ service.texts, Alphabet.unbracketed.Spells text) {found : List Endpoint}
    (known : endpoints registry options service = .ok found)
    : ∀ endpoint ∈ found, endpoint.Balances := by
  intro endpoint member
  obtain ⟨-, -, known⟩ := bind_eq_ok.mp known
  obtain ⟨method, inService, made⟩ := exists_of_mem_right (mapM_eq_ok.mp known) member
  refine balances_endpoint has (plain method.name ?_) made
  exact List.mem_cons_of_mem _
    (List.mem_flatMap.mpr ⟨method, inService, List.mem_cons_self⟩)

end Endpoints

-----------------------------------------------------------------------------------------
-- The interface of a service
-----------------------------------------------------------------------------------------

@[simp] theorem balances_contextType
    : contextType.Balances :=
  balances_of_isPlain (by decide)

theorem balances_contextParams
    : ∀ param ∈ contextParams options, param.Balances := by
  unfold contextParams
  split <;> simp (disch := decide) [Param.balances_iff, balances_of_isPlain]

theorem balances_contextTypeParams {param : String} (plain : Text.Balances param)
    : ∀ declared ∈ contextTypeParams options param, Text.Balances declared := by
  unfold contextTypeParams
  split <;> simp [plain]

/-- The signature of a method is balanced if the name of the method is. -/
theorem balances_methodSignature (named : Text.Balances endpoint.method.name)
    : (methodSignature options endpoint).Balances where
  name := named
  doc := nofun
  typeParams := nofun
  params := by
    refine List.forall_mem_append.mpr ⟨balances_contextParams, ?_⟩
    simp (disch := decide) [Param.balances_iff, balances_of_isPlain]
  returns := by simp [methodSignature]
  body := Text.isBalanced_nil

/-- The signature of a companion is balanced if the companion is. -/
theorem balances_companionSignature (balanced : companion.Balances)
    : (companionSignature options companion).Balances where
  name := balanced.name
  doc := nofun
  typeParams := nofun
  params := by
    refine List.forall_mem_append.mpr ⟨balances_contextParams, ?_⟩
    simp [Param.balances_iff, balanced.key, balanced.keyType]
  returns := by simp [companionSignature, balanced.valueType]
  body := Text.isBalanced_nil

/-- The interface of a service is balanced if its methods, its name and the comments on
them are. Each method has one signature, or two with that of its companion.
-/
theorem balances_contract {found : List Endpoint} {cursor : Cursor}
    (named : Text.Balances service.name) (each : ∀ endpoint ∈ found, endpoint.Balances)
    (described : ∀ text ∈ cursor.description.text, Text.Balances text)
    (commented
      : ∀ position,
          ∀ text ∈ (cursor.lookup Child.methodOfService position).text, Text.Balances text)
    : (contract options service found cursor).code.Balances := by
  refine Interface.Balances.code
    ⟨named, described, balances_contextTypeParams (by decide), nofun, ?_⟩
  refine List.forall_mem_flatMap.mpr ?_
  rintro ⟨endpoint, position⟩ member
  have known := each endpoint (List.fst_mem_of_mem_zipIdx member)
  refine List.forall_mem_cons.mpr ⟨?_, ?_⟩
  · exact { balances_methodSignature known.name with doc := commented position }
  · intro function chosen
    obtain ⟨companion, present, rfl⟩ :=
      Option.map_eq_some_iff.mp (Option.mem_toList.mp chosen)
    exact balances_companionSignature (known.companion companion present)

-----------------------------------------------------------------------------------------
-- The client of a service
-----------------------------------------------------------------------------------------

/-- Balanced names are balanced with dots between them. -/
theorem balances_dotted {names : List String} (each : ∀ name ∈ names, Text.Balances name)
    : Text.Balances (dotted names) :=
  Text.balances_intercalate (by decide)
    (fun name member => each name (List.mem_of_mem_filter member))

/-- The call that sends a request is balanced if the names it sends are. -/
theorem balances_callTransport {leading : List Expr} (before : Expr.BalancesAll leading)
    (inPackage : Text.Balances package) (named : Text.Balances service.name)
    (calls : Text.Balances method.name)
    : (callTransport leading package service method).Balances := by
  have path : Text.Balances (servicePath package service) :=
    balances_dotted (by simp [inPackage, named])
  simp (disch := decide) [callTransport, Expr.balancesAll_append, balances_of_isPlain, before, path,
    calls]

theorem balances_writeRequest
    : (writeRequest endpoint).Balances := by
  simp (disch := decide) [writeRequest, balances_of_isPlain]

theorem balances_readResponse {bytes : String} (named : Text.Balances bytes)
    : (readResponse endpoint bytes).Balances := by
  simp (disch := decide) [readResponse, balances_of_isPlain, named]

/-- What loads through a loader is balanced if the names, the types and the statements
that load are.
-/
theorem balances_loadBody {cache keys key : String} {keyType valueType : TypeExpr}
    {loadAll : List Stmt} (inCache : Text.Balances cache) (inKeys : Text.Balances keys)
    (inKey : Text.Balances key) (inKeyType : keyType.Balances)
    (inValueType : valueType.Balances) (loads : Stmt.BalancesAll loadAll)
    : Stmt.BalancesAll (loadBody cache keyType valueType keys loadAll key) := by
  simp (disch := decide) [loadBody, balances_of_isPlain, inCache, inKeys, inKey, inKeyType,
    inValueType, loads]

theorem balances_cacheName (inPackage : Text.Balances package)
    (named : Text.Balances service.name) (calls : Text.Balances method.name)
    : Text.Balances (cacheName package service method) :=
  balances_dotted (by simp [inPackage, named, calls])

/-- The body of a plain method is balanced if the names of the method are. -/
theorem balances_regularBody (inPackage : Text.Balances package)
    (named : Text.Balances service.name) (calls : Text.Balances endpoint.method.name)
    : Stmt.BalancesAll (regularBody options package service endpoint) := by
  have context : Expr.BalancesAll (if options.context then [.name "ctx"] else []) := by
    split <;> simp (disch := decide) [balances_of_isPlain]
  have data : (readResponse endpoint "data").Balances := balances_readResponse (by decide)
  simp (disch := decide) [regularBody, balances_of_isPlain, balances_writeRequest,
    balances_callTransport context inPackage named calls, data]

/-- The body of a caching method is balanced if the names of the method are. -/
theorem balances_cachingBody (inPackage : Text.Balances package)
    (named : Text.Balances service.name) (calls : Text.Balances endpoint.method.name)
    : Stmt.BalancesAll (cachingBody package service endpoint) := by
  have context : Expr.BalancesAll [.name "ctx"] := by
    simp (disch := decide) [balances_of_isPlain]
  have response : (readResponse endpoint "response").Balances := balances_readResponse (by decide)
  refine balances_loadBody (balances_cacheName inPackage named calls) (by decide) (by decide)
    trivial trivial ?_
  simp (disch := decide) [sendEach, balances_of_isPlain, balances_writeRequest,
    balances_callTransport context inPackage named calls, response]

/-- The body of a companion is balanced if the names of the method and the companion are.
-/
theorem balances_batchingBody (inPackage : Text.Balances package)
    (named : Text.Balances service.name) (calls : Text.Balances method.name)
    (balanced : companion.Balances)
    : Stmt.BalancesAll (batchingBody package service method companion) := by
  have results : (resultsOf companion).Balances := by
    unfold resultsOf
    split <;> simp (disch := decide) [balances_of_isPlain, balanced.results, balanced.keys]
  refine balances_loadBody (balances_cacheName inPackage named calls) balanced.keys balanced.key
    balanced.keyType balanced.valueType ?_
  simp (disch := decide) [callBatch, balances_of_isPlain, balanced.keys, calls, results]

/-- A plain method is balanced as its signature and its body are. -/
theorem balances_regularMethod (inPackage : Text.Balances package)
    (named : Text.Balances service.name) (calls : Text.Balances endpoint.method.name)
    : (regularMethod options package service endpoint).Balances := {
  balances_methodSignature calls with
  body := (balances_regularBody inPackage named calls).codeAll
}

/-- A caching method is balanced: its parameters are written out, and its body is
balanced.
-/
theorem balances_cachingMethod (inPackage : Text.Balances package)
    (named : Text.Balances service.name) (calls : Text.Balances endpoint.method.name)
    : (cachingMethod package service endpoint).Balances where
  name := calls
  doc := nofun
  typeParams := nofun
  params := by simp (disch := decide) [cachingMethod, Param.balances_iff, balances_of_isPlain]
  returns := by simp [cachingMethod]
  body := (balances_cachingBody inPackage named calls).codeAll

/-- A companion is balanced: its parameters are written out, and its body is balanced. -/
theorem balances_batchingMethod (inPackage : Text.Balances package)
    (named : Text.Balances service.name) (calls : Text.Balances method.name)
    (balanced : companion.Balances)
    : (batchingMethod package service method companion).Balances where
  name := balanced.name
  doc := nofun
  typeParams := nofun
  params := by
    simp (disch := decide) [batchingMethod, Param.balances_iff, balances_of_isPlain, balanced.key,
      balanced.keyType]
  returns := by simp [batchingMethod, balanced.valueType]
  body := (balances_batchingBody inPackage named calls balanced).codeAll

/-- Each method of the client is written with balanced brackets, by whichever of the three
builders it is made.
-/
theorem balances_clientMethods (inPackage : Text.Balances package)
    (named : Text.Balances service.name) (balanced : endpoint.Balances)
    : ∀ function ∈ clientMethods options package service endpoint, function.Balances := by
  refine List.forall_mem_append.mpr ⟨?_, List.forall_mem_singleton.mpr ?_⟩
  · intro function chosen
    obtain ⟨companion, present, rfl⟩ :=
      Option.map_eq_some_iff.mp (Option.mem_toList.mp chosen)
    exact balances_batchingMethod inPackage named balanced.name
      (balanced.companion companion present)
  · split
    · exact balances_cachingMethod inPackage named balanced.name
    · exact balances_regularMethod inPackage named balanced.name

theorem balances_withContext {name : String} (named : Text.Balances name)
    : (withContext options name).Balances := by
  unfold withContext
  split <;> simp [named]

/-- A client is balanced if all it is made with is. Its methods are of three kinds, each
of which is.
-/
theorem balances_client {found : List Endpoint} (inPackage : Text.Balances package)
    (named : Text.Balances service.name) (each : ∀ endpoint ∈ found, endpoint.Balances)
    : (client options package service found).code.Balances := by
  have transport : (withContext options "Rpc").Balances := balances_withContext (by decide)
  have constructor
      : Function.Balances
          {
            name := "constructor"
            params := [{ name := "rpc", type := withContext options "Rpc" }]
            body := { lines := (Stmt.assign (.field "this" "rpc") (.name "rpc")).code }
          } :=
    {
      name := (by decide : Text.Balances "constructor")
      doc := nofun
      typeParams := nofun
      params := by simp (disch := decide) [Param.balances_iff, balances_of_isPlain, transport]
      returns := nofun
      body := Stmt.Balances.code (by simp (disch := decide) [balances_of_isPlain])
    }
  refine ClassType.Balances.code ⟨Text.balances_append named (by decide), nofun,
    balances_contextTypeParams (by decide), ?_, ?_, List.forall_mem_cons.mpr ⟨constructor, ?_⟩⟩
  · exact List.forall_mem_singleton.mpr (balances_withContext named)
  · refine List.forall_mem_singleton.mpr
      ⟨(by decide : Text.Balances "rpc"), transport, nofun, ?_⟩
    simp (disch := decide) [balances_of_isPlain]
  · exact List.forall_mem_flatMap.mpr
      (fun endpoint member => balances_clientMethods inPackage named (each endpoint member))

-----------------------------------------------------------------------------------------
-- What services share
-----------------------------------------------------------------------------------------

/-- The interface of the transport is balanced, with and without a context. It has a
single method, without a body.
-/
theorem balances_transport
    : (transport options).code.Balances := by
  refine Interface.Balances.code ⟨(by decide : Text.Balances "Rpc"), nofun,
    balances_contextTypeParams (by decide), nofun, List.forall_mem_singleton.mpr ?_⟩
  exact {
    name := (by decide : Text.Balances "request")
    doc := nofun
    typeParams := nofun
    params := by
      refine List.forall_mem_append.mpr ⟨balances_contextParams, ?_⟩
      simp (disch := decide) [Param.balances_iff, balances_of_isPlain]
    returns := by simp
    body := Text.isBalanced_nil
  }

theorem balances_loaderOptions
    : loaderOptions.code.Balances := by
  refine Interface.Balances.code ⟨by decide, nofun, nofun, List.forall_mem_singleton.mpr ?_, nofun⟩
  exact ⟨by decide, TypeExpr.balances_languageTypes.2.2.1, nofun, nofun⟩

/-- The interface of what a context has to offer is balanced. Its method takes a function,
whose type is written as a whole.
-/
theorem balances_loaders
    : loaders.code.Balances := by
  refine Interface.Balances.code ⟨by decide, nofun, nofun, List.forall_mem_singleton.mpr ?_,
    List.forall_mem_singleton.mpr ?_⟩
  · exact ⟨by decide, balances_of_isPlain (by decide), nofun, nofun⟩
  · have creates : Text.Balances "() => T" := by decide
    exact {
      name := by decide
      doc := nofun
      typeParams := by simp (disch := decide) [balances_of_isPlain]
      params := by simp (disch := decide) [Param.balances_iff, balances_of_isPlain, creates]
      returns := by simp (disch := decide) [balances_of_isPlain]
      body := Text.isBalanced_nil
    }

/-- What the services of a unit share is balanced. -/
theorem balances_shared
    : ∀ item ∈ shared options, item.block.Balances := by
  unfold shared
  refine List.forall_mem_append.mpr ⟨?_, ?_⟩
  · split <;> simp [Item.block, balances_transport]
  · split <;> simp [Item.block, balances_loaderOptions, balances_loaders]

end ProtobufTypeScript.Service
