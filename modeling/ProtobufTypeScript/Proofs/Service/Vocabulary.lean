import ProtobufTypeScript.Proofs.Field.Classification
import ProtobufTypeScript.Proofs.Service.Companion
import ProtobufTypeScript.Proofs.Service.Declaration
import ProtobufTypeScript.Proofs.Target.DeclarationVocabulary

/-!
The vocabulary of services: the interface and the client of a service are within a vocabulary if the
texts of the service, its comments and the registered types are.
-/

namespace ProtobufTypeScript.Target

open ProtobufTypeScript.Service Schema

namespace Alphabet

variable {letters : Alphabet}

/-- The singular of a name is the name or a part of it. -/
theorem spells_singular {name : String} (spelled : letters.Spells name)
    : letters.Spells (singular name) := by
  unfold singular
  cases found : Text.beforeEnd? "s" name with
  | none => exact spelled
  | some rest => exact spells_beforeEnd spelled rest found

/-- The name of a companion is cut from the name of its method, with a prefix put before
it.
-/
theorem spells_companionName {name : String} (spelled : letters.Spells name)
    : ∀ companion ∈ companionName name, letters.Spells companion := by
  intro companion found
  unfold companionName at found
  split at found
  · cases found
  · rename_i rest start
    have tail : letters.Spells rest := spells_afterStart spelled rest start
    repeat' split at found
    all_goals cases found
    · exact spells_singular tail
    · exact spells_singular
        (spells_append.mpr ⟨spells_of_isPlain (by decide), tail⟩)

theorem spells_dotted {names : List String} (spelled : ∀ name ∈ names, letters.Spells name)
    : letters.Spells (dotted names) :=
  (spells_intercalate (spells_of_isPlain (by decide))).mpr
    (fun name member => spelled name (List.mem_filter.mp member).1)

end Alphabet

namespace Vocabulary

variable {words : Vocabulary} {registry : Registry} {options : Options}

-----------------------------------------------------------------------------------------
-- Endpoints
-----------------------------------------------------------------------------------------

/-- The names and the types of a companion are within a vocabulary. -/
structure HasCompanion (words : Vocabulary) (companion : Companion) : Prop where
  name : words.Spells companion.name
  keys : words.Spells companion.keys
  results : words.Spells companion.results
  keyType : words.Writes companion.keyType.snippet
  valueType : words.Writes companion.valueType.snippet

/-- The name and the types of an endpoint are within a vocabulary. -/
structure HasEndpoint (words : Vocabulary) (endpoint : Endpoint) : Prop where
  name : words.Spells endpoint.method.name
  request : words.symbol endpoint.request
  response : words.symbol endpoint.response
  companion : ∀ companion ∈ endpoint.companion, words.HasCompanion companion

theorem spells_singular {name : String} (spelled : words.Spells name)
    : words.Spells (singular name) :=
  words.alphabet.spells_singular spelled

theorem spells_dotted {names : List String} (spelled : ∀ name ∈ names, words.Spells name)
    : words.Spells (dotted names) :=
  words.alphabet.spells_dotted spelled

/-- A companion is within a vocabulary: its name is made from that of the method, and its
types are those of the fields that it is made from.
-/
theorem hasCompanion_companion? (has : words.HasRegistry registry) {service : Schema.Service}
    {method : Method} (named : words.Spells method.name) {companion : Companion}
    (found : companion? registry options service method = .ok (some companion))
    : words.HasCompanion companion := by
  obtain ⟨input, output, keys, results, made⟩ := exists_isGathered found
  obtain ⟨keyField, inInput, keyFound⟩ := made.gathered
  obtain ⟨resultField, inOutput, resultFound⟩ := made.answered
  have hasKey : words.HasShape keys :=
    hasShape_shapeOf has
      (spells_of_registry has made.request _ (Message.fieldName_mem_texts inInput)) keyFound
  have hasResult : words.HasShape results :=
    hasShape_shapeOf has
      (spells_of_registry has made.response _ (Message.fieldName_mem_texts inOutput)) resultFound
  have kind := hasResult.kind
  rw [made.parts]
  exact {
    name := words.alphabet.spells_companionName named _ made.name
    keys := hasKey.name
    results := hasResult.name
    keyType := writes_elementType options hasKey.kind
    valueType := by
      unfold resultType
      split
      · rename_i entry key value same
        rw [same] at kind
        exact writes_elementType options kind.2
      · exact writes_elementType options kind
  }

/-- An endpoint is within a vocabulary. -/
theorem hasEndpoint_endpoint (has : words.HasRegistry registry) {service : Schema.Service}
    {method : Method} (named : words.Spells method.name) {endpoint : Endpoint}
    (found : Service.endpoint registry options service method = .ok endpoint)
    : words.HasEndpoint endpoint := by
  obtain ⟨request, requestFound, found⟩ := bind_eq_ok.mp found
  obtain ⟨response, responseFound, found⟩ := bind_eq_ok.mp found
  obtain ⟨companion, companionFound, found⟩ := bind_eq_ok.mp found
  cases found
  refine ⟨named, symbol_of_registry has requestFound, symbol_of_registry has responseFound, ?_⟩
  rintro single rfl
  exact hasCompanion_companion? has named companionFound

/-- The endpoints of a service are within a vocabulary that has the texts of the service
and the symbols of the registry.
-/
theorem hasEndpoint_endpoints (has : words.HasRegistry registry) {service : Schema.Service}
    (spelled : ∀ text ∈ service.texts, words.Spells text) {found : List Endpoint}
    (known : endpoints registry options service = .ok found)
    : ∀ endpoint ∈ found, words.HasEndpoint endpoint := by
  intro endpoint member
  obtain ⟨-, -, known⟩ := bind_eq_ok.mp known
  obtain ⟨method, inService, made⟩ := exists_of_mem_right (mapM_eq_ok.mp known) member
  refine hasEndpoint_endpoint has (spelled method.name ?_) made
  exact List.mem_cons_of_mem _
    (List.mem_flatMap.mpr ⟨method, inService, List.mem_cons_self⟩)

-----------------------------------------------------------------------------------------
-- The interface of a service
-----------------------------------------------------------------------------------------

@[simp] theorem writes_contextType
    : words.Writes contextType.snippet :=
  writes_simpleType.mpr (spells_of_isAscii (by decide))

theorem hasParam_contextParams (options : Options)
    : ∀ param ∈ contextParams options, words.HasParam param := by
  unfold contextParams
  split <;> simp (disch := decide) [hasParam_iff, spells_of_isAscii]

theorem spells_contextTypeParams (options : Options) {param : String}
    (spelled : words.Spells param)
    : ∀ text ∈ contextTypeParams options param, words.Spells text := by
  unfold contextTypeParams
  split <;> simp [spelled]

@[simp] theorem spells_contextParam
    : words.Spells contextParam :=
  spells_of_isAscii (by decide)

/-- The signature of a method is within every vocabulary that has its endpoint. -/
theorem hasFunction_methodSignature {endpoint : Endpoint} (has : words.HasEndpoint endpoint)
    : words.HasFunction (methodSignature options endpoint) where
  name := has.name
  doc := by simp [methodSignature]
  typeParams := by simp [methodSignature]
  params := by
    refine List.forall_mem_append.mpr ⟨hasParam_contextParams options, ?_⟩
    simp (disch := decide) [hasParam_iff, spells_of_isAscii, has.request]
  returns := by simp [methodSignature, has.response]
  body := by simp [methodSignature]

/-- The signature of a companion is within every vocabulary that has the companion. -/
theorem hasFunction_companionSignature {companion : Companion}
    (has : words.HasCompanion companion)
    : words.HasFunction (companionSignature options companion) where
  name := has.name
  doc := by simp [companionSignature]
  typeParams := by simp [companionSignature]
  params := by
    refine List.forall_mem_append.mpr ⟨hasParam_contextParams options, ?_⟩
    simp [hasParam_iff, spells_singular has.keys, has.keyType]
  returns := by simp [companionSignature, has.valueType]
  body := by simp [companionSignature]

/-- The interface of a service is within a vocabulary that has its name, its endpoints and
the comments on them.
-/
theorem hasInterface_contract {service : Schema.Service} {found : List Endpoint}
    {cursor : Cursor} (named : words.Spells service.name)
    (has : ∀ endpoint ∈ found, words.HasEndpoint endpoint)
    (documented : words.Documents cursor)
    : words.HasInterface (contract options service found cursor) where
  name := named
  doc := documented _
  typeParams := spells_contextTypeParams options spells_contextParam
  properties := by simp [contract]
  methods := by
    refine List.forall_mem_flatMap.mpr ?_
    rintro ⟨endpoint, position⟩ member
    have known := has endpoint (List.fst_mem_of_mem_zipIdx member)
    refine List.forall_mem_cons.mpr ⟨?_, ?_⟩
    · exact { hasFunction_methodSignature known with doc := documented _ }
    · intro function chosen
      obtain ⟨companion, present, rfl⟩ :=
        Option.map_eq_some_iff.mp (Option.mem_toList.mp chosen)
      exact hasFunction_companionSignature (known.companion companion present)

-----------------------------------------------------------------------------------------
-- The client of a service
-----------------------------------------------------------------------------------------

section Client

variable {package : String} {service : Schema.Service} {endpoint : Endpoint}

theorem spells_cacheName {method : Method} (packaged : words.Spells package)
    (named : words.Spells service.name) (called : words.Spells method.name)
    : words.Spells (cacheName package service method) :=
  spells_dotted (by simp [packaged, named, called])

/-- The call that sends a request is within a vocabulary that has the names it sends. -/
theorem writes_callTransport {leading : List Expr} {method : Method}
    (before : ∀ value ∈ leading, words.Writes value.snippet) (packaged : words.Spells package)
    (named : words.Spells service.name) (called : words.Spells method.name)
    : words.Writes (callTransport leading package service method).snippet := by
  have path : words.Spells (servicePath package service) :=
    spells_dotted (by simp [packaged, named])
  rw [callTransport, writes_method, List.forall_mem_append]
  exact ⟨
    by simp (disch := decide) [spells_of_isAscii],
    before,
    by simp (disch := decide) [spells_of_isAscii, path, called]
  ⟩

theorem covers_writeRequest (has : words.HasEndpoint endpoint)
    : words.Covers (writeRequest endpoint).code := by
  simp (disch := decide) [writeRequest, spells_of_isAscii, has.request]

theorem writes_readResponse (has : words.HasEndpoint endpoint) {bytes : String}
    (spelled : words.Spells bytes)
    : words.Writes (readResponse endpoint bytes).snippet := by
  simp (disch := decide) [readResponse, spells_of_isAscii, has.response, spelled]

/-- What loads through a loader is within a vocabulary that has the names, the types and
the statements that load.
-/
theorem covers_loadBody {cache keys key : String} {keyType valueType : TypeExpr}
    {loadAll : List Stmt} (cached : words.Spells cache) (keyWritten : words.Writes keyType.snippet)
    (valueWritten : words.Writes valueType.snippet) (keysSpelled : words.Spells keys)
    (loads : ∀ statement ∈ loadAll, words.Covers statement.code) (keySpelled : words.Spells key)
    : ∀ statement ∈ loadBody cache keyType valueType keys loadAll key,
        words.Covers statement.code := by
  simp (disch := decide) [loadBody, Binds, spells_of_isAscii, cached, keyWritten, valueWritten,
    keysSpelled, keySpelled]
  exact loads

/-- The body of a plain method is within a vocabulary that has its endpoint and the names
of the service. A context only adds an argument to the call.
-/
theorem covers_regularBody (has : words.HasEndpoint endpoint) (packaged : words.Spells package)
    (named : words.Spells service.name)
    : ∀ statement ∈ regularBody options package service endpoint,
        words.Covers statement.code := by
  have context
      : ∀ value ∈ if options.context then [Expr.name "ctx"] else [],
          words.Writes value.snippet := by
    split <;> simp (disch := decide) [spells_of_isAscii]
  have call := writes_callTransport context packaged named has.name
  have data : words.Writes (readResponse endpoint "data").snippet :=
    writes_readResponse has (spells_of_isAscii (by decide))
  simp (disch := decide) [regularBody, spells_of_isAscii, covers_writeRequest has, call, data]

/-- The body of a caching method is within a vocabulary that has its endpoint and the
names of the service, as is that of any method with a loader.
-/
theorem covers_cachingBody (has : words.HasEndpoint endpoint) (packaged : words.Spells package)
    (named : words.Spells service.name)
    : ∀ statement ∈ cachingBody package service endpoint, words.Covers statement.code := by
  have context : ∀ value ∈ [Expr.name "ctx"], words.Writes value.snippet := by
    simp (disch := decide) [spells_of_isAscii]
  have call := writes_callTransport context packaged named has.name
  have response : words.Writes (readResponse endpoint "response").snippet :=
    writes_readResponse has (spells_of_isAscii (by decide))
  refine covers_loadBody (spells_cacheName packaged named has.name)
    (writes_symbolType.mpr has.request) (writes_symbolType.mpr has.response)
    (spells_of_isAscii (by decide)) ?_ (spells_of_isAscii (by decide))
  simp (disch := decide) [sendEach, Binds, spells_of_isAscii, covers_writeRequest has, call,
    response]

/-- The body of a companion is within a vocabulary that has the companion and the names of
the method.
-/
theorem covers_batchingBody {companion : Companion} {method : Method}
    (has : words.HasCompanion companion) (packaged : words.Spells package)
    (named : words.Spells service.name) (called : words.Spells method.name)
    : ∀ statement ∈ batchingBody package service method companion,
        words.Covers statement.code := by
  have results : words.Writes (resultsOf companion).snippet := by
    unfold resultsOf
    split <;> simp (disch := decide) [spells_of_isAscii, has.keys, has.results]
  refine covers_loadBody (spells_cacheName packaged named called) has.keyType has.valueType
    has.keys ?_ (spells_singular has.keys)
  simp (disch := decide) [callBatch, spells_of_isAscii, has.keys, called, results]

/-- A plain method is within a vocabulary as its signature and its body are. -/
theorem hasFunction_regularMethod (has : words.HasEndpoint endpoint)
    (packaged : words.Spells package) (named : words.Spells service.name)
    : words.HasFunction (regularMethod options package service endpoint) := {
  hasFunction_methodSignature has with
  body := covers_codeAll.mpr (covers_regularBody has packaged named)
}

/-- A caching method is within a vocabulary: its parameters are written out, and its body
is within it.
-/
theorem hasFunction_cachingMethod (has : words.HasEndpoint endpoint)
    (packaged : words.Spells package) (named : words.Spells service.name)
    : words.HasFunction (cachingMethod package service endpoint) where
  name := has.name
  doc := nofun
  typeParams := nofun
  params := by simp (disch := decide) [cachingMethod, hasParam_iff, spells_of_isAscii, has.request]
  returns := by simp [cachingMethod, has.response]
  body := covers_codeAll.mpr (covers_cachingBody has packaged named)

/-- A companion is within a vocabulary: its parameters are written out, and its body is
within it.
-/
theorem hasFunction_batchingMethod {companion : Companion} {method : Method}
    (has : words.HasCompanion companion) (packaged : words.Spells package)
    (named : words.Spells service.name) (called : words.Spells method.name)
    : words.HasFunction (batchingMethod package service method companion) where
  name := has.name
  doc := nofun
  typeParams := nofun
  params := by
    simp (disch := decide) [batchingMethod, hasParam_iff, spells_of_isAscii,
      spells_singular has.keys, has.keyType]
  returns := by simp [batchingMethod, has.valueType]
  body := covers_codeAll.mpr (covers_batchingBody has packaged named called)

/-- Each method of the client is within a vocabulary, by whichever of the three builders
it is made.
-/
theorem hasFunction_clientMethods (has : words.HasEndpoint endpoint)
    (packaged : words.Spells package) (named : words.Spells service.name)
    : ∀ function ∈ clientMethods options package service endpoint,
        words.HasFunction function := by
  refine List.forall_mem_append.mpr ⟨?_, List.forall_mem_singleton.mpr ?_⟩
  · intro function chosen
    obtain ⟨companion, present, rfl⟩ :=
      Option.map_eq_some_iff.mp (Option.mem_toList.mp chosen)
    exact hasFunction_batchingMethod (has.companion companion present) packaged named has.name
  · split
    · exact hasFunction_cachingMethod has packaged named
    · exact hasFunction_regularMethod has packaged named

theorem writes_withContext {name : String} (spelled : words.Spells name)
    : words.Writes (withContext options name).snippet := by
  unfold withContext
  split <;> simp [spelled]

/-- The client of a service is within a vocabulary: its property, its constructor and the
methods for each endpoint are.
-/
theorem hasClass_client {found : List Endpoint} (packaged : words.Spells package)
    (named : words.Spells service.name) (has : ∀ endpoint ∈ found, words.HasEndpoint endpoint)
    : words.HasClass (client options package service found) := by
  have rpc : words.Writes (withContext options "Rpc").snippet :=
    writes_withContext (spells_of_isAscii (by decide))
  have methods
      : ∀ function ∈ found.flatMap (clientMethods options package service),
          words.HasFunction function :=
    List.forall_mem_flatMap.mpr
      (fun endpoint member => hasFunction_clientMethods (has endpoint member) packaged named)
  have constructor
      : words.HasFunction
          {
            name := "constructor"
            params := [{ name := "rpc", type := withContext options "Rpc" }]
            body := { lines := (Stmt.assign (.field "this" "rpc") (.name "rpc")).code }
          } :=
    {
      name := spells_of_isAscii (show isAscii "constructor" = true by decide)
      doc := by simp
      typeParams := by simp
      params := by simp (disch := decide) [hasParam_iff, spells_of_isAscii, rpc]
      returns := by simp
      body := by simp (disch := decide) [spells_of_isAscii]
    }
  exact {
    name := spells_append.mpr ⟨named, spells_of_isAscii (by decide)⟩
    doc := by simp [client]
    typeParams := spells_contextTypeParams options spells_contextParam
    implements := List.forall_mem_singleton.mpr (writes_withContext named)
    properties := by
      refine List.forall_mem_singleton.mpr ⟨?_, rpc, by simp, ?_⟩ <;>
        simp (disch := decide) [spells_of_isAscii]
    functions := List.forall_mem_cons.mpr ⟨constructor, methods⟩
  }

end Client

-----------------------------------------------------------------------------------------
-- All that is declared for services
-----------------------------------------------------------------------------------------

/-- The declarations for a service are within a vocabulary: the interface, and the client
where clients are wanted.
-/
theorem covers_declarations (has : words.HasRegistry registry) {package : String}
    {service : Schema.Service} {cursor : Cursor} (packaged : words.Spells package)
    (spelled : ∀ text ∈ service.texts, words.Spells text) (documented : words.Documents cursor)
    {items : List Item}
    (found : declarations registry options package service cursor = .ok items)
    : ∀ item ∈ items, words.Covers item.block := by
  have named : words.Spells service.name := spelled _ List.mem_cons_self
  obtain ⟨known, endpointsFound, rfl⟩ := exists_endpoints_of_declarations found
  have hasEndpoints := hasEndpoint_endpoints has spelled endpointsFound
  refine List.forall_mem_cons.mpr ⟨?_, ?_⟩
  · exact covers_interface (hasInterface_contract named hasEndpoints documented)
  · split
    · exact List.forall_mem_singleton.mpr
        (covers_class (hasClass_client packaged named hasEndpoints))
    · simp

/-- The interface of the transport is within every vocabulary, since its names and types
are plain text.
-/
theorem hasInterface_transport (options : Options)
    : words.HasInterface (transport options) where
  name := spells_of_isAscii (show isAscii "Rpc" = true by decide)
  doc := by simp [transport]
  typeParams := spells_contextTypeParams options (spells_of_isAscii (by decide))
  properties := by simp [transport]
  methods := by
    refine List.forall_mem_singleton.mpr ?_
    exact {
      name := spells_of_isAscii (show isAscii "request" = true by decide)
      doc := by simp
      typeParams := by simp
      params := by
        refine List.forall_mem_append.mpr ⟨hasParam_contextParams options, ?_⟩
        simp (disch := decide) [hasParam_iff, spells_of_isAscii]
      returns := by simp
      body := by simp
    }

theorem hasInterface_loaderOptions
    : words.HasInterface loaderOptions where
  name := spells_of_isAscii (by decide)
  doc := by simp [loaderOptions]
  typeParams := by simp [loaderOptions]
  properties :=
    List.forall_mem_singleton.mpr ⟨spells_of_isAscii (by decide), by simp, by simp, by simp⟩
  methods := by simp [loaderOptions]

/-- The interface of what a context has to offer is within every vocabulary, since its
names and types are plain text.
-/
theorem hasInterface_loaders
    : words.HasInterface loaders where
  name := spells_of_isAscii (by decide)
  doc := by simp [loaders]
  typeParams := by simp [loaders]
  properties := by
    refine List.forall_mem_singleton.mpr ⟨spells_of_isAscii (by decide), ?_, by simp, by simp⟩
    simp (disch := decide) [spells_of_isAscii]
  methods := by
    refine List.forall_mem_singleton.mpr ?_
    exact {
      name := spells_of_isAscii (by decide)
      doc := by simp
      typeParams := by simp (disch := decide) [spells_of_isAscii]
      params := by simp (disch := decide) [hasParam_iff, spells_of_isAscii]
      returns := by simp (disch := decide) [spells_of_isAscii]
      body := by simp
    }

/-- What all services of a unit share is within every vocabulary. -/
theorem covers_shared (options : Options)
    : ∀ item ∈ shared options, words.Covers item.block := by
  have transport : words.Covers (transport options).code :=
    covers_interface (hasInterface_transport options)
  have loaderOptions : words.Covers loaderOptions.code :=
    covers_interface hasInterface_loaderOptions
  have loaders : words.Covers loaders.code := covers_interface hasInterface_loaders
  unfold shared
  refine List.forall_mem_append.mpr ⟨?_, ?_⟩
  · split <;> simp [Item.block, transport]
  · split <;> simp [Item.block, loaderOptions, loaders]

end Vocabulary

end ProtobufTypeScript.Target
