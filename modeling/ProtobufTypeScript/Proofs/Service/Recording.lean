import ProtobufTypeScript.Proofs.Target.Recording
import ProtobufTypeScript.Service.Declaration

/-!
The interface and the client of a service record what they are written with. The functions that
load many keys at once stand inside other functions, and what was recorded for them is handed on.
-/

namespace ProtobufTypeScript.Service

open Schema Target

variable {options : Options} {package : String} {service : Schema.Service} {endpoint : Endpoint}
  {symbol : Symbol}

/-- The call that sends a request mentions only what stands ahead of the names it sends.
-/
@[simp] theorem symbols_callTransport {leading : List Expr} {method : Method}
    : (callTransport leading package service method).symbols = leading.flatMap Expr.symbols := by
  simp [callTransport]

@[simp] theorem symbols_writeRequest
    : (writeRequest endpoint).symbols = [endpoint.request] := by
  simp [writeRequest]

@[simp] theorem symbols_readResponse {bytes : String}
    : (readResponse endpoint bytes).symbols = [endpoint.response, Library.reader] := by
  simp [readResponse]

/-- Loading by key records the loader, its types and what was recorded for loading all
keys.
-/
theorem mem_symbols_loadBody {cache keys key : String} {keyType valueType : TypeExpr}
    {loadAll : List Stmt} {recorded : List Symbol}
    (records : symbol ∈ recorded ↔ symbol ∈ loadAll.flatMap Stmt.symbols)
    : symbol ∈ Recorded.load keyType valueType recorded
      ↔ symbol ∈ (loadBody cache keyType valueType keys loadAll key).flatMap Stmt.symbols := by
  rw [Recorded.load, List.mem_append, records]
  simp [loadBody, TypeExpr.recorded, TypeExpr.recordedAll, -List.mem_flatMap]
  grind

theorem default_contextParams
    : ∀ param ∈ contextParams options, param.default = none := by
  unfold contextParams
  split <;> simp

/-- For a plain method just the symbols are recorded that it mentions, with and without a
context.
-/
theorem recordsMentions_regularMethod
    : (regularMethod options package service endpoint).RecordsMentions where
  defaults := by
    refine List.forall_mem_append.mpr ⟨fun param member => ?_, by simp⟩
    simp [default_contextParams param member]
  body symbol := by
    cases context : options.context <;>
      simp [regularMethod, regularBody, Recorded.exchange, context]

/-- For a caching method just the symbols are recorded that it mentions: those for loading
each request, and those of the loader.
-/
theorem recordsMentions_cachingMethod
    : (cachingMethod package service endpoint).RecordsMentions where
  defaults := by simp [cachingMethod]
  body symbol := by
    have each
        : symbol ∈ Recorded.exchange endpoint
          ↔ symbol ∈ (sendEach package service endpoint).flatMap Stmt.symbols := by
      simp [sendEach, Recorded.exchange]
    simpa [cachingMethod, cachingBody, -List.mem_flatMap] using mem_symbols_loadBody each

/-- For a companion just the symbols are recorded that it mentions, whether results are
found by key or by position.
-/
theorem recordsMentions_batchingMethod {method : Method} {companion : Companion}
    : (batchingMethod package service method companion).RecordsMentions where
  defaults := by simp [batchingMethod]
  body symbol := by
    have none
        : symbol ∈ ([] : List Symbol)
          ↔ symbol ∈ (callBatch method companion).flatMap Stmt.symbols := by
      cases byKey : companion.byKey <;> simp [callBatch, resultsOf, byKey]
    simpa [batchingMethod, batchingBody, -List.mem_flatMap] using mem_symbols_loadBody none

/-- The client of a service records what its methods are written with. Witness: the
constructor, and the methods made by each of the three builders.
-/
theorem recordsMentions_client (endpoints : List Endpoint)
    : (Item.classType (client options package service endpoints)).RecordsMentions := by
  refine ClassType.recordsMentions (fun function member => ?_)
  rcases List.mem_append.mp member with built | method
  · obtain rfl := List.mem_singleton.mp built
    exact {
      defaults := by simp
      body := fun symbol => by simp
    }
  · obtain ⟨endpoint, -, member⟩ := List.mem_flatMap.mp method
    rw [clientMethods, List.mem_append, List.mem_singleton] at member
    rcases member with single | own
    · obtain ⟨companion, -, rfl⟩ := Option.map_eq_some_iff.mp (Option.mem_toList.mp single)
      exact recordsMentions_batchingMethod
    · rw [own]
      split
      · exact recordsMentions_cachingMethod
      · exact recordsMentions_regularMethod

/-- The signatures of a service record their types, which is all that stands in them. -/
theorem recordsMentions_contract (endpoints : List Endpoint) (cursor : Cursor)
    : (Item.interface (contract options service endpoints cursor)).RecordsMentions := by
  refine Interface.recordsMentions (fun function member => ?_)
  obtain ⟨⟨endpoint, position⟩, -, member⟩ := List.mem_flatMap.mp member
  rcases List.mem_cons.mp member with rfl | single
  · refine Function.recordsMentions_of_bare ?_ rfl
    exact List.forall_mem_append.mpr ⟨default_contextParams, by simp⟩
  · obtain ⟨companion, -, rfl⟩ := Option.map_eq_some_iff.mp (Option.mem_toList.mp single)
    refine Function.recordsMentions_of_bare ?_ rfl
    exact List.forall_mem_append.mpr ⟨default_contextParams, by simp⟩

/-- The interfaces that services share record their types. They are written once for a
unit, and are gone through one by one.
-/
theorem recordsMentions_shared
    : ∀ item ∈ shared options, item.RecordsMentions := by
  have sent : (Item.interface (transport options)).RecordsMentions := by
    refine Interface.recordsMentions (List.forall_mem_singleton.mpr ?_)
    refine Function.recordsMentions_of_bare ?_ rfl
    exact List.forall_mem_append.mpr ⟨default_contextParams, by simp⟩
  have options : (Item.interface loaderOptions).RecordsMentions :=
    Interface.recordsMentions (by simp [loaderOptions])
  have loads : (Item.interface loaders).RecordsMentions :=
    Interface.recordsMentions
      (List.forall_mem_singleton.mpr (Function.recordsMentions_of_bare (by simp) rfl))
  unfold shared
  rw [List.forall_mem_append]
  constructor
  · split <;> simp [sent]
  · split <;> simp [options, loads]

end ProtobufTypeScript.Service
