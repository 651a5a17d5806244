import ProtobufTypeScript.Proofs.Service.Members
import ProtobufTypeScript.Proofs.Target.Scope

/-!
Names in the code of companions. The name of the keys comes from the schema and stands next to names
that the code chooses itself, in three functions one inside the other. It is not compared with them,
so that some names of keys are taken for others.
-/

namespace ProtobufTypeScript.Service

open Schema Target

variable {registry : Registry} {options : Options} {package : String} {service : Schema.Service}
  {method : Method} {cursor : Cursor} {companion : Companion} {frames : List Frame}

/-- The expressions in a method with given statements, and what is bound around them. -/
def sites (function : Function) (statements : List Stmt) : List Site :=
  Stmt.sitesAll
    [{ parameters := function.params.map Param.name, locals := statements.filterMap Stmt.local? }]
    statements

/-- Whether an expression goes through a list of a given name. -/
def Maps (name : String) (site : Site) : Prop :=
  ∃ arguments, site.content = .method (.name name) "map" arguments

/-- Whether the code of a method goes through the keys that it calls its loader with: the
name of the keys belongs to the function that the loader is made from, wherever they are
gone through.
-/
def MapsLoaded (keys : String) (function : Function) (statements : List Stmt) : Prop :=
  ∃ type parameters body argument,
    .build type parameters body argument ∈ Stmt.partsAll statements
    ∧ (∃ site ∈ sites function statements, Maps keys site)
    ∧ ∀ site ∈ sites function statements,
        Maps keys site → Frame.binder? site.frames keys = some (.ofFunction parameters body)

/-- Which keys a method for one of them needs so that its code keeps names apart: its
parameters differ, no local has the name of a parameter, and where results are found by
key, those are the keys that the loader is called with.
-/
structure KeepsNames (keys : String) (byKey : Bool) (function : Function) (statements : List Stmt)
    : Prop where
  code : function.body.lines = Stmt.codeAll statements
  parameters : (function.params.map Param.name).Nodup ↔ singular keys ≠ "ctx"
  locals
    : (∀ site ∈ sites function statements, ∀ frame ∈ site.frames, ¬ frame.Redeclares)
      ↔ singular keys ≠ "dl" ∧ keys ≠ "request"
  lookup : byKey = true → (MapsLoaded keys function statements ↔ keys ≠ "res")

-----------------------------------------------------------------------------------------
-- The functions around an expression
-----------------------------------------------------------------------------------------

section Code

attribute [local simp] batchingBody loadBody callBatch resultsOf Expr.field Expr.method
  Stmt.sitesAll Stmt.sites Expr.sites Expr.sitesAll Stmt.ownExpressions Frame.ofFunction
  Binding.names Stmt.local? List.filterMap_cons

/-- What the method of a companion binds. -/
theorem sites_batchingMethod
    : sites (batchingMethod package service method companion)
          (batchingBody package service method companion)
      = Stmt.sitesAll [{ parameters := ["ctx", singular companion.keys], locals := ["dl"] }]
          (batchingBody package service method companion) := by
  simp [sites, batchingMethod]

/-- The method binds `dl`, and the function of its loader binds the keys and `request`. -/
theorem forall_not_redeclares_iff
    : (∀ site
        ∈ Stmt.sitesAll [{ parameters := ["ctx", singular companion.keys], locals := ["dl"] }]
            (batchingBody package service method companion),
        ∀ frame ∈ site.frames, ¬ frame.Redeclares)
      ↔ singular companion.keys ≠ "dl" ∧ companion.keys ≠ "request" := by
  cases byKey : companion.byKey <;> simp [byKey, Frame.Redeclares] <;> tauto

/-- Keys are gone through where the response is at hand. -/
theorem frames_of_maps (batch : method.name ≠ "map")
    : ∀ site ∈ Stmt.sitesAll frames (batchingBody package service method companion),
        Maps companion.keys site
        → site.frames
          = { parameters := ["res"] } :: { parameters := [companion.keys], locals := ["request"] }
            :: {} :: frames := by
  cases byKey : companion.byKey <;> simp [byKey, batch, Maps]

/-- A companion that finds results by key goes through its keys somewhere in its body. -/
theorem exists_maps (byKey : companion.byKey = true)
    : ∃ site ∈ Stmt.sitesAll frames (batchingBody package service method companion),
        Maps companion.keys site := by
  simp [byKey, Maps]

/-- The loader is made from the function that binds the keys. -/
theorem exists_build
    : ∃ type parameters body argument,
        .build type parameters body argument
          ∈ Stmt.partsAll (batchingBody package service method companion) := by
  simp [Stmt.partsAll, Stmt.parts]

/-- The only function that the body of a companion builds takes the keys and has the
request as its local name.
-/
theorem frame_of_build {type : TypeExpr} {parameters : List Binding} {body : List Stmt}
    {argument : Expr}
    : .build type parameters body argument
          ∈ Stmt.partsAll (batchingBody package service method companion)
      → Frame.ofFunction parameters body
        = { parameters := [companion.keys], locals := ["request"] } := by
  simp [Stmt.partsAll, Stmt.parts]
  rintro - rfl rfl -
  simp

end Code

/-- The response takes the name `res`. -/
theorem binder?_eq_loader_iff {keys : String}
    : Frame.binder?
            ({ parameters := ["res"] } :: { parameters := [keys], locals := ["request"] } :: frames)
            keys
          = some { parameters := [keys], locals := ["request"] }
      ↔ keys ≠ "res" := by
  by_cases same : keys = "res" <;> simp [Frame.binder?, same]

-----------------------------------------------------------------------------------------
-- The names that are kept
-----------------------------------------------------------------------------------------

/-- Where results are found by key, the keys gone through are those loaded unless the
response takes their name. Witness: they are gone through within the function of the
response, which stands in the one that the loader is made from.
-/
theorem mapsLoaded_batchingMethod_iff (batch : method.name ≠ "map")
    (byKey : companion.byKey = true)
    : MapsLoaded companion.keys (batchingMethod package service method companion)
          (batchingBody package service method companion)
      ↔ companion.keys ≠ "res" := by
  unfold MapsLoaded
  rw [sites_batchingMethod]
  constructor
  · rintro ⟨type, parameters, body, argument, built, ⟨site, member, maps⟩, all⟩
    have bound := all site member maps
    rw [frames_of_maps batch site member maps, frame_of_build built] at bound
    exact binder?_eq_loader_iff.mp bound
  · intro other
    obtain ⟨type, parameters, body, argument, built⟩ := exists_build
    refine ⟨type, parameters, body, argument, built, exists_maps byKey, ?_⟩
    intro site member maps
    rw [frames_of_maps batch site member maps, frame_of_build built]
    exact binder?_eq_loader_iff.mpr other

/-- Where no method is called `map`, the names of a companion mean in its body what they
mean in its header.
-/
theorem keepsNames_batchingMethod (batch : method.name ≠ "map")
    : KeepsNames companion.keys companion.byKey
        (batchingMethod package service method companion)
        (batchingBody package service method companion) where
  code := rfl
  parameters := by
    simp [batchingMethod, eq_comm]
  locals := by
    rw [sites_batchingMethod]
    exact forall_not_redeclares_iff
  lookup := mapsLoaded_batchingMethod_iff batch

/-- The method of a companion keeps its names apart except where the keys are named, as a
list or one of them, like something else that the method or its loader binds.
-/
theorem companion_keeps_names_iff {items : List Item}
    (made : declarations registry options package service cursor = .ok items)
    {implementation : ClassType} (implemented : .classType implementation ∈ items)
    (inService : method ∈ service.methods)
    (found : companion? registry options service method = .ok (some companion))
    : ∃ input field function statements,
        registry.message method.input = .ok input
        ∧ input.fields = [field]
        ∧ function ∈ implementation.methods
        ∧ function.name = companion.name
        ∧ KeepsNames (options.identifier field.name) companion.byKey function statements := by
  obtain ⟨input, output, keyField, resultField, keys, results, gathered, onlyKey, -⟩ :=
    exists_isOnlyField found
  obtain ⟨endpoints, foundAll, rfl⟩ := declarations_eq_ok made
  obtain rfl := eq_client_of_mem implemented
  obtain ⟨endpoint, inEndpoints, rfl, same⟩ := exists_endpoint_of_mem foundAll inService
  have chosen : endpoint.companion = some companion := Except.ok.inj (same.symm.trans found)
  have named : companion.keys = options.identifier keyField.name := by
    rw [gathered.parts]
    exact onlyKey.name_eq
  have batch : endpoint.method.name ≠ "map" := by
    obtain ⟨rest, starts⟩ := exists_batch_of_companionName gathered.name
    intro map
    have first := congrArg (fun text => text.toList.head?) (starts.symm.trans map)
    simp at first
  refine ⟨input, keyField, batchingMethod package service endpoint.method companion,
    batchingBody package service endpoint.method companion, gathered.request, onlyKey.only, ?_,
    rfl, ?_⟩
  · refine List.mem_flatMap.mpr ⟨endpoint, inEndpoints, ?_⟩
    simp [clientMethods, chosen, batchingMethod]
  · rw [← named]
    exact keepsNames_batchingMethod batch

/-- Keys named `res` are not gone through, as the response has that name there. -/
theorem companion_keeps_names_iff_response
    : let entry : Message :=
        {
          name := "TagsEntry"
          fields :=
            [
              { name := "key", number := 1, type := .scalar .string },
              { name := "value", number := 2, type := .scalar .int32 }
            ]
          mapEntry := true
        }
      let resources : Schema.Field :=
        { name := "res", number := 1, label := .repeated, type := .scalar .string }
      let tags : Schema.Field :=
        {
          name := "tags"
          number := 1
          label := .repeated
          type := .message
          typeName := ".Tags.TagsEntry"
        }
      let method : Method := { name := "BatchGetTags", input := ".Keys", output := ".Tags" }
      let service : Schema.Service := { name := "Tagging", methods := [method] }
      let file : File :=
        {
          name := "tags.proto"
          messages :=
            [
              { name := "Keys", fields := [resources] },
              { name := "Tags", fields := [tags], nested := [entry] }
            ]
          services := [service]
        }
      let options : Options := { context := true }
      ∃ registry items implementation companion function statements,
        Registry.ofFiles options [file] = .ok registry
        ∧ declarations registry options "" service {} = .ok items
        ∧ .classType implementation ∈ items
        ∧ companion? registry options service method = .ok (some companion)
        ∧ function ∈ implementation.methods
        ∧ function.name = companion.name
        ∧ function.body.lines = Stmt.codeAll statements
        ∧ ¬ MapsLoaded "res" function statements := by
  intro entry resources tags method service file options
  have accepted
      : (Registry.ofFiles options [file]
          >>= fun registry => declarations registry options "" service {}).toOption.isSome
        = true := by
    decide +kernel
  have byKey
      : (Registry.ofFiles options [file]
            >>= fun registry => companion? registry options service method).map
          (Option.map Companion.byKey)
        = .ok (some true) := by
    decide +kernel
  have named
      : (Registry.ofFiles options [file]
            >>= fun registry => registry.message method.input).map
          (fun input => input.fields.map (fun field => options.identifier field.name))
        = .ok ["res"] := by
    decide +kernel
  obtain ⟨items, kept⟩ := Option.isSome_iff_exists.mp accepted
  obtain ⟨registry, built, made⟩ := bind_eq_ok.mp (toOption_eq_some.mp kept)
  rw [built] at byKey named
  obtain ⟨chosen, found, some⟩ := map_eq_ok.mp byKey
  obtain ⟨companion, rfl, isMap⟩ := Option.map_eq_some_iff.mp some
  obtain ⟨message, input, fields⟩ := map_eq_ok.mp named
  obtain ⟨endpoints, -, rfl⟩ := declarations_eq_ok made
  have implemented
      : Item.classType (client options "" service endpoints)
        ∈ Item.interface (contract options service endpoints {})
          :: [.classType (client options "" service endpoints)] :=
    List.mem_cons_of_mem _ List.mem_cons_self
  obtain ⟨same, field, function, statements, inputFound, only, member, name, keeps⟩ :=
    companion_keeps_names_iff made implemented List.mem_cons_self found
  obtain rfl : same = message := Except.ok.inj (inputFound.symm.trans input)
  have isRes : options.identifier field.name = "res" := by
    simpa [only] using fields
  rw [isRes] at keeps
  exact ⟨registry, _, _, companion, function, statements, built, made, implemented, found, member,
    name, keeps.code, fun maps => (keeps.lookup isMap).mp maps rfl⟩

end ProtobufTypeScript.Service
