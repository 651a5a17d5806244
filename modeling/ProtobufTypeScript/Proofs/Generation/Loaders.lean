import Mathlib.Data.List.Nodup
import ProtobufTypeScript.Proofs.Generation.HelperUse
import ProtobufTypeScript.Proofs.Service.Loaders

/-!
The loaders that all clients of a request ask for. A context knows loaders by their names alone, so
that two methods with one name for their loaders would answer for each other; no two methods have
one.
-/

namespace ProtobufTypeScript.Generation

open Schema Target

variable {registry : Registry} {options : Options} {file : File} {unit : SourceUnit}
  {request : Request} {results : List Output}

/-- The services of files, each with its package. -/
def servicesOf (files : List File) : List (String × Schema.Service) :=
  files.flatMap (fun file => file.services.map (file.package, ·))

/-- The names for the loads of all methods of services. -/
def cacheNames (services : List (String × Schema.Service)) : List String :=
  services.flatMap
    (fun placed => placed.2.methods.map (Service.cacheName placed.1 placed.2))

/-- Whether services and methods have names without dots and can be told apart by them:
the services of one package, and the methods of one service.
-/
structure TellsApart (services : List (String × Schema.Service)) : Prop where
  named : ∀ placed ∈ services, Service.IsUndotted placed.2.name
  methods : ∀ placed ∈ services, ∀ method ∈ placed.2.methods, Service.IsUndotted method.name
  apart : (services.map (fun placed => (placed.1, placed.2.name))).Nodup
  distinct : ∀ placed ∈ services, (placed.2.methods.map Method.name).Nodup

-----------------------------------------------------------------------------------------
-- Names of all methods
-----------------------------------------------------------------------------------------

/-- All methods have different names for their loads: those of one service by their own
names, those of different services by the paths of these.
-/
theorem TellsApart.nodup_cacheNames {services : List (String × Schema.Service)}
    (told : TellsApart services)
    : (cacheNames services).Nodup := by
  unfold cacheNames
  rw [List.nodup_flatMap]
  constructor
  · intro placed member
    have plain := told.named placed member
    refine List.pairwise_map.mpr
      ((List.pairwise_map.mp (told.distinct placed member)).imp_of_mem ?_)
    intro first second inFirst inSecond differ same
    have plainFirst := told.methods placed member first inFirst
    have plainSecond := told.methods placed member second inSecond
    exact differ (Service.cacheName_inj plain plain plainFirst plainSecond same).2.2
  · refine (List.pairwise_map.mp told.apart).imp_of_mem ?_
    intro first second inFirst inSecond differ name loadsFirst loadsSecond
    obtain ⟨method, inMethods, rfl⟩ := List.mem_map.mp loadsFirst
    obtain ⟨next, inNext, same⟩ := List.mem_map.mp loadsSecond
    obtain ⟨packages, services, -⟩ :=
      Service.cacheName_inj (told.named second inSecond) (told.named first inFirst)
        (told.methods second inSecond next inNext) (told.methods first inFirst method inMethods)
        same
    exact differ (Prod.ext packages.symm services.symm)

-----------------------------------------------------------------------------------------
-- Names that are asked for
-----------------------------------------------------------------------------------------

/-- Where each list is a sublist of the one beside it, so are the joined lists. -/
theorem sublist_flatMap_of_forall₂ {α β γ : Type} {f : α → List γ} {g : β → List γ}
    {left : List α} {right : List β}
    (each : List.Forall₂ (fun a b => List.Sublist (g b) (f a)) left right)
    : List.Sublist (right.flatMap g) (left.flatMap f) := by
  induction each with
  | nil => exact List.Sublist.refl _
  | cons first _ ih => exact first.append ih

/-- The declarations for a type have no loaders. -/
theorem loaderNames_nodeItems {node : Node} {items : List Item}
    (found : nodeItems registry options node = .ok items)
    : items.flatMap Item.loaderNames = [] := by
  cases nodeItems_eq_ok.mp found with
  | message =>
      rw [List.flatMap_cons]
      split <;> rfl
  | enumeration => rfl

/-- The declarations for the types of a file have no loaders. -/
theorem loaderNames_typeItems {items : List Item}
    (found : typeItems registry options file = .ok items)
    : items.flatMap Item.loaderNames = [] := by
  refine List.flatMap_eq_nil_iff.mpr (fun item member => ?_)
  obtain ⟨-, node, part, -, -, declared, inPart⟩ := exists_node_of_mem_typeItems found member
  exact List.flatMap_eq_nil_iff.mp (loaderNames_nodeItems declared) item inPart

/-- What services share has no loaders of its own. -/
theorem loaderNames_shared
    : (Service.shared options).flatMap Item.loaderNames = [] := by
  refine List.flatMap_eq_nil_iff.mpr (fun item member => ?_)
  obtain ⟨declared, rfl⟩ := isInterface_of_mem_shared member
  rfl

/-- Helpers have no loaders. -/
theorem loaderNames_helpers {names : List String} {items : List Item}
    (found : Helper.declarations registry options names = .ok items)
    : items.flatMap Item.loaderNames = [] := by
  refine List.flatMap_eq_nil_iff.mpr (fun item member => ?_)
  obtain ⟨helper, declared, -⟩ := Helper.exists_helper_of_mem_declarations found member
  rcases isCode_of_helper declared with ⟨function, rfl⟩ | ⟨block, rfl⟩
  · rfl
  · rfl

/-- Only the clients of services are classes, so that no other item of a unit asks for
loaders.
-/
theorem loaderNames_unit (made : Generation.unit registry options file = .ok unit)
    : ∃ items,
        serviceItems registry options file = .ok items
        ∧ unit.loaderNames = items.flatMap Item.loaderNames := by
  obtain ⟨bare, helpers, bareFound, helpersFound, rfl⟩ := unit_eq_ok.mp made
  obtain ⟨types, services, typesFound, servicesFound, rfl⟩ := bareUnit_eq_ok.mp bareFound
  have others
      : (if file.services.isEmpty then [] else Service.shared options).flatMap Item.loaderNames
        = [] := by
    split
    · rfl
    · exact loaderNames_shared
  refine ⟨services, servicesFound, ?_⟩
  simp only [SourceUnit.loaderNames, List.flatMap_append, loaderNames_typeItems typesFound,
    loaderNames_helpers helpersFound, others, List.append_nil, List.nil_append]

/-- The loaders of a service are named after its methods, in order, each of which has one
at most.
-/
theorem sublist_loaderNames_declarations {package : String} {service : Schema.Service}
    {cursor : Cursor} {items : List Item}
    (dotless : ∀ method ∈ service.methods, '.' ∉ method.name.toList)
    (declared : Service.declarations registry options package service cursor = .ok items)
    : List.Sublist (items.flatMap Item.loaderNames)
        (service.methods.map (Service.cacheName package service)) := by
  obtain ⟨endpoints, found, rfl⟩ := Service.declarations_eq_ok declared
  unfold Service.itemsFor
  split
  · simpa [Item.loaderNames] using Service.sublist_loaderNames_client found dotless
  · exact List.nil_sublist _

/-- A unit asks for loaders with names of methods of its file, with each at most once. -/
theorem sublist_loaderNames_unit (made : Generation.unit registry options file = .ok unit)
    (dotless
      : ∀ service ∈ file.services, ∀ method ∈ service.methods, '.' ∉ method.name.toList)
    : List.Sublist unit.loaderNames (cacheNames (file.services.map (file.package, ·))) := by
  obtain ⟨items, found, same⟩ := loaderNames_unit made
  obtain ⟨parts, rfl, each⟩ := exists_parts_of_serviceItems found
  have members :=
    (List.forall₂_and_left _ _).mpr ⟨fun service member => member, each⟩
  simp only [same, cacheNames, List.flatten_eq_flatMap, List.flatMap_assoc, List.flatMap_map, id]
  refine sublist_flatMap_of_forall₂ (members.imp ?_)
  rintro service part ⟨inFile, cursor, declared⟩
  exact sublist_loaderNames_declarations (dotless service inFile) declared

/-- No two loaders that the clients of a request ask for have one name. Witness: the units
of the request, whose loaders are named for a service and a method each.
-/
theorem loader_names_apart (accepted : outputs request = .ok results)
    (told : TellsApart (servicesOf request.files))
    : ∃ units,
        List.Forall₂ (Generated request) (request.files.filter (selects request)) units
        ∧ List.Forall₂ (fun unit output => output.content = unit.render) units results
        ∧ (units.flatMap SourceUnit.loaderNames).Nodup := by
  obtain ⟨units, generated, rendered⟩ := exists_units_of_outputs accepted
  refine ⟨units, generated, rendered, ?_⟩
  have each
      : List.Forall₂
          (fun file unit =>
            List.Sublist unit.loaderNames (cacheNames (file.services.map (file.package, ·))))
          (request.files.filter (selects request)) units := by
    refine generated.imp (fun file unit generated => ?_)
    obtain ⟨registry, -, made⟩ := generated.made
    refine sublist_loaderNames_unit made (fun service inFile method inService => ?_)
    have placed : (file.package, service) ∈ servicesOf request.files :=
      List.mem_flatMap.mpr ⟨file, generated.member, List.mem_map_of_mem inFile⟩
    exact (told.methods _ placed method inService).free
  have selected
      : List.Sublist (servicesOf (request.files.filter (selects request)))
          (servicesOf request.files) :=
    List.filter_sublist.flatMap _
  have within
      : List.Sublist (units.flatMap SourceUnit.loaderNames)
          (cacheNames (servicesOf (request.files.filter (selects request)))) := by
    rw [cacheNames, servicesOf, List.flatMap_assoc]
    exact sublist_flatMap_of_forall₂ each
  exact (within.trans (selected.flatMap _)).nodup told.nodup_cacheNames

/-- Two services of one name in different packages, one of which has no name; a batch
method with a companion and methods that are answered from a cache.
-/
theorem loader_names_apart_packages
    : let keys : Schema.Field := { name := "ids", label := .repeated, type := .scalar .string }
      let items : Schema.Field := { name := "items", label := .repeated, type := .scalar .string }
      let stock : Method := { name := "GetStock", input := ".Keys", output := ".Items" }
      let batch : Method := { name := "BatchGetItems", input := ".Keys", output := ".Items" }
      let shop : File :=
        {
          name := "shop.proto"
          messages := [{ name := "Keys", fields := [keys] }, { name := "Items", fields := [items] }]
          services := [{ name := "Shop", methods := [batch, stock] }]
        }
      let later : File :=
        {
          name := "later.proto"
          package := "shop.v1"
          services := [{ name := "Shop", methods := [stock] }]
        }
      let request : Request :=
        { parameter := "context=true,outputJsonMethods=false", files := [shop, later] }
      (outputs request).toOption.isSome = true
      ∧ TellsApart (servicesOf request.files)
      ∧ ∃ units,
          List.Forall₂ (Generated request) request.files units
          ∧ units.flatMap SourceUnit.loaderNames
            = ["Shop.BatchGetItems", "Shop.GetStock", "shop.v1.Shop.GetStock"]
          ∧ (units.flatMap SourceUnit.loaderNames).Nodup := by
  intro keys items stock batch shop later request
  have isAccepted : (outputs request).toOption.isSome = true := by decide +kernel
  have told : TellsApart (servicesOf request.files) :=
    { named := by decide, methods := by decide, apart := by decide, distinct := by decide }
  have first
      : (unit? request shop).map SourceUnit.loaderNames
        = some ["Shop.BatchGetItems", "Shop.GetStock"] := by
    decide +kernel
  have second
      : (unit? request later).map SourceUnit.loaderNames = some ["shop.v1.Shop.GetStock"] := by
    decide +kernel
  obtain ⟨results, accepted⟩ := Option.isSome_iff_exists.mp isAccepted
  obtain ⟨units, generated, -, apart⟩ := loader_names_apart (toOption_eq_some.mp accepted) told
  refine ⟨isAccepted, told, units, generated, ?_, apart⟩
  obtain ⟨unit, rest, ofShop, others, rfl⟩ := List.forall₂_cons_left_iff.mp generated
  obtain ⟨next, last, ofLater, none, rfl⟩ := List.forall₂_cons_left_iff.mp others
  obtain rfl := List.forall₂_nil_left_iff.mp none
  rw [ofShop.unit?_eq, Option.map_some, Option.some.injEq] at first
  rw [ofLater.unit?_eq, Option.map_some, Option.some.injEq] at second
  simp [first, second]

end ProtobufTypeScript.Generation
