import ProtobufTypeScript.Proofs.Generation.BuiltIns
import ProtobufTypeScript.Proofs.Generation.HelperUse

/-!
The owners of what a unit declares: types, base instances, services, clients, the interfaces that
services share, and helpers. Only the names of types are kept apart when they are registered. The
names that are made up for the others may be those of types and services of the schema, and then one
name is declared for two owners.
-/

namespace ProtobufTypeScript.Generation

open Schema Target

/-- What a unit declares names for. -/
inductive Owner where
  /-- A message, with its interface and its codec, or an enum. -/
  | type (declared : Declared)
  /-- The base instance of a message. -/
  | base (declared : Declared)
  | contract (service : Service)
  | client (service : Service)
  /-- One of the interfaces that all services share. -/
  | shared (name : String)
  | helper (helper : Helper)

/-- The names that are declared for an owner. -/
def Owner.names (options : Options) : Owner → List String
  | .type declared => [declared.identifier options]
  | .base declared => [Message.baseName (declared.identifier options)]
  | .contract service => [service.name]
  | .client service => [service.name ++ "ClientImpl"]
  | .shared name => [name]
  | .helper kind => helperNames kind

/-- The owners of the items for a type. -/
def typeOwners (options : Options) (declared : Declared) : List Owner :=
  .type declared
    :: if declared.isMessage && options.hasCodecs then [.base declared, .type declared] else []

/-- The owners of the items for a service. -/
def serviceOwners (options : Options) (service : Service) : List Owner :=
  .contract service :: if Service.hasClients options then [.client service] else []

/-- The names of the interfaces that services share. -/
def sharedNames (options : Options) : List String :=
  (if Service.hasClients options then ["Rpc"] else [])
    ++ if options.context then ["DataLoaderOptions", "DataLoaders"] else []

/-- The owners of the items of the unit for a file, in order. -/
def owners (options : Options) (file : File) (unit : SourceUnit) : List Owner :=
  file.declared.flatMap (typeOwners options) ++ file.services.flatMap (serviceOwners options)
    ++ (if file.services.isEmpty then [] else (sharedNames options).map Owner.shared)
    ++ (Helper.all.filter (fun helper => unit.mentioned.contains helper.symbol)).map Owner.helper

/-- Whether an item declares the names of an owner and no others. -/
def BelongsTo (options : Options) (owner : Owner) (item : Item) : Prop :=
  item.declaredNames = owner.names options

/-- Whether an item of a unit that belongs to an owner declares a name. -/
def DeclaredFor (options : Options) (file : File) (unit : SourceUnit) (owner : Owner)
    (name : String)
    : Prop :=
  ∃ item, (owner, item) ∈ (owners options file unit).zip unit.items ∧ name ∈ item.declaredNames

/-- How an owner in the unit for a file has a name. -/
inductive HasName (options : Options) (file : File) (unit : SourceUnit) (name : String)
    : Owner → Prop
  | type (declared : Declared) (inFile : declared ∈ file.declared)
    (named : declared.identifier options = name)
    : HasName options file unit name (.type declared)
  | base (declared : Declared) (inFile : declared ∈ file.declared)
    (isMessage : declared.isMessage = true) (wanted : options.hasCodecs = true)
    (named : Message.baseName (declared.identifier options) = name)
    : HasName options file unit name (.base declared)
  | contract (service : Service) (inFile : service ∈ file.services) (named : service.name = name)
    : HasName options file unit name (.contract service)
  | client (service : Service) (inFile : service ∈ file.services)
    (wanted : Service.hasClients options = true) (named : service.name ++ "ClientImpl" = name)
    : HasName options file unit name (.client service)
  | shared (needed : file.services ≠ []) (member : name ∈ sharedNames options)
    : HasName options file unit name (.shared name)
  | helper (helper : Helper) (mentioned : helper.symbol ∈ unit.mentioned)
    (member : name ∈ helperNames helper)
    : HasName options file unit name (.helper helper)

/-- Whether the names of an owner are made up in generation, and not taken from the
schema.
-/
def Owner.isMadeUp : Owner → Bool
  | .type _ => false
  | .contract _ => false
  | _ => true

/-- How a name comes to have two owners: a type or a service has it and something else
too, or a base instance and a client have it.
-/
inductive Clash (options : Options) (file : File) (unit : SourceUnit) (name : String) : Prop
  | typeAndService (declared : Declared) (service : Service)
    (type : HasName options file unit name (.type declared))
    (contract : HasName options file unit name (.contract service))
  | typeAndMadeUp (declared : Declared) (owner : Owner) (madeUp : owner.isMadeUp = true)
    (type : HasName options file unit name (.type declared))
    (other : HasName options file unit name owner)
  | serviceAndMadeUp (service : Service) (owner : Owner) (madeUp : owner.isMadeUp = true)
    (contract : HasName options file unit name (.contract service))
    (other : HasName options file unit name owner)
  | baseAndClient (declared : Declared) (service : Service)
    (base : HasName options file unit name (.base declared))
    (client : HasName options file unit name (.client service))

variable {registry : Registry} {options : Options} {file : File} {unit : SourceUnit}

-----------------------------------------------------------------------------------------
-- Every item has its owner
-----------------------------------------------------------------------------------------

/-- Lists of items that belong to lists of owners, one after the other. -/
theorem forall₂_flatten {α : Type} {made : α → List Owner} {values : List α}
    {parts : List (List Item)}
    (each : List.Forall₂ (fun value part => List.Forall₂ (BelongsTo options) (made value) part)
      values parts)
    : List.Forall₂ (BelongsTo options) (values.flatMap made) parts.flatten := by
  rw [List.flatMap_def]
  exact List.rel_flatten (List.forall₂_map_left_iff.mpr each)

/-- The declarations for a type belong to it, one to each of its owners in turn: a message
has up to three, and an enum has one.
-/
theorem forall₂_nodeItems {node : Node} {declared : Declared} {items : List Item}
    (bare : node.bare = declared.node options)
    (found : nodeItems registry options node = .ok items)
    : List.Forall₂ (BelongsTo options) (typeOwners options declared) items := by
  have identifier : node.identifier = declared.identifier options := congrArg Node.identifier bare
  have definition : node.definition = declared.definition := congrArg Node.definition bare
  have named : [node.identifier] = (Owner.type declared).names options := by rw [identifier]; rfl
  have baseNamed
      : [Message.baseName node.identifier] = (Owner.base declared).names options := by
    rw [identifier]
    rfl
  unfold typeOwners Declared.isMessage
  cases nodeItems_eq_ok.mp found with
  | message message shapes kind =>
      rw [← definition, kind, Bool.true_and]
      refine .cons named ?_
      split
      · exact .cons baseNamed (.cons named .nil)
      · exact .nil
  | enumeration enumeration kind =>
      rw [← definition, kind]
      exact .cons named .nil

/-- The declarations for the types of a file belong to these, in order. Witness: the nodes
of the types, each with its own items.
-/
theorem forall₂_typeItems {items : List Item} (found : typeItems registry options file = .ok items)
    : List.Forall₂ (BelongsTo options) (file.declared.flatMap (typeOwners options)) items := by
  obtain ⟨nodes, parts, walked, made, rfl⟩ := typeItems_eq_ok.mp found
  have each
      : List.Forall₂
          (fun bare part =>
            ∃ node, Node.bare node = bare ∧ nodeItems registry options node = .ok part)
          (nodes.map Node.bare) parts :=
    List.forall₂_map_left_iff.mpr
      (made.imp (fun node _ found => ⟨node, rfl, found⟩))
  rw [(File.nodes_eq_ok_declared walked).2, List.forall₂_map_left_iff] at each
  refine forall₂_flatten (each.imp ?_)
  rintro declared part ⟨node, bare, found⟩
  exact forall₂_nodeItems bare found

/-- The declarations for the services of a file belong to these, in order: the interface,
and the client where clients are wanted.
-/
theorem forall₂_serviceItems {items : List Item}
    (found : serviceItems registry options file = .ok items)
    : List.Forall₂ (BelongsTo options) (file.services.flatMap (serviceOwners options)) items := by
  obtain ⟨parts, made, rfl⟩ := serviceItems_eq_ok.mp found
  rw [← List.zipIdx_map_fst 0 file.services, List.flatMap_map]
  refine forall₂_flatten (made.imp ?_)
  rintro ⟨service, position⟩ part declared
  obtain ⟨endpoints, -, rfl⟩ := Service.declarations_eq_ok declared
  refine .cons rfl ?_
  split
  · exact .cons rfl .nil
  · exact .nil

/-- What services share belongs to the names that it is shared under. -/
theorem forall₂_shared
    : List.Forall₂ (BelongsTo options) ((sharedNames options).map Owner.shared)
        (Service.shared options) := by
  rw [sharedNames, List.map_append]
  refine List.rel_append ?_ ?_
  · split
    · exact .cons rfl .nil
    · exact .nil
  · split
    · exact .cons rfl (.cons rfl .nil)
    · exact .nil

/-- No two helpers declare one name. -/
theorem eq_of_mem_helperNames {first second : Helper} {name : String}
    (inFirst : name ∈ helperNames first) (inSecond : name ∈ helperNames second)
    : first = second := by
  have apart
      : ∀ first ∈ Helper.all, ∀ second ∈ Helper.all, ∀ name ∈ helperNames first,
          name ∈ helperNames second → first = second := by
    decide
  exact apart first (Helper.mem_all first) second (Helper.mem_all second) name inFirst inSecond

/-- The helpers that a unit ends with are those that it mentions, in the order of all
helpers.
-/
theorem eq_filter_of_sublist {helpers : List Helper} {mentions : Helper → Bool}
    (ordered : helpers.Sublist Helper.all)
    (members : ∀ helper, helper ∈ helpers ↔ mentions helper = true)
    : helpers = Helper.all.filter mentions := by
  have kept : helpers.filter mentions = helpers :=
    List.filter_eq_self.mpr (fun helper member => (members helper).mp member)
  have sublist : helpers.Sublist (Helper.all.filter mentions) := kept ▸ ordered.filter mentions
  have distinct : (Helper.all.filter mentions).Nodup :=
    (by decide : Helper.all.Nodup).filter mentions
  refine sublist.eq_of_length_le (List.Subperm.length_le (List.subperm_of_subset distinct ?_))
  intro helper member
  exact (members helper).mpr (List.mem_filter.mp member).2

/-- Each item of a unit belongs to the owner in its place. Witness: the parts of a unit in
their order, of which the helpers stand in the order of all helpers.
-/
theorem forall₂_owners (made : Generation.unit registry options file = .ok unit)
    : List.Forall₂ (BelongsTo options) (owners options file unit) unit.items := by
  obtain ⟨bare, helpers, items, bareFound, use⟩ := exists_helperUse made
  have listed
      : helpers = Helper.all.filter (fun helper => unit.mentioned.contains helper.symbol) := by
    refine eq_filter_of_sublist use.ordered (fun helper => ?_)
    rw [List.contains_iff_mem, Helper.symbol,
      ← mem_recorded_unit made, ← References.mem_helpers_ofSymbols, ← SourceUnit.references,
      use.mentioned]
    constructor
    · intro member
      exact ⟨helper, member, rfl⟩
    · rintro ⟨other, member, same⟩
      have named := name_mem_helperNames other
      rw [same] at named
      exact eq_of_mem_helperNames named (name_mem_helperNames helper) ▸ member
  have last : List.Forall₂ (BelongsTo options) (helpers.map Owner.helper) items :=
    List.forall₂_map_left_iff.mpr
      (use.declared.imp (fun _ _ found => declaredNames_of_helper found))
  obtain ⟨types, services, typesFound, servicesFound, rfl⟩ := bareUnit_eq_ok.mp bareFound
  rw [use.last, owners, ← listed]
  refine List.rel_append (List.rel_append (List.rel_append ?_ ?_) ?_) last
  · exact forall₂_typeItems typesFound
  · exact forall₂_serviceItems servicesFound
  · split
    · exact .nil
    · exact forall₂_shared

/-- The owners in a unit with the names that they have. Witness: the kinds of owners, each
with the part of the unit that it stands in.
-/
theorem hasName_iff {owner : Owner} {name : String}
    : HasName options file unit name owner
      ↔ owner ∈ owners options file unit ∧ name ∈ owner.names options := by
  have ofType (declared other : Declared)
      : Owner.type declared ∈ typeOwners options other ↔ declared = other := by
    unfold typeOwners
    split <;> simp
  constructor
  · intro has
    cases has with
    | type declared inFile named =>
        simp [owners, ofType, serviceOwners, inFile, Owner.names, named]
    | base declared inFile isMessage wanted named =>
        simp [owners, typeOwners, inFile, isMessage, wanted, Owner.names, named]
    | contract service inFile named => simp [owners, serviceOwners, inFile, Owner.names, named]
    | client service inFile wanted named =>
        simp [owners, serviceOwners, inFile, wanted, Owner.names, named]
    | shared needed member => simp [owners, needed, member, Owner.names]
    | helper helper mentioned member =>
        simp [owners, mentioned, member, Owner.names, Helper.mem_all]
  · rintro ⟨member, named⟩
    cases owner with
    | type declared =>
        refine .type declared ?_ (List.mem_singleton.mp named).symm
        simpa [owners, ofType, serviceOwners] using member
    | base declared =>
        obtain ⟨inFile, isMessage, wanted⟩
            : declared ∈ file.declared ∧ declared.isMessage = true ∧ options.hasCodecs = true := by
          simpa [owners, typeOwners, serviceOwners, and_assoc] using member
        exact .base declared inFile isMessage wanted (List.mem_singleton.mp named).symm
    | contract service =>
        refine .contract service ?_ (List.mem_singleton.mp named).symm
        simpa [owners, typeOwners, serviceOwners] using member
    | client service =>
        obtain ⟨inFile, wanted⟩
            : service ∈ file.services ∧ Service.hasClients options = true := by
          simpa [owners, typeOwners, serviceOwners] using member
        exact .client service inFile wanted (List.mem_singleton.mp named).symm
    | shared shared =>
        obtain ⟨needed, inShared⟩ : file.services ≠ [] ∧ shared ∈ sharedNames options := by
          simpa [owners, typeOwners, serviceOwners] using member
        rw [← List.mem_singleton.mp named] at inShared ⊢
        exact .shared needed inShared
    | helper helper =>
        refine .helper helper ?_ named
        simpa [owners, typeOwners, serviceOwners, Helper.mem_all] using member

/-- A unit declares a name for just the owners that have it, since each item declares the
names of the owner in its place.
-/
theorem declaredFor_iff (made : Generation.unit registry options file = .ok unit) {owner : Owner}
    {name : String}
    : DeclaredFor options file unit owner name ↔ HasName options file unit name owner := by
  have each := forall₂_owners made
  rw [hasName_iff]
  constructor
  · rintro ⟨item, paired, declared⟩
    refine ⟨(List.of_mem_zip paired).1, ?_⟩
    rw [← List.forall₂_zip each paired]
    exact declared
  · rintro ⟨member, named⟩
    rw [← List.map_fst_zip (Nat.le_of_eq each.length_eq)] at member
    obtain ⟨⟨owner, item⟩, paired, rfl⟩ := List.mem_map.mp member
    refine ⟨item, paired, ?_⟩
    rw [List.forall₂_zip each paired]
    exact named

-----------------------------------------------------------------------------------------
-- The owners of one name
-----------------------------------------------------------------------------------------

/-- The names of the interfaces that services may share, and of all helpers. -/
def fixedNames : List String :=
  ["Rpc", "DataLoaderOptions", "DataLoaders"] ++ Helper.all.flatMap helperNames

/-- There are three names that are shared at most. -/
theorem mem_of_mem_sharedNames {name : String} (member : name ∈ sharedNames options)
    : name ∈ ["Rpc", "DataLoaderOptions", "DataLoaders"] := by
  rcases List.mem_append.mp member with transport | loaders
  · split at transport
    · rw [List.mem_singleton.mp transport]
      exact List.mem_cons_self
    · cases transport
  · split at loaders
    · exact List.mem_cons_of_mem _ loaders
    · cases loaders

theorem mem_fixedNames_of_mem_sharedNames {name : String} (member : name ∈ sharedNames options)
    : name ∈ fixedNames :=
  List.mem_append_left _ (mem_of_mem_sharedNames member)

theorem mem_fixedNames_of_mem_helperNames {name : String} {helper : Helper}
    (member : name ∈ helperNames helper)
    : name ∈ fixedNames :=
  List.mem_append_right _ (List.mem_flatMap.mpr ⟨helper, Helper.mem_all helper, member⟩)

/-- No fixed name starts as base instances do. The list is gone through. -/
theorem baseName_not_mem_fixedNames (identifier : String)
    : Message.baseName identifier ∉ fixedNames := by
  have plain : ∀ name ∈ fixedNames, ¬ "base".toList <+: name.toList := by decide
  intro member
  exact plain _ member ⟨identifier.toList, by rw [Message.baseName, String.toList_append]⟩

/-- No fixed name ends as clients do. The list is gone through. -/
theorem clientName_not_mem_fixedNames (service : String)
    : service ++ "ClientImpl" ∉ fixedNames := by
  have plain : ∀ name ∈ fixedNames, ¬ "ClientImpl".toList <:+ name.toList := by decide
  intro member
  exact plain _ member ⟨service.toList, by rw [String.toList_append]⟩

/-- An interface that services share has no name that a helper declares. -/
theorem not_mem_helperNames_of_mem_sharedNames {name : String}
    (member : name ∈ sharedNames options) (helper : Helper)
    : name ∉ helperNames helper := by
  have apart
      : ∀ name ∈ ["Rpc", "DataLoaderOptions", "DataLoaders"], ∀ helper ∈ Helper.all,
          name ∉ helperNames helper := by
    decide
  exact apart name (mem_of_mem_sharedNames member) helper (Helper.mem_all helper)

/-- The types of a file have different names in generated code. -/
theorem eq_of_identifier {files : List File} (built : Registry.ofFiles options files = .ok registry)
    (inFiles : file ∈ files) {first second : Declared} (inFile : first ∈ file.declared)
    (inFile' : second ∈ file.declared)
    (same : first.identifier options = second.identifier options)
    : first = second := by
  have places := (Registry.ofFiles_eq_ok_iff.mp built).1.places
  refine List.inj_on_of_nodup_map ((List.nodup_flatMap.mp places).1 file inFiles) inFile inFile' ?_
  rw [Declared.place, Declared.place, same]

section OneName

variable {files : List File} {name : String} {first second : Owner}
  (built : Registry.ofFiles options files = .ok registry) (inFiles : file ∈ files)
  (distinct : (file.services.map Service.name).Nodup) (apart : first ≠ second)

include apart

include built inFiles in
/-- What has the name of a type is a service, or its name is made up. No other type of the
file has the name, as the files would have no registry then.
-/
theorem clash_of_type {declared : Declared} (isType : first = .type declared)
    (inFirst : HasName options file unit name first)
    (inSecond : HasName options file unit name second)
    : Clash options file unit name := by
  subst isType
  have kept := inSecond
  cases inSecond with
  | type other inFile named =>
      cases inFirst with
      | type declared inFile' named' =>
          have same := eq_of_identifier built inFiles inFile' inFile (named'.trans named.symm)
          exact absurd (congrArg Owner.type same) apart
  | contract service => exact .typeAndService declared service inFirst kept
  | base | client | shared | helper => exact .typeAndMadeUp declared _ rfl inFirst kept

include distinct in
/-- What has the name of a service is a type, or its name is made up, as the services of a
file have different names.
-/
theorem clash_of_contract {service : Service} (isContract : first = .contract service)
    (inFirst : HasName options file unit name first)
    (inSecond : HasName options file unit name second)
    : Clash options file unit name := by
  subst isContract
  have kept := inSecond
  cases inSecond with
  | type declared => exact .typeAndService declared service kept inFirst
  | contract other inFile named =>
      cases inFirst with
      | contract service inFile' named' =>
          have same := List.inj_on_of_nodup_map distinct inFile' inFile (named'.trans named.symm)
          exact absurd (congrArg Owner.contract same) apart
  | base | client | shared | helper => exact .serviceAndMadeUp service _ rfl inFirst kept

include built inFiles distinct in
/-- Of the names that are made up, only those of base instances and of clients may be the
same. Witness: how each of them starts or ends, and the fixed ones in full.
-/
theorem clash_of_madeUp (madeUp : first.isMadeUp = true) (madeUp' : second.isMadeUp = true)
    (inFirst : HasName options file unit name first)
    (inSecond : HasName options file unit name second)
    : Clash options file unit name := by
  have kept := inFirst
  have kept' := inSecond
  have notBase (declared : Declared) (fixed : name ∈ fixedNames)
      : Message.baseName (declared.identifier options) ≠ name :=
    fun named => baseName_not_mem_fixedNames _ (named ▸ fixed)
  have notClient (service : Service) (fixed : name ∈ fixedNames)
      : service.name ++ "ClientImpl" ≠ name :=
    fun named => clientName_not_mem_fixedNames _ (named ▸ fixed)
  cases inFirst with
  | type | contract => cases madeUp
  | base declared inFile _ _ named =>
      cases inSecond with
      | type | contract => cases madeUp'
      | base other inFile' _ _ named' =>
          have identifiers := String.append_right_inj "base" |>.mp (named.trans named'.symm)
          have same := eq_of_identifier built inFiles inFile inFile' identifiers
          exact absurd (congrArg Owner.base same) apart
      | client service => exact .baseAndClient declared service kept kept'
      | shared _ member =>
          exact absurd named (notBase declared (mem_fixedNames_of_mem_sharedNames member))
      | helper helper _ member =>
          exact absurd named (notBase declared (mem_fixedNames_of_mem_helperNames member))
  | client service inFile _ named =>
      cases inSecond with
      | type | contract => cases madeUp'
      | base declared => exact .baseAndClient declared service kept' kept
      | client other inFile' _ named' =>
          have names := String.append_left_inj "ClientImpl" |>.mp (named.trans named'.symm)
          have same := List.inj_on_of_nodup_map distinct inFile inFile' names
          exact absurd (congrArg Owner.client same) apart
      | shared _ member =>
          exact absurd named (notClient service (mem_fixedNames_of_mem_sharedNames member))
      | helper helper _ member =>
          exact absurd named (notClient service (mem_fixedNames_of_mem_helperNames member))
  | shared _ member =>
      have fixed := mem_fixedNames_of_mem_sharedNames member
      cases inSecond with
      | type | contract => cases madeUp'
      | base declared _ _ _ named => exact absurd named (notBase declared fixed)
      | client service _ _ named => exact absurd named (notClient service fixed)
      | shared => exact absurd rfl apart
      | helper helper _ declared =>
          exact absurd declared (not_mem_helperNames_of_mem_sharedNames member helper)
  | helper helper _ declared =>
      have fixed := mem_fixedNames_of_mem_helperNames declared
      cases inSecond with
      | type | contract => cases madeUp'
      | base declared _ _ _ named => exact absurd named (notBase declared fixed)
      | client service _ _ named => exact absurd named (notClient service fixed)
      | shared _ member =>
          exact absurd declared (not_mem_helperNames_of_mem_sharedNames member helper)
      | helper other _ declared' =>
          exact absurd (congrArg Owner.helper (eq_of_mem_helperNames declared declared')) apart

end OneName

/-- A unit declares one name for two owners exactly if a type or a service has that name
and another owner too, or if a base instance and a client have it: the names of types are
kept apart, those of the helpers and of what services share are apart, and nothing is done
about all others. Witness: which of the two owners has a name of its own.
-/
theorem two_owners_iff_clash {request : Request} (generated : Generated request file unit)
    (distinct : (file.services.map Service.name).Nodup) {name : String}
    : (∃ first second,
        first ≠ second
        ∧ DeclaredFor (Options.ofParameter request.parameter) file unit first name
        ∧ DeclaredFor (Options.ofParameter request.parameter) file unit second name)
      ↔ Clash (Options.ofParameter request.parameter) file unit name := by
  obtain ⟨registry, built, made⟩ := generated.made
  have inFiles := generated.member
  simp only [declaredFor_iff made]
  constructor
  · rintro ⟨first, second, apart, inFirst, inSecond⟩
    cases first with
    | type declared => exact clash_of_type built inFiles apart rfl inFirst inSecond
    | contract service => exact clash_of_contract distinct apart rfl inFirst inSecond
    | base | client | shared | helper =>
        cases second with
        | type declared => exact clash_of_type built inFiles apart.symm rfl inSecond inFirst
        | contract service => exact clash_of_contract distinct apart.symm rfl inSecond inFirst
        | base | client | shared | helper =>
            exact clash_of_madeUp built inFiles distinct apart rfl rfl inFirst inSecond
  · intro clash
    cases clash with
    | typeAndService declared service type contract =>
        exact ⟨.type declared, .contract service, nofun, type, contract⟩
    | typeAndMadeUp declared owner madeUp type other =>
        refine ⟨.type declared, owner, ?_, type, other⟩
        rintro rfl
        cases madeUp
    | serviceAndMadeUp service owner madeUp contract other =>
        refine ⟨.contract service, owner, ?_, contract, other⟩
        rintro rfl
        cases madeUp
    | baseAndClient declared service base client =>
        exact ⟨.base declared, .client service, nofun, base, client⟩

/-- One message has the name of the base instance of another one. -/
theorem two_owners_iff_clash_base
    : let file : File :=
        { name := "user.proto", messages := [{ name := "User" }, { name := "baseUser" }] }
      let request : Request := { files := [file] }
      let options := Options.ofParameter request.parameter
      (outputs request).toOption.isSome = true
      ∧ (file.services.map Service.name).Nodup
      ∧ ∃ unit,
          Generated request file unit
          ∧ Clash options file unit "baseUser"
          ∧ ∃ first second,
              first ≠ second
              ∧ DeclaredFor options file unit first "baseUser"
              ∧ DeclaredFor options file unit second "baseUser" := by
  intro file request options
  have accepted : (outputs request).toOption.isSome = true := by decide +kernel
  have distinct : (file.services.map Service.name).Nodup := List.nodup_nil
  have found : (unit? request file).map (fun _ => true) = some true := by decide +kernel
  obtain ⟨unit, generated, -⟩ := exists_generated_of_unit? List.mem_cons_self rfl found
  let user : Declared := { names := ["User"], definition := .message { name := "User" } }
  let base : Declared := { names := ["baseUser"], definition := .message { name := "baseUser" } }
  have declared : file.declared = [user, base] := rfl
  have clash : Clash options file unit "baseUser" := by
    refine .typeAndMadeUp base (.base user) rfl (.type base ?_ ?_) (.base user ?_ rfl ?_ ?_)
    · simp [declared]
    · decide
    · simp [declared]
    · decide
    · decide
  exact ⟨accepted, distinct, unit, generated, clash,
    (two_owners_iff_clash generated distinct).mpr clash⟩

end ProtobufTypeScript.Generation
