import ProtobufTypeScript.Proofs.Generation.Generated
import ProtobufTypeScript.Proofs.Schema.Elements
import ProtobufTypeScript.Proofs.Service.Conformance
import ProtobufTypeScript.Proofs.Target.CommentPlaces

/-!
Every comment documents its own element. The interfaces and enums of a unit stand for the types and
the services of its file, in the order of the walk; each of them and each of its parts has the
comment whose path leads to the element that it is generated for. The code has these comments, and
no others, each directly before the line that opens the declaration.
-/

namespace ProtobufTypeScript

open Schema Target

/-- Whether comments of a schema may be shown at an item. -/
def Target.Item.isDocumented : Item → Bool
  | .interface _ => true
  | .enumeration _ => true
  | _ => false

/-- The name and the documentation of an entry that holds a value. -/
def Target.Entry.label? : Entry → Option (String × Option String)
  | .value doc name _ => some (name, doc)
  | _ => none

namespace Generation

/-- Whether an item stands for a type of a file, and is documented with the comments about
the type and about what the type lists. The code of the item shows just these.
-/
inductive DocumentsType (options : Options) (file : File) (placed : Placed) : Item → Prop
  | interface (message : Message) (declared : Interface)
    (definition : placed.definition = .message message)
    (name : declared.name = placed.identifier options)
    (doc : declared.doc = file.docAt placed.place)
    (properties
      : declared.properties.map (fun property => (property.name, property.doc))
        = message.fields.zipIdx.map
            (fun (field, position) =>
              (options.identifier field.name, file.docAt (placed.place ++ [(2, position)]))))
    (shown
      : Shows declared.code
          (("export interface " ++ placed.identifier options, file.docAt placed.place)
            :: message.fields.zipIdx.map
                (fun (field, position) =>
                  (
                    options.identifier field.name ++ ": ",
                    file.docAt (placed.place ++ [(2, position)])
                  ))))
    : DocumentsType options file placed (.interface declared)
  | enumeration (enumeration : Enumeration) (declared : NumberedEnum)
    (definition : placed.definition = .enumeration enumeration)
    (name : declared.object.name = placed.identifier options)
    (doc : declared.object.doc = file.docAt placed.place)
    (members
      : (declared.object.entries.take enumeration.members.length).map Entry.label?
        = enumeration.members.zipIdx.map
            (fun (member, position) =>
              some
                (member.name,
                  (file.docAt (placed.place ++ [(2, position)])).map
                    (fun text => member.name ++ " - " ++ text))))
    (shown
      : Shows declared.code
          (("export const " ++ placed.identifier options ++ " =", file.docAt placed.place)
            :: enumeration.members.zipIdx.map
                (fun (member, position) =>
                  (
                    member.name ++ ": ",
                    (file.docAt (placed.place ++ [(2, position)])).map
                      (fun text => member.name ++ " - " ++ text)
                  ))))
    : DocumentsType options file placed (.enumeration declared)

/-- Whether an item stands for a service of a file, and is documented with the comments
about the service and about its methods. The code of the item shows just these.
-/
inductive DocumentsService (file : File) : Service × Nat → Item → Prop
  | interface (service : Service) (index : Nat) (declared : Interface)
    (name : declared.name = service.name)
    (doc : declared.doc = file.docAt [(6, index)])
    (methods
      : (declared.methods.filter (fun method => Service.hasMethod service method.name)).map
            (fun method => (method.name, method.doc))
        = service.methods.zipIdx.map
            (fun (method, position) =>
              (method.name, file.docAt [(6, index), (2, position)])))
    (shown
      : Shows declared.code
          (
            (
              "export interface " ++ service.name ++ typeParamsText declared.typeParams,
              file.docAt [(6, index)]
            )
              :: service.methods.zipIdx.map
                  (fun (method, position) =>
                    (method.name ++ "(", file.docAt [(6, index), (2, position)]))
          ))
    : DocumentsService file (service, index) (.interface declared)

/-- A unit documents its file. -/
structure Documents (options : Options) (file : File) (unit : SourceUnit) : Prop where
  /-- Of the interfaces and enums of the unit, the first ones stand for the types of the
  file, those after them for its services, and the others for no element.
  -/
  items
    : ∃ types services others,
        unit.items.filter Item.isDocumented = types ++ services ++ others
        ∧ List.Forall₂ (DocumentsType options file) file.placed types
        ∧ List.Forall₂ (DocumentsService file) file.services.zipIdx services
  /-- What is at a place in the file is one of these types and services, or is listed by
  one.
  -/
  complete
    : ∀ place element, place ≠ [] → (file.at? place = some element ↔ file.Holds place element)

variable {registry : Registry} {options : Options} {file : File}

-----------------------------------------------------------------------------------------
-- Lists with positions
-----------------------------------------------------------------------------------------

/-- Related lists give the same with their positions, if related members do at each
position.
-/
theorem map_zipIdx_eq {α β γ : Type} {R : α → β → Prop} {f : α × Nat → γ} {g : β × Nat → γ}
    {left : List α} {right : List β} (related : List.Forall₂ R left right)
    (same
      : ∀ position a b, left[position]? = some a → R a b → f (a, position) = g (b, position))
    : left.zipIdx.map f = right.zipIdx.map g := by
  refine List.ext_getElem (by simp [related.length_eq]) (fun position inLeft inRight => ?_)
  have inLeft : position < left.length := by simpa using inLeft
  have inRight : position < right.length := by simpa using inRight
  simp only [List.getElem_map, List.getElem_zipIdx, Nat.zero_add]
  exact same position _ _ (List.getElem?_eq_getElem inLeft) (related.get inLeft inRight)

/-- If one member of each part is kept, those kept are related as the parts are. -/
theorem forall₂_filter_flatten {α β : Type} {R : α → β → Prop} {keep : β → Bool}
    {inputs : List α} {parts : List (List β)}
    (each
      : List.Forall₂ (fun input part => ∃ kept, part.filter keep = [kept] ∧ R input kept) inputs
          parts)
    : List.Forall₂ R inputs (parts.flatten.filter keep) := by
  induction each with
  | nil => exact .nil
  | cons here _ ih =>
      obtain ⟨kept, single, related⟩ := here
      rw [List.flatten_cons, List.filter_append, single]
      exact .cons related ih

-----------------------------------------------------------------------------------------
-- Comments in the code
-----------------------------------------------------------------------------------------

/-- The interface of a message shows the comment on it, then those on its properties, in
order, each in front of its property.
-/
theorem shows_messageInterface (options : Options) (name : String) (shapes : List Field.Shape)
    (cursor : Cursor)
    : Shows (Message.interface options name shapes cursor).code
        (("export interface " ++ name, cursor.description.text)
          :: (Message.interface options name shapes cursor).properties.map
              (fun property => (property.name ++ ": ", property.doc))) := by
  have properties
      : Shows ((Message.interface options name shapes cursor).properties.flatMap Property.code)
          ((Message.interface options name shapes cursor).properties.map
            (fun property => (property.name ++ ": ", property.doc))) :=
    Shows.map (List.forall_mem_map.mpr (fun _ _ => shows_property rfl rfl))
  have parts := shows_interface properties .nil
  rw [List.append_nil] at parts
  have beginning
      : (Message.interface options name shapes cursor).beginning = "export interface " ++ name := by
    simp [Interface.beginning, Message.interface, exportText, typeParamsText]
  rwa [beginning] at parts

/-- The conversions of an enum show no comments. -/
theorem shows_conversions (options : Options) (name : String) (members : List Member)
    : Shows ((Enumeration.conversions options name members).flatMap Entry.code) [] := by
  unfold Enumeration.conversions
  split
  · have first := shows_method (Enumeration.fromJson name members) rfl (shows_stmt _)
    have second := shows_method (Enumeration.toJson name members) rfl (shows_stmt _)
    exact first.append (second.append .nil)
  · exact .nil

/-- An enum shows the comment on it, then those on the declared members. The member that
is added for unknown numbers has none.
-/
theorem shows_enumerationDeclaration (options : Options) (name : String)
    (enumeration : Enumeration) (cursor : Cursor)
    : Shows (Enumeration.declaration options name enumeration cursor).code
        (("export const " ++ name ++ " =", cursor.description.text)
          :: enumeration.members.zipIdx.map
              (fun placed =>
                (
                  placed.1.name ++ ": ",
                  (cursor.lookup Child.memberOfEnum placed.2).text.map
                    (fun text => placed.1.name ++ " - " ++ text)
                ))) := by
  let entry := fun (placed : Member × Nat) =>
    Enumeration.memberEntry name (cursor.lookup Child.memberOfEnum placed.2).text placed.1.name
      placed.1.number
  let added :=
    Enumeration.memberEntry name none Enumeration.unrecognizedName Enumeration.unrecognizedNumber
  have declared
      : Shows (enumeration.members.zipIdx.flatMap (fun placed => (entry placed).code))
          (enumeration.members.zipIdx.map
            (fun placed =>
              (
                placed.1.name ++ ": ",
                (cursor.lookup Child.memberOfEnum placed.2).text.map
                  (fun text => placed.1.name ++ " - " ++ text)
              ))) :=
    Shows.map (fun placed _ => shows_value _ placed.1.name _)
  have without : Shows (Entry.code added) [] := .bare rfl .nil
  have parts :=
    (declared.append without).append (shows_conversions options name enumeration.members)
  have entries
      : (Enumeration.declaration options name enumeration cursor).object.entries
        = enumeration.members.zipIdx.map entry ++ [added]
          ++ Enumeration.conversions options name enumeration.members :=
    rfl
  refine shows_enumeration ?_
  rw [entries, List.flatMap_append, List.flatMap_append, List.flatMap_map]
  simpa using parts

/-- The interface of a service shows the comment on it, then for each method that on its
own signature. Companions have none.
-/
theorem shows_contract (options : Options) (service : Schema.Service)
    (endpoints : List Service.Endpoint) (cursor : Cursor)
    : Shows (Service.contract options service endpoints cursor).code
        (
          (
            "export interface " ++ service.name
              ++ typeParamsText (Service.contextTypeParams options Service.contextParam),
            cursor.description.text
          )
            :: endpoints.zipIdx.map
                (fun placed =>
                  (
                    placed.1.method.name ++ "(",
                    (cursor.lookup Child.methodOfService placed.2).text
                  ))
        ) := by
  have each (placed : Service.Endpoint × Nat)
      : Shows
          ((Service.signatures options cursor placed.1 placed.2).flatMap (Function.code .signature))
          [(placed.1.method.name ++ "(", (cursor.lookup Child.methodOfService placed.2).text)] := by
    let own : Function :=
      {
        Service.methodSignature options placed.1 with
        doc := (cursor.lookup Child.methodOfService placed.2).text
      }
    have beginning : own.beginning = placed.1.method.name ++ "(" := by
      simp [own, Function.beginning, Service.methodSignature, typeParamsText]
    have first := shows_signature own
    rw [beginning] at first
    refine first.append ?_
    cases placed.1.companion with
    | none => exact .nil
    | some companion => exact (shows_bareSignature rfl).append .nil
  have methods
      : Shows
          ((Service.contract options service endpoints cursor).methods.flatMap
            (Function.code .signature))
          (endpoints.zipIdx.map
            (fun placed =>
              (
                placed.1.method.name ++ "(",
                (cursor.lookup Child.methodOfService placed.2).text
              ))) := by
    rw [Service.contract, List.flatMap_assoc]
    exact Shows.map (fun placed _ => each placed)
  have none
      : Shows
          ((Service.contract options service endpoints cursor).properties.flatMap Property.code)
          [] :=
    .nil
  have beginning
      : (Service.contract options service endpoints cursor).beginning
        = "export interface " ++ service.name
          ++ typeParamsText (Service.contextTypeParams options Service.contextParam) := by
    simp [Interface.beginning, Service.contract, exportText]
  have parts := shows_interface none methods
  rwa [beginning] at parts

-----------------------------------------------------------------------------------------
-- Types
-----------------------------------------------------------------------------------------

section Types

variable {placed : Placed} (few : file.HasFewSiblings) (declared : placed ∈ file.placed)

include few declared

/-- The interface of a message documents it. Witness: the field at a position has the
location that the property for it is looked up at, since fields are classified in their
order.
-/
theorem documentsType_interface {message : Message} {shapes : List Field.Shape}
    (definition : placed.definition = .message message)
    (classified : Field.shapesOf registry options message = .ok shapes)
    : DocumentsType options file placed
        (.interface
          (Message.interface options (placed.identifier options) shapes
            ((Cursor.root file).at placed.place))) := by
  have doc := File.text_description_at few (File.at?_placed declared)
  have properties
      : (Message.interface options (placed.identifier options) shapes
            ((Cursor.root file).at placed.place)).properties.map
          (fun property => (property.name, property.doc))
        = message.fields.zipIdx.map
            (fun (field, position) =>
              (options.identifier field.name, file.docAt (placed.place ++ [(2, position)]))) := by
    rw [Message.interface, List.map_map]
    refine
      (map_zipIdx_eq (mapM_eq_ok.mp classified)
        (fun position field shape listed made => ?_)).symm
    obtain ⟨kind, -, rest⟩ := bind_eq_ok.mp made
    cases rest
    have held : file.Holds (placed.place ++ [(2, position)]) (.field field) :=
      .ofType (.field placed message position field declared definition listed)
    exact congrArg (Prod.mk _) (File.text_lookup_at few (File.at?_of_holds held)).symm
  refine .interface message _ definition rfl doc properties ?_
  have shown :=
    shows_messageInterface options (placed.identifier options) shapes
      ((Cursor.root file).at placed.place)
  have lines :=
    congrArg (List.map (fun (entry : String × Option String) => (entry.1 ++ ": ", entry.2)))
      properties
  rw [List.map_map, List.map_map] at lines
  rw [doc] at shown
  exact (congrArg (fun parts => Shows _ (_ :: parts)) lines).mp shown

/-- The object of an enum documents it. Witness: members are looked up at their positions,
and the added member comes after the declared ones.
-/
theorem documentsType_enumeration {enumeration : Enumeration}
    (definition : placed.definition = .enumeration enumeration)
    : DocumentsType options file placed
        (.enumeration
          (Enumeration.declaration options (placed.identifier options) enumeration
            ((Cursor.root file).at placed.place))) := by
  have doc := File.text_description_at few (File.at?_placed declared)
  have texts
      : ∀ listed ∈ enumeration.members.zipIdx,
          (((Cursor.root file).at placed.place).lookup Child.memberOfEnum listed.2).text
          = file.docAt (placed.place ++ [(2, listed.2)]) := by
    rintro ⟨member, position⟩ listed
    have held : file.Holds (placed.place ++ [(2, position)]) (.member member) :=
      .ofType
        (.member placed enumeration position member declared definition
          (List.mem_zipIdx_iff_getElem?.mp listed))
    exact File.text_lookup_at few (File.at?_of_holds held)
  refine .enumeration enumeration _ definition rfl doc ?_ ?_
  · rw [Enumeration.declaration, Enumeration.memberEntries, List.append_assoc,
      List.take_left' (by simp), List.map_map]
    refine List.map_congr_left (fun listed inside => ?_)
    exact congrArg
      (fun doc => some (listed.1.name, doc.map (fun text => listed.1.name ++ " - " ++ text)))
      (texts listed inside)
  · have shown :=
      shows_enumerationDeclaration options (placed.identifier options) enumeration
        ((Cursor.root file).at placed.place)
    rw [doc] at shown
    refine (congrArg (fun parts => Shows _ (_ :: parts)) ?_).mp shown
    refine List.map_congr_left (fun listed inside => ?_)
    exact congrArg
      (fun doc => (listed.1.name ++ ": ", doc.map (fun text => listed.1.name ++ " - " ++ text)))
      (texts listed inside)

/-- The declarations for a type document it: one of them does, the interface of a message
or the object of an enum, and the others have no comments.
-/
theorem documentsType_nodeItems {items : List Item}
    (found : nodeItems registry options (placed.node options (.root file)) = .ok items)
    : ∃ item, items.filter Item.isDocumented = [item] ∧ DocumentsType options file placed item := by
  cases nodeItems_eq_ok.mp found with
  | message message shapes definition classified =>
      refine ⟨_, ?_, documentsType_interface few declared definition classified⟩
      split <;> rfl
  | enumeration enumeration definition =>
      exact ⟨_, rfl, documentsType_enumeration few declared definition⟩

end Types

/-- The interfaces and enums for the types of a file document these. Witness: each type at
its place, where the cursor finds the comments that lead there.
-/
theorem documentsType_typeItems (few : file.HasFewSiblings) {items : List Item}
    (found : typeItems registry options file = .ok items)
    : List.Forall₂ (DocumentsType options file) file.placed (items.filter Item.isDocumented) := by
  obtain ⟨nodes, parts, walked, made, rfl⟩ := typeItems_eq_ok.mp found
  obtain rfl := File.nodes_eq_ok_placed walked
  rw [List.forall₂_map_left_iff] at made
  have each :=
    (List.forall₂_and_left _ _).mpr ⟨fun placed (declared : placed ∈ file.placed) => declared, made⟩
  refine forall₂_filter_flatten (each.imp ?_)
  rintro placed part ⟨declared, found⟩
  exact documentsType_nodeItems few declared found

-----------------------------------------------------------------------------------------
-- Services
-----------------------------------------------------------------------------------------

/-- A companion has no name of a method that the service declares. -/
theorem hasMethod_companion {service : Schema.Service} {method : Method}
    {companion : Service.Companion}
    (found : Service.companion? registry options service method = .ok (some companion))
    : Service.hasMethod service companion.name = false := by
  obtain ⟨_, _, _, _, made⟩ := Service.exists_isGathered found
  exact made.free

/-- Of the signatures for a method, its own is the one with the name of a declared method.
-/
theorem filter_signatures {service : Schema.Service} {endpoint : Service.Endpoint}
    (inService : endpoint.method ∈ service.methods)
    (found : Service.companion? registry options service endpoint.method = .ok endpoint.companion)
    (cursor : Cursor) (position : Nat)
    : ((Service.signatures options cursor endpoint position).filter
          (fun method => Service.hasMethod service method.name)).map
        (fun method => (method.name, method.doc))
      = [(endpoint.method.name, (cursor.lookup Child.methodOfService position).text)] := by
  have own : Service.hasMethod service endpoint.method.name = true :=
    List.any_eq_true.mpr ⟨endpoint.method, inService, beq_self_eq_true _⟩
  cases companion : endpoint.companion with
  | none => simp [Service.signatures, Service.methodSignature, own, companion]
  | some single =>
      have other : Service.hasMethod service single.name = false :=
        hasMethod_companion (companion ▸ found)
      simp [Service.signatures, Service.methodSignature, Service.companionSignature, own, companion,
        other]

/-- The interface of a service documents it. Witness: a method and its signature have the
same position, and companions, which come in between, have no comments.
-/
theorem documentsService_contract (few : file.HasFewSiblings) {service : Schema.Service}
    {index : Nat} (listed : file.services[index]? = some service)
    {endpoints : List Service.Endpoint}
    (found
      : List.Forall₂
          (fun method endpoint => Service.endpoint registry options service method = .ok endpoint)
          service.methods endpoints)
    : DocumentsService file (service, index)
        (.interface
          (Service.contract options service endpoints ((Cursor.root file).at [(6, index)]))) := by
  let cursor := (Cursor.root file).at [(6, index)]
  let shown := fun (name : String) (position : Nat) =>
    (name, (cursor.lookup Child.methodOfService position).text)
  have doc := File.text_description_at few (File.at?_of_holds (.service index service listed))
  have own
      : ∀ placed ∈ endpoints.zipIdx,
          ((Service.signatures options cursor placed.1 placed.2).filter
              (fun method => Service.hasMethod service method.name)).map
            (fun method => (method.name, method.doc))
          = [shown placed.1.method.name placed.2] := by
    intro placed member
    obtain ⟨method, inService, made⟩ :=
      exists_of_mem_right found (List.fst_mem_of_mem_zipIdx member)
    obtain ⟨rfl, -, -, companion⟩ := Service.endpoint_eq_ok.mp made
    exact filter_signatures inService companion cursor placed.2
  -- The signature for a method stands at the position that the method has in the service.
  have listing
      : endpoints.zipIdx.map (fun placed => shown placed.1.method.name placed.2)
        = service.methods.zipIdx.map
            (fun (method, position) =>
              (method.name, file.docAt [(6, index), (2, position)])) := by
    refine (map_zipIdx_eq found (fun position method endpoint inService made => ?_)).symm
    obtain ⟨rfl, -⟩ := Service.endpoint_eq_ok.mp made
    have held : file.Holds [(6, index), (2, position)] (.method endpoint.method) :=
      .method index service position endpoint.method listed inService
    have doc
        : (cursor.lookup Child.methodOfService position).text
          = file.docAt ([(6, index)] ++ [(2, position)]) :=
      File.text_lookup_at few (File.at?_of_holds held)
    exact congrArg (Prod.mk _) doc.symm
  refine .interface service index _ rfl doc ?_ ?_
  · calc ((Service.contract options service endpoints cursor).methods.filter
              (fun method => Service.hasMethod service method.name)).map
            (fun method => (method.name, method.doc))
        = endpoints.zipIdx.flatMap (fun placed => [shown placed.1.method.name placed.2]) := by
          rw [Service.contract, List.filter_flatMap, List.map_flatMap]
          exact List.flatMap_congr own
      _ = endpoints.zipIdx.map (fun placed => shown placed.1.method.name placed.2) := by
          rw [List.map_eq_flatMap]
      _ = _ := listing
  · have parts := shows_contract options service endpoints cursor
    have lines :=
      congrArg (List.map (fun (entry : String × Option String) => (entry.1 ++ "(", entry.2)))
        listing
    rw [List.map_map, List.map_map] at lines
    rw [doc] at parts
    exact (congrArg (fun shown => Shows _ (_ :: shown)) lines).mp parts

/-- The interfaces for the services of a file document these. Each service is at its
place, and its client and what services share have no comments.
-/
theorem documentsService_serviceItems (few : file.HasFewSiblings) {items : List Item}
    (found : serviceItems registry options file = .ok items)
    : List.Forall₂ (DocumentsService file) file.services.zipIdx
        (items.filter Item.isDocumented) := by
  obtain ⟨parts, made, rfl⟩ := serviceItems_eq_ok.mp found
  have each :=
    (List.forall₂_and_left _ _).mpr
      ⟨fun entry (listed : entry ∈ file.services.zipIdx) => listed, made⟩
  refine forall₂_filter_flatten (each.imp ?_)
  rintro ⟨service, index⟩ part ⟨listed, found⟩
  obtain ⟨endpoints, unary, rfl⟩ := Service.declarations_eq_ok found
  have documented :=
    documentsService_contract few (List.mem_zipIdx_iff_getElem?.mp listed) unary
  refine ⟨_, ?_, documented⟩
  unfold Service.itemsFor
  split <;> rfl

-----------------------------------------------------------------------------------------
-- Units
-----------------------------------------------------------------------------------------

/-- A unit documents its file: the declarations for types and services do so, and helpers
and shared declarations have no comments of the schema.
-/
theorem documents_unit (few : file.HasFewSiblings) {unit : SourceUnit}
    (found : Generation.unit registry options file = .ok unit)
    : Documents options file unit := by
  obtain ⟨types, services, others, typesFound, servicesFound, items⟩ := exists_items_of_unit found
  constructor
  · refine ⟨types.filter Item.isDocumented, services.filter Item.isDocumented,
      others.filter Item.isDocumented, ?_, documentsType_typeItems few typesFound,
      documentsService_serviceItems few servicesFound⟩
    rw [items, List.filter_append, List.filter_append]
  · intro place element inside
    exact ⟨File.holds_of_at? inside, File.at?_of_holds⟩

end Generation

end ProtobufTypeScript
