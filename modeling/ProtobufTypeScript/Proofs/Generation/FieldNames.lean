import Mathlib.Data.List.Nodup
import ProtobufTypeScript.Proofs.Generation.ImportTargets
import ProtobufTypeScript.Proofs.Schema.Declared
import ProtobufTypeScript.Proofs.Text.Casing

/-!
The properties that the fields of a message have in its interface, and the places where its codec
reads and writes them. Each field is cased by itself. So two fields may get one property, which
holds only one of their values; with names in the usual style that does not happen.
-/

namespace ProtobufTypeScript.Generation

open Schema Target

/-- Whether fields of a message that have different names get one identifier. -/
def MergesFields (options : Options) (message : Message) : Prop :=
  ∃ first ∈ message.fields, ∃ second ∈ message.fields,
    first.name ≠ second.name ∧ options.identifier first.name = options.identifier second.name

variable {registry : Registry} {options : Options} {message : Message} {shapes : List Field.Shape}

-----------------------------------------------------------------------------------------
-- Merged fields
-----------------------------------------------------------------------------------------

/-- The identifiers of fields with different names are different exactly if no two of the
fields are merged by the conversion, which is asked of each two of them.
-/
theorem nodup_identifiers_iff (distinct : (message.fields.map Field.name).Nodup)
    : (message.fields.map (fun field => options.identifier field.name)).Nodup
      ↔ ¬ MergesFields options message := by
  have parted
      : message.fields.map (fun field => options.identifier field.name)
        = (message.fields.map Field.name).map options.identifier := by
    rw [List.map_map]
    rfl
  rw [parted, List.nodup_map_iff_inj_on distinct]
  constructor
  · rintro apart ⟨first, inFields, second, alsoInFields, different, same⟩
    exact different
      (apart _ (List.mem_map_of_mem inFields) _ (List.mem_map_of_mem alsoInFields) same)
  · intro unmerged left inNames right alsoInNames same
    obtain ⟨first, inFields, rfl⟩ := List.mem_map.mp inNames
    obtain ⟨second, alsoInFields, rfl⟩ := List.mem_map.mp alsoInNames
    by_contra different
    exact unmerged ⟨first, inFields, second, alsoInFields, different, same⟩

/-- Fields are merged only by camel case, and only if one of them has not a name in the
usual style: such names are read back from their camel case.
-/
theorem MergesFields.exists_unusual (merges : MergesFields options message)
    : options.camelCase = true
      ∧ ∃ field ∈ message.fields, Text.isSnakeCase field.name.toList = false := by
  obtain ⟨first, inFields, second, alsoInFields, different, same⟩ := merges
  unfold Options.identifier at same
  split at same
  case isFalse => exact absurd same different
  case isTrue camelCase =>
    refine ⟨camelCase, ?_⟩
    by_contra usual
    simp only [not_exists, not_and, Bool.not_eq_false] at usual
    exact different
      (Text.eq_of_camelCase_eq (usual first inFields) (usual second alsoInFields) same)

-----------------------------------------------------------------------------------------
-- Properties and places
-----------------------------------------------------------------------------------------

/-- Shapes have the identifiers of their fields, in order. -/
theorem map_name_shapesOf (classified : Field.shapesOf registry options message = .ok shapes)
    : shapes.map Field.Shape.name
      = message.fields.map (fun field => options.identifier field.name) := by
  symm
  rw [← List.forall₂_eq_eq_eq, List.forall₂_map_left_iff, List.forall₂_map_right_iff]
  refine (mapM_eq_ok.mp classified).imp (fun field shape found => ?_)
  obtain ⟨kind, -, found⟩ := bind_eq_ok.mp found
  cases found
  rfl

/-- The properties of an interface are named as the shapes, in order. -/
theorem map_name_interface (options : Options) (name : String) (shapes : List Field.Shape)
    (cursor : Cursor)
    : (Message.interface options name shapes cursor).properties.map Property.name
      = shapes.map Field.Shape.name := by
  calc (Message.interface options name shapes cursor).properties.map Property.name
      = (shapes.zipIdx.map Prod.fst).map Field.Shape.name := by
        rw [Message.interface, List.map_map, List.map_map]
        rfl
    _ = shapes.map Field.Shape.name := by rw [List.zipIdx_map_fst]

/-- The places of fields in a message differ as the names of its properties do. -/
theorem nodup_places_iff
    : (shapes.map Message.place).Nodup ↔ (shapes.map Field.Shape.name).Nodup := by
  have parted
      : shapes.map Message.place = (shapes.map Field.Shape.name).map (.field "message") := by
    rw [List.map_map]
    rfl
  have apart : Function.Injective (Expr.field "message") := by
    intro left right same
    cases same
    rfl
  rw [parted, List.nodup_map_iff apart]

-----------------------------------------------------------------------------------------
-- Units
-----------------------------------------------------------------------------------------

/-- A unit has an interface for each message type of its file, and a codec for the same
shapes if there are codecs. Witness: the items for the node of the type.
-/
theorem exists_shapes_of_unit {file : File} {unit : SourceUnit}
    (made : Generation.unit registry options file = .ok unit) {placed : Placed}
    (declared : placed ∈ file.placed) (definition : placed.definition = .message message)
    : ∃ shapes,
        Field.shapesOf registry options message = .ok shapes
        ∧ .interface
            (Message.interface options (placed.identifier options) shapes
              ((Cursor.root file).at placed.place))
          ∈ unit.items
        ∧ (options.hasCodecs = true
          → .object (Message.codec options (placed.identifier options) shapes) ∈ unit.items) := by
  obtain ⟨types, typesFound, -⟩ := typeItems_subset made
  obtain ⟨nodes, parts, walked, -⟩ := typeItems_eq_ok.mp typesFound
  have inNodes : placed.node options (.root file) ∈ nodes :=
    File.nodes_eq_ok_placed walked ▸ List.mem_map_of_mem declared
  obtain ⟨items, found, subset⟩ := exists_nodeItems_root walked made inNodes
  have isMessage : (placed.node options (.root file)).definition = .message message := definition
  rw [nodeItems, isMessage] at found
  obtain ⟨shapes, classified, found⟩ := bind_eq_ok.mp found
  cases found
  refine ⟨shapes, classified, subset List.mem_cons_self, fun codecs => subset ?_⟩
  rw [if_pos codecs]
  exact List.mem_cons_of_mem _ (List.mem_cons_of_mem _ List.mem_cons_self)

/-- In every unit the message types have an interface, and a codec for the same shapes if
there are codecs. If the fields have different names, then so have the properties of the
interface and the places that the codec reads and writes, unless casing merges fields; it
does so only in camel case, and not if all names are in the usual style.
-/
theorem property_names_apart_iff {request : Request} {file : File} {unit : SourceUnit}
    (generated : Generated request file unit) {placed : Placed} (declared : placed ∈ file.placed)
    {message : Message} (definition : placed.definition = .message message)
    (distinct : (message.fields.map Field.name).Nodup)
    : let options := Options.ofParameter request.parameter
      ∃ interface shapes,
        .interface interface ∈ unit.items
        ∧ interface.name = placed.identifier options
        ∧ (options.hasCodecs = true
          → .object (Message.codec options interface.name shapes) ∈ unit.items)
        ∧ shapes.map Field.Shape.name = interface.properties.map Property.name
        ∧ interface.properties.map Property.name
          = message.fields.map (fun field => options.identifier field.name)
        ∧ ((interface.properties.map Property.name).Nodup ↔ ¬ MergesFields options message)
        ∧ ((shapes.map Message.place).Nodup ↔ ¬ MergesFields options message)
        ∧ (MergesFields options message
          → options.camelCase = true
            ∧ ∃ field ∈ message.fields, Text.isSnakeCase field.name.toList = false) := by
  intro options
  obtain ⟨registry, -, made⟩ := generated.made
  obtain ⟨shapes, classified, inUnit, codec⟩ := exists_shapes_of_unit made declared definition
  have names := map_name_shapesOf classified
  have properties :=
    map_name_interface options (placed.identifier options) shapes
      ((Cursor.root file).at placed.place)
  refine ⟨_, shapes, inUnit, rfl, codec, properties.symm, properties.trans names, ?_, ?_,
    MergesFields.exists_unusual⟩
  · rw [properties, names]
    exact nodup_identifiers_iff distinct
  · rw [nodup_places_iff, names]
    exact nodup_identifiers_iff distinct

/-- A name with an underscore and the same name in camel case: both fields get one
property.
-/
theorem property_names_apart_iff_merged
    : let message : Message :=
        {
          name := "User"
          fields :=
            [
              { name := "user_id", number := 1, type := .scalar .string },
              { name := "userId", number := 2, type := .scalar .string }
            ]
        }
      let file : File := { name := "user.proto", messages := [message] }
      let request : Request := { files := [file] }
      (outputs request).toOption.isSome = true
      ∧ (message.fields.map Field.name).Nodup
      ∧ ∃ unit interface shapes,
          Generated request file unit
          ∧ .interface interface ∈ unit.items
          ∧ interface.properties.map Property.name = ["userId", "userId"]
          ∧ ¬ (interface.properties.map Property.name).Nodup
          ∧ .object (Message.codec {} "User" shapes) ∈ unit.items
          ∧ ¬ (shapes.map Message.place).Nodup := by
  intro message file request
  have accepted : (outputs request).toOption.isSome = true := by decide +kernel
  have distinct : (message.fields.map Field.name).Nodup := by decide
  have found : (unit? request file).map (fun _ => true) = some true := by decide +kernel
  obtain ⟨unit, generated, -⟩ := exists_generated_of_unit? List.mem_cons_self rfl found
  let placed : Placed :=
    { names := ["User"], definition := .message message, place := [(Child.messageInFile, 0)] }
  have merges : MergesFields {} message := by
    refine ⟨_, List.mem_cons_self, _, List.mem_cons_of_mem _ List.mem_cons_self, ?_, ?_⟩ <;>
      decide +kernel
  have declared : placed ∈ file.placed := List.mem_cons_self
  have defaults : Options.ofParameter request.parameter = {} := by decide +kernel
  obtain ⟨interface, shapes, inUnit, named, codec, -, properties, apart, placesApart, -⟩ :=
    property_names_apart_iff generated declared rfl distinct
  rw [defaults] at named codec properties apart placesApart
  have name : interface.name = "User" := named.trans (by decide +kernel)
  refine ⟨accepted, distinct, unit, interface, shapes, generated, inUnit,
    properties.trans (by decide +kernel), fun nodup => apart.mp nodup merges, ?_,
    fun nodup => placesApart.mp nodup merges⟩
  exact name ▸ codec rfl

end ProtobufTypeScript.Generation
