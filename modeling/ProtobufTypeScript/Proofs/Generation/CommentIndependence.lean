import ProtobufTypeScript.Proofs.Generation.Generated
import ProtobufTypeScript.Proofs.Schema.Declared
import ProtobufTypeScript.Proofs.Target.Undocumented

/-!
What comments in a schema change: documentation and headings, and nothing else. Each stage of
generation is compared with what it gives for the same file without comments, up to documentation.
-/

namespace ProtobufTypeScript

open Schema Target

/-- A file without its comments. -/
def Schema.File.withoutComments (file : File) : File :=
  { file with locations := [] }

/-- Whether two requests are the same but for the comments in their files. -/
structure Request.SameButComments (first second : Request) : Prop where
  selected : first.selected = second.selected
  parameter : first.parameter = second.parameter
  files : first.files.map File.withoutComments = second.files.map File.withoutComments

namespace Generation

variable {registry : Registry} {options : Options}

-----------------------------------------------------------------------------------------
-- Declarations
-----------------------------------------------------------------------------------------

/-- Wherever the comments of a message are looked for, the same is declared for it. -/
theorem undocumented_interface (name : String) (shapes : List Field.Shape) (cursor other : Cursor)
    : (Item.interface (Message.interface options name shapes cursor)).undocumented
      = (Item.interface (Message.interface options name shapes other)).undocumented := by
  simp [Item.undocumented, Item.block, Item.reservedName, Item.recorded, Interface.recorded,
    Property.recorded, Interface.code, Message.interface, Message.property, Property.code,
    List.flatMap_map]

/-- Wherever the comments of an enum are looked for, the same is declared for it. -/
theorem undocumented_enumeration (name : String) (enumeration : Schema.Enumeration)
    (cursor other : Cursor)
    : (Item.enumeration
          (Enumeration.declaration options name enumeration cursor)).undocumented
      = (Item.enumeration
          (Enumeration.declaration options name enumeration other)).undocumented := by
  simp [Item.undocumented, Item.block, Item.reservedName, Item.recorded, ObjectConst.recorded,
    Entry.recorded, NumberedEnum.code, ObjectConst.code, Enumeration.declaration,
    Enumeration.memberEntries, Enumeration.memberEntry, Entry.code, List.flatMap_map]

/-- Wherever the comments of a service are looked for, the same is declared for it. -/
theorem undocumented_contract (service : Schema.Service) (endpoints : List Service.Endpoint)
    (cursor other : Cursor)
    : (Item.interface (Service.contract options service endpoints cursor)).undocumented
      = (Item.interface (Service.contract options service endpoints other)).undocumented := by
  simp [Item.undocumented, Item.block, Item.reservedName, Item.recorded, Interface.recorded,
    Function.recorded, Interface.code, Service.contract, Service.signatures, Function.code,
    Function.header, List.flatMap_assoc]

/-- Wherever the comments of a type are looked for, the same is declared for it. Messages
and enums are the cases.
-/
theorem undocumented_nodeItems (node : Node)
    : (nodeItems registry options node).map (List.map Item.undocumented)
      = (nodeItems registry options node.bare).map (List.map Item.undocumented) := by
  obtain ⟨identifier, schemaName, definition, cursor⟩ := node
  cases definition with
  | message message =>
      simp only [nodeItems, messageItems, Node.bare]
      cases Field.shapesOf registry options message with
      | error error => rfl
      | ok shapes =>
          exact congrArg (fun item => Except.ok (item :: _))
            (undocumented_interface identifier shapes cursor {})
  | enumeration enumeration =>
      exact congrArg (fun item => Except.ok [item])
        (undocumented_enumeration identifier enumeration cursor {})

-----------------------------------------------------------------------------------------
-- Units
-----------------------------------------------------------------------------------------

/-- Without documentation, the declarations for the types of a file are the same without
its comments: the nodes differ only in where comments are looked for.
-/
theorem undocumented_typeItems (file : File)
    : (typeItems registry options file).map (List.map Item.undocumented)
      = (typeItems registry options file.withoutComments).map (List.map Item.undocumented) := by
  have nodes
      : (file.nodes (.root file) options).map (List.map Node.bare)
        = (file.withoutComments.nodes (.root file.withoutComments) options).map
            (List.map Node.bare) := by
    rw [File.nodes_bare, File.nodes_bare]
    rfl
  rw [typeItems, typeItems, except_map_bind, except_map_bind]
  refine bind_congr_of_map nodes (fun left right same => ?_)
  rw [map_mapM_flatten, map_mapM_flatten]
  refine congrArg _ (mapM_congr_of_map same (fun node other bare => ?_))
  rw [undocumented_nodeItems, bare, ← undocumented_nodeItems]

/-- Without documentation, the declarations for a service do not depend on where comments
are looked up.
-/
theorem undocumented_declarations (package : String) (service : Schema.Service)
    (cursor other : Cursor)
    : (Service.declarations registry options package service cursor).map
          (List.map Item.undocumented)
      = (Service.declarations registry options package service other).map
          (List.map Item.undocumented) := by
  rw [Service.declarations_eq_map, Service.declarations_eq_map]
  cases Service.endpoints registry options service with
  | error error => rfl
  | ok endpoints =>
      exact congrArg (fun item => Except.ok (item :: _))
        (undocumented_contract service endpoints cursor other)

/-- Without documentation, the declarations for the services of a file are the same
without its comments.
-/
theorem undocumented_serviceItems (file : File)
    : (serviceItems registry options file).map (List.map Item.undocumented)
      = (serviceItems registry options file.withoutComments).map (List.map Item.undocumented) := by
  rw [serviceItems, serviceItems, map_mapM_flatten, map_mapM_flatten, File.servicesAt,
    File.servicesAt, List.mapM_map, List.mapM_map]
  refine congrArg _ (congrArg file.services.zipIdx.mapM (funext fun item => ?_))
  exact undocumented_declarations _ _ _ _

/-- Without documentation, a unit is the same without the comments of its file. -/
theorem undocumented_bareUnit (file : File)
    : (bareUnit registry options file).map SourceUnit.undocumented
      = (bareUnit registry options file.withoutComments).map SourceUnit.undocumented := by
  rw [bareUnit, bareUnit, except_map_bind, except_map_bind]
  refine bind_congr_of_map (undocumented_typeItems file) (fun types otherTypes sameTypes => ?_)
  rw [except_map_bind, except_map_bind]
  refine bind_congr_of_map (undocumented_serviceItems file)
    (fun services otherServices sameServices => ?_)
  refine congrArg Except.ok ?_
  simp only [SourceUnit.undocumented, List.map_append, sameTypes, sameServices]
  rfl

/-- The unit for a file is, but for its comments, the unit for the file without comments.
-/
theorem undocumented_unit (file : File)
    : (Generation.unit registry options file).map SourceUnit.undocumented
      = (Generation.unit registry options file.withoutComments).map SourceUnit.undocumented := by
  rw [Generation.unit, Generation.unit, except_map_bind, except_map_bind]
  refine bind_congr_of_map (undocumented_bareUnit file) (fun bare other same => ?_)
  obtain ⟨module, declared, items⟩ := SourceUnit.undocumented_eq_iff.mp same
  rw [SourceUnit.references_eq_of_undocumented items, except_map_bind, except_map_bind]
  refine bind_congr (fun helpers => congrArg Except.ok ?_)
  simp only [SourceUnit.undocumented, List.map_append, module, declared, items]

-----------------------------------------------------------------------------------------
-- Requests
-----------------------------------------------------------------------------------------

variable {first second : Request}

/-- Types are registered without a look at comments. -/
theorem ofFiles_withoutComments (options : Options) (files : List File)
    : Registry.ofFiles options (files.map File.withoutComments)
      = Registry.ofFiles options files := by
  rw [Registry.ofFiles, List.foldlM_map]
  rfl

/-- Comments are of no account for what is registered. -/
theorem ofFiles_eq_of_sameButComments (same : first.SameButComments second) (options : Options)
    : Registry.ofFiles options first.files = Registry.ofFiles options second.files := by
  rw [← ofFiles_withoutComments, same.files, ofFiles_withoutComments]

/-- Comments are of no account for which files there are. -/
theorem checkSelected_eq_of_sameButComments (same : first.SameButComments second)
    : checkSelected first.files = checkSelected second.files := by
  have each (files : List File) (name : String)
      : checkSelected files name = checkSelected (files.map File.withoutComments) name := by
    rw [checkSelected, checkSelected, List.any_map]
    rfl
  funext name
  rw [each, same.files, ← each]

/-- The same files are selected, but for their comments, since selecting looks at nothing
but names.
-/
theorem selected_eq_of_sameButComments (same : first.SameButComments second)
    : (first.files.filter (selects first)).map File.withoutComments
      = (second.files.filter (selects second)).map File.withoutComments := by
  have each (request : Request)
      : (request.files.filter (selects request)).map File.withoutComments
        = (request.files.map File.withoutComments).filter (selects request) := by
    rw [List.filter_map]
    rfl
  have selection : selects first = selects second := by
    funext file
    rw [selects, selects, same.selected]
  rw [each, each, same.files, selection]

/-- Files that are the same but for their comments have the same unit, but for its
comments.
-/
theorem undocumented_unit_eq (registry : Registry) (options : Options) {left right : File}
    (same : left.withoutComments = right.withoutComments)
    : (Generation.unit registry options left).map SourceUnit.undocumented
      = (Generation.unit registry options right).map SourceUnit.undocumented := by
  rw [undocumented_unit, same, ← undocumented_unit]

/-- Comments have no influence on whether a request is accepted, nor on the error if it is
not. Each step of the generation has the same error or none.
-/
theorem accepted_eq_of_sameButComments (same : first.SameButComments second)
    : (outputs first).map (List.map (fun _ => ()))
      = (outputs second).map (List.map (fun _ => ())) := by
  rw [outputs, outputs, same.parameter, ofFiles_eq_of_sameButComments same, same.selected,
    checkSelected_eq_of_sameButComments same, except_map_bind, except_map_bind]
  refine bind_congr (fun registry => ?_)
  rw [except_map_bind, except_map_bind]
  refine bind_congr (fun _ => ?_)
  rw [map_mapM, map_mapM]
  refine mapM_congr_of_map (selected_eq_of_sameButComments same) (fun left right equal => ?_)
  rw [Generation.output, Generation.output, except_map_bind, except_map_bind]
  exact bind_congr_of_map (undocumented_unit_eq registry _ equal) (fun _ _ _ => rfl)

/-- Files that are the same but for their comments have units that are so as well. -/
theorem sameCode_of_generated (same : first.SameButComments second) {left right : File}
    (equal : left.withoutComments = right.withoutComments) {leftUnit rightUnit : SourceUnit}
    (leftMade : Generated first left leftUnit) (rightMade : Generated second right rightUnit)
    : leftUnit.SameCode rightUnit := by
  obtain ⟨registry, leftBuilt, leftFound⟩ := leftMade.made
  obtain ⟨other, rightBuilt, rightFound⟩ := rightMade.made
  rw [← same.parameter, ← ofFiles_eq_of_sameButComments same, leftBuilt] at rightBuilt
  obtain rfl := Except.ok.inj rightBuilt
  have units := undocumented_unit_eq registry (Options.ofParameter first.parameter) equal
  rw [leftFound, same.parameter, rightFound] at units
  exact SourceUnit.sameCode_of_undocumented (Except.ok.inj units)

/-- Whether two outputs are the texts of units for files that are the same but for their
comments, and the units are so as well.
-/
def DifferInComments (first second : Request) (left right : Output) : Prop :=
  ∃ leftFile rightFile leftUnit rightUnit,
    leftFile.withoutComments = rightFile.withoutComments
    ∧ Generated first leftFile leftUnit
    ∧ Generated second rightFile rightUnit
    ∧ left.name = right.name
    ∧ left.content = Layout.write leftUnit.lines
    ∧ right.content = Layout.write rightUnit.lines
    ∧ leftUnit.SameCode rightUnit

/-- Comments never change code: two requests that are the same but for comments are
refused with the same error, or answered with texts that are the same but for comments.
Witness: the units of both, whose items are the same without documentation.
-/
theorem comments_leave_code_alone {first second : Request} (same : first.SameButComments second)
    : (∀ error, outputs first = .error error ↔ outputs second = .error error)
      ∧ ∀ firstResults,
          outputs first = .ok firstResults
          → ∃ secondResults,
              outputs second = .ok secondResults
              ∧ List.Forall₂ (DifferInComments first second) firstResults secondResults := by
  have accepted := accepted_eq_of_sameButComments same
  constructor
  · intro error
    rw [← map_eq_error, accepted, map_eq_error]
  · intro firstResults firstAccepted
    rw [firstAccepted, eq_comm] at accepted
    obtain ⟨secondResults, secondAccepted, -⟩ := map_eq_ok.mp accepted
    refine ⟨secondResults, secondAccepted, ?_⟩
    have units :=
      forall₂_of_map (selected_eq_of_sameButComments same) (outputs_eq_ok firstAccepted)
        (outputs_eq_ok secondAccepted)
    refine units.imp ?_
    rintro left right
      ⟨leftFile, rightFile, equal, ⟨leftUnit, leftMade, rfl⟩, ⟨rightUnit, rightMade, rfl⟩⟩
    have names : leftFile.name = rightFile.name := by
      simpa only [File.withoutComments] using congrArg File.name equal
    exact ⟨leftFile, rightFile, leftUnit, rightUnit, equal, leftMade, rightMade,
      congrArg outputName names, leftUnit.render_eq_write, rightUnit.render_eq_write,
      sameCode_of_generated same equal leftMade rightMade⟩

/-- The second request has comments at all places that code is documented from. -/
theorem comments_leave_code_alone_everywhere
    : let cart : File :=
        {
          name := "shop/cart.proto"
          package := "shop"
          messages :=
            [
              {
                name := "Cart"
                fields := [{ name := "owner", type := .message, typeName := ".base.User" }]
                enumerations := [{ name := "State", members := [{ name := "OPEN" }] }]
              }
            ]
          services :=
            [
              {
                name := "Carts"
                methods := [{ name := "Find", input := ".base.User", output := ".shop.Cart" }]
              }
            ]
        }
      let user : File :=
        { name := "base/user.proto", package := "base", messages := [{ name := "User" }] }
      let commented : File :=
        {
          cart with
          locations :=
            [
              { path := [12], leading := some "Carts of a shop." },
              { path := [4, 0], leading := some "A cart." },
              { path := [4, 0, 2, 0], trailing := some "Who fills it.\n */ import" },
              { path := [4, 0, 4, 0], leading := some "Where it stands." },
              { path := [4, 0, 4, 0, 2, 0], leading := some "Being filled." },
              { path := [6, 0], leading := some "Finds carts." },
              { path := [6, 0, 2, 0], leading := some "Finds one." }
            ]
        }
      let parameter := "outputEncodeMethods=false,outputJsonMethods=false"
      let first : Request := { parameter, files := [cart, user] }
      let second : Request := { parameter, files := [commented, user] }
      first.SameButComments second
        ∧ ∃ firstResults secondResults,
          outputs first = .ok firstResults
          ∧ outputs second = .ok secondResults
          ∧ List.Forall₂ (DifferInComments first second) firstResults secondResults := by
  intro cart user commented parameter first second
  have same : first.SameButComments second := ⟨rfl, rfl, rfl⟩
  have some : (outputs first).toOption.isSome = true := by decide +kernel
  obtain ⟨firstResults, kept⟩ := Option.isSome_iff_exists.mp some
  have firstAccepted := toOption_eq_some.mp kept
  obtain ⟨secondResults, secondAccepted, differ⟩ :=
    (comments_leave_code_alone same).2 firstResults firstAccepted
  exact ⟨same, firstResults, secondResults, firstAccepted, secondAccepted, differ⟩

end Generation

end ProtobufTypeScript
