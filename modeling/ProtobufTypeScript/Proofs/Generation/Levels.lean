import ProtobufTypeScript.Proofs.Generation.Items
import ProtobufTypeScript.Proofs.Target.Levels

/-!
The levels of generated code. Bodies of generated functions are written from statements, and the
one helper that is a type is written without any change of depth, so that every item of a unit is
level.
-/

namespace ProtobufTypeScript.Generation

open Schema Target Layout

variable {registry : Registry} {options : Options} {file : File} {unit : SourceUnit}

-----------------------------------------------------------------------------------------
-- Bodies
-----------------------------------------------------------------------------------------

/-- A method of a codec is one of its functions. -/
theorem mem_codecFunctions_of_mem_codec {name : String} {shapes : List Field.Shape}
    {function : Function}
    (member : .method function ∈ (Message.codec options name shapes).entries)
    : function ∈ Message.codecFunctions options name shapes := by
  have methods
      : ∀ entry ∈ (Message.codec options name shapes).entries,
          ∀ function,
            entry = .method function → function ∈ Message.codecFunctions options name shapes := by
    refine (forall_mem_intercalate ?_).mpr (List.forall_mem_map.mpr ?_)
    · exact List.forall_mem_singleton.mpr nofun
    · intro function inCodec
      exact List.forall_mem_singleton.mpr (fun _ same => Entry.method.inj same ▸ inCodec)
  exact methods _ member function rfl

/-- The bodies of a message's functions are statements, which are level. The functions are
gone through one by one.
-/
theorem isLevel_body_of_mem_codecFunctions {name : String} {shapes : List Field.Shape}
    : ∀ function ∈ Message.codecFunctions options name shapes, IsLevel function.body.lines := by
  intro function member
  rcases List.mem_append.mp member with binary | json
  · split at binary
    · rcases List.mem_pair.mp binary with rfl | rfl
      · exact isLevel_stmts _
      · exact isLevel_stmts _
    · cases binary
  · split at json
    · simp only [List.mem_cons, List.not_mem_nil, or_false] at json
      rcases json with rfl | rfl | rfl
      · exact isLevel_stmts _
      · exact isLevel_stmts _
      · exact isLevel_stmts _
    · cases json

/-- The bodies of an enum's functions are statements, which are level. Among the entries
only the two conversions are functions.
-/
theorem isLevel_body_of_mem_enumeration {typeName : String} {enumeration : Schema.Enumeration}
    {cursor : Cursor} {function : Function}
    (member
      : .method function
          ∈ (Enumeration.declaration options typeName enumeration cursor).object.entries)
    : IsLevel function.body.lines := by
  rcases List.mem_append.mp member with declared | converting
  · rcases List.mem_append.mp declared with member | added
    · obtain ⟨_, -, same⟩ := List.mem_map.mp member
      cases same
    · cases List.mem_singleton.mp added
  · unfold Enumeration.conversions at converting
    split at converting
    · rcases List.mem_pair.mp converting with same | same
      · cases same
        exact isLevel_stmt _
      · cases same
        exact isLevel_stmt _
    · cases converting

/-- The bodies of a client's functions are statements, which are level: those of the
constructor and of the methods made by each of the three builders.
-/
theorem isLevel_body_of_mem_client {package : String} {service : Schema.Service}
    {endpoints : List Service.Endpoint}
    : ∀ function ∈ (Service.client options package service endpoints).functions,
        IsLevel function.body.lines := by
  intro function member
  rcases List.mem_append.mp member with made | called
  · cases Option.mem_toList.mp made
    exact isLevel_stmt _
  · obtain ⟨endpoint, -, inEndpoint⟩ := List.mem_flatMap.mp called
    rcases List.mem_append.mp inEndpoint with companion | method
    · obtain ⟨_, -, rfl⟩ := Option.map_eq_some_iff.mp (Option.mem_toList.mp companion)
      exact isLevel_stmts _
    · rw [List.mem_singleton.mp method]
      split <;> exact isLevel_stmts _

/-- A helper is a function written from statements, or a type whose lines never change
depth. Witness: the helpers one by one.
-/
theorem isLevel_helper {helper : Helper} {item : Item}
    (found : Helper.declaration registry options helper = .ok item)
    : IsLevel item.block := by
  have function (param : String) (type returns : TypeExpr) (body : List Stmt)
      (recorded : List Symbol)
      : IsLevel
          (Helper.functionItem helper param type returns
            { lines := Stmt.codeAll body, recorded }).block := by
    rw [Helper.functionItem, Item.block]
    exact isLevel_function _ (isLevel_stmts body)
  cases helper with
  | longToNumber =>
      cases found
      exact function ..
  | longToString =>
      cases found
      exact function ..
  | numberToLong =>
      cases found
      exact function ..
  | deepPartial =>
      cases found
      exact isLevel_flatMap (fun line _ => isLevel_line [.plain line])
  | toTimestamp =>
      obtain ⟨_, -, found⟩ := bind_eq_ok.mp found
      cases found
      exact function ..
  | fromTimestamp =>
      obtain ⟨_, -, found⟩ := bind_eq_ok.mp found
      cases found
      exact function ..
  | fromJsonTimestamp =>
      obtain ⟨_, -, found⟩ := bind_eq_ok.mp found
      cases found
      exact function ..

-----------------------------------------------------------------------------------------
-- Units
-----------------------------------------------------------------------------------------

/-- Every item of a unit is level. Witness: the kinds of items, each of which is level if
the bodies of its functions are.
-/
theorem isLevel_of_makes {item : Item} (made : Makes registry options file unit item)
    : IsLevel item.block := by
  cases made with
  | interface node message shapes found => exact isLevel_interface _
  | base node message shapes found wanted => exact isLevel_values _
  | codec node message shapes found wanted =>
      exact isLevel_object (fun function member =>
        isLevel_body_of_mem_codecFunctions function (mem_codecFunctions_of_mem_codec member))
  | enumeration node enumeration found =>
      exact isLevel_enumeration (fun _ member => isLevel_body_of_mem_enumeration member)
  | contract service cursor endpoints inFile found => exact isLevel_interface _
  | client service endpoints inFile found wanted => exact isLevel_class isLevel_body_of_mem_client
  | shared item member =>
      obtain ⟨declared, rfl⟩ := isInterface_of_mem_shared member
      exact isLevel_interface declared
  | helper helper item found mentioned => exact isLevel_helper found

/-- All items of a generated unit are level. -/
theorem Generated.isLevelled {request : Request} (generated : Generated request file unit)
    : unit.IsLevelled := by
  obtain ⟨registry, -, made⟩ := generated.made
  exact SourceUnit.isLevelled_of_items
    (fun item inUnit => isLevel_of_makes (makes_of_mem_unit made item inUnit))

/-- In every unit of an accepted request each item goes down as often as up and never up
more often than down before, the depth is zero at the start of each item and never cut off
at zero, and the text is the heading followed by the texts of the items, with an empty
line between any two.
-/
theorem indentation_is_balanced {request : Request} {results : List Output}
    (accepted : outputs request = .ok results)
    : List.Forall₂
        (fun file output =>
          ∃ unit,
            Generated request file unit
            ∧ output = { name := outputName file.name, content := unit.render }
            ∧ unit.IsLevelled)
        (request.files.filter (selects request)) results := by
  refine (outputs_eq_ok accepted).imp ?_
  rintro file output ⟨unit, generated, written⟩
  exact ⟨unit, generated, written, generated.isLevelled⟩

/-- A file with a message, an enum and a service with a batch method, and a context. -/
theorem indentation_is_balanced_service
    : let request : Request :=
        {
          parameter := "context=true"
          files :=
            [
              {
                name := "users.proto"
                messages :=
                  [
                    {
                      name := "Ids"
                      fields := [{ name := "ids", label := .repeated, type := .scalar .int32 }]
                    },
                    {
                      name := "Users"
                      fields := [{ name := "names", label := .repeated, type := .scalar .string }]
                    }
                  ]
                enumerations := [{ name := "Role", members := [{ name := "ADMIN" }] }]
                services :=
                  [
                    {
                      name := "Directory"
                      methods := [{ name := "BatchGetNames", input := ".Ids", output := ".Users" }]
                    }
                  ]
              }
            ]
        }
      ∃ results,
        outputs request = .ok results
        ∧ List.Forall₂
            (fun file output =>
              ∃ unit,
                Generated request file unit
                ∧ output = { name := outputName file.name, content := unit.render }
                ∧ unit.IsLevelled)
            (request.files.filter (selects request)) results := by
  intro request
  have some : (outputs request).toOption.isSome = true := by decide +kernel
  obtain ⟨results, kept⟩ := Option.isSome_iff_exists.mp some
  have accepted := toOption_eq_some.mp kept
  exact ⟨results, accepted, indentation_is_balanced accepted⟩

end ProtobufTypeScript.Generation
