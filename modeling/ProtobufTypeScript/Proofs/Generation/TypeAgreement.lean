import ProtobufTypeScript.Proofs.Generation.CalledMethods
import ProtobufTypeScript.Proofs.Generation.Items
import ProtobufTypeScript.Proofs.Message.ValueTypes

/-!
The types that a unit declares for the fields of its messages, and those of the values that `encode`
and `decode` move between the fields and the wire. The type of a field comes from the message that
refers to a wrapper, the value from the codec of the wrapper itself.
-/

namespace ProtobufTypeScript.Generation

open Message Schema Target

/-- A unit declares the properties of a type, and has an `encode` with some statements for
its fields and a `decode` with some sections for them.
-/
structure MovesFields (unit : SourceUnit) (name : String) (properties : List Property)
    (writes : List Stmt) (reads : List Section)
    : Prop where
  declared
    : ∃ interface,
        .interface interface ∈ unit.items
        ∧ interface.name = name
        ∧ interface.properties = properties
  encode
    : ∃ object function,
        .object object ∈ unit.items
        ∧ object.name = name
        ∧ .method function ∈ object.entries
        ∧ function.name = "encode"
        ∧ function.body.lines = Stmt.codeAll (writes ++ [.result (.name "writer")])
  decode
    : ∃ object function statements,
        .object object ∈ unit.items
        ∧ object.name = name
        ∧ .method function ∈ object.entries
        ∧ function.name = "decode"
        ∧ function.body.lines = Stmt.codeAll statements
        ∧ switchesIn statements
          = [(.binary .shiftRight (.name "tag") (.number 3), reads ++ [skipSection])]

variable {registry : Registry} {options : Options} {file : File} {unit : SourceUnit} {node : Node}
  {message : Schema.Message} {shapes : List Field.Shape}

/-- The unit for a file declares the fields of each message of the file, and moves their
values: both items for the message are in the unit.
-/
theorem movesFields_of_isMessage (made : Generation.unit registry options file = .ok unit)
    (wanted : options.binaryMethods = true)
    (found : IsMessage registry options file node message shapes)
    : MovesFields unit node.identifier
        (Message.interface options node.identifier shapes node.cursor).properties
        (shapes.map (writeField options)) (shapes.map (readSection options)) := by
  obtain ⟨nodes, walked, inFile⟩ := found.inFile
  obtain ⟨items, declared, subset⟩ := exists_nodeItems_root walked made inFile
  simp only [nodeItems, found.definition, messageItems, found.classified] at declared
  cases declared
  have coded : options.hasCodecs = true := by
    simp [Options.hasCodecs, wanted]
  have object : .object (codec options node.identifier shapes) ∈ unit.items :=
    subset (by simp [coded])
  have functions
      : [encode options node.identifier shapes, decode options node.identifier shapes]
        ⊆ codecFunctions options node.identifier shapes := by
    rw [codecFunctions, if_pos wanted]
    exact List.subset_append_left _ _
  obtain ⟨encodes, decodes⟩ := List.cons_subset.mp functions
  exact {
    declared := ⟨_, subset List.mem_cons_self, rfl, rfl⟩
    encode := ⟨_, _, object, rfl, method_mem_entries_codec encodes, rfl, rfl⟩
    decode :=
      ⟨_, _, _, object, rfl, method_mem_entries_codec (decodes List.mem_cons_self), rfl, rfl,
        switchesIn_decodeBody options node.identifier shapes⟩
  }

/-- When wrappers are declared as usual, the type that a message declares for a field that
is not a map is that of what `decode` stores in it and that of what `encode` hands its
values on to, except for wrapped 64-bit integers that are not chosen to be numbers: these
are declared as numbers and move in the form of the wrapper.
-/
theorem types_agree_unless_wrapped_long {request : Request}
    (proper : HasProperWrappers request.files) (generated : Generated request file unit)
    (wanted : (Options.ofParameter request.parameter).binaryMethods = true)
    : let options := Options.ofParameter request.parameter
      ∃ registry,
        Registry.ofFiles options request.files = .ok registry
        ∧ ∀ node message shapes,
            IsMessage registry options file node message shapes
            → ∃ properties writes reads,
                MovesFields unit node.identifier properties writes reads
                ∧ ∀ (position : Nat) (shape : Field.Shape),
                    shapes[position]? = some shape
                    → shape.isMap = false
                    → ∃ (property : Property) (write : Stmt) (read : Section),
                        properties[position]? = some property
                        ∧ writes[position]? = some write
                        ∧ reads[position]? = some read
                        ∧ (
                          StoresDeclared registry options property.type read.body
                          ↔ ¬ (HoldsWrappedLong shape.kind ∧ options.longForm ≠ .number)
                        )
                        ∧ (
                          HandsDeclared registry options property.type write
                          ↔ ¬ (HoldsWrappedLong shape.kind ∧ options.longForm ≠ .number)
                        ) := by
  intro options
  obtain ⟨registry, built, made⟩ := generated.made
  refine ⟨registry, built, ?_⟩
  intro node message shapes found
  refine ⟨_, _, _, movesFields_of_isMessage made wanted found, ?_⟩
  intro position shape placed notMap
  have registered : IsRegistered registry shape.kind :=
    isRegistered_shapesOf found.classified shape (List.mem_of_getElem? placed)
  refine ⟨Message.property options node.cursor position shape, writeField options shape,
    readSection options shape, ?_, ?_, ?_, ?_, ?_⟩
  · rw [Message.interface, List.getElem?_map, List.getElem?_zipIdx, placed, Nat.zero_add]
    rfl
  · rw [List.getElem?_map, placed, Option.map_some]
  · rw [List.getElem?_map, placed, Option.map_some]
  · exact storesDeclared_iff built proper registered notMap
  · exact handsDeclared_iff built proper registered notMap

/-- A wrapped 64-bit integer is declared as a number but moves as an object of the
library; a wrapped text is declared as it moves.
-/
theorem types_agree_unless_wrapped_long_visits
    : let userMessage : Message :=
        {
          name := "User"
          fields :=
            [
              { name := "visits", type := .message, typeName := ".google.protobuf.Int64Value" },
              {
                name := "nick"
                number := 1
                type := .message
                typeName := ".google.protobuf.StringValue"
              }
            ]
        }
      let int64Value : Message :=
        { name := "Int64Value", fields := [{ name := "value", type := .scalar .int64 }] }
      let stringValue : Message :=
        { name := "StringValue", fields := [{ name := "value", type := .scalar .string }] }
      let user : File := { name := "user.proto", messages := [userMessage] }
      let wrappers : File :=
        {
          name := "google/protobuf/wrappers.proto"
          package := "google.protobuf"
          messages := [int64Value, stringValue]
        }
      let request : Request := { parameter := "forceLong=long", files := [user, wrappers] }
      let options := Options.ofParameter request.parameter
      HasProperWrappers request.files
      ∧ options.binaryMethods = true
      ∧ ∃ unit registry properties writes reads,
          Generated request user unit
          ∧ Registry.ofFiles options request.files = .ok registry
          ∧ MovesFields unit "User" properties writes reads
          ∧ (
            ∃ visits write read,
              properties[0]? = some visits
              ∧ writes[0]? = some write
              ∧ reads[0]? = some read
              ∧ ¬ StoresDeclared registry options visits.type read.body
              ∧ ¬ HandsDeclared registry options visits.type write
          )
          ∧ ∃ nick write read,
              properties[1]? = some nick
              ∧ writes[1]? = some write
              ∧ reads[1]? = some read
              ∧ StoresDeclared registry options nick.type read.body
              ∧ HandsDeclared registry options nick.type write := by
  intro userMessage int64Value stringValue user wrappers request options
  have noWrapper
      : ∀ declared ∈ user.declared,
          Field.wrapperScalar (declared.fullName user.package) = none := by
    decide +kernel
  have proper : HasProperWrappers request.files := by
    rintro name scalar _ wrapper ⟨file, inFiles, declared, inFile, rfl, rfl⟩
    rcases List.mem_pair.mp inFiles with rfl | rfl
    · rw [noWrapper declared inFile] at wrapper
      cases wrapper
    · rcases List.mem_pair.mp (inFile : declared ∈ [_, _]) with rfl | rfl
      · have isLong : some scalar = some .int64 := wrapper.symm.trans (by decide +kernel)
        cases isLong
        exact ⟨int64Value, _, rfl, rfl, rfl, rfl, by decide⟩
      · have isString : some scalar = some .string := wrapper.symm.trans (by decide +kernel)
        cases isString
        exact ⟨stringValue, _, rfl, rfl, rfl, rfl, by decide⟩
  have wanted : options.binaryMethods = true := by decide
  have made : (unit? request user).map (fun _ => true) = some true := by decide +kernel
  obtain ⟨unit, generated, -⟩ := exists_generated_of_unit? List.mem_cons_self rfl made
  obtain ⟨registry, built, agrees⟩ := types_agree_unless_wrapped_long proper generated wanted
  have shaped
      : (Registry.ofFiles options request.files
          >>= fun registry => Field.shapesOf registry options userMessage).toOption
        = some
          [
            {
              name := "visits"
              number := 0
              repeated := false
              inOneof := false
              kind := .wrapper (.ofUnit "Int64Value" "google/protobuf/wrappers") .int64
            },
            {
              name := "nick"
              number := 1
              repeated := false
              inOneof := false
              kind := .wrapper (.ofUnit "StringValue" "google/protobuf/wrappers") .string
            }
          ] := by
    decide +kernel
  obtain ⟨_, sameBuilt, classified⟩ := bind_eq_ok.mp (toOption_eq_some.mp shaped)
  cases Except.ok.inj (built.symm.trans sameBuilt)
  have named : ∀ declared ∈ user.declared, declared.IsNamed := by decide +kernel
  obtain ⟨nodes, walked⟩ := File.exists_nodes (.root user) options named
  have bare : nodes.map Node.bare = [Declared.node options ⟨["User"], .message userMessage⟩] :=
    (File.nodes_eq_ok_declared walked).2
  obtain ⟨node, rfl, same⟩ := List.map_eq_singleton_iff.mp bare
  have isMessage : IsMessage registry options user node userMessage _ :=
    ⟨⟨_, walked, List.mem_cons_self⟩, congrArg Node.definition same, classified⟩
  have identifier : node.identifier = "User" :=
    (congrArg Node.identifier same).trans (by decide +kernel)
  obtain ⟨properties, writes, reads, moves, each⟩ := agrees node userMessage _ isMessage
  rw [identifier] at moves
  have visits := each 0 _ rfl rfl
  have nick := each 1 _ rfl rfl
  have otherForm : options.longForm ≠ .number := by decide
  refine ⟨proper, wanted, unit, registry, properties, writes, reads, generated, built, moves, ?_,
    ?_⟩
  · obtain ⟨property, write, read, declared, written, isRead, stores, hands⟩ := visits
    exact ⟨property, write, read, declared, written, isRead,
      fun held => stores.mp held ⟨rfl, otherForm⟩, fun held => hands.mp held ⟨rfl, otherForm⟩⟩
  · obtain ⟨property, write, read, declared, written, isRead, stores, hands⟩ := nick
    exact ⟨property, write, read, declared, written, isRead, stores.mpr nofun, hands.mpr nofun⟩

end ProtobufTypeScript.Generation
