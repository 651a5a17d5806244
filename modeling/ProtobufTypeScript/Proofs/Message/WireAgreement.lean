import Mathlib.Data.List.Forall2
import Mathlib.Data.List.Nodup
import ProtobufTypeScript.Proofs.Message.Provenance
import ProtobufTypeScript.Proofs.Text.Numeral

/-!
The writer and the reader of a message agree on the wire. One description of each field, with its
tag, the way its values travel and whether they form a run, fits both the statement that `encode`
has for the field and the section that `decode` has for it.
-/

namespace ProtobufTypeScript.Message

open ProtobufTypeScript.Field Schema Target

-----------------------------------------------------------------------------------------
-- Tags
-----------------------------------------------------------------------------------------

/-- The numbers that fields may have on the wire: 29 bits, and not zero. -/
def IsFieldNumber (number : Int32) : Prop :=
  1 ≤ number.toInt ∧ number.toInt ≤ 536870911

/-- A field number fits beside the wire type: nothing is lost in a tag. The number takes
the upper bits and the wire type the three lower ones.
-/
theorem tag_toNat {number : Int32} (h : IsFieldNumber number) (wire : WireType)
    : (Schema.tag number wire).toNat = 8 * number.toInt.toNat + wire.code.toNat := by
  obtain ⟨positive, small⟩ := h
  have value : number.toUInt32.toNat = number.toInt.toNat := by
    rw [Int32.toNat_toUInt32_of_le (Int32.le_iff_toInt_le.mpr (by simpa using by omega))]
    rfl
  have code : wire.code.toNat < 2 ^ 3 := by cases wire <;> decide
  have shifted : (number.toUInt32 <<< 3).toNat = 2 ^ 3 * number.toInt.toNat := by
    rw [UInt32.toNat_shiftLeft, value]
    simp only [UInt32.reduceToNat, Nat.reduceMod, Nat.shiftLeft_eq]
    omega
  rw [Schema.tag, UInt32.toNat_or, shifted, ← Nat.two_pow_add_eq_or_of_lt code]

/-- Without the three bits of the wire type, a tag is the number of the field. -/
theorem tag_shiftRight {number : Int32} (h : IsFieldNumber number) (wire : WireType)
    : (((Schema.tag number wire).toNat >>> 3 : Nat) : Int) = number.toInt := by
  have code : wire.code.toNat < 8 := by cases wire <;> decide
  have positive := h.1
  rw [tag_toNat h, Nat.shiftRight_eq_div_pow]
  omega

/-- The three lowest bits of a tag are the wire type. -/
theorem tag_and_seven {number : Int32} (h : IsFieldNumber number) (wire : WireType)
    : (Schema.tag number wire).toNat &&& 7 = wire.code.toNat := by
  have code : wire.code.toNat < 8 := by cases wire <;> decide
  rw [tag_toNat h, Nat.and_two_pow_sub_one_eq_mod _ 3]
  omega

-----------------------------------------------------------------------------------------
-- The description of a field that both sides share
-----------------------------------------------------------------------------------------

/-- The framing of the values that a method of the reader consumes. -/
def methodFraming? : String → Option WireType
  | "int32" | "int64" | "uint32" | "uint64" | "sint32" | "sint64" | "bool" => some .varint
  | "fixed64" | "sfixed64" | "double" => some .fixed64
  | "fixed32" | "sfixed32" | "float" => some .fixed32
  | "string" | "bytes" => some .lengthDelimited
  | _ => none

/-- The framing of the values that travel in a given way. -/
def Transfer.framing? : Transfer → Option WireType
  | .method name => methodFraming? name
  | .nested _ => some .lengthDelimited

/-- How a field travels: under which tag, in which way each value, and whether as one run.
-/
structure FieldCode where
  field : String
  tag : Nat
  transfer : Transfer
  packed : Bool

namespace FieldCode

/-- What the writer does for the field. -/
def steps (code : FieldCode) : List WriteStep :=
  if code.packed then [.openRun code.tag, .bare code.transfer, .closeRun]
  else [.value code.tag code.transfer]

/-- The framing behind the tag of the field. -/
def framing? (code : FieldCode) : Option WireType :=
  if code.packed then some .lengthDelimited else code.transfer.framing?

/-- The wire type in the tag is that of the values behind it. -/
def Framed (code : FieldCode) : Prop :=
  code.framing?.map (fun wire => wire.code.toNat) = some (code.tag &&& 7)

end FieldCode

/-- A list holds a given member, once or more often, and nothing else. -/
def Only {α : Type} (members : List α) (member : α) : Prop :=
  members ≠ [] ∧ ∀ other ∈ members, other = member

/-- A statement writes one field in the described way, with values that the field holds,
and does nothing else with the writer or the message.
-/
structure Writes (statement : Stmt) (code : FieldCode) : Prop where
  uses : Only (usedFields statement) code.field
  tags : writtenTags statement = [code.tag]
  steps : writeSteps statement = code.steps
  values : WritesValuesOf statement code.field

/-- Statements read one field in the described way, and store what they read in no other
field.
-/
structure Takes (statements : List Stmt) (code : FieldCode) : Prop where
  stores : Only (storedFields statements) code.field
  transfers : Only (transfersOf statements) code.transfer
  values : StoresOnlyRead statements code.transfer
  runs : (Stmt.partsAll statements).any isRunBranch = code.packed

/-- A section of the switch over field numbers reads one field in the described way: it
stands under the number in the field's tag, and does not run on into the next section.
-/
def Reads (entry : Section) (code : FieldCode) : Prop :=
  ∃ statements,
    entry = .mk [.case (.number (code.tag >>> 3 : Nat))] (statements ++ [.leave])
    ∧ Takes statements code

/-- How a field of a given shape travels. -/
def fieldCode (shape : Shape) : FieldCode :=
  {
    field := shape.name
    tag := (if shape.isPacked then shape.packedTag else shape.tag).toNat
    transfer := transferOf shape.kind
    packed := shape.isPacked
  }

-----------------------------------------------------------------------------------------
-- The statement that writes a field
-----------------------------------------------------------------------------------------

theorem only_single {α : Type} (member : α) : Only [member] member :=
  ⟨List.cons_ne_nil _ _, fun _ h => List.mem_singleton.mp h⟩

theorem only_twice {α : Type} (member : α) : Only [member, member] member :=
  ⟨List.cons_ne_nil _ _, by simp⟩

/-- A list that holds one member only holds no other one only. -/
theorem only_iff {α : Type} {members : List α} {member other : α} (only : Only members member)
    : Only members other ↔ other = member := by
  constructor
  · rintro ⟨-, each⟩
    obtain ⟨found, inMembers⟩ := List.exists_mem_of_ne_nil members only.1
    exact (each found inMembers).symm.trans (only.2 found inMembers)
  · rintro rfl
    exact only

/-- A key made from the key of an object touches neither the writer nor the message. -/
theorem scalarFromKey_silent (options : Options) (key : Scalar)
    : tagsIn (scalarFromKey options key (.name "key")) = []
      ∧ fieldsIn (scalarFromKey options key (.name "key")) = [] := by
  cases key <;> rcases options with ⟨_, _, form, _, _, _⟩ <;> cases form <;> exact ⟨rfl, rfl⟩

/-- The condition of a single field is about that field alone. -/
theorem writeCondition_silent (options : Options) (shape : Shape)
    : tagsIn (writeCondition options shape) = []
      ∧ fieldsIn (writeCondition options shape) = [shape.name] := by
  rcases shape with ⟨name, number, repeated, inOneof, kind⟩
  rcases options with ⟨_, _, form, _, _, _⟩
  cases repeated <;> cases inOneof <;> cases kind with
  | scalar scalar => cases scalar <;> cases form <;> exact ⟨rfl, rfl⟩
  | _ => exact ⟨rfl, rfl⟩

/-- Writing one value of a field writes its tag and touches no other field. -/
theorem writeValue_place (kind : Kind) (tag : UInt32) (shape : Shape)
    : tagsIn (writeValue kind tag (place shape)) = [tag.toNat]
      ∧ fieldsIn (writeValue kind tag (place shape)) = [shape.name] := by
  cases kind <;> exact ⟨rfl, rfl⟩

theorem writeValue_element (kind : Kind) (tag : UInt32)
    : tagsIn (writeValue kind tag (.present (.name "v"))) = [tag.toNat]
      ∧ fieldsIn (writeValue kind tag (.present (.name "v"))) = [] := by
  cases kind <;> exact ⟨rfl, rfl⟩

/-- A value is written behind its tag in the way its kind travels. -/
theorem writeStep?_writeValue (kind : Kind) (tag : UInt32) (value : Expr)
    : writeStep? (.expression (writeValue kind tag value))
      = some (.value tag.toNat (transferOf kind)) := by
  cases kind <;> rfl

/-- A field that is not a run travels under its own tag. -/
theorem fieldCode_unpacked {shape : Shape} (h : shape.isPacked = false)
    : fieldCode shape
      = {
          field := shape.name
          tag := shape.tag.toNat
          transfer := transferOf shape.kind
          packed := false
        } := by
  simp only [fieldCode, h, Bool.false_eq_true, if_false]

/-- A statement that uses just one field and writes just one value behind its tag writes a
field that is not a run.
-/
theorem Writes.of_value {statement : Stmt} {shape : Shape} (unpacked : shape.isPacked = false)
    (uses : Only (usedFields statement) shape.name)
    (tags : writtenTags statement = [shape.tag.toNat])
    (steps : writeSteps statement = [.value shape.tag.toNat (transferOf shape.kind)])
    (values : WritesValuesOf statement shape.name)
    : Writes statement (fieldCode shape) := by
  rw [fieldCode_unpacked unpacked]
  exact { uses, tags, steps, values }

/-- A map is written entry by entry, each as a nested message. Witness: the one tag and
the one field in the loop, as keys are made from texts without either.
-/
theorem writeMap_writes (options : Options) {shape : Shape} {entry : Symbol} {key : Scalar}
    {value : Kind} (h : shape.kind = .map entry key value)
    : Writes (writeMap options shape entry key) (fieldCode shape) := by
  have unpacked : shape.isPacked = false := by
    simp [Shape.isPacked, Shape.isList, Shape.isMap, h, Kind.isMap]
  obtain ⟨untagged, unused⟩ := scalarFromKey_silent options key
  -- The key of an entry is made from a text, which writes no tag and uses no field.
  let content : Expr :=
    .object [.keyed "key" (scalarFromKey options key (.name "key")), .name "value"]
  have nestedTags : tagsIn (writeNested entry shape.tag content) = [shape.tag.toNat] := by
    simp only [content, tagsIn, writeNested, Expr.method, Expr.parts, Expr.partsAll,
      List.append_nil, List.cons_append, List.filterMap_cons, List.filterMap_append] at untagged ⊢
    rw [untagged]
    rfl
  have nestedFields : fieldsIn (writeNested entry shape.tag content) = [] := by
    simp only [content, fieldsIn, writeNested, Expr.method, Expr.parts, Expr.partsAll,
      List.append_nil, List.cons_append, List.filterMap_cons, List.filterMap_append] at unused ⊢
    rw [unused]
    rfl
  have used : usedFields (writeMap options shape entry key) = [shape.name] := by
    change shape.name :: (fieldsIn (writeNested entry shape.tag content) ++ []) = _
    rw [nestedFields]
    rfl
  refine Writes.of_value unpacked ?_ ?_ ?_ (writeMap_values options shape entry key)
  · rw [used]
    exact only_single _
  · change tagsIn (writeNested entry shape.tag content) ++ [] = _
    rw [nestedTags]
    rfl
  · rw [h]
    rfl

/-- A packable list is written as one run. -/
theorem writePacked_writes {shape : Shape} {method : String} (packed : shape.isPacked = true)
    (h : transferOf shape.kind = .method method)
    : Writes (writePacked shape method) (fieldCode shape) := by
  simp only [fieldCode, packed, if_true, h]
  exact {
    uses := only_twice shape.name
    tags := rfl
    steps := rfl
    values := writePacked_values shape method
  }

/-- Any other list is written value by value. Witness: the loop names the field, and its
body writes one tag with a value.
-/
theorem writeEach_writes {shape : Shape} (unpacked : shape.isPacked = false)
    : Writes (writeEach shape) (fieldCode shape) := by
  obtain ⟨valueTags, valueFields⟩ := writeValue_element shape.kind shape.tag
  have used : usedFields (writeEach shape) = [shape.name] := by
    change shape.name :: (fieldsIn _ ++ []) = _
    rw [valueFields]
    rfl
  refine Writes.of_value unpacked ?_ ?_ ?_ (writeEach_values shape)
  · rw [used]
    exact only_single _
  · change tagsIn _ ++ [] = _
    rw [valueTags]
    rfl
  · change List.filterMap writeStep? [_, _] = _
    rw [List.filterMap_cons_none rfl, List.filterMap_cons_some (writeStep?_writeValue _ _ _)]
    rfl

/-- A single value is written under a condition on its own field, which has no tag. The
field is used in the condition and in the value.
-/
theorem writeSingle_writes (options : Options) {shape : Shape} (unpacked : shape.isPacked = false)
    : Writes (writeSingle options shape) (fieldCode shape) := by
  obtain ⟨conditionTags, conditionFields⟩ := writeCondition_silent options shape
  obtain ⟨valueTags, valueFields⟩ := writeValue_place shape.kind shape.tag shape
  have used : usedFields (writeSingle options shape) = [shape.name, shape.name] := by
    change fieldsIn _ ++ (fieldsIn _ ++ []) = _
    rw [conditionFields, valueFields]
    rfl
  refine Writes.of_value unpacked ?_ ?_ ?_ (writeSingle_values options shape)
  · rw [used]
    exact only_twice _
  · change tagsIn _ ++ (tagsIn _ ++ []) = _
    rw [conditionTags, valueTags]
    rfl
  · change List.filterMap writeStep? [_, _] = _
    rw [List.filterMap_cons_none rfl, List.filterMap_cons_some (writeStep?_writeValue _ _ _)]
    rfl

/-- A method is chosen for a run just if the field is packed, and it is the way of its
kind.
-/
theorem packedMethod?_cases (shape : Shape)
    : (packedMethod? shape = none ∧ shape.isPacked = false)
      ∨ ∃ method,
          packedMethod? shape = some method
          ∧ shape.isPacked = true
          ∧ transferOf shape.kind = .method method := by
  rcases shape with ⟨name, number, repeated, inOneof, kind⟩
  cases repeated <;> cases kind with
  | scalar scalar => cases scalar <;> simp [packedMethod?, Shape.isPacked, Shape.isList,
      Shape.isMap, Kind.isMap, Kind.isPackable, Scalar.isPackable, Kind.wireMethod?, transferOf]
  | _ => simp [packedMethod?, Shape.isPacked, Shape.isList, Shape.isMap, Kind.isMap,
      Kind.isPackable, Kind.wireMethod?, transferOf]

/-- The statement for a field writes it as described. Maps, runs, other lists and single
values are the cases.
-/
theorem writeField_writes (options : Options) (shape : Shape)
    : Writes (writeField options shape) (fieldCode shape) := by
  have unpacked_of_single (h : shape.repeated = false) : shape.isPacked = false := by
    simp [Shape.isPacked, Shape.isList, h]
  unfold writeField
  split
  case h_1 entry key value h => exact writeMap_writes options h
  case h_2 =>
    split
    case isTrue repeated =>
      rcases packedMethod?_cases shape with ⟨none, unpacked⟩ | ⟨method, some, packed, transfer⟩
      · rw [none]
        exact writeEach_writes unpacked
      · rw [some]
        exact writePacked_writes packed transfer
    case isFalse single =>
      exact writeSingle_writes options (unpacked_of_single (by simpa using single))

-----------------------------------------------------------------------------------------
-- The section that reads a field
-----------------------------------------------------------------------------------------

/-- Reading a value consumes it in the way its kind travels, and is not the length of a
run.
-/
theorem readValue_transfers (options : Options) (kind : Kind)
    : transfersIn (readValue options kind) = [transferOf kind]
      ∧ isRunEnd (readValue options kind) = false := by
  rcases options with ⟨_, _, form, _, json, _⟩
  cases kind with
  | scalar scalar => cases scalar <;> cases form <;> exact ⟨rfl, rfl⟩
  | enumeration symbol => cases json <;> exact ⟨rfl, rfl⟩
  | _ => exact ⟨rfl, rfl⟩

/-- A call with one argument that is no reader's call reads what its parts read. -/
theorem transfersIn_call_single (callee value : Expr)
    : transfersIn (.call callee [value]) = transfersIn callee ++ transfersIn value := by
  have none : transferOf? [value] callee = none := by
    unfold transferOf?
    split <;> simp_all
  simp only [transfersIn, none, transfersInAll, List.append_nil]

/-- Pushing a value of a kind reads that one value. -/
theorem transfersOf_pushValue (options : Options) (shape : Shape)
    : transfersOf [pushValue options shape] = [transferOf shape.kind] := by
  change (transfersIn (.call (.member (place shape) "push") [_]) ++ []) ++ [] = _
  rw [transfersIn_call_single, (readValue_transfers options shape.kind).1]
  rfl

/-- Assigning a value of a kind reads that one value. The place of the field reads
nothing, and neither is the end of a run.
-/
theorem transfersOf_assign (options : Options) (shape : Shape)
    : transfersOf [.assign (place shape) (readValue options shape.kind)]
      = [transferOf shape.kind] := by
  obtain ⟨transfers, notEnd⟩ := readValue_transfers options shape.kind
  have kept : [place shape, readValue options shape.kind].filter (fun value => !isRunEnd value)
      = [place shape, readValue options shape.kind] := by
    rw [List.filter_cons_of_pos rfl, List.filter_cons_of_pos (by rw [notEnd]; rfl), List.filter_nil]
  change List.flatMap transfersIn
    ([place shape, readValue options shape.kind].filter (fun value => !isRunEnd value)) ++ [] = _
  rw [kept]
  change [] ++ (transfersIn (readValue options shape.kind) ++ []) ++ [] = _
  rw [transfers]
  rfl

/-- A branch for runs reads what is read in the loop, and what is read beside it. -/
theorem transfersOf_readPacked (append : Stmt)
    : transfersOf [readPacked append] = transfersOf [append] ++ transfersOf [append] := by
  simp only [transfersOf, readPacked, Stmt.either, Stmt.partsAll, Stmt.parts, Otherwise.parts,
    List.append_nil, List.cons_append, List.nil_append, List.flatMap_cons, List.flatMap_append]
  rfl

/-- A map is read entry by entry, each as a nested message. No map is packed, so that
there is no run to be read.
-/
theorem readEntry_takes {shape : Shape} {entry : Symbol} {key : Scalar} {value : Kind}
    (h : shape.kind = .map entry key value)
    : Takes (readEntry shape entry) (fieldCode shape) := by
  have unpacked : shape.isPacked = false := by
    simp [Shape.isPacked, Shape.isList, Shape.isMap, h, Kind.isMap]
  rw [fieldCode_unpacked unpacked, h]
  exact {
    stores := only_single shape.name
    transfers := only_single _
    values := readEntry_stores shape entry
    runs := rfl
  }

/-- The statements for a field read it as described. Maps, packed lists, other lists and
single values are the cases.
-/
theorem readField_takes (options : Options) (shape : Shape)
    : Takes (readField options shape) (fieldCode shape) := by
  unfold readField
  split
  case h_1 entry key value h => exact readEntry_takes h
  case h_2 =>
    split
    case isTrue packed =>
      refine {
        stores := only_twice shape.name
        transfers := ?_
        values := readPacked_stores options shape
        runs := packed.symm
      }
      change Only (transfersOf [readPacked (pushValue options shape)]) (transferOf shape.kind)
      rw [transfersOf_readPacked, transfersOf_pushValue]
      exact only_twice _
    case isFalse unpacked =>
      rw [Bool.not_eq_true] at unpacked
      split
      case isTrue repeated =>
        refine {
          stores := only_single shape.name
          transfers := ?_
          values := pushValue_stores options shape
          runs := unpacked.symm
        }
        change Only (transfersOf [pushValue options shape]) (transferOf shape.kind)
        rw [transfersOf_pushValue]
        exact only_single _
      case isFalse single =>
        refine {
          stores := only_single shape.name
          transfers := ?_
          values := assignValue_stores options shape
          runs := unpacked.symm
        }
        change Only (transfersOf [.assign _ _]) (transferOf shape.kind)
        rw [transfersOf_assign]
        exact only_single _

/-- What is left of a field's tag without the wire type is the field's number. -/
theorem fieldCode_number {shape : Shape} (number : IsFieldNumber shape.number)
    : (((fieldCode shape).tag >>> 3 : Nat) : Int) = shape.number.toInt := by
  unfold fieldCode
  split
  · exact tag_shiftRight number .lengthDelimited
  · exact tag_shiftRight number shape.kind.wireType

/-- The section for a field reads it as described. -/
theorem readSection_reads (options : Options) {shape : Shape}
    (number : IsFieldNumber shape.number)
    : Reads (readSection options shape) (fieldCode shape) := by
  refine ⟨readField options shape, ?_, readField_takes options shape⟩
  rw [fieldCode_number number]
  rfl

-----------------------------------------------------------------------------------------
-- Whole messages
-----------------------------------------------------------------------------------------

/-- The way a kind travels has the wire type of the kind. -/
theorem framing?_transferOf (kind : Kind) : (transferOf kind).framing? = some kind.wireType := by
  cases kind with
  | scalar scalar => cases scalar <;> rfl
  | _ => rfl

/-- The tag of a field tells the framing of what is written behind it. -/
theorem fieldCode_framed {shape : Shape} (number : IsFieldNumber shape.number)
    : (fieldCode shape).Framed := by
  unfold FieldCode.Framed FieldCode.framing? fieldCode
  cases packed : shape.isPacked with
  | true => simp [Shape.packedTag, tag_and_seven number]
  | false => simp [framing?_transferOf, Shape.tag, tag_and_seven number]

/-- What reads a field has no switch of its own. -/
theorem switchesIn_readField (options : Options) (shape : Shape)
    : switchesIn (readField options shape) = [] := by
  unfold readField
  split
  · rfl
  · split
    · rfl
    · split <;> rfl

theorem switchesIn_append (left right : List Stmt)
    : switchesIn (left ++ right) = switchesIn left ++ switchesIn right := by
  simp only [switchesIn, Stmt.partsAll_eq_flatMap, List.flatMap_append, List.filterMap_append]

/-- What makes a new message has no switch. Induction on the repeated fields. -/
theorem switchesIn_seed (name : String) (shapes : List Shape)
    : switchesIn (seed name shapes) = [] := by
  have seeded (fields : List Shape) : switchesIn (fields.map seedField) = [] := by
    induction fields with
    | nil => rfl
    | cons shape rest ih => exact ih
  exact seeded _

/-- The only switch of `decode` is the one over field numbers. -/
theorem switchesIn_decodeBody (options : Options) (name : String) (shapes : List Shape)
    : switchesIn (decodeBody options name shapes)
      = [
          (
            .binary .shiftRight (.name "tag") (.number 3),
            shapes.map (readSection options) ++ [skipSection]
          )
        ] := by
  -- No section holds a switch of its own, so that the one over field numbers is the only one.
  have inner
      : (Section.partsAll (shapes.map (readSection options) ++ [skipSection])).filterMap switch?
        = [] := by
    have none (shape : Shape)
        : (Stmt.partsAll (readField options shape ++ [.leave])).filterMap switch? = [] := by
      have field := switchesIn_readField options shape
      have both := switchesIn_append (readField options shape) [.leave]
      rw [field] at both
      exact both
    rw [Section.partsAll_append, List.filterMap_append]
    change List.filterMap switch? (Section.partsAll (shapes.map fun shape =>
      .mk [.case (.number shape.number.toInt)] (readField options shape ++ [.leave]))) ++ [] = []
    rw [Section.partsAll_map_mk, List.append_nil, List.filterMap_flatMap]
    exact List.flatMap_eq_nil_iff.mpr (fun shape _ => none shape)
  unfold decodeBody
  rw [switchesIn_append, switchesIn_append, switchesIn_seed]
  simp only [switchesIn, Stmt.partsAll, Stmt.parts, List.append_nil, List.nil_append,
    List.cons_append, List.filterMap_append, List.filterMap_cons, switch?, inner,
    List.filterMap_nil]

theorem isMap_eq_false {shape : Shape}
    (notMap : ∀ entry key value, shape.kind = .map entry key value → False)
    : shape.isMap = false := by
  unfold Shape.isMap Kind.isMap
  split
  case h_1 entry key value h => exact (notMap entry key value h).elim
  case h_2 => rfl

/-- The constants that the section for a field declares: one for a map, named by its
number, and none for any other field.
-/
theorem declared_readSection (options : Options) (shape : Shape)
    : (readSection options shape).body.filterMap declaredConst?
      = if shape.isMap then [entryName shape] else [] := by
  unfold readSection readField
  split
  case h_1 entry key value h =>
    rw [if_pos (by simp [Shape.isMap, h, Kind.isMap])]
    rfl
  case h_2 notMap =>
    rw [isMap_eq_false notMap, if_neg Bool.false_ne_true]
    split
    · rfl
    · split <;> rfl

/-- A constant that the section for a field declares is the one named by its number. -/
theorem eq_entryName_of_declared {options : Options} {shape : Shape} {constant : String}
    (declared : constant ∈ (readSection options shape).body.filterMap declaredConst?)
    : constant = entryName shape := by
  rw [declared_readSection] at declared
  split at declared
  · exact List.mem_singleton.mp declared
  · cases declared

/-- Constants for entries that have the same name belong to the same number, since numbers
are read back from texts.
-/
theorem entryName_injective {left right : Shape} (hl : IsFieldNumber left.number)
    (hr : IsFieldNumber right.number) (h : entryName left = entryName right)
    : left.number = right.number := by
  have leftPositive := hl.1
  have rightPositive := hr.1
  unfold entryName at h
  rw [String.append_right_inj, Text.toString_int_of_nonneg (by omega),
    Text.toString_int_of_nonneg (by omega)] at h
  have same := Text.toString_nat_injective h
  exact Int32.toInt_inj.mp (by omega)

/-- The codec of a message agrees with itself: every field has one description, in order,
that tells how `encode` writes it and how `decode` reads it. Numbers tell the sections
apart, and no two of the constants in the switch share a name.
-/
structure WireAgreement (options : Options) (name : String) (shapes : List Shape)
    (codes : List FieldCode) (writes : List Stmt) (reads : List Section)
    : Prop where
  fields : codes.map FieldCode.field = shapes.map Shape.name
  framed : ∀ code ∈ codes, code.Framed
  numbered : (codes.map (fun code => code.tag >>> 3)).Nodup
  encode
    : (encode options name shapes).body.lines = Stmt.codeAll (writes ++ [.result (.name "writer")])
  written : List.Forall₂ Writes writes codes
  decode
    : ∃ statements,
        (decode options name shapes).body.lines = Stmt.codeAll statements
        ∧ switchesIn statements
          = [(.binary .shiftRight (.name "tag") (.number 3), reads ++ [skipSection])]
  read : List.Forall₂ Reads reads codes
  constants : (reads.flatMap (fun entry => entry.body.filterMap declaredConst?)).Nodup

/-- Different numbers stay different in tags. -/
theorem fieldCode_numbered {shapes : List Shape}
    (numbers : ∀ shape ∈ shapes, IsFieldNumber shape.number)
    (distinct : (shapes.map Shape.number).Nodup)
    : ((shapes.map fieldCode).map (fun code => code.tag >>> 3)).Nodup := by
  rw [List.map_map, List.Nodup, List.pairwise_map]
  refine (List.pairwise_map.mp distinct).imp_of_mem ?_
  intro left right hl hr different same
  refine different (Int32.toInt_inj.mp ?_)
  rw [← fieldCode_number (numbers left hl), ← fieldCode_number (numbers right hr)]
  exact congrArg Int.ofNat same

/-- The constants in the switch have different names, as the numbers of the fields are
different and a name is told by its number.
-/
theorem declared_readSection_nodup (options : Options) {shapes : List Shape}
    (numbers : ∀ shape ∈ shapes, IsFieldNumber shape.number)
    (distinct : (shapes.map Shape.number).Nodup)
    : ((shapes.map (readSection options)).flatMap
        (fun entry => entry.body.filterMap declaredConst?)).Nodup := by
  rw [List.flatMap_map, List.nodup_flatMap]
  refine ⟨?_, (List.pairwise_map.mp distinct).imp_of_mem ?_⟩
  · intro shape _
    rw [declared_readSection]
    split <;> simp
  · intro left right hl hr different constant inLeft inRight
    have same : entryName left = entryName right :=
      (eq_entryName_of_declared inLeft).symm.trans (eq_entryName_of_declared inRight)
    exact different (entryName_injective (numbers left hl) (numbers right hr) same)

/-- What `decode` reads is what `encode` writes, for fields with proper and different
numbers. Witness: a code for each field, which both its statement and its section follow.
-/
theorem decode_reads_what_encode_writes (options : Options) (name : String) (shapes : List Shape)
    (numbers : ∀ shape ∈ shapes, IsFieldNumber shape.number)
    (distinct : (shapes.map Shape.number).Nodup)
    : ∃ codes writes reads, WireAgreement options name shapes codes writes reads := by
  refine ⟨
    shapes.map fieldCode,
    shapes.map (writeField options),
    shapes.map (readSection options),
    ?_
  ⟩
  exact {
    fields := by
      rw [List.map_map]
      rfl
    framed := by
      intro code member
      obtain ⟨shape, found, rfl⟩ := List.mem_map.mp member
      exact fieldCode_framed (numbers shape found)
    numbered := fieldCode_numbered numbers distinct
    encode := rfl
    written := by
      rw [List.forall₂_map_left_iff, List.forall₂_map_right_iff]
      exact List.forall₂_same.mpr (fun shape _ => writeField_writes options shape)
    decode := ⟨decodeBody options name shapes, rfl, switchesIn_decodeBody options name shapes⟩
    read := by
      rw [List.forall₂_map_left_iff, List.forall₂_map_right_iff]
      exact List.forall₂_same.mpr
        (fun shape found => readSection_reads options (numbers shape found))
    constants := declared_readSection_nodup options numbers distinct
  }

/-- Lists, maps and members of a oneof side by side, up to the highest number. -/
theorem decode_reads_what_encode_writes_mixed
    : let shapes : List Shape :=
        [
          {
            name := "ids"
            number := 536870911
            repeated := true
            inOneof := false
            kind := .scalar .sint64
          },
          {
            name := "byId"
            number := 7
            repeated := true
            inOneof := false
            kind := .map (.ofUnit "ByIdEntry" "a") .uint64 (.message (.ofUnit "Item" "b"))
          },
          {
            name := "at"
            number := 1
            repeated := false
            inOneof := true
            kind := .timestamp (.ofUnit "Timestamp" "google/protobuf/timestamp")
          }
        ]
      (∀ shape ∈ shapes, IsFieldNumber shape.number)
      ∧ (shapes.map Shape.number).Nodup
      ∧ ∃ codes writes reads,
          WireAgreement { longForm := .long } "Foo" shapes codes writes reads := by
  intro shapes
  have numbers : ∀ shape ∈ shapes, IsFieldNumber shape.number := by
    unfold IsFieldNumber
    decide
  have distinct : (shapes.map Shape.number).Nodup := by decide
  exact ⟨
    numbers,
    distinct,
    decode_reads_what_encode_writes { longForm := .long } "Foo" shapes numbers distinct
  ⟩

end ProtobufTypeScript.Message
