import ProtobufTypeScript.Message.Codec
import ProtobufTypeScript.Message.Interface
import ProtobufTypeScript.Proofs.Field.Usage
import ProtobufTypeScript.Proofs.Message.FromObject
import ProtobufTypeScript.Proofs.Target.DeclarationUsage
import ProtobufTypeScript.Proofs.Target.Vocabulary

/-!
The use of symbols in message code. The functions of a codec call methods of other codecs only if
the run generates them.
-/

namespace ProtobufTypeScript.Target.Usage

open ProtobufTypeScript.Field ProtobufTypeScript.Message Schema

variable {usage : Usage} {options : Options} {name : String} {shape : Shape}
  {shapes : List Shape}

attribute [local simp] Admits AdmitsAll AdmitsStmt AdmitsStmts AdmitsOtherwise AdmitsType
  AdmitsTypes isClosed Expr.method Expr.field Expr.undefined writeTag readWith

-----------------------------------------------------------------------------------------
-- Base instance and interface
-----------------------------------------------------------------------------------------

@[simp] theorem isClosed_place
    : isClosed (place shape) = true :=
  rfl

@[simp] theorem admits_place
    : usage.Admits (place shape) := by
  simp [place]

/-- What makes a new message calls nothing. -/
theorem admits_seed
    : usage.AdmitsStmts (seed name shapes) := by
  refine ⟨by simp, admitsStmts_iff.mpr (List.forall_mem_map.mpr (fun shape _ => ?_))⟩
  unfold seedField
  split <;> simp

/-- The base instance of a message refers to the symbol for 64-bit integers at most. -/
theorem allowsLines_baseInstance
    : usage.AllowsLines (baseInstance options name shapes).code :=
  allowsLines_values trivial (List.forall_mem_map.mpr (fun _ _ => admits_shapeDefault))

/-- The interface of a message mentions the types of its fields and calls nothing. -/
theorem allowsLines_messageInterface {cursor : Cursor}
    (each : ∀ shape ∈ shapes, usage.AllowsKind options shape.kind)
    : usage.AllowsLines (Message.interface options name shapes cursor).code := by
  refine allowsLines_interface ?_ nofun
  refine List.forall_mem_map.mpr (fun entry member => ?_)
  exact admits_shapeType (each entry.1 (List.fst_mem_of_mem_zipIdx member))

-----------------------------------------------------------------------------------------
-- Writing a message
-----------------------------------------------------------------------------------------

/-- Writing a nested message calls `encode` of its message, which has to be offered. -/
@[simp] theorem admits_writeNested {symbol : Symbol} {tag : UInt32} {value : Expr}
    : usage.Admits (writeNested symbol tag value)
      ↔ usage.Grants symbol "encode" ∧ usage.Admits value := by
  simp [writeNested]

/-- Writing a value is allowed where binary methods are wanted, since then the messages
that it may hold offer `encode`.
-/
theorem admits_writeValue {kind : Kind} (wanted : options.binaryMethods = true)
    (allowed : usage.AllowsKind options kind) (tag : UInt32) {value : Expr}
    (admitted : usage.Admits value)
    : usage.Admits (writeValue kind tag value) := by
  cases kind with
  | scalar type => simp [writeValue, admitted]
  | enumeration symbol => simp [writeValue, admitted]
  | message symbol => simp [writeValue, admitted, allowed.encode wanted]
  | wrapper symbol value => simp [writeValue, admitted, allowed.encode wanted]
  | timestamp symbol => simp [writeValue, admitted, allowed.1.encode wanted]
  | map entry key value => simp [writeValue, admitted, allowed.1.encode wanted]

/-- The condition under which a field is written calls nothing. -/
theorem admits_writeCondition
    : usage.Admits (writeCondition options shape) := by
  unfold writeCondition
  cases found : shape.differsFromDefault? options (place shape) with
  | none => simp
  | some condition =>
      exact admits_differsFromDefault isClosed_place admits_place condition found

/-- Writing a field is allowed where binary methods are wanted. Maps, runs, lists and
single values are the cases.
-/
theorem admits_writeField (wanted : options.binaryMethods = true)
    (allowed : usage.AllowsKind options shape.kind)
    : usage.AdmitsStmt (writeField options shape) := by
  have element : usage.Admits (writeValue shape.kind shape.tag (.present (.name "v"))) :=
    admits_writeValue wanted allowed shape.tag (by simp)
  have single : usage.Admits (writeValue shape.kind shape.tag (place shape)) :=
    admits_writeValue wanted allowed shape.tag (by simp)
  unfold writeField
  split
  · rename_i entry key value found
    rw [found] at allowed
    have converted : usage.Admits (scalarFromKey options key (.name "key")) :=
      admits_scalarFromKey (by simp)
    simp [writeMap, converted, allowed.1.encode wanted]
  · split
    · split
      · simp [writePacked, Stmt.when]
      · simp [writeEach, element]
    · simp [writeSingle, Stmt.when, single, admits_writeCondition]

/-- The function that writes a message is allowed where binary methods are wanted. -/
theorem allowsFunction_encode (wanted : options.binaryMethods = true)
    (each : ∀ shape ∈ shapes, usage.AllowsKind options shape.kind)
    : usage.AllowsFunction (encode options name shapes) where
  params := by
    have created : usage.AllowsLines (Block.line
        (Expr.method (.symbol Library.writer) "create" []).snippet) :=
      allowsLines_line (allows_expr _ (by simp)).1
    simpa [encode, allowsParam_iff] using created
  returns := by simp [encode]
  body :=
    allowsLines_stmts _ (admitsStmts_iff.mpr (List.forall_mem_append.mpr
      ⟨List.forall_mem_map.mpr (fun shape member => admits_writeField wanted (each shape member)),
        by simp⟩))

-----------------------------------------------------------------------------------------
-- Reading a message
-----------------------------------------------------------------------------------------

/-- Reading a nested message calls `decode` of its message, which has to be offered. -/
@[simp] theorem admits_readNested {symbol : Symbol}
    : usage.Admits (readNested symbol) ↔ usage.Grants symbol "decode" := by
  simp [readNested]

@[simp] theorem isClosed_readNested {symbol : Symbol}
    : isClosed (readNested symbol) = true :=
  rfl

theorem admits_readLong {scalar : Scalar}
    : usage.Admits (readLong options scalar) := by
  unfold readLong
  split <;> simp

/-- Reading a value is allowed where binary methods are wanted. Enums are made with
`fromJSON` only where JSON methods are wanted.
-/
theorem admits_readValue {kind : Kind} (wanted : options.binaryMethods = true)
    (allowed : usage.AllowsKind options kind)
    : usage.Admits (readValue options kind) := by
  cases kind with
  | scalar scalar =>
      rw [readValue]
      split
      · exact admits_readLong
      · simp
  | enumeration symbol =>
      rw [readValue]
      split
      · rename_i json
        simp [allowed.fromJson json]
      · simp
  | message symbol => simp [readValue, allowed.decode wanted]
  | wrapper symbol value => simp [readValue, allowed.decode wanted]
  | timestamp symbol => simp [readValue, allowed.1.decode wanted]
  | map entry key value => simp [readValue, allowed.1.decode wanted]

/-- Reading a field is allowed where binary methods are wanted. Maps, packed runs, lists
and single values are the cases.
-/
theorem admits_readField (wanted : options.binaryMethods = true)
    (allowed : usage.AllowsKind options shape.kind)
    : usage.AdmitsStmts (readField options shape) := by
  have value := admits_readValue wanted allowed
  unfold readField
  split
  · rename_i entry key element found
    rw [found] at allowed
    simp [readEntry, Stmt.when, allowed.1.decode wanted]
  · split
    · simp [readPacked, Stmt.either, wireTypeRead, position, value]
    · split <;> simp [value]

/-- The function that reads a message is allowed where binary methods are wanted: each
section of its switch reads a field, and the last one skips.
-/
theorem allowsFunction_decode (wanted : options.binaryMethods = true)
    (each : ∀ shape ∈ shapes, usage.AllowsKind options shape.kind)
    : usage.AllowsFunction (decode options name shapes) where
  params := by simp [decode, allowsParam_iff]
  returns := by simp [decode]
  body := by
    refine allowsLines_stmts _ ?_
    have sections
        : usage.AdmitsSections (shapes.map (readSection options) ++ [skipSection]) := by
      refine admitsSections_iff.mpr (List.forall_mem_append.mpr ⟨?_, ?_⟩)
      · refine List.forall_mem_map.mpr (fun shape member => ⟨?_, ?_⟩)
        · simp [readSection, Section.labels]
        · have field := admits_readField wanted (each shape member)
          rw [admitsStmts_iff] at field ⊢
          exact List.forall_mem_append.mpr ⟨field, by simp⟩
      · simp [skipSection, Section.labels, Section.body, wireTypeRead]
    rw [decodeBody, admitsStmts_iff, List.forall_mem_append, List.forall_mem_append]
    refine ⟨⟨?_, admitsStmts_iff.mp admits_seed⟩, ?_⟩
    · simp [position]
    · simp [position, sections]

-----------------------------------------------------------------------------------------
-- Making a message from an object
-----------------------------------------------------------------------------------------

/-- Whether a conversion uses the symbols of a kind in ways that are allowed. -/
def AllowsConversion (usage : Usage) (conversion : Conversion) (kind : Kind) : Prop :=
  ∀ value, usage.Admits value → usage.Admits (conversion.value kind value)

/-- Whether a conversion is allowed for the values that a field holds: those of its map,
if it is one.
-/
def AllowsTaking (usage : Usage) (conversion : Conversion) : Kind → Prop
  | .map _ _ value => usage.AllowsConversion conversion value
  | kind => usage.AllowsConversion conversion kind

@[simp] theorem admits_source
    : usage.Admits (source shape) := by
  simp [source]

/-- Taking over a map is allowed if the conversion of its values is. -/
theorem admits_takeMap {conversion : Conversion} {key : Scalar} {value : Kind}
    (allowed : usage.AllowsConversion conversion value)
    : usage.AdmitsStmt (takeMap options conversion shape key value) := by
  have converted := allowed (.name "value") (by simp)
  have stored : usage.Admits (mapKey options key) := by
    unfold mapKey
    split <;> simp
  unfold takeMap
  split <;> simp [Stmt.when, converted, stored]

/-- Taking over a value that is given is allowed if its conversion is, as it is used on
plain values only. Maps are one case, and all other kinds the other.
-/
theorem admits_takeGiven {conversion : Conversion}
    (allowed : usage.AllowsTaking conversion shape.kind)
    : usage.AdmitsStmt (takeGiven options conversion shape) := by
  unfold takeGiven
  cases found : shape.kind with
  | map entry key value =>
      rw [found] at allowed
      exact admits_takeMap allowed
  | _ =>
      rw [found] at allowed
      have element := allowed (.name "e") (by simp)
      have single := allowed (source shape) (by simp)
      dsimp only
      split <;> simp [element, single]

/-- Taking over a field, or its default, is allowed if the conversion of its values is. -/
theorem admits_takeField {conversion : Conversion}
    (allowed : usage.AllowsTaking conversion shape.kind)
    : usage.AdmitsStmt (takeField options conversion shape) := by
  have given : usage.Admits (isGiven shape) := by simp [isGiven]
  have missing : usage.Admits (missingValue options shape) := by
    unfold missingValue
    split <;> simp
  unfold takeField
  split <;> simp [given, missing, admits_takeGiven allowed]

/-- Making a message from an object is allowed if the conversion of its values is. -/
theorem admits_fromObjectBody {conversion : Conversion}
    (each : ∀ shape ∈ shapes, usage.AllowsTaking conversion shape.kind)
    : usage.AdmitsStmts (fromObjectBody options conversion name shapes) := by
  rw [fromObjectBody, admitsStmts_iff, List.forall_mem_append, List.forall_mem_append]
  refine ⟨⟨admitsStmts_iff.mp admits_seed, ?_⟩, by simp⟩
  exact List.forall_mem_map.mpr (fun shape member => admits_takeField (each shape member))

/-- The conversion of JSON values calls `fromJSON` of messages and enums, which is offered
where JSON methods are wanted.
-/
theorem allowsConversion_json {kind : Kind} (wanted : options.jsonMethods = true)
    (allowed : usage.AllowsKind options kind)
    : usage.AllowsConversion (jsonConversion options) kind := by
  intro value admitted
  cases kind with
  | scalar type => exact admits_scalarFromJson admitted
  | enumeration symbol => simp [jsonConversion, valueFromJson, admitted, allowed.fromJson wanted]
  | message symbol => simp [jsonConversion, valueFromJson, admitted, allowed.fromJson wanted]
  | wrapper symbol scalar => exact admits_wrappedFromJson admitted
  | timestamp symbol => simp [jsonConversion, valueFromJson, admitted, allowed.2 wanted]
  | map entry key value =>
      simp [jsonConversion, valueFromJson, admitted, allowed.1.fromJson wanted]

/-- The conversion of partial values calls `fromPartial` of messages, which is offered
where JSON methods are wanted.
-/
theorem allowsConversion_partial {kind : Kind} (wanted : options.jsonMethods = true)
    (allowed : usage.AllowsKind options kind)
    : usage.AllowsConversion (partialConversion options) kind := by
  intro value admitted
  cases kind with
  | scalar type =>
      unfold partialConversion valueFromPartial
      dsimp only
      split <;> simp [admitted]
  | enumeration symbol => exact admitted
  | message symbol =>
      simp [partialConversion, valueFromPartial, admitted, allowed.fromPartial wanted]
  | wrapper symbol scalar => exact admitted
  | timestamp symbol => exact admitted
  | map entry key value =>
      simp [partialConversion, valueFromPartial, admitted, allowed.1.fromPartial wanted]

/-- A conversion that is allowed for every kind that is allowed is allowed for what fields
hold.
-/
theorem AllowsTaking.of_kinds {conversion : Conversion}
    (converts : ∀ kind, usage.AllowsKind options kind → usage.AllowsConversion conversion kind)
    {kind : Kind} (allowed : usage.AllowsKind options kind)
    : usage.AllowsTaking conversion kind := by
  cases kind with
  | map entry key value => exact converts value allowed.2
  | _ => exact converts _ allowed

/-- The function that makes a message from JSON is allowed where JSON methods are wanted.
-/
theorem allowsFunction_fromJson (wanted : options.jsonMethods = true)
    (each : ∀ shape ∈ shapes, usage.AllowsKind options shape.kind)
    : usage.AllowsFunction (fromJson options name shapes) where
  params := by simp [fromJson, allowsParam_iff]
  returns := by simp [fromJson]
  body := by
    rw [lines_fromJson]
    exact allowsLines_stmts _ (admits_fromObjectBody (fun shape member =>
      .of_kinds (fun _ => allowsConversion_json wanted) (each shape member)))

/-- The function that makes a message from a partial one is allowed where JSON methods are
wanted.
-/
theorem allowsFunction_fromPartial (wanted : options.jsonMethods = true)
    (each : ∀ shape ∈ shapes, usage.AllowsKind options shape.kind)
    : usage.AllowsFunction (fromPartial options name shapes) where
  params := by simp [fromPartial, allowsParam_iff]
  returns := by simp [fromPartial]
  body := by
    rw [lines_fromPartial]
    exact allowsLines_stmts _ (admits_fromObjectBody (fun shape member =>
      .of_kinds (fun _ => allowsConversion_partial wanted) (each shape member)))

-----------------------------------------------------------------------------------------
-- Making a JSON value from a message
-----------------------------------------------------------------------------------------

/-- Giving out a scalar is allowed if the expression for it is. -/
theorem admits_scalarToJson {presence : Presence} {scalar : Scalar} {value : Expr}
    (closed : isClosed value = true) (admitted : usage.Admits value)
    : usage.Admits (scalarToJson options presence scalar value) := by
  unfold scalarToJson
  dsimp only
  split <;> simp [decimalString, valueIf, isDefined, closed, admitted]

/-- Giving out a value calls `toJSON` of messages and enums, which is offered where JSON
methods are wanted.
-/
theorem admits_valueToJson {presence : Presence} {kind : Kind} {value : Expr}
    (wanted : options.jsonMethods = true) (allowed : usage.AllowsKind options kind)
    (closed : isClosed value = true) (admitted : usage.Admits value)
    : usage.Admits (valueToJson options presence kind value) := by
  cases kind with
  | scalar scalar => exact admits_scalarToJson closed admitted
  | enumeration symbol =>
      unfold valueToJson
      dsimp only
      split <;> simp [valueIf, isDefined, admitted, allowed.toJson wanted]
  | message symbol => simp [valueToJson, valueIf, admitted, allowed.toJson wanted]
  | wrapper symbol scalar => exact admitted
  | timestamp symbol => simp [valueToJson, isDefined, closed, admitted]
  | map entry key value => simp [valueToJson, valueIf, admitted, allowed.1.toJson wanted]

/-- Giving out a field is allowed where JSON methods are wanted. Maps, lists and single
values are the cases.
-/
theorem admits_giveField (wanted : options.jsonMethods = true)
    (allowed : usage.AllowsKind options shape.kind)
    : usage.AdmitsStmts (giveField options shape) := by
  unfold giveField
  cases found : shape.kind with
  | map entry key value =>
      rw [found] at allowed
      have given
          : usage.Admits (valueToJson options .element value (.name "v")) :=
        admits_valueToJson wanted allowed.2 rfl (by simp)
      simp [giveMap, output, Stmt.when, given]
  | _ =>
      have element : usage.Admits (valueToJson options .element shape.kind (.name "e")) :=
        admits_valueToJson wanted allowed rfl (by simp)
      have single
          : usage.Admits (valueToJson options (presenceOf shape) shape.kind (place shape)) :=
        admits_valueToJson wanted allowed isClosed_place admits_place
      rw [found] at element single
      dsimp only
      split <;> simp [giveList, output, Stmt.either, found, element, single]

/-- The function that gives out a message is allowed where JSON methods are wanted: it
gives out one field after the other.
-/
theorem allowsFunction_toJson (wanted : options.jsonMethods = true)
    (each : ∀ shape ∈ shapes, usage.AllowsKind options shape.kind)
    : usage.AllowsFunction (toJson options name shapes) where
  params := by simp [toJson, allowsParam_iff]
  returns := by simp [toJson]
  body := by
    refine allowsLines_stmts _ ?_
    rw [toJsonBody, admitsStmts_iff, List.forall_mem_append, List.forall_mem_cons]
    refine ⟨⟨by simp, ?_⟩, by simp⟩
    intro statement member
    obtain ⟨shape, inShapes, given⟩ := List.mem_flatMap.mp member
    exact admitsStmts_iff.mp (admits_giveField wanted (each shape inShapes)) statement given

-----------------------------------------------------------------------------------------
-- Codecs
-----------------------------------------------------------------------------------------

/-- A codec calls only the methods that the run generates: it has the functions that are
wanted, and each of them calls functions of its own kind.
-/
theorem allowsLines_codec (each : ∀ shape ∈ shapes, usage.AllowsKind options shape.kind)
    : usage.AllowsLines (codec options name shapes).code := by
  have functions
      : ∀ function ∈ codecFunctions options name shapes, usage.AllowsFunction function := by
    refine List.forall_mem_append.mpr ⟨?_, ?_⟩
    · split
      · rename_i wanted
        simp [allowsFunction_encode wanted each, allowsFunction_decode wanted each]
      · simp
    · split
      · rename_i wanted
        simp [allowsFunction_fromJson wanted each, allowsFunction_fromPartial wanted each,
          allowsFunction_toJson wanted each]
      · simp
  refine allowsLines_object ?_
  rw [codec]
  refine (forall_mem_intercalate (by simp [AllowsEntry])).mpr ?_
  exact List.forall_mem_map.mpr
    (fun function member => List.forall_mem_singleton.mpr (functions function member))

end ProtobufTypeScript.Target.Usage
