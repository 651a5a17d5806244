import ProtobufTypeScript.Message.Codec
import ProtobufTypeScript.Message.Interface
import ProtobufTypeScript.Proofs.Field.Brackets
import ProtobufTypeScript.Proofs.Message.FromObject
import ProtobufTypeScript.Proofs.Target.DeclarationBrackets

/-!
Brackets in message code: what is declared for a message type is written with balanced brackets if
its name, the names of its fields and its comments are balanced.
-/

namespace ProtobufTypeScript.Message

open ProtobufTypeScript.Field Schema Target

variable {options : Options} {name : String} {shape : Shape} {shapes : List Shape}

attribute [local simp] Expr.Balances Expr.BalancesAll Stmt.Balances Stmt.BalancesAll
  Otherwise.Balances Section.BalancesAll Binding.Balances CaseLabel.Balances TypeExpr.Balances
  TypeExpr.BalancesAll Expr.method Expr.field Expr.undefined Stmt.when Stmt.either

-----------------------------------------------------------------------------------------
-- Base instance and interface
-----------------------------------------------------------------------------------------

theorem balances_baseName (named : Text.Balances name)
    : Text.Balances (baseName name) :=
  Text.balances_append (by decide) named

theorem balances_place (named : Text.Balances shape.name)
    : (place shape).Balances := by
  simp (disch := decide) [place, balances_of_isPlain, named]

/-- What makes a new message is balanced if the names in it are. Each repeated field gets
an empty list or an empty object.
-/
theorem balances_seed (named : Text.Balances name)
    (fields : ∀ shape ∈ shapes, Text.Balances shape.name)
    : Stmt.BalancesAll (seed name shapes) := by
  refine ⟨?_, Stmt.balancesAll_iff.mpr (List.forall_mem_map.mpr (fun shape member => ?_))⟩
  · simp (disch := decide) [balances_of_isPlain, named, balances_baseName named]
  · have stored := balances_place (fields shape (List.mem_of_mem_filter member))
    unfold seedField
    split <;> simp [stored]

/-- The base instance of a message is balanced if the names of its fields are. -/
theorem balances_baseInstance (named : Text.Balances name)
    (fields : ∀ shape ∈ shapes, Text.Balances shape.name)
    : (baseInstance options name shapes).code.Balances := by
  refine ValueObject.Balances.code ⟨balances_baseName named, ?_, ?_⟩
  · exact balances_of_isPlain (by decide)
  · refine List.forall_mem_map.mpr (fun shape member => ⟨?_, balances_shapeDefault⟩)
    exact fields shape (List.mem_of_mem_filter member)

/-- The interface of a message is balanced if its names and the comments in it are. -/
theorem balances_interface {cursor : Cursor} (named : Text.Balances name)
    (fields : ∀ shape ∈ shapes, Text.Balances shape.name)
    (described : ∀ text ∈ cursor.description.text, Text.Balances text)
    (commented
      : ∀ position,
          ∀ text ∈ (cursor.lookup Child.fieldInMessage position).text, Text.Balances text)
    : (Message.interface options name shapes cursor).code.Balances := by
  refine Interface.Balances.code ⟨named, described, nofun, ?_, nofun⟩
  refine List.forall_mem_map.mpr (fun entry member => ?_)
  exact ⟨fields entry.1 (List.fst_mem_of_mem_zipIdx member), balances_shapeType,
    commented entry.2, nofun⟩

-----------------------------------------------------------------------------------------
-- Writing a message
-----------------------------------------------------------------------------------------

@[simp] theorem balances_writeTag {tag : UInt32}
    : (writeTag tag).Balances := by
  simp (disch := decide) [writeTag, balances_of_isPlain]

/-- Writing a nested message is balanced exactly if the value for it is. -/
@[simp] theorem balances_writeNested {symbol : Symbol} {tag : UInt32} {value : Expr}
    : (writeNested symbol tag value).Balances ↔ value.Balances := by
  simp (disch := decide) [writeNested, balances_of_isPlain]

/-- Writing a value is balanced if the expression for it is, whatever kind of value it is.
-/
theorem balances_writeValue {kind : Kind} {tag : UInt32} {value : Expr}
    (balanced : value.Balances)
    : (writeValue kind tag value).Balances := by
  cases kind <;> simp (disch := decide) [writeValue, balances_of_isPlain, balanced]

/-- The condition under which a field is written is balanced if the name of the field is.
-/
theorem balances_writeCondition (named : Text.Balances shape.name)
    : (writeCondition options shape).Balances := by
  have stored := balances_place named
  unfold writeCondition
  cases found : shape.differsFromDefault? options (place shape) with
  | none => simp (disch := decide) [balances_of_isPlain, stored]
  | some condition => exact balances_differsFromDefault stored condition found

theorem balances_packedMethod
    : ∀ method ∈ packedMethod? shape, Text.Balances method := by
  intro method found
  unfold packedMethod? Kind.wireMethod? at found
  repeat' split at found
  all_goals cases found
  · exact balances_keyword _
  · exact balances_of_isPlain (by decide)

/-- Writing a field is balanced if its name is. Maps, runs, lists and single values are
the cases.
-/
theorem balances_writeField (named : Text.Balances shape.name)
    : (writeField options shape).Balances := by
  have stored := balances_place named
  have element : (writeValue shape.kind shape.tag (.present (.name "v"))).Balances :=
    balances_writeValue (balances_of_isPlain (by decide))
  have single : (writeValue shape.kind shape.tag (place shape)).Balances :=
    balances_writeValue stored
  unfold writeField
  split
  · rename_i entry key value found
    have converted : (scalarFromKey options key (.name "key")).Balances :=
      balances_scalarFromKey (balances_of_isPlain (by decide))
    simp (disch := decide) [writeMap, balances_of_isPlain, stored, converted]
  · split
    · split
      · rename_i method found
        have written := balances_packedMethod method found
        simp (disch := decide) [writePacked, balances_of_isPlain, stored, written]
      · simp (disch := decide) [writeEach, balances_of_isPlain, stored, element]
    · simp [writeSingle, single, balances_writeCondition named]

/-- The function that writes a message is balanced if the names in it are. Its second
parameter has a default, which calls a function of the library.
-/
theorem balances_encode (named : Text.Balances name)
    (fields : ∀ shape ∈ shapes, Text.Balances shape.name)
    : (encode options name shapes).Balances where
  name := (by decide : Text.Balances "encode")
  doc := nofun
  typeParams := nofun
  params := by
    have created : ((Expr.symbol Library.writer).method "create" []).Balances := by
      simp (disch := decide) [balances_of_isPlain]
    have written := created.snippet
    simp (disch := decide) [encode, Param.balances_iff, balances_of_isPlain, named, Block.line,
      -Expr.method, written]
  returns := by simp [encode]
  body :=
    Stmt.BalancesAll.codeAll (Stmt.balancesAll_iff.mpr (List.forall_mem_append.mpr
      ⟨List.forall_mem_map.mpr (fun shape member => balances_writeField (fields shape member)),
        by simp (disch := decide) [balances_of_isPlain]⟩))

-----------------------------------------------------------------------------------------
-- Reading a message
-----------------------------------------------------------------------------------------

@[simp] theorem balances_readWith {method : String}
    : (readWith method).Balances ↔ Text.Balances method := by
  simp (disch := decide) [readWith, balances_of_isPlain]

@[simp] theorem balances_readNested {symbol : Symbol}
    : (readNested symbol).Balances := by
  simp (disch := decide) [readNested, balances_of_isPlain]

/-- Reading a value is balanced, whatever kind of value it is. -/
@[simp] theorem balances_readValue {kind : Kind}
    : (readValue options kind).Balances := by
  unfold readValue readLong
  repeat' split
  all_goals simp (disch := decide) [balances_of_isPlain]

theorem balances_entryName
    : Text.Balances (entryName shape) :=
  Text.balances_append (by decide) (Expr.balances_number shape.number.toInt)

@[simp] theorem balances_wireTypeRead
    : wireTypeRead.Balances := by
  simp (disch := decide) [wireTypeRead, balances_of_isPlain]

@[simp] theorem balances_position
    : position.Balances := by
  simp (disch := decide) [position, balances_of_isPlain]

/-- Reading a field is balanced if its name is. Maps, runs, lists and single values are
the cases.
-/
theorem balances_readField (named : Text.Balances shape.name)
    : Stmt.BalancesAll (readField options shape) := by
  have stored := balances_place named
  unfold readField
  split
  · simp (disch := decide) [readEntry, balances_of_isPlain, stored, balances_entryName]
  · split
    · simp (disch := decide) [readPacked, balances_of_isPlain, stored]
    · split <;> simp (disch := decide) [balances_of_isPlain, stored]

/-- The body that reads a message is balanced: each section of the switch is, and so is
the one that skips unknown fields.
-/
theorem balances_decodeBody (named : Text.Balances name)
    (fields : ∀ shape ∈ shapes, Text.Balances shape.name)
    : Stmt.BalancesAll (decodeBody options name shapes) := by
  have sections
      : Section.BalancesAll (shapes.map (readSection options) ++ [skipSection]) := by
    refine Section.balancesAll_iff.mpr (List.forall_mem_append.mpr ⟨?_, ?_⟩)
    · refine List.forall_mem_map.mpr (fun shape member => ⟨?_, ?_⟩)
      · simp [readSection, Section.labels]
      · have field : Stmt.BalancesAll (readField options shape) :=
          balances_readField (fields shape member)
        rw [Stmt.balancesAll_iff] at field ⊢
        exact List.forall_mem_append.mpr ⟨field, by simp⟩
    · simp (disch := decide) [skipSection, Section.labels, Section.body, balances_of_isPlain]
  rw [decodeBody, Stmt.balancesAll_iff, List.forall_mem_append, List.forall_mem_append]
  refine ⟨⟨?_, Stmt.balancesAll_iff.mp (balances_seed named fields)⟩, ?_⟩
  · simp (disch := decide) [balances_of_isPlain]
  · simp (disch := decide) [balances_of_isPlain, sections]

/-- The function that reads a message is balanced if the names in it are. -/
theorem balances_decode (named : Text.Balances name)
    (fields : ∀ shape ∈ shapes, Text.Balances shape.name)
    : (decode options name shapes).Balances where
  name := (by decide : Text.Balances "decode")
  doc := nofun
  typeParams := nofun
  params := by simp (disch := decide) [decode, Param.balances_iff, balances_of_isPlain]
  returns := by simp [decode, named]
  body := (balances_decodeBody named fields).codeAll

-----------------------------------------------------------------------------------------
-- Making a message from an object
-----------------------------------------------------------------------------------------

/-- Whether a conversion keeps balanced values balanced. -/
def Conversion.KeepsBalance (conversion : Conversion) : Prop :=
  ∀ kind value, value.Balances → (conversion.value kind value).Balances

theorem balances_source (named : Text.Balances shape.name)
    : (source shape).Balances := by
  simp (disch := decide) [source, balances_of_isPlain, named]

/-- Taking over a map is balanced if the conversion of its values keeps balance. The
conversion is only used on a plain name.
-/
theorem balances_takeMap {conversion : Conversion} {key : Scalar} {value : Kind}
    (keeps : conversion.KeepsBalance) (named : Text.Balances shape.name)
    : (takeMap options conversion shape key value).Balances := by
  have converted := keeps value (.name "value") (balances_of_isPlain (by decide))
  have stored : (mapKey options key).Balances := by
    unfold mapKey
    split <;> simp (disch := decide) [balances_of_isPlain]
  unfold takeMap
  split <;>
    simp (disch := decide) [balances_of_isPlain, converted, stored, balances_place named,
      balances_source named]

/-- Taking over a value that is given is balanced if its conversion keeps balance. Maps,
lists and single values are the cases.
-/
theorem balances_takeGiven {conversion : Conversion} (keeps : conversion.KeepsBalance)
    (named : Text.Balances shape.name)
    : (takeGiven options conversion shape).Balances := by
  have stored := balances_place named
  have given := balances_source named
  have element := fun kind => keeps kind (.name "e") (balances_of_isPlain (by decide))
  have single := fun kind => keeps kind (source shape) given
  unfold takeGiven
  split
  · exact balances_takeMap keeps named
  · split <;> simp (disch := decide) [balances_of_isPlain, stored, given, element, single]

/-- Taking over a field, or its default, is balanced if the conversion of its values keeps
balance.
-/
theorem balances_takeField {conversion : Conversion} (keeps : conversion.KeepsBalance)
    (named : Text.Balances shape.name)
    : (takeField options conversion shape).Balances := by
  have given : (isGiven shape).Balances := by
    simp (disch := decide) [isGiven, balances_of_isPlain, balances_source named]
  have missing : (missingValue options shape).Balances := by
    unfold missingValue
    split <;> simp (disch := decide) [balances_of_isPlain]
  unfold takeField
  split <;> simp [given, missing, balances_takeGiven keeps named, balances_place named]

/-- Making a message from an object is balanced if the conversion of values keeps balance.
-/
theorem balances_fromObjectBody {conversion : Conversion} (keeps : conversion.KeepsBalance)
    (named : Text.Balances name) (fields : ∀ shape ∈ shapes, Text.Balances shape.name)
    : Stmt.BalancesAll (fromObjectBody options conversion name shapes) := by
  rw [fromObjectBody, Stmt.balancesAll_iff, List.forall_mem_append, List.forall_mem_append]
  refine ⟨⟨Stmt.balancesAll_iff.mp (balances_seed named fields), ?_⟩, ?_⟩
  · exact List.forall_mem_map.mpr
      (fun shape member => balances_takeField keeps (fields shape member))
  · simp (disch := decide) [balances_of_isPlain]

/-- The conversion of JSON values keeps balance, for each kind of value. -/
theorem keepsBalance_json
    : (jsonConversion options).KeepsBalance := by
  intro kind value balanced
  cases kind with
  | scalar type => exact balances_scalarFromJson balanced
  | wrapper symbol scalar => exact balances_wrappedFromJson balanced
  | _ =>
      simp (disch := decide) [jsonConversion, valueFromJson, balances_of_isPlain, balanced]

/-- The conversion of partial values keeps balance, for each kind of value. -/
theorem keepsBalance_partial
    : (partialConversion options).KeepsBalance := by
  intro kind value balanced
  unfold partialConversion valueFromPartial
  dsimp only
  repeat' split
  all_goals simp (disch := decide) [balances_of_isPlain, balanced]

/-- The function that makes a message from JSON is balanced if the names in it are. -/
theorem balances_fromJson (named : Text.Balances name)
    (fields : ∀ shape ∈ shapes, Text.Balances shape.name)
    : (fromJson options name shapes).Balances where
  name := (by decide : Text.Balances "fromJSON")
  doc := nofun
  typeParams := nofun
  params := by simp (disch := decide) [fromJson, Param.balances_iff, balances_of_isPlain]
  returns := by simp [fromJson, named]
  body := by
    rw [lines_fromJson]
    exact (balances_fromObjectBody keepsBalance_json named fields).codeAll

/-- The function that makes a message from a partial one is balanced if the names in it
are.
-/
theorem balances_fromPartial (named : Text.Balances name)
    (fields : ∀ shape ∈ shapes, Text.Balances shape.name)
    : (fromPartial options name shapes).Balances where
  name := (by decide : Text.Balances "fromPartial")
  doc := nofun
  typeParams := nofun
  params := by simp (disch := decide) [fromPartial, Param.balances_iff, balances_of_isPlain, named]
  returns := by simp [fromPartial, named]
  body := by
    rw [lines_fromPartial]
    exact (balances_fromObjectBody keepsBalance_partial named fields).codeAll

-----------------------------------------------------------------------------------------
-- Making a JSON value from a message
-----------------------------------------------------------------------------------------

/-- Giving out a scalar is balanced if the expression for it is. -/
theorem balances_scalarToJson {presence : Presence} {scalar : Scalar} {value : Expr}
    (balanced : value.Balances)
    : (scalarToJson options presence scalar value).Balances := by
  unfold scalarToJson
  dsimp only
  split <;>
    simp (disch := decide) [decimalString, valueIf, isDefined, balances_of_isPlain, balanced]

/-- Giving out a value is balanced if the expression for it is, whatever kind of value it
is.
-/
theorem balances_valueToJson {presence : Presence} {kind : Kind} {value : Expr}
    (balanced : value.Balances)
    : (valueToJson options presence kind value).Balances := by
  unfold valueToJson
  split
  case h_6 => exact balances_scalarToJson balanced
  case h_1 =>
    dsimp only
    split <;> simp (disch := decide) [valueIf, isDefined, balances_of_isPlain, balanced]
  all_goals simp (disch := decide) [valueIf, isDefined, balances_of_isPlain, balanced]

/-- Giving out a field is balanced if its name is. Maps, lists and single values are the
cases.
-/
theorem balances_giveField (named : Text.Balances shape.name)
    : Stmt.BalancesAll (giveField options shape) := by
  have stored := balances_place named
  have given : (output shape).Balances := by
    simp (disch := decide) [output, balances_of_isPlain, named]
  have element (name : String) (plain : Text.Balances name) (kind : Kind)
      : (valueToJson options .element kind (.name name)).Balances :=
    balances_valueToJson plain
  have single : (valueToJson options (presenceOf shape) shape.kind (place shape)).Balances :=
    balances_valueToJson stored
  unfold giveField
  split
  · simp (disch := decide) [giveMap, balances_of_isPlain, stored, given, element]
  · split <;>
      simp (disch := decide) [giveList, balances_of_isPlain, stored, given, element, single]

/-- The function that gives out a message as JSON is balanced if the names in it are: it
gives out one field after the other.
-/
theorem balances_toJson (named : Text.Balances name)
    (fields : ∀ shape ∈ shapes, Text.Balances shape.name)
    : (toJson options name shapes).Balances where
  name := (by decide : Text.Balances "toJSON")
  doc := nofun
  typeParams := nofun
  params := by simp (disch := decide) [toJson, Param.balances_iff, balances_of_isPlain, named]
  returns := by simp (disch := decide) [toJson, balances_of_isPlain]
  body := by
    refine Stmt.BalancesAll.codeAll ?_
    rw [toJsonBody, Stmt.balancesAll_iff, List.forall_mem_append, List.forall_mem_cons]
    refine ⟨⟨by simp (disch := decide) [balances_of_isPlain], ?_⟩, ?_⟩
    · intro statement member
      obtain ⟨shape, inShapes, given⟩ := List.mem_flatMap.mp member
      exact Stmt.balancesAll_iff.mp (balances_giveField (fields shape inShapes)) statement given
    · simp (disch := decide) [balances_of_isPlain]

-----------------------------------------------------------------------------------------
-- Codecs
-----------------------------------------------------------------------------------------

/-- The object with the functions of a message is balanced, whichever of them are wanted.
-/
theorem balances_codec (named : Text.Balances name)
    (fields : ∀ shape ∈ shapes, Text.Balances shape.name)
    : (codec options name shapes).code.Balances := by
  have functions
      : ∀ function ∈ codecFunctions options name shapes, function.Balances := by
    refine List.forall_mem_append.mpr ⟨?_, ?_⟩
    · split
      · simp [balances_encode named fields, balances_decode named fields]
      · simp
    · split
      · simp [balances_fromJson named fields, balances_fromPartial named fields,
          balances_toJson named fields]
      · simp
  refine ObjectConst.Balances.code ⟨named, nofun, ?_⟩
  rw [codec]
  refine (forall_mem_intercalate (by simp [Entry.Balances])).mpr ?_
  exact List.forall_mem_map.mpr
    (fun function member => List.forall_mem_singleton.mpr (functions function member))

end ProtobufTypeScript.Message
