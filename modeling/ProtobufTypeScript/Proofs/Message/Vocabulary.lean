import ProtobufTypeScript.Message.Codec
import ProtobufTypeScript.Message.Interface
import ProtobufTypeScript.Proofs.Field.Vocabulary
import ProtobufTypeScript.Proofs.Message.FromObject
import ProtobufTypeScript.Proofs.Target.DeclarationVocabulary

/-!
The vocabulary of message code: the base instance and the functions of a codec are within a
vocabulary if the name of the message and its fields are.
-/

namespace ProtobufTypeScript.Target.Vocabulary

open ProtobufTypeScript.Field ProtobufTypeScript.Message Schema

variable {words : Vocabulary} {options : Options} {name : String} {shape : Shape}
  {shapes : List Shape}

-----------------------------------------------------------------------------------------
-- Base instance
-----------------------------------------------------------------------------------------

@[simp] theorem writes_place
    : words.Writes (place shape).snippet ↔ words.Spells shape.name := by
  simp (disch := decide) [place, spells_of_isAscii]

@[simp] theorem spells_baseName
    : words.Spells (baseName name) ↔ words.Spells name := by
  simp (disch := decide) [baseName, spells_of_isAscii]

/-- What makes a new message is within a vocabulary that has the names of the message and
its fields, as it is a copy with a statement for each repeated field.
-/
theorem covers_seed (named : words.Spells name) (has : ∀ shape ∈ shapes, words.HasShape shape)
    : ∀ statement ∈ seed name shapes, words.Covers statement.code := by
  have fields
      : ∀ statement ∈ (shapes.filter Shape.repeated).map seedField,
          words.Covers statement.code := by
    refine List.forall_mem_map.mpr ?_
    intro shape member
    have written : words.Spells shape.name := (has shape (List.mem_filter.mp member).1).name
    unfold seedField
    split <;> simp [written]
  exact List.forall_mem_cons.mpr
    ⟨by simp (disch := decide) [spells_of_isAscii, named], fields⟩

/-- The base instance is within a vocabulary that has the names of the message and its
fields.
-/
theorem covers_baseInstance (named : words.Spells name)
    (has : ∀ shape ∈ shapes, words.HasShape shape)
    : words.Covers (baseInstance options name shapes).code := by
  refine covers_values (spells_baseName.mpr named) ?_ ?_
  · exact writes_simpleType.mpr (spells_of_isAscii (by decide))
  · refine List.forall_mem_map.mpr ?_
    intro shape member
    exact ⟨(has shape (List.mem_filter.mp member).1).name, writes_shapeDefault options shape⟩

-----------------------------------------------------------------------------------------
-- Writing a message
-----------------------------------------------------------------------------------------

@[simp] theorem writes_writeTag (tag : UInt32)
    : words.Writes (writeTag tag).snippet := by
  simp (disch := decide) [writeTag, spells_of_isAscii]

/-- Writing a nested message is within a vocabulary that has its symbol and the value. -/
@[simp] theorem writes_writeNested {symbol : Symbol} {tag : UInt32} {value : Expr}
    : words.Writes (writeNested symbol tag value).snippet
      ↔ words.symbol symbol ∧ words.Writes value.snippet := by
  simp (disch := decide) [writeNested, spells_of_isAscii]

/-- Writing a value is within a vocabulary that has its kind and the expression for it.
The kinds are the cases, and three of them write a nested message.
-/
theorem writes_writeValue {kind : Kind} (has : words.HasKind kind) (tag : UInt32) {value : Expr}
    (written : words.Writes value.snippet)
    : words.Writes (writeValue kind tag value).snippet := by
  cases kind with
  | scalar type => simp [writeValue, written]
  | enumeration symbol => simp (disch := decide) [writeValue, spells_of_isAscii, written]
  | message symbol => exact writes_writeNested.mpr ⟨has, written⟩
  | wrapper symbol value =>
      refine writes_writeNested.mpr ⟨has, ?_⟩
      simp (disch := decide) [spells_of_isAscii, written]
  | timestamp symbol =>
      refine writes_writeNested.mpr ⟨has.1, ?_⟩
      simp [written, has.2 .toTimestamp rfl]
  | map entry key value => exact writes_writeNested.mpr ⟨has.1, written⟩

/-- Writing a map is within a vocabulary that has the name of the field and the symbol of
the entry.
-/
theorem covers_writeMap {entry : Symbol} (key : Scalar) (named : words.Spells shape.name)
    (has : words.symbol entry)
    : words.Covers (writeMap options shape entry key).code := by
  have written : words.Writes (Expr.name "key").snippet :=
    writes_name.mpr (spells_of_isAscii (by decide))
  simp (disch := decide) [writeMap, Binds, spells_of_isAscii, named, has,
    writes_scalarFromKey options key written]

/-- Writing a run is within a vocabulary that has the names of the field and of the
method.
-/
theorem covers_writePacked {method : String} (named : words.Spells shape.name)
    (called : words.Spells method)
    : words.Covers (writePacked shape method).code := by
  simp (disch := decide) [writePacked, spells_of_isAscii, named, called]

/-- The condition under which a field is written is within a vocabulary that has its name.
-/
theorem writes_writeCondition (named : words.Spells shape.name)
    : words.Writes (writeCondition options shape).snippet := by
  have place : words.Writes (place shape).snippet := writes_place.mpr named
  unfold writeCondition
  cases found : shape.differsFromDefault? options (Message.place shape) with
  | none => simp [named]
  | some condition => exact writes_differsFromDefault options shape place condition found

/-- Writing a field is within a vocabulary that has its shape. Maps, runs, lists and
single values are the cases.
-/
theorem covers_writeField (has : words.HasShape shape)
    : words.Covers (writeField options shape).code := by
  obtain ⟨named, kind⟩ := has
  have element : words.Writes (Expr.present (.name "v")).snippet := by
    simp (disch := decide) [spells_of_isAscii]
  have place : words.Writes (place shape).snippet := writes_place.mpr named
  unfold writeField
  split
  · rename_i entry key value found
    rw [found] at kind
    exact covers_writeMap key named kind.1
  · split
    · split
      · rename_i method found
        refine covers_writePacked named ?_
        unfold packedMethod? at found
        split at found
        · unfold Kind.wireMethod? at found
          split at found
          all_goals cases found
          · exact spells_keyword _
          · exact spells_of_isAscii (by decide)
        · cases found
      · simp (disch := decide) [writeEach, spells_of_isAscii, named,
          writes_writeValue kind shape.tag element]
    · simp [writeSingle, writes_writeCondition named, writes_writeValue kind shape.tag place]

/-- The function that writes a message is within a vocabulary that has its name and its
shapes: it has a statement for each shape, and returns the writer.
-/
theorem hasFunction_encode (named : words.Spells name)
    (has : ∀ shape ∈ shapes, words.HasShape shape)
    : words.HasFunction (encode options name shapes) where
  name := by simp (disch := decide) [encode, spells_of_isAscii]
  doc := by simp [encode]
  typeParams := by simp [encode]
  params := by
    simp (disch := decide) [encode, hasParam_iff, spells_of_isAscii, named]
  returns := by simp [encode]
  body := by
    have fields
        : ∀ statement ∈ shapes.map (writeField options), words.Covers statement.code :=
      List.forall_mem_map.mpr (fun shape member => covers_writeField (has shape member))
    refine covers_codeAll.mpr (List.forall_mem_append.mpr ⟨fields, ?_⟩)
    simp (disch := decide) [spells_of_isAscii]

-----------------------------------------------------------------------------------------
-- Reading a message
-----------------------------------------------------------------------------------------

@[simp] theorem writes_readWith {method : String}
    : words.Writes (readWith method).snippet ↔ words.Spells method := by
  simp (disch := decide) [readWith, spells_of_isAscii]

@[simp] theorem writes_readNested {symbol : Symbol}
    : words.Writes (readNested symbol).snippet ↔ words.symbol symbol := by
  simp (disch := decide) [readNested, spells_of_isAscii]

@[simp] theorem writes_readLong (scalar : Scalar)
    : words.Writes (readLong options scalar).snippet := by
  unfold readLong
  split <;> simp (disch := decide)

/-- Reading a value is within a vocabulary that has its kind. -/
theorem writes_readValue {kind : Kind} (has : words.HasKind kind)
    : words.Writes (readValue options kind).snippet := by
  cases kind with
  | scalar type =>
      rw [readValue]
      split <;> simp
  | enumeration symbol =>
      rw [readValue]
      split <;> simp (disch := decide) [spells_of_isAscii, show words.symbol symbol from has]
  | message symbol => exact writes_readNested.mpr has
  | wrapper symbol value =>
      exact writes_member.mpr ⟨writes_readNested.mpr has, spells_of_isAscii (by decide)⟩
  | timestamp symbol => simp [readValue, has.1, has.2 .fromTimestamp rfl]
  | map entry key value => exact writes_readNested.mpr has.1

@[simp] theorem spells_entryName
    : words.Spells (entryName shape) := by
  simp (disch := decide) [entryName, spells_of_isAscii]

@[simp] theorem writes_position
    : words.Writes position.snippet := by
  simp (disch := decide) [position, spells_of_isAscii]

@[simp] theorem writes_wireTypeRead
    : words.Writes wireTypeRead.snippet := by
  simp (disch := decide) [wireTypeRead, spells_of_isAscii]

theorem covers_readPacked {append : Stmt} (repeated : words.Covers append.code)
    : words.Covers (readPacked append).code := by
  simp (disch := decide) [readPacked, spells_of_isAscii, repeated]

/-- Reading a field is within a vocabulary that has its shape. Maps, runs, lists and
single values are the cases.
-/
theorem covers_readField (has : words.HasShape shape)
    : ∀ statement ∈ readField options shape, words.Covers statement.code := by
  obtain ⟨named, kind⟩ := has
  have value : words.Writes (readValue options shape.kind).snippet := writes_readValue kind
  have append
      : words.Covers
          (Stmt.expression (.method (place shape) "push" [readValue options shape.kind])).code := by
    simp (disch := decide) [spells_of_isAscii, named, value]
  unfold readField
  split
  · rename_i entry key held found
    rw [found] at kind
    simp (disch := decide) [readEntry, spells_of_isAscii, named, kind.1]
  · split
    · exact List.forall_mem_singleton.mpr (covers_readPacked append)
    · split
      · exact List.forall_mem_singleton.mpr append
      · simp [named, value]

/-- The function that reads a message is within a vocabulary that has its name and its
shapes.
-/
theorem hasFunction_decode (named : words.Spells name)
    (has : ∀ shape ∈ shapes, words.HasShape shape)
    : words.HasFunction (decode options name shapes) where
  name := by simp (disch := decide) [decode, spells_of_isAscii]
  doc := by simp [decode]
  typeParams := by simp [decode]
  params := by simp (disch := decide) [decode, hasParam_iff, spells_of_isAscii]
  returns := by simp [decode, named]
  body := by
    have fields
        : ∀ entry ∈ shapes.map (readSection options),
            (∀ label ∈ entry.labels, words.Writes label.snippet)
            ∧ ∀ statement ∈ entry.body, words.Covers statement.code := by
      refine List.forall_mem_map.mpr ?_
      intro shape member
      refine ⟨by simp [readSection, Section.labels], ?_⟩
      exact List.forall_mem_append.mpr ⟨covers_readField (has shape member), by simp⟩
    have sections
        : words.Covers (Section.codeAll (shapes.map (readSection options) ++ [skipSection])) := by
      refine covers_sections.mpr (List.forall_mem_append.mpr ⟨fields, ?_⟩)
      simp (disch := decide) [skipSection, Section.labels, Section.body, spells_of_isAscii]
    have seeds := covers_seed named has
    simp (disch := decide) only [decode, decodeBody, covers_codeAll, List.forall_mem_append]
    refine ⟨⟨?_, seeds⟩, ?_⟩ <;> simp (disch := decide) [spells_of_isAscii, sections]

-----------------------------------------------------------------------------------------
-- Making a message from an object
-----------------------------------------------------------------------------------------

/-- Converted values are within the vocabulary of the values and of their kinds. -/
def Converts (words : Vocabulary) (conversion : Conversion) : Prop :=
  ∀ kind value,
    words.HasKind kind
    → words.Writes value.snippet
    → words.Writes (conversion.value kind value).snippet

/-- Values made from JSON values are within their vocabulary. The kinds are the cases,
most of which call a function of a symbol that the vocabulary has.
-/
theorem converts_json (options : Options)
    : words.Converts (jsonConversion options) := by
  intro kind value has written
  cases kind with
  | scalar type => exact writes_scalarFromJson options type written
  | enumeration symbol =>
      simp (disch := decide) [jsonConversion, valueFromJson, spells_of_isAscii, written,
        show words.symbol symbol from has]
  | message symbol =>
      simp (disch := decide) [jsonConversion, valueFromJson, spells_of_isAscii, written,
        show words.symbol symbol from has]
  | wrapper symbol type => exact writes_wrappedFromJson type written
  | timestamp symbol =>
      simp [jsonConversion, valueFromJson, written, has.2 .fromJsonTimestamp rfl]
  | map entry key type =>
      simp (disch := decide) [jsonConversion, valueFromJson, spells_of_isAscii, written, has.1]

/-- The conversion of partial values stays within a vocabulary that has the kind of value.
The kinds are the cases, most of which keep the value as it is.
-/
theorem converts_partial (options : Options)
    : words.Converts (partialConversion options) := by
  intro kind value has written
  cases kind with
  | scalar type =>
      simp only [partialConversion, valueFromPartial]
      split <;> simp [written]
  | enumeration symbol => exact written
  | message symbol =>
      simp (disch := decide) [partialConversion, valueFromPartial, spells_of_isAscii, written,
        show words.symbol symbol from has]
  | wrapper symbol type => exact written
  | timestamp symbol => exact written
  | map entry key type =>
      simp (disch := decide) [partialConversion, valueFromPartial, spells_of_isAscii, written,
        has.1]

@[simp] theorem writes_source
    : words.Writes (source shape).snippet ↔ words.Spells shape.name := by
  simp (disch := decide) [source, spells_of_isAscii]

@[simp] theorem writes_mapKey (key : Scalar)
    : words.Writes (mapKey options key).snippet := by
  unfold mapKey
  split <;> simp (disch := decide) [spells_of_isAscii]

/-- Taking over a value that is given is within a vocabulary that has its shape, if the
conversion stays within it. Maps, lists and single values are the cases.
-/
theorem covers_takeGiven {conversion : Conversion} (converts : words.Converts conversion)
    (has : words.HasShape shape)
    : words.Covers (takeGiven options conversion shape).code := by
  obtain ⟨named, kind⟩ := has
  have here : words.Writes (source shape).snippet := writes_source.mpr named
  have ofName : ∀ text, isAscii text = true → words.Writes (Expr.name text).snippet :=
    fun text ascii => writes_name.mpr (spells_of_isAscii ascii)
  unfold takeGiven
  split
  · rename_i entry key value found
    rw [found] at kind
    have converted := converts value _ kind.2 (ofName "value" (by decide))
    unfold takeMap
    split <;> simp (disch := decide) [Binds, spells_of_isAscii, named, converted]
  · split
    · have converted := converts shape.kind _ kind (ofName "e" (by decide))
      simp (disch := decide) [spells_of_isAscii, named, converted]
    · simp [named, converts shape.kind _ kind here]

/-- Taking over a field, or its default, is within a vocabulary that has its shape, if the
conversion stays within it.
-/
theorem covers_takeField {conversion : Conversion} (converts : words.Converts conversion)
    (has : words.HasShape shape)
    : words.Covers (takeField options conversion shape).code := by
  have given : words.Writes (isGiven shape).snippet := by
    simp (disch := decide) [isGiven, spells_of_isAscii, has.name]
  have missing : words.Writes (missingValue options shape).snippet := by
    unfold missingValue
    split <;> simp
  rw [takeField, covers_branch]
  refine ⟨given, List.forall_mem_singleton.mpr (covers_takeGiven converts has), ?_⟩
  split
  · exact covers_nothing
  · simp [has.name, missing]

/-- The statements that make a message from an object are within a vocabulary. -/
theorem covers_fromObjectBody {conversion : Conversion} (converts : words.Converts conversion)
    (named : words.Spells name) (has : ∀ shape ∈ shapes, words.HasShape shape)
    : words.Covers (Stmt.codeAll (fromObjectBody options conversion name shapes)) := by
  have fields
      : ∀ statement ∈ shapes.map (takeField options conversion), words.Covers statement.code :=
    List.forall_mem_map.mpr (fun shape member => covers_takeField converts (has shape member))
  simp only [fromObjectBody, covers_codeAll, List.forall_mem_append]
  exact ⟨⟨covers_seed named has, fields⟩, by simp (disch := decide) [spells_of_isAscii]⟩

/-- The function that makes a message from JSON is within a vocabulary that has its name
and its shapes.
-/
theorem hasFunction_fromJson (named : words.Spells name)
    (has : ∀ shape ∈ shapes, words.HasShape shape)
    : words.HasFunction (fromJson options name shapes) where
  name := by simp (disch := decide) [fromJson, spells_of_isAscii]
  doc := by simp [fromJson]
  typeParams := by simp [fromJson]
  params := by simp (disch := decide) [fromJson, hasParam_iff, spells_of_isAscii]
  returns := by simp [fromJson, named]
  body := by
    rw [lines_fromJson]
    exact covers_fromObjectBody (converts_json options) named has

/-- The function that makes a message from a partial one is within a vocabulary that has
its name and its shapes.
-/
theorem hasFunction_fromPartial (named : words.Spells name)
    (has : ∀ shape ∈ shapes, words.HasShape shape)
    : words.HasFunction (fromPartial options name shapes) where
  name := by simp (disch := decide) [fromPartial, spells_of_isAscii]
  doc := by simp [fromPartial]
  typeParams := by simp [fromPartial]
  params := by simp (disch := decide) [fromPartial, hasParam_iff, spells_of_isAscii, named]
  returns := by simp [fromPartial, named]
  body := by
    rw [lines_fromPartial]
    exact covers_fromObjectBody (converts_partial options) named has

-----------------------------------------------------------------------------------------
-- Making a JSON value from a message
-----------------------------------------------------------------------------------------

/-- Giving out a scalar is within a vocabulary that has the expression for it. -/
theorem writes_scalarToJson (presence : Presence) (scalar : Scalar) {value : Expr}
    (written : words.Writes value.snippet)
    : words.Writes (scalarToJson options presence scalar value).snippet := by
  unfold scalarToJson
  split <;>
    simp (disch := decide) [decimalString, valueIf, isDefined, spells_of_isAscii, written]

/-- Giving out a value is within a vocabulary that has its kind and the expression for it.
The kinds are the cases, most of which call a function of a symbol.
-/
theorem writes_valueToJson (presence : Presence) {kind : Kind} {value : Expr}
    (has : words.HasKind kind) (written : words.Writes value.snippet)
    : words.Writes (valueToJson options presence kind value).snippet := by
  cases kind with
  | scalar type => exact writes_scalarToJson presence type written
  | enumeration symbol =>
      rw [valueToJson]
      split <;>
        simp (disch := decide) [valueIf, isDefined, spells_of_isAscii, written,
          show words.symbol symbol from has]
  | message symbol =>
      simp (disch := decide) [valueToJson, valueIf, spells_of_isAscii, written,
        show words.symbol symbol from has]
  | wrapper symbol type => exact written
  | timestamp symbol =>
      simp (disch := decide) [valueToJson, isDefined, spells_of_isAscii, written]
  | map entry key type =>
      simp (disch := decide) [valueToJson, valueIf, spells_of_isAscii, written, has.1]

@[simp] theorem writes_output
    : words.Writes (output shape).snippet ↔ words.Spells shape.name := by
  simp (disch := decide) [output, spells_of_isAscii]

/-- Giving out a field is within a vocabulary that has its shape. Maps, lists and single
values are the cases.
-/
theorem covers_giveField (has : words.HasShape shape)
    : ∀ statement ∈ giveField options shape, words.Covers statement.code := by
  obtain ⟨named, kind⟩ := has
  have here : words.Writes (place shape).snippet := writes_place.mpr named
  have ofName : ∀ text, isAscii text = true → words.Writes (Expr.name text).snippet :=
    fun text ascii => writes_name.mpr (spells_of_isAscii ascii)
  unfold giveField
  split
  · rename_i entry key value found
    rw [found] at kind
    have converted : words.Writes (valueToJson options .element value (.name "v")).snippet :=
      writes_valueToJson .element kind.2 (ofName "v" (by decide))
    simp (disch := decide) [giveMap, Binds, spells_of_isAscii, named, converted]
  · split
    · have converted : words.Writes (valueToJson options .element shape.kind (.name "e")).snippet :=
        writes_valueToJson .element kind (ofName "e" (by decide))
      simp (disch := decide) [giveList, spells_of_isAscii, named, converted]
    · simp [named, writes_valueToJson (presenceOf shape) kind here]

/-- The function that gives out a message is within a vocabulary that has its name and its
shapes: it gives out one field after the other.
-/
theorem hasFunction_toJson (named : words.Spells name)
    (has : ∀ shape ∈ shapes, words.HasShape shape)
    : words.HasFunction (toJson options name shapes) where
  name := by simp (disch := decide) [toJson, spells_of_isAscii]
  doc := by simp [toJson]
  typeParams := by simp [toJson]
  params := by simp (disch := decide) [toJson, hasParam_iff, spells_of_isAscii, named]
  returns := by simp (disch := decide) [toJson, spells_of_isAscii]
  body := by
    have fields
        : ∀ statement ∈ shapes.flatMap (giveField options), words.Covers statement.code :=
      List.forall_mem_flatMap.mpr (fun shape member => covers_giveField (has shape member))
    simp only [toJson, toJsonBody, covers_codeAll, List.forall_mem_append, List.forall_mem_cons]
    refine ⟨⟨?_, fields⟩, ?_⟩ <;> simp (disch := decide) [spells_of_isAscii]

-----------------------------------------------------------------------------------------
-- The code of a message
-----------------------------------------------------------------------------------------

/-- The codec of a message is within a vocabulary, whichever functions it has: those for
bytes, those for JSON, or both.
-/
theorem hasObject_codec (named : words.Spells name)
    (has : ∀ shape ∈ shapes, words.HasShape shape)
    : words.HasObject (codec options name shapes) where
  name := named
  doc := by simp [codec]
  entries := by
    have functions
        : ∀ function ∈ codecFunctions options name shapes, words.HasFunction function := by
      unfold codecFunctions
      refine List.forall_mem_append.mpr ⟨?_, ?_⟩
      · split <;> simp [hasFunction_encode named has, hasFunction_decode named has]
      · split <;>
          simp [hasFunction_fromJson named has, hasFunction_fromPartial named has,
            hasFunction_toJson named has]
    rw [codec]
    refine (forall_mem_intercalate (by simp [HasEntry])).mpr (List.forall_mem_map.mpr ?_)
    exact fun function member => List.forall_mem_singleton.mpr (functions function member)

/-- The interface of a message is within a vocabulary if its comments are too: each
property has the name and the type of a shape.
-/
theorem hasInterface_interface {cursor : Cursor} (named : words.Spells name)
    (has : ∀ shape ∈ shapes, words.HasShape shape)
    (documented : ∀ path, ∀ text ∈ (cursor.descriptionAt path).text, words.Spells text)
    : words.HasInterface (interface options name shapes cursor) where
  name := named
  doc := documented _
  typeParams := by simp [interface]
  properties := by
    refine List.forall_mem_map.mpr ?_
    intro entry member
    have shape := has entry.1 (List.fst_mem_of_mem_zipIdx member)
    exact {
      name := shape.name
      type := writes_shapeType options shape
      doc := documented _
      modifiers := by simp [property]
    }
  methods := by simp [interface]

end ProtobufTypeScript.Target.Vocabulary
