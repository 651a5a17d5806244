import ProtobufTypeScript.Message.Codec
import ProtobufTypeScript.Message.Interface
import ProtobufTypeScript.Proofs.Target.Recording

/-!
The functions of a message record what they are written with. For each function that makes an
expression or a statement there is one that records symbols, kept beside it by hand; the two have
the same symbols for every kind of field, repeated or not, in every form of 64-bit integers.
-/

namespace ProtobufTypeScript.Message

open ProtobufTypeScript.Field Schema Target

variable {options : Options} {shape : Shape} {value : Expr} {symbol : Symbol}

-----------------------------------------------------------------------------------------
-- Scalars and defaults
-----------------------------------------------------------------------------------------

/-- The default of a scalar needs the long-integer library exactly if its values are
objects of that library.
-/
@[simp] theorem symbols_scalarDefault (scalar : Scalar)
    : (scalarDefault options scalar).symbols = longRecorded options scalar := by
  rcases form : options.longForm <;> cases scalar <;>
    simp [scalarDefault, longDefault, longRecorded, isLongObject, Scalar.isLong, form]

@[simp] theorem symbols_converted (function : String)
    : (converted function value).symbols = value.symbols := by
  simp [converted]

/-- Making a scalar from JSON mentions the symbol for 64-bit integers if these are
objects, besides what stands in the expression for the value.
-/
@[simp] theorem symbols_scalarFromJson (scalar : Scalar)
    : (scalarFromJson options scalar value).symbols
      = longRecorded options scalar ++ value.symbols := by
  rcases form : options.longForm <;> cases scalar <;>
    simp [scalarFromJson, longFromJson, longRecorded, isLongObject, Scalar.isLong, form]

/-- Making a scalar from a key mentions the symbol for 64-bit integers if these are
objects, besides what stands in the expression for the key.
-/
@[simp] theorem symbols_scalarFromKey (scalar : Scalar)
    : (scalarFromKey options scalar value).symbols
      = longRecorded options scalar ++ value.symbols := by
  rcases form : options.longForm <;> cases scalar <;>
    simp [scalarFromKey, longFromKey, longRecorded, isLongObject, Scalar.isLong,
      Scalar.isUnsignedLong, form]

@[simp] theorem symbols_wrappedFromJson (scalar : Scalar)
    : (wrappedFromJson scalar value).symbols = value.symbols := by
  cases scalar <;> simp [wrappedFromJson]

/-- The default of a field is recorded as it is written. -/
@[simp] theorem symbols_default
    : (shape.default options).symbols = shape.defaultRecorded options := by
  unfold Shape.default Shape.defaultRecorded
  cases isMap : shape.isMap <;> cases shape.repeated <;>
    cases shape.kind <;> simp [Kind.default, Kind.defaultRecorded]

@[simp] theorem symbols_place
    : (place shape).symbols = [] ∧ (source shape).symbols = [] ∧ (output shape).symbols = [] :=
  ⟨rfl, rfl, rfl⟩

/-- The base instance records the defaults that it holds. -/
theorem recordsMentions_baseInstance (options : Options) (name : String) (shapes : List Shape)
    : (Item.values (baseInstance options name shapes)).RecordsMentions :=
  ValueObject.recordsMentions rfl
    (fun symbol => by simp [baseInstance, List.flatMap_map, -List.mem_flatMap])

-----------------------------------------------------------------------------------------
-- Writing and reading
-----------------------------------------------------------------------------------------

@[simp] theorem symbols_writeTag (tag : UInt32)
    : (writeTag tag).symbols = [] := by
  simp [writeTag]

@[simp] theorem symbols_writeNested (tag : UInt32)
    : (writeNested symbol tag value).symbols = symbol :: value.symbols := by
  simp [writeNested]

/-- Writing a value mentions the symbols that are recorded for it, whatever kind of value
it is.
-/
theorem symbols_writeValue (kind : Kind) (tag : UInt32) (plain : value.symbols = [])
    : symbol ∈ (writeValue kind tag value).symbols ↔ symbol ∈ Recorded.writeValue kind := by
  cases kind <;> simp [writeValue, Recorded.writeValue, plain, or_comm]

/-- The condition of a single value needs what the default needs that it compares with,
where it compares with one.
-/
@[simp] theorem symbols_writeCondition
    : (writeCondition options shape).symbols = shape.differsRecorded options := by
  rcases shape with ⟨name, number, repeated, inOneof, kind⟩
  cases repeated <;> cases inOneof <;> cases kind with
  | scalar scalar =>
      cases object : isLongObject options scalar <;> cases scalar <;>
        simp [writeCondition, Shape.differsFromDefault?, Shape.differsRecorded, longRecorded,
          object]
  | _ => simp [writeCondition, Shape.differsFromDefault?, Shape.differsRecorded]

/-- A run of values is written by a method of the writer, so that it needs no symbol. -/
theorem symbols_writePacked (method : String)
    : (writePacked shape method).symbols = [] := by
  simp [writePacked]

theorem repeated_of_isPacked (packed : shape.isPacked = true)
    : shape.repeated = true := by
  simp only [Shape.isPacked, Shape.isList, Bool.and_eq_true] at packed
  exact packed.1.1

/-- A field has no method for runs exactly if it is not packed. -/
theorem packedMethod?_eq_none_iff (shape : Shape)
    : packedMethod? shape = none ↔ shape.isPacked = false := by
  unfold packedMethod? Shape.isPacked
  cases shape.isList <;> cases shape.kind <;> simp [Kind.wireMethod?, Kind.isPackable]

/-- Writing a field records what it is written with. A map needs its entry, and the
long-integer library for keys that are its objects.
-/
theorem mem_symbols_writeField (options : Options) (shape : Shape) (symbol : Symbol)
    : symbol ∈ (writeField options shape).symbols
      ↔ symbol ∈ Recorded.writeField options shape := by
  unfold writeField Recorded.writeField
  split
  · simp [writeMap]
  · rename_i kind noMap
    cases packed : packedMethod? shape with
    | some method =>
        have isPacked : shape.isPacked = true := by
          rw [← Bool.not_eq_false, ← packedMethod?_eq_none_iff, packed]
          exact Option.some_ne_none method
        simp [isPacked, repeated_of_isPacked isPacked, symbols_writePacked]
    | none =>
        have unpacked := (packedMethod?_eq_none_iff shape).mp packed
        cases shape.repeated <;>
          simp [writeEach, writeSingle, unpacked, symbols_writeValue]

/-- Reading a 64-bit integer records the library and the helper that its form asks for. -/
@[simp] theorem mem_symbols_readLong (scalar : Scalar)
    : symbol ∈ (readLong options scalar).symbols ↔ symbol ∈ Recorded.readLong options := by
  cases form : options.longForm <;>
    simp [readLong, Recorded.readLong, form, readWith, TypeExpr.recorded, or_comm]

/-- Reading a value mentions the symbols that are recorded for it. The kinds are the
cases.
-/
theorem mem_symbols_readValue (kind : Kind)
    : symbol ∈ (readValue options kind).symbols
      ↔ symbol ∈ Recorded.readValue options kind := by
  cases kind with
  | scalar scalar =>
      cases long : scalar.isLong <;> simp [readValue, Recorded.readValue, long, readWith]
  | enumeration symbol =>
      cases json : options.jsonMethods <;>
        simp [readValue, Recorded.readValue, json, readWith, TypeExpr.recorded, TypeExpr.any]
  | _ => simp [readValue, Recorded.readValue, readNested, readWith, or_comm]

/-- Reading a field records what it is read with; a packed run is read value by value,
too, with the symbols of one value.
-/
theorem mem_symbols_readField (options : Options) (shape : Shape) (symbol : Symbol)
    : symbol ∈ (readField options shape).flatMap Stmt.symbols
      ↔ symbol ∈ Recorded.readField options shape := by
  have value
      : symbol ∈ (readValue options shape.kind).symbols
        ↔ symbol ∈ Recorded.readValue options shape.kind :=
    mem_symbols_readValue shape.kind
  unfold readField Recorded.readField
  split
  · simp [readEntry, readNested, readWith]
  · cases shape.isPacked <;> cases shape.repeated <;>
      simp [readPacked, wireTypeRead, readWith, position, value]

@[simp] theorem symbols_seed (name : String) (shapes : List Shape)
    : (seed name shapes).flatMap Stmt.symbols = [] := by
  have seeded (shape : Shape) : (seedField shape).symbols = [] := by
    cases isMap : shape.isMap <;> simp [seedField, isMap]
  rw [seed, List.flatMap_cons, List.flatMap_map]
  simp [seeded, TypeExpr.snippet]

-----------------------------------------------------------------------------------------
-- Objects and JSON
-----------------------------------------------------------------------------------------

section Values

variable (plain : value.symbols = [])
include plain

/-- Taking over a value from JSON mentions the symbols that are recorded for it. -/
theorem mem_symbols_valueFromJson (kind : Kind)
    : symbol ∈ (valueFromJson options kind value).symbols
      ↔ symbol ∈ Recorded.valueFromJson options kind := by
  cases kind <;> simp [valueFromJson, Recorded.valueFromJson, plain]

/-- Taking over a value from a partial message mentions the symbols that are recorded for
it.
-/
theorem mem_symbols_valueFromPartial (kind : Kind)
    : symbol ∈ (valueFromPartial options kind value).symbols
      ↔ symbol ∈ Recorded.valueFromPartial options kind := by
  cases kind with
  | scalar scalar =>
      cases object : isLongObject options scalar <;>
        simp [valueFromPartial, Recorded.valueFromPartial, longRecorded, object, plain,
          TypeExpr.recorded]
  | _ => simp [valueFromPartial, Recorded.valueFromPartial, plain]

/-- Giving out a value mentions the symbols that are recorded for it. The kinds are the
cases, together with whether the value may be missing.
-/
theorem mem_symbols_valueToJson (presence : Presence) (kind : Kind)
    : symbol ∈ (valueToJson options presence kind value).symbols
      ↔ symbol ∈ Recorded.valueToJson options presence kind := by
  cases kind with
  | scalar scalar =>
      cases presence <;> cases object : isLongObject options scalar <;>
        simp [valueToJson, scalarToJson, Recorded.valueToJson, longRecorded, object, plain,
          valueIf, isDefined, decimalString]
  | enumeration symbol =>
      cases presence <;>
        simp [valueToJson, Recorded.valueToJson, plain, valueIf, isDefined]
  | _ => simp [valueToJson, Recorded.valueToJson, plain, valueIf, isDefined]

end Values

/-- Taking over a field from JSON records what its values need, and what its default does
where an absent field is given that. Keys of maps and tests need nothing.
-/
theorem mem_symbols_takeFromJson (options : Options) (shape : Shape) (symbol : Symbol)
    : symbol ∈ (FromJson.takeField options shape).symbols
      ↔ symbol ∈ Recorded.takeFromJson options shape := by
  have key (scalar : Scalar) : (FromJson.mapKey options scalar).symbols = [] := by
    cases numeric : hasNumericKey options scalar <;> simp [FromJson.mapKey, numeric]
  have given : (FromJson.isGiven shape).symbols = [] := by simp [FromJson.isGiven]
  have taken
      : symbol ∈ (FromJson.takeGiven options shape).symbols
        ↔ symbol ∈ Recorded.takeGivenFromJson options shape := by
    unfold FromJson.takeGiven Recorded.takeGivenFromJson
    split
    · simp [key, mem_symbols_valueFromJson]
    · cases shape.repeated <;> simp [mem_symbols_valueFromJson]
  rw [Recorded.takeFromJson, List.mem_append, ← taken]
  cases repeated : shape.repeated <;> cases inOneof : shape.inOneof <;>
    simp [FromJson.takeField, FromJson.missingValue, given, repeated, inOneof]

/-- Taking over a field of a partial message records what its values need, and what its
default does where an absent field is given that. Keys of maps and tests need nothing.
-/
theorem mem_symbols_takeFromPartial (options : Options) (shape : Shape) (symbol : Symbol)
    : symbol ∈ (FromPartial.takeField options shape).symbols
      ↔ symbol ∈ Recorded.takeFromPartial options shape := by
  have key (scalar : Scalar) : (FromPartial.mapKey options scalar).symbols = [] := by
    cases numeric : hasNumericKey options scalar <;> simp [FromPartial.mapKey, numeric]
  have given : (FromPartial.isGiven shape).symbols = [] := by simp [FromPartial.isGiven]
  have taken
      : symbol ∈ (FromPartial.takeGiven options shape).symbols
        ↔ symbol ∈ Recorded.takeGivenFromPartial options shape := by
    unfold FromPartial.takeGiven Recorded.takeGivenFromPartial
    split
    · simp [key, mem_symbols_valueFromPartial]
    · cases shape.repeated <;> simp [mem_symbols_valueFromPartial]
  rw [Recorded.takeFromPartial, List.mem_append, ← taken]
  cases repeated : shape.repeated <;> cases inOneof : shape.inOneof <;>
    simp [FromPartial.takeField, FromPartial.missingValue, given, repeated, inOneof]

/-- Giving the JSON object a field records what its values need. -/
theorem mem_symbols_giveField (options : Options) (shape : Shape) (symbol : Symbol)
    : symbol ∈ (giveField options shape).flatMap Stmt.symbols
      ↔ symbol ∈ Recorded.giveField options shape := by
  unfold giveField Recorded.giveField
  split
  · simp [giveMap, mem_symbols_valueToJson]
  · cases shape.repeated <;> simp [giveList, mem_symbols_valueToJson]

-----------------------------------------------------------------------------------------
-- Functions and items
-----------------------------------------------------------------------------------------

/-- Lists that are made piece by piece have the same symbols if their pieces have. -/
theorem mem_flatMap_congr {α : Type} (items : List α) {left right : α → List Symbol}
    (each : ∀ item, symbol ∈ left item ↔ symbol ∈ right item)
    : symbol ∈ items.flatMap left ↔ symbol ∈ items.flatMap right := by
  simp only [List.mem_flatMap, each]

variable (options : Options) (name : String) (shapes : List Shape)

/-- For writing a message just the symbols are recorded that it mentions. The writer
stands in the default value of a parameter.
-/
theorem recordsMentions_encode
    : (encode options name shapes).RecordsMentions where
  defaults := by simp [encode, Code.RecordsMentions]
  body symbol := by
    have fields :=
      mem_flatMap_congr shapes (fun shape => mem_symbols_writeField options shape symbol)
    simpa [encode, encodeBody, List.flatMap_map] using fields.symm

/-- For reading a message just the symbols are recorded that it mentions, field by field.
-/
theorem recordsMentions_decode
    : (decode options name shapes).RecordsMentions where
  defaults := by simp [decode]
  body symbol := by
    have fields :=
      mem_flatMap_congr shapes (fun shape => mem_symbols_readField options shape symbol)
    have sections
        : symbol ∈ (shapes.map (readSection options)).flatMap Section.symbols
          ↔ symbol ∈ shapes.flatMap (Recorded.readField options) := by
      rw [← fields]
      simp [readSection, List.flatMap_map]
    simp [decode, decodeBody, sections, skipSection, wireTypeRead, readWith, position,
      -List.mem_flatMap]

/-- For making a message from JSON just the symbols are recorded that it mentions, field
by field.
-/
theorem recordsMentions_fromJson
    : (fromJson options name shapes).RecordsMentions where
  defaults := by simp [fromJson]
  body symbol := by
    have fields :=
      mem_flatMap_congr shapes (fun shape => mem_symbols_takeFromJson options shape symbol)
    simpa [fromJson, FromJson.body, List.flatMap_map, -List.mem_flatMap] using fields.symm

/-- For making a message from a partial one just the symbols are recorded that it
mentions, field by field.
-/
theorem recordsMentions_fromPartial
    : (fromPartial options name shapes).RecordsMentions where
  defaults := by simp [fromPartial]
  body symbol := by
    have fields :=
      mem_flatMap_congr shapes (fun shape => mem_symbols_takeFromPartial options shape symbol)
    simpa [fromPartial, FromPartial.body, List.flatMap_map, -List.mem_flatMap] using fields.symm

/-- For giving out a message just the symbols are recorded that it mentions, field by
field.
-/
theorem recordsMentions_toJson
    : (toJson options name shapes).RecordsMentions where
  defaults := by simp [toJson]
  body symbol := by
    have fields :=
      mem_flatMap_congr shapes (fun shape => mem_symbols_giveField options shape symbol)
    simpa [toJson, toJsonBody, List.flatMap_assoc, -List.mem_flatMap] using fields.symm

/-- The codec of a message records what its functions are written with, whichever it has.
Its entries are these functions and nothing else.
-/
theorem recordsMentions_codec
    : (Item.object (codec options name shapes)).RecordsMentions := by
  have functions : ∀ function ∈ codecFunctions options name shapes, function.RecordsMentions := by
    unfold codecFunctions
    rw [List.forall_mem_append]
    constructor
    · split <;> simp [recordsMentions_encode, recordsMentions_decode]
    · split <;>
        simp [recordsMentions_fromJson, recordsMentions_fromPartial, recordsMentions_toJson]
  refine fun symbol => ObjectConst.mem_recorded ?_
  refine (forall_mem_intercalate (by simp [Entry.RecordsMentions])).mpr ?_
  simpa [Entry.RecordsMentions] using functions

end ProtobufTypeScript.Message
