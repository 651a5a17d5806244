import ProtobufTypeScript.Generation
import ProtobufTypeScript.Wire.Record

/-!
Reading requests in the binary format. Of the fields of the descriptor format only those that
matter for generation are kept. A field given twice takes its last value, or merges both if it is a
message; a known field must have the wire type of its declaration. What is unknown, and what holds
a message, takes some allowance for nesting.
-/

namespace ProtobufTypeScript.Wire

open Schema

/-- How the value of a known field changes what has been read so far. -/
abbrev Reader (α : Type) := Value → α → Option α

/-- The known fields of a kind of message, by number. -/
abbrev Known (α : Type) := Nat → Option (Reader α)

/-- Changes what has been read so far by one value; an unknown field changes nothing. -/
def readInto {α : Type} (allowance : Nat) (known : Known α) (read : α) (entry : Entry)
    : Option α :=
  match known entry.number with
  | some reader => reader entry.value read
  | none => if allowance = 0 then none else some read

/-- Merges a message into what has been read so far. -/
def merge {α : Type} (allowance : Nat) (known : Known α) (bytes : Bytes) (read : α) : Option α :=
  (readRecord allowance bytes).bind (fun entries => entries.foldlM (readInto allowance known) read)

namespace Value

/-- The content of a value with a length. -/
def content? : Value → Option Bytes
  | .bytes content => some content
  | _ => none

/-- The integer of a value. -/
def varint? : Value → Option Nat
  | .varint value => some value
  | _ => none

/-- A string, which has to be well formed. -/
def string? (value : Value) : Option String :=
  value.content?.bind (fun content => String.fromUTF8? ⟨content.toArray⟩)

/-- A signed integer, of which the low 32 bits count. -/
def int32? (value : Value) : Option Int32 :=
  value.varint?.map Int32.ofNat

/-- A truth value; every integer but zero is true. -/
def bool? (value : Value) : Option Bool :=
  value.varint?.map (· != 0)

/-- Signed integers, one by one or as a packed run of bytes. -/
def int32s? : Value → Option (List Int32)
  | .bytes content => (readVarints content).map (List.map Int32.ofNat)
  | value => value.int32?.map ([·])
where
  /-- The integers that fill a sequence of bytes. -/
  readVarints (bytes : Bytes) : Option (List Nat) :=
    if bytes.isEmpty then some []
    else
      match _ : readVarint bytes with
      | none => none
      | some (value, rest) => (readVarints rest).map (value :: ·)
  termination_by bytes.length
  decreasing_by exact length_lt_of_readVarint ‹_›

end Value

/-- A field that holds a string. -/
def stringField {α : Type} (set : String → α → α) : Reader α :=
  fun value read => value.string?.map (fun text => set text read)

/-- A field that holds an integer. -/
def int32Field {α : Type} (set : Int32 → α → α) : Reader α :=
  fun value read => value.int32?.map (fun number => set number read)

/-- A field that holds a truth value. -/
def boolField {α : Type} (set : Bool → α → α) : Reader α :=
  fun value read => value.bool?.map (fun flag => set flag read)

/-- A string that has to be well formed but does not matter. -/
def unusedString {α : Type} : Reader α :=
  stringField (fun _ read => read)

/-- A field that holds a message, which is merged from its bytes with the allowance inside
it.
-/
def messageField {α : Type} (allowance : Nat) (mergeInside : Nat → Bytes → α → Option α)
    : Reader α :=
  fun value read =>
    match allowance with
    | 0 => none
    | inside + 1 => value.content?.bind (fun content => mergeInside inside content read)

/-- A field that holds one of several messages, each of which is read on its own and
added.
-/
def repeatedField {α β : Type} (allowance : Nat) (mergeInside : Nat → Bytes → β → Option β)
    (empty : β) (add : β → α → α)
    : Reader α :=
  messageField allowance fun inside content read =>
    (mergeInside inside content empty).map (fun item => add item read)

/-- The fields of a location of comments. -/
def locationFields : Known Location
  | 1 => some fun value read =>
      value.int32s?.map (fun steps => { read with path := read.path ++ steps })
  | 2 => some fun value read => value.int32s?.map (fun _ => read)
  | 3 => some (stringField fun text read => { read with leading := some text })
  | 4 => some (stringField fun text read => { read with trailing := some text })
  | 6 => some unusedString
  | _ => none

/-- The fields of the source information of a file. -/
def sourceFields (allowance : Nat) : Known File
  | 1 => some
      (repeatedField allowance (fun inside => merge inside locationFields) {}
        fun location file => { file with locations := file.locations ++ [location] })
  | _ => none

/-- The fields of an enum member. -/
def memberFields : Known Member
  | 1 => some (stringField fun text read => { read with name := text })
  | 2 => some (int32Field fun number read => { read with number })
  | _ => none

/-- The fields of an enum. -/
def enumFields (allowance : Nat) : Known Enumeration
  | 1 => some (stringField fun text read => { read with name := some text })
  | 2 => some
      (repeatedField allowance (fun inside => merge inside memberFields) {}
        fun member read => { read with members := read.members ++ [member] })
  | 5 => some unusedString
  | _ => none

/-- The fields of a field. -/
def fieldFields : Known Schema.Field
  | 1 => some (stringField fun text read => { read with name := text })
  | 2 => some unusedString
  | 3 => some (int32Field fun number read => { read with number })
  | 4 => some (int32Field fun number read => { read with label := .ofNumber number })
  | 5 => some (int32Field fun number read => { read with type := .ofNumber number })
  | 6 => some (stringField fun text read => { read with typeName := text })
  | 7 => some unusedString
  | 9 => some (int32Field fun _ read => { read with inOneof := true })
  | 10 => some unusedString
  | 17 => some (boolField fun _ read => read)
  | _ => none

/-- The fields of the options of a message. -/
def messageOptionFields : Known Message
  | 1 => some (boolField fun _ read => read)
  | 2 => some (boolField fun _ read => read)
  | 3 => some (boolField fun _ read => read)
  | 7 => some (boolField fun flag read => { read with mapEntry := flag })
  | _ => none

/-- The fields of a message, given how messages nested in it are merged. -/
def messageFields (allowance : Nat) (mergeNested : Nat → Bytes → Message → Option Message)
    : Known Message
  | 1 => some (stringField fun text read => { read with name := some text })
  | 2 => some
      (repeatedField allowance (fun inside => merge inside fieldFields) {}
        fun field read => { read with fields := read.fields ++ [field] })
  | 3 => some
      (repeatedField allowance mergeNested {}
        fun message read => { read with nested := read.nested ++ [message] })
  | 4 => some
      (repeatedField allowance (fun inside => merge inside (enumFields inside)) {}
        fun enumeration read => { read with enumerations := read.enumerations ++ [enumeration] })
  | 7 => some (messageField allowance fun inside => merge inside messageOptionFields)
  | 10 => some unusedString
  | _ => none

/-- Merges a message of the schema, whose nested messages have less allowance. -/
def mergeMessage : Nat → Bytes → Message → Option Message
  | 0 => merge 0 (messageFields 0 fun _ _ _ => none)
  | inside + 1 =>
      merge (inside + 1) (messageFields (inside + 1) fun _ => mergeMessage inside)

/-- The fields of a method. -/
def methodFields : Known Method
  | 1 => some (stringField fun text read => { read with name := text })
  | 2 => some (stringField fun text read => { read with input := text })
  | 3 => some (stringField fun text read => { read with output := text })
  | 5 => some (boolField fun flag read => { read with clientStreaming := flag })
  | 6 => some (boolField fun flag read => { read with serverStreaming := flag })
  | _ => none

/-- The fields of a service. -/
def serviceFields (allowance : Nat) : Known Schema.Service
  | 1 => some (stringField fun text read => { read with name := text })
  | 2 => some
      (repeatedField allowance (fun inside => merge inside methodFields) {}
        fun method read => { read with methods := read.methods ++ [method] })
  | _ => none

/-- The fields of a file. -/
def fileFields (allowance : Nat) : Known File
  | 1 => some (stringField fun text read => { read with name := text })
  | 2 => some (stringField fun text read => { read with package := text })
  | 3 => some unusedString
  | 4 => some
      (repeatedField allowance mergeMessage {}
        fun message read => { read with messages := read.messages ++ [message] })
  | 5 => some
      (repeatedField allowance (fun inside => merge inside (enumFields inside)) {}
        fun enumeration read => { read with enumerations := read.enumerations ++ [enumeration] })
  | 6 => some
      (repeatedField allowance (fun inside => merge inside (serviceFields inside)) {}
        fun service read => { read with services := read.services ++ [service] })
  | 9 => some (messageField allowance fun inside => merge inside (sourceFields inside))
  | 12 => some unusedString
  | _ => none

/-- The fields of a request. -/
def requestFields (allowance : Nat) : Known Request
  | 1 => some (stringField fun text read => { read with selected := read.selected ++ [text] })
  | 2 => some (stringField fun text read => { read with parameter := text })
  | 15 => some
      (repeatedField allowance (fun inside => merge inside (fileFields inside)) {}
        fun file read => { read with files := read.files ++ [file] })
  | _ => none

/-- How deeply messages and groups may nest in a request. -/
def nestingLimit : Nat := 100

/-- The request that a sequence of bytes holds. -/
def readRequest (bytes : Bytes) : Option Request :=
  merge nestingLimit (requestFields nestingLimit) bytes {}

end ProtobufTypeScript.Wire
