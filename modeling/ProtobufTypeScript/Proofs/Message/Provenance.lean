import ProtobufTypeScript.Proofs.Message.Transfer

/-!
Where values come from. What `encode` hands to the writer for a field is made from what the message
holds in that field, and what `decode` stores in a field is made from the value that was read for
it.
-/

namespace ProtobufTypeScript.Message

open ProtobufTypeScript.Field Schema Target

-----------------------------------------------------------------------------------------
-- Conversions
-----------------------------------------------------------------------------------------

/-- Whether an expression names a function: a known one, an import, or a member of an
import.
-/
def isFunctionName : Expr → Bool
  | .name _ => true
  | .symbol _ => true
  | .member (.symbol _) _ => true
  | _ => false

/-- Whether an expression is another one that is carried through conversions, one after
the other. None of them brings in a second value: besides what is converted there are only
words and texts.
-/
inductive IsMadeFrom (source : Expr) : Expr → Prop
  | itself
    : IsMadeFrom source source
  | cast {value : Expr} (type : TypeExpr) (made : IsMadeFrom source value)
    : IsMadeFrom source (.cast value type)
  | present {value : Expr} (made : IsMadeFrom source value)
    : IsMadeFrom source (.present value)
  | part {value : Expr} (property : String) (made : IsMadeFrom source value)
    : IsMadeFrom source (.member value property)
  | wrapped {value : Expr} (property : String) (made : IsMadeFrom source value)
    : IsMadeFrom source (.object [.keyed property value])
  | converted {value : Expr} (function : Expr) (flags : List String)
    (named : isFunctionName function = true) (made : IsMadeFrom source value)
    : IsMadeFrom source (.call function (value :: flags.map .name))
  | compared {value : Expr} (text : String) (made : IsMadeFrom source value)
    : IsMadeFrom source (.binary .equal value (.quoted text))

/-- The key of an entry is made from the text that an object has for it, as it is or
through a conversion.
-/
theorem scalarFromKey_made (options : Options) (scalar : Scalar) (key : Expr)
    : IsMadeFrom key (scalarFromKey options scalar key) := by
  have number : IsMadeFrom key (converted "Number" key) := .converted _ [] rfl .itself
  have long (unsigned : Bool) : IsMadeFrom key (longFromKey options unsigned key) := by
    unfold longFromKey
    split
    · exact number
    · exact .itself
    · cases unsigned with
      | true => exact .converted _ ["true"] rfl .itself
      | false => exact .converted _ [] rfl .itself
  unfold scalarFromKey
  split
  · exact .itself
  · exact .compared _ .itself
  · split
    · exact long _
    · exact number

-----------------------------------------------------------------------------------------
-- Written values
-----------------------------------------------------------------------------------------

/-- The value that a statement itself hands to the writer: the argument of a method, or
the nested message.
-/
def writtenValue? : Stmt → Option Expr
  | .expression
      (.call (.member (.call (.member (.symbol _) "encode") [value, _]) "ldelim") []) =>
      some value
  | .expression (.call (.member _ _) [value]) => some value
  | _ => none

/-- How the value travels that a step writes, if it writes one. -/
def WriteStep.transfer? : WriteStep → Option Transfer
  | .value _ transfer => some transfer
  | .bare transfer => some transfer
  | .openRun _ => none
  | .closeRun => none

/-- Whether a value in a part of a statement is one that the message holds in a field: the
whole of it, an element in a loop over the field, or an entry in a callback for the
entries of the field.
-/
inductive IsValueOf (statement part : Stmt) (field : String) : Expr → Prop
  | whole {value : Expr} (made : IsMadeFrom (.member (.name "message") field) value)
    : IsValueOf statement part field value
  | element {value : Expr} (name : String) (body : List Stmt)
    (loop : .each name (.member (.name "message") field) body ∈ statement.parts)
    (inside : part ∈ Stmt.partsAll body) (made : IsMadeFrom (.name name) value)
    : IsValueOf statement part field value
  | entry {key : Expr} (name : String) (body : List Stmt)
    (callback
      : .callback none
          (.member (.method (.name "Object") "entries" [.member (.name "message") field]) "forEach")
          [] false [.pair name "value"] body
        ∈ statement.parts)
    (inside : part ∈ Stmt.partsAll body) (made : IsMadeFrom (.name name) key)
    : IsValueOf statement part field (.object [.keyed "key" key, .name "value"])

/-- Whether all that a statement has the writer write as values is what a field holds. -/
def WritesValuesOf (statement : Stmt) (field : String) : Prop :=
  ∀ part ∈ statement.parts, ∀ step,
    writeStep? part = some step
    → step.transfer?.isSome
    → ∃ value, writtenValue? part = some value ∧ IsValueOf statement part field value

/-- A value is handed on as it is, as a date turned into a message, or inside a message.
-/
theorem exists_writtenValue (kind : Kind) (tag : UInt32) {source value : Expr}
    (made : IsMadeFrom source value)
    : ∃ written,
        writtenValue? (.expression (writeValue kind tag value)) = some written
        ∧ IsMadeFrom source written := by
  cases kind with
  | timestamp symbol => exact ⟨_, rfl, .converted _ [] rfl made⟩
  | wrapper symbol scalar => exact ⟨_, rfl, .wrapped _ (.present made)⟩
  | _ => exact ⟨_, rfl, made⟩

/-- A statement around a single one that writes has the values of that one. -/
theorem writesValuesOf_of_parts {statement inner : Stmt} {field : String} {value : Expr}
    (parts : statement.parts = [statement, inner]) (silent : writeStep? statement = none)
    (written : writtenValue? inner = some value) (held : IsValueOf statement inner field value)
    : WritesValuesOf statement field := by
  intro part inside step found _
  rw [parts, List.mem_cons, List.mem_singleton] at inside
  rcases inside with rfl | rfl
  · rw [silent] at found
    cases found
  · exact ⟨value, written, held⟩

/-- The entries that are written for a map are those of the field. -/
theorem writeMap_values (options : Options) (shape : Shape) (entry : Symbol) (key : Scalar)
    : WritesValuesOf (writeMap options shape entry key) shape.name := by
  refine writesValuesOf_of_parts rfl rfl rfl ?_
  exact .entry "key" _ (List.mem_cons_self ..) (List.mem_cons_self ..)
    (scalarFromKey_made options key _)

/-- The values of a run are the elements of the field. Besides the loop over the field
nothing is written but where the run starts and ends.
-/
theorem writePacked_values (shape : Shape) (method : String)
    : WritesValuesOf (writePacked shape method) shape.name := by
  intro part inside step found writes
  -- Besides the loop over the field the statement only opens and closes the run.
  let write : Stmt := .expression (.method (.name "writer") method [.name "v"])
  let loop : Stmt := .each "v" (place shape) [write]
  have parts
      : (writePacked shape method).parts
        = [
            writePacked shape method,
            .expression (.method (writeTag shape.packedTag) "fork" []),
            loop,
            write,
            .expression (.method (.name "writer") "ldelim" [])
          ] :=
    rfl
  have loopInside : loop ∈ (writePacked shape method).parts := by simp [parts]
  rw [parts] at inside
  simp only [List.mem_cons, List.not_mem_nil, or_false] at inside
  rcases inside with rfl | rfl | rfl | rfl | rfl
  · cases found
  · cases found
    cases writes
  · cases found
  · exact ⟨.name "v", rfl, .element "v" _ loopInside (List.mem_cons_self ..) .itself⟩
  · cases found
    cases writes

/-- The values that are written one by one are the elements of the field. -/
theorem writeEach_values (shape : Shape)
    : WritesValuesOf (writeEach shape) shape.name := by
  have element : IsMadeFrom (.name "v") (.present (.name "v")) := .present .itself
  obtain ⟨written, some, made⟩ := exists_writtenValue shape.kind shape.tag element
  exact writesValuesOf_of_parts rfl rfl some
    (.element "v" _ (List.mem_cons_self ..) (List.mem_cons_self ..) made)

/-- The value that is written on its own is that of the field. -/
theorem writeSingle_values (options : Options) (shape : Shape)
    : WritesValuesOf (writeSingle options shape) shape.name := by
  have whole : IsMadeFrom (place shape) (place shape) := .itself
  obtain ⟨written, some, made⟩ := exists_writtenValue shape.kind shape.tag whole
  exact writesValuesOf_of_parts rfl rfl some (.whole made)

-----------------------------------------------------------------------------------------
-- Stored values
-----------------------------------------------------------------------------------------

/-- How the value travels that a call itself reads. -/
def read? : Expr → Option Transfer
  | .call callee arguments => transferOf? arguments callee
  | _ => none

/-- What a statement stores in a field: a value, or an entry under a key. -/
inductive Kept where
  | value (content : Expr)
  | entry (key content : Expr)

/-- What a statement itself stores in a field of the message. -/
def kept? : Stmt → Option Kept
  | .assign (.element (.member (.name "message") _) key) content => some (.entry key content)
  | .assign (.member (.name "message") _) content => some (.value content)
  | .expression (.call (.member (.member (.name "message") _) "push") [content]) =>
      some (.value content)
  | _ => none

/-- Whether what is stored is made from a value that was read in a given way. A value is
made from what is read on the spot; the key and the value of an entry are those of a
constant that holds the message read.
-/
inductive Kept.IsRead (statements : List Stmt) (transfer : Transfer) : Kept → Prop
  | value {content : Expr} (read : Expr) (reads : read? read = some transfer)
    (made : IsMadeFrom read content)
    : IsRead statements transfer (.value content)
  | entry (constant : String) (type : Option TypeExpr) (read : Expr)
    (reads : read? read = some transfer)
    (declared : .const constant type read ∈ Stmt.partsAll statements)
    : IsRead statements transfer
        (.entry (.member (.name constant) "key") (.member (.name constant) "value"))

/-- Whether all that statements store in fields was read in a given way. -/
def StoresOnlyRead (statements : List Stmt) (transfer : Transfer) : Prop :=
  ∀ part ∈ Stmt.partsAll statements, ∀ field,
    storedField? part = some field
    → ∃ kept, kept? part = some kept ∧ kept.IsRead statements transfer

/-- A 64-bit integer in any form is made from the one that was read. The forms are the
cases.
-/
theorem readLong_made (options : Options) (scalar : Scalar)
    : IsMadeFrom (readWith scalar.keyword) (readLong options scalar) := by
  have raw
      : IsMadeFrom (readWith scalar.keyword)
          (.cast (readWith scalar.keyword) (.symbol Library.long)) :=
    .cast _ .itself
  rcases options with ⟨_, _, form, _, _, _⟩
  cases form with
  | long => exact raw
  | number => exact .converted _ [] rfl raw
  | string => exact .converted _ [] rfl raw

/-- The value of a kind is made from a call that reads it the way its kind travels. The
kinds are the cases.
-/
theorem readValue_made (options : Options) (kind : Kind)
    : ∃ read, read? read = some (transferOf kind) ∧ IsMadeFrom read (readValue options kind) := by
  cases kind with
  | scalar scalar =>
      refine ⟨readWith scalar.keyword, rfl, ?_⟩
      simp only [readValue]
      split
      · exact readLong_made options scalar
      · exact .itself
  | enumeration symbol =>
      refine ⟨readWith "int32", rfl, ?_⟩
      simp only [readValue]
      split
      · exact .converted _ [] rfl .itself
      · exact .cast _ .itself
  | wrapper symbol scalar => exact ⟨readNested symbol, rfl, .part _ .itself⟩
  | timestamp symbol => exact ⟨readNested symbol, rfl, .converted _ [] rfl .itself⟩
  | message symbol => exact ⟨readNested symbol, rfl, .itself⟩
  | map entry key value => exact ⟨readNested entry, rfl, .itself⟩

/-- An entry of a map is kept with the key and the value of the message that was read.
Nothing else is stored by the statements of the section.
-/
theorem readEntry_stores (shape : Shape) (entry : Symbol)
    : StoresOnlyRead (readEntry shape entry) (.nested entry) := by
  intro part inside field found
  let read : Expr := .name (entryName shape)
  let keep : Stmt := .assign (.element (place shape) (.member read "key")) (.member read "value")
  have declared
      : .const (entryName shape) none (readNested entry)
        ∈ Stmt.partsAll (readEntry shape entry) :=
    List.mem_cons_self ..
  have parts : Stmt.partsAll (readEntry shape entry) = readEntry shape entry ++ [keep] := rfl
  rw [parts, readEntry] at inside
  simp only [List.cons_append, List.nil_append, List.mem_cons, List.not_mem_nil, or_false]
    at inside
  rcases inside with rfl | rfl | rfl
  · cases found
  · cases found
  · exact ⟨_, rfl, .entry (entryName shape) none _ rfl declared⟩

/-- Statements that store nothing but the value of a kind, on a list or by itself. -/
theorem storesOnlyRead_of_value (options : Options) {kind : Kind} {statements : List Stmt}
    (each
      : ∀ part ∈ Stmt.partsAll statements,
          storedField? part = none ∨ kept? part = some (.value (readValue options kind)))
    : StoresOnlyRead statements (transferOf kind) := by
  intro part inside field found
  obtain ⟨read, reads, made⟩ := readValue_made options kind
  rcases each part inside with none | some
  · rw [none] at found
    cases found
  · exact ⟨_, some, .value read reads made⟩

/-- The statement that pushes a value on the list of a field. -/
def pushValue (options : Options) (shape : Shape) : Stmt :=
  .expression (.method (place shape) "push" [readValue options shape.kind])

/-- Of a list, elements are stored that were read, in a run or one by one: both branches
push values that were made in one way.
-/
theorem readPacked_stores (options : Options) (shape : Shape)
    : StoresOnlyRead [readPacked (pushValue options shape)] (transferOf shape.kind) := by
  refine storesOnlyRead_of_value options (fun part inside => ?_)
  -- The branch, the end of the run and the loop store nothing; either way there is one push.
  change part ∈ [_, _, _, pushValue options shape, pushValue options shape] at inside
  simp only [List.mem_cons, List.not_mem_nil, or_false] at inside
  rcases inside with rfl | rfl | rfl | rfl | rfl
  · exact .inl rfl
  · exact .inl rfl
  · exact .inl rfl
  · exact .inr rfl
  · exact .inr rfl

/-- A list that is read value by value stores what is read. -/
theorem pushValue_stores (options : Options) (shape : Shape)
    : StoresOnlyRead [pushValue options shape] (transferOf shape.kind) :=
  storesOnlyRead_of_value options (List.forall_mem_singleton.mpr (.inr rfl))

/-- A single field stores what is read. -/
theorem assignValue_stores (options : Options) (shape : Shape)
    : StoresOnlyRead [.assign (place shape) (readValue options shape.kind)]
        (transferOf shape.kind) :=
  storesOnlyRead_of_value options (List.forall_mem_singleton.mpr (.inr rfl))

end ProtobufTypeScript.Message
