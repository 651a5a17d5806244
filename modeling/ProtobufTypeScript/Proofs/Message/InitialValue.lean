import ProtobufTypeScript.Proofs.Message.Execution

/-!
The initial values of fields, and when fields are written. Of all values that the type of a field
allows, `encode` leaves out just the initial one.
-/

namespace ProtobufTypeScript.Message

open ProtobufTypeScript.Field Schema Target

variable {env : Env} {entries : List (String × Value)} {options : Options} {shape : Shape}

-----------------------------------------------------------------------------------------
-- Values of fields
-----------------------------------------------------------------------------------------

/-- The initial value of a field, as it is written. -/
def initial (options : Options) (shape : Shape) : Expr :=
  if shape.repeated then if shape.isMap then .object [] else .list []
  else if shape.inOneof then .undefined
  else shape.kind.default options

/-- The zero of a scalar. -/
def zero (options : Options) (scalar : Scalar) : Value :=
  match scalar with
  | .bool => .boolean false
  | .string => .text ""
  | .bytes => .bytes []
  | _ =>
      if scalar.isLong then
        match options.longForm with
        | .number => .number (.finite 0)
        | .long => .long 0 scalar.isUnsignedLong
        | .string => .text "0"
      else .number (.finite 0)

/-- The initial value of a field. -/
def initialValue (options : Options) (shape : Shape) : Value :=
  if shape.repeated then if shape.isMap then .object [] else .list []
  else if shape.inOneof then .undefined
  else
    match shape.kind with
    | .scalar scalar => zero options scalar
    | .enumeration _ => .number (.finite 0)
    | .map _ _ _ => .object []
    | _ => .undefined

/-- Whether a value is one of a scalar. -/
def HoldsScalar (options : Options) (scalar : Scalar) (value : Value) : Prop :=
  match scalar with
  | .bool => ∃ content, value = .boolean content
  | .string => ∃ content, value = .text content
  | .bytes => ∃ content, value = .bytes content
  | _ =>
      if scalar.isLong then
        match options.longForm with
        | .number => ∃ content, value = .number content
        | .long => ∃ content unsigned, value = .long content unsigned
        | .string => ∃ content, value = .text content
      else ∃ content, value = .number content

/-- Whether a value is one of a wrapped scalar. -/
def HoldsWrapped (scalar : Scalar) (value : Value) : Prop :=
  match scalar with
  | .bool => ∃ content, value = .boolean content
  | .string => ∃ content, value = .text content
  | .bytes => ∃ content, value = .bytes content
  | _ => ∃ content, value = .number content

/-- Whether a value is one of a kind. -/
def HoldsKind (options : Options) (kind : Kind) (value : Value) : Prop :=
  match kind with
  | .scalar scalar => HoldsScalar options scalar value
  | .enumeration _ => ∃ content, value = .number content
  | .timestamp _ => ∃ millis, value = .date millis
  | .wrapper _ scalar => HoldsWrapped scalar value
  | .message _ => ∃ content, value = .object content
  | .map _ _ _ => ∃ content, value = .object content

/-- Whether a value is one that the type of a field allows. -/
def Holds (options : Options) (shape : Shape) (value : Value) : Prop :=
  if shape.isMap then ∃ content, value = .object content
  else if shape.repeated then ∃ elements, value = .list elements
  else
    (shape.inOneof || shape.kind.isMessageLike) = true ∧ value = .undefined
    ∨ HoldsKind options shape.kind value

/-- The default of a scalar evaluates to its zero, in each form of 64-bit integers. -/
theorem value?_scalarDefault {scalar : Scalar}
    : (scalarDefault options scalar).value? env = some (zero options scalar) := by
  unfold scalarDefault zero longDefault
  repeat' split
  all_goals
    simp_all [Expr.value?, Expr.values?, Env.name?, Expr.constructed?, Expr.constant?]

/-- The initial value of a field is what is written for it. Witness: maps and lists,
members of a oneof, and the kinds of single values.
-/
theorem value?_initial
    : (initial options shape).value? env = some (initialValue options shape) := by
  unfold initial initialValue
  split
  · split <;> simp [Expr.value?, Expr.written?]
  · split
    · simp [Expr.undefined, Expr.value?, Env.name?]
    · cases shape.kind with
      | scalar scalar => exact value?_scalarDefault
      | enumeration symbol => simp [Kind.default, Expr.value?]
      | map entry key value => simp [Kind.default, Expr.value?, Expr.written?]
      | _ => simp [Kind.default, Expr.undefined, Expr.value?, Env.name?]

/-- Only a repeated field may be a map. -/
theorem default_eq_initial (maps : shape.isMap = true → shape.repeated = true)
    (outside : shape.repeated = true ∨ shape.inOneof = false)
    : shape.default options = initial options shape := by
  unfold Shape.default initial
  cases repeated : shape.repeated <;> cases inOneof : shape.inOneof <;>
    cases isMap : shape.isMap <;> simp_all

-----------------------------------------------------------------------------------------
-- When a field is written
-----------------------------------------------------------------------------------------

/-- Scalars are compared by what they are, except bytes and 64-bit integers that are
objects. Witness: the type of scalar, with the values it may hold.
-/
theorem not_isReference_of_holdsScalar {scalar : Scalar} {value : Value}
    (notBytes : scalar ≠ .bytes) (notLong : isLongObject options scalar = false)
    (holds : HoldsScalar options scalar value)
    : value.isReference = false := by
  unfold HoldsScalar at holds
  split at holds
  · obtain ⟨content, rfl⟩ := holds
    rfl
  · obtain ⟨content, rfl⟩ := holds
    rfl
  · exact absurd rfl notBytes
  · split at holds
    · split at holds
      · obtain ⟨content, rfl⟩ := holds
        rfl
      · simp_all [isLongObject]
      · obtain ⟨content, rfl⟩ := holds
        rfl
    · obtain ⟨content, rfl⟩ := holds
      rfl

/-- Whether a condition tells a value from another: it fails just if they hold the same.
-/
def TellsApart (env : Env) (condition : Expr) (value other : Value) : Prop :=
  ∃ differs,
    condition.value? env = some (.boolean differs) ∧ (differs = false ↔ value.Same other)

/-- An inequality tells two values apart, unless both are objects, which differ even if
they hold the same.
-/
theorem tellsApart_notEqual {left right : Expr} {value other : Value}
    (first : left.value? env = some value) (second : right.value? env = some other)
    (plain : (value.isReference && other.isReference) = false)
    : TellsApart env (.binary .notEqual left right) value other := by
  obtain ⟨equal, found, same⟩ := Value.strictlyEqual?_eq_some plain
  refine ⟨!equal, ?_, by simpa using same⟩
  simp [Expr.value?, first, second, Value.operated?, found]

/-- A comparison with `undefined` tells whether a field holds anything. -/
theorem tellsApart_undefined (message : env "message" = some (.object entries))
    : TellsApart env (.binary .notEqual (place shape) .undefined)
        (Value.entry entries shape.name) .undefined := by
  refine tellsApart_notEqual (value?_place shape message) ?_ (by simp [Value.isReference])
  simp [Expr.undefined, Expr.value?, Env.name?]

/-- Bytes are told from none by their length. -/
theorem tellsApart_length (message : env "message" = some (.object entries))
    {content : List UInt8} (field : Value.entry entries shape.name = .bytes content)
    : TellsApart env (.binary .notEqual (.member (place shape) "length") (.number 0))
        (.bytes content) (.bytes []) := by
  have empty : ((content.length : Rat) = 0) ↔ content = [] := by
    rw [Rat.natCast_eq_zero_iff, List.length_eq_zero_iff]
  refine ⟨!decide (content = []), ?_, by simp [Value.Same]⟩
  simp [Expr.value?, value?_property shape message, field, Value.property?, Value.operated?,
    Value.strictlyEqual?, Number.equals, empty]

/-- A long-integer object is told from zero by its own method. -/
theorem tellsApart_isZero (message : env "message" = some (.object entries)) {value : Int}
    {unsigned : Bool} (field : Value.entry entries shape.name = .long value unsigned)
    {otherwise : Bool}
    : TellsApart env (.not (.method (place shape) "isZero" [])) (.long value unsigned)
        (.long 0 otherwise) := by
  refine ⟨!(value == 0), ?_, by simp [Value.Same]⟩
  simp [Expr.method, Expr.value?, Expr.values?, value?_place shape message, field, Expr.invoked?,
    Value.negated?]

/-- The condition of a scalar fails for its zero alone. Bytes are told by their length,
objects for 64-bit integers by their method, and all others by comparison.
-/
theorem tellsApart_scalar {scalar : Scalar} (message : env "message" = some (.object entries))
    (kind : shape.kind = .scalar scalar) (single : shape.repeated = false)
    (outside : shape.inOneof = false)
    (holds : HoldsScalar options scalar (Value.entry entries shape.name))
    : TellsApart env (writeCondition options shape) (Value.entry entries shape.name)
        (zero options scalar) := by
  by_cases isBytes : scalar = .bytes
  · subst isBytes
    have condition
        : writeCondition options shape
          = .binary .notEqual (.member (place shape) "length") (.number 0) := by
      simp [writeCondition, Shape.differsFromDefault?, single, outside, kind]
    obtain ⟨content, field⟩ := holds
    rw [condition, field]
    exact tellsApart_length message field
  by_cases isLong : isLongObject options scalar = true
  · have condition
        : writeCondition options shape = .not (.method (place shape) "isZero" []) := by
      simp [writeCondition, Shape.differsFromDefault?, single, outside, kind, isLong]
    obtain ⟨wide, form⟩ := Bool.and_eq_true_iff.mp isLong
    have form : options.longForm = .long := by simpa using form
    have start : zero options scalar = .long 0 scalar.isUnsignedLong := by
      cases scalar <;> simp_all [zero, Scalar.isLong]
    obtain ⟨value, unsigned, field⟩
        : ∃ value unsigned, Value.entry entries shape.name = .long value unsigned := by
      cases scalar <;> simp_all [HoldsScalar, Scalar.isLong]
    rw [condition, field, start]
    exact tellsApart_isZero message field
  · have condition
        : writeCondition options shape
          = .binary .notEqual (place shape) (scalarDefault options scalar) := by
      simp [writeCondition, Shape.differsFromDefault?, single, outside, kind, isLong]
    rw [condition]
    refine tellsApart_notEqual (value?_place shape message) value?_scalarDefault ?_
    rw [not_isReference_of_holdsScalar isBytes (by simpa using isLong) holds, Bool.false_and]

/-- The condition of a single value fails for the initial value alone. Witness: members of
a oneof and kinds without a zero, which start out as `undefined`, and then scalars and
enums.
-/
theorem tellsApart_writeCondition (message : env "message" = some (.object entries))
    (single : shape.repeated = false) (notMap : shape.isMap = false)
    (holds : Holds options shape (Value.entry entries shape.name))
    : TellsApart env (writeCondition options shape) (Value.entry entries shape.name)
        (initialValue options shape) := by
  have absent
      (condition : writeCondition options shape = .binary .notEqual (place shape) .undefined)
      (starts : initialValue options shape = .undefined)
      : TellsApart env (writeCondition options shape) (Value.entry entries shape.name)
          (initialValue options shape) := by
    rw [condition, starts]
    exact tellsApart_undefined message
  cases inOneof : shape.inOneof with
  | true =>
      refine absent ?_ ?_
      · simp [writeCondition, Shape.differsFromDefault?, single, inOneof]
      · simp [initialValue, single, inOneof]
  | false =>
      cases kind : shape.kind with
      | scalar scalar =>
          have held : HoldsScalar options scalar (Value.entry entries shape.name) := by
            simpa [Holds, single, notMap, kind, Kind.isMessageLike, inOneof, HoldsKind] using holds
          have starts : initialValue options shape = zero options scalar := by
            simp [initialValue, single, inOneof, kind]
          rw [starts]
          exact tellsApart_scalar message kind single inOneof held
      | enumeration symbol =>
          obtain ⟨content, field⟩
              : ∃ content, Value.entry entries shape.name = .number content := by
            simpa [Holds, single, notMap, kind, Kind.isMessageLike, inOneof, HoldsKind] using holds
          have starts : initialValue options shape = .number (.finite 0) := by
            simp [initialValue, single, inOneof, kind]
          have condition
              : writeCondition options shape = .binary .notEqual (place shape) (.number 0) := by
            simp [writeCondition, Shape.differsFromDefault?, single, inOneof, kind]
          rw [condition, starts]
          exact tellsApart_notEqual (value?_place shape message) (by simp [Expr.value?])
            (by simp [field, Value.isReference])
      | map entry key value => simp [Shape.isMap, kind, Kind.isMap] at notMap
      | _ =>
          refine absent ?_ ?_
          · simp [writeCondition, Shape.differsFromDefault?, single, inOneof, kind]
          · simp [initialValue, single, inOneof, kind]

/-- Whether a statement writes a field unless it has its initial value. -/
def SkipsInitial (options : Options) (shape : Shape) (statement : Stmt) : Prop :=
  ∀ env entries,
    env "message" = some (.object entries)
    → Holds options shape (Value.entry entries shape.name)
    → ∃ steps,
        performed? env statement = some steps
        ∧ (steps = [] ↔ (Value.entry entries shape.name).Same (initialValue options shape))

/-- `encode` writes a field unless it has its initial value. Witness: maps and lists,
which are empty then, and the condition of single values.
-/
theorem skipsInitial_writeField (maps : shape.isMap = true → shape.repeated = true)
    : SkipsInitial options shape (writeField options shape) := by
  intro env entries message holds
  unfold writeField
  split
  · rename_i symbol key value kind
    have isMap : shape.isMap = true := by simp [Shape.isMap, kind, Kind.isMap]
    obtain ⟨content, field⟩ : ∃ content, Value.entry entries shape.name = .object content := by
      simpa [Holds, isMap] using holds
    refine ⟨_, performed?_writeMap message field, ?_⟩
    cases content <;> simp [field, initialValue, maps isMap, isMap, Value.Same]
  · rename_i notMap
    have isMap : shape.isMap = false := isMap_eq_false notMap
    split
    · rename_i repeated
      obtain ⟨elements, field⟩ : ∃ elements, Value.entry entries shape.name = .list elements := by
        simpa [Holds, isMap, repeated] using holds
      have starts : initialValue options shape = .list [] := by
        simp [initialValue, repeated, isMap]
      rw [field, starts]
      split
      · refine ⟨_, performed?_writePacked message field, ?_⟩
        cases elements <;> simp [Value.Same]
      · refine ⟨_, performed?_writeEach message field, ?_⟩
        cases elements <;> simp [Value.Same]
    · rename_i single
      obtain ⟨isWritten, condition, skips⟩ :=
        tellsApart_writeCondition message (by simpa using single) isMap holds
      refine ⟨_, performed?_writeSingle condition, ?_⟩
      rw [← skips]
      cases isWritten <;> simp

end ProtobufTypeScript.Message
