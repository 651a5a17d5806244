import ProtobufTypeScript.Proofs.Message.Skeleton
import ProtobufTypeScript.Proofs.Target.Calculation

/-!
What becomes of unsigned 64-bit integers in JSON, where they are decimal numerals, if messages hold
objects of the library for them. Keys of maps survive. All other values are made without a word on
their sign, so that they survive just if they are small enough to be signed ones too.
-/

namespace ProtobufTypeScript.Message

open ProtobufTypeScript.Field Schema Target

/-- The library of 64-bit integers reads decimal numerals as signed integers, unless it is
told otherwise, and writes them.
-/
structure ReadsDecimals (conversions : Conversions) : Prop where
  fromValue : ∀ n : Nat, conversions.longFromValue (toString n) = Long.wrapped n false
  fromString
    : ∀ (n : Nat) (unsigned : Bool),
        conversions.longFromString (toString n) unsigned = Long.wrapped n unsigned
  toText : ∀ long : Long, conversions.longToString long = toString long.value

/-- Where a place has the text of a number, a value is a 64-bit integer with some
property.
-/
def MakesLong (conversions : Conversions) (number : Nat) (place value : Expr)
    (holds : Long → Prop)
    : Prop :=
  ∀ functions env,
    place.computed? conversions functions env = some (.text (toString number))
    → ∃ long : Long,
        value.computed? conversions functions env = some long.object ∧ holds long

/-- Whether values of a kind are unsigned 64-bit integers. -/
def holdsUnsignedLongs : Kind → Bool
  | .scalar scalar => scalar.isUnsignedLong
  | _ => false

/-- What becomes of the text of an unsigned number in a field, given the statements that
take the field from JSON and that write it.
-/
structure PassesUnsigned (conversions : Conversions) (number : Nat) (shape : Shape)
    (take write : Stmt)
    : Prop where
  values
    : holdsUnsignedLongs (valueKind shape.kind) = true
      → ∃ taken,
          takenValues take = [taken]
          ∧ MakesLong conversions number (valueSource shape) taken
              (fun long =>
                conversions.longToString long = toString number ↔ number < 2 ^ 63)
  keys
    : ∀ entry key value,
        shape.kind = .map entry key value
        → key.isUnsignedLong = true
        → ∃ name written,
            writtenKey? write = some (name, written)
            ∧ MakesLong conversions number (.name name) written
                (fun long => conversions.longToString long = toString number)

variable {conversions : Conversions} {options : Options} {number : Nat} {shape : Shape}

-----------------------------------------------------------------------------------------
-- 64-bit integers made of texts
-----------------------------------------------------------------------------------------

/-- A number below 2^64 is kept by signed 64-bit integers exactly if it is below 2^63. -/
theorem bmod_eq_self_iff (small : number < 2 ^ 64)
    : (number : Int).bmod (2 ^ 64) = number ↔ number < 2 ^ 63 := by
  rw [Int.bmod_def]
  split <;> omega

/-- A 64-bit integer has the text of a number just if it has its value. -/
theorem longToString_eq_iff (reads : ReadsDecimals conversions) (long : Long)
    : conversions.longToString long = toString number ↔ long.value = number := by
  rw [reads.toText]
  exact ⟨fun same => Text.toString_int_injective same, fun same => congrArg toString same⟩

/-- `Long.fromValue` reads a decimal as a signed integer, so that it is written back the
same exactly if it is below 2^63.
-/
theorem makesLong_fromValue (reads : ReadsDecimals conversions) (small : number < 2 ^ 64)
    (place : Expr)
    : MakesLong conversions number place (.method (.symbol Library.long) "fromValue" [place])
        (fun long => conversions.longToString long = toString number ↔ number < 2 ^ 63) := by
  intro functions env given
  have kept
      : conversions.longToString (Long.wrapped number false) = toString number
        ↔ number < 2 ^ 63 := by
    rw [longToString_eq_iff reads, Long.value_wrapped_signed, bmod_eq_self_iff small]
  refine ⟨Long.wrapped number false, ?_, kept⟩
  rw [← reads.fromValue, Expr.computed?_method, Expr.computedAll?_cons, given]
  rfl

/-- `Long.fromString` with the flag for unsigned integers reads every decimal below 2^64,
and it is written back the same.
-/
theorem makesLong_fromString (reads : ReadsDecimals conversions) (small : number < 2 ^ 64)
    (place : Expr)
    : MakesLong conversions number place
        (.method (.symbol Library.long) "fromString" [place, .name "true"])
        (fun long => conversions.longToString long = toString number) := by
  intro functions env given
  have kept : conversions.longToString (Long.wrapped number true) = toString number := by
    rw [longToString_eq_iff reads, Long.value_wrapped_unsigned]
    exact Int.emod_eq_of_lt (by omega) (by omega)
  refine ⟨Long.wrapped number true, ?_, kept⟩
  rw [← reads.fromString, Expr.computed?_method, Expr.computedAll?_cons, given]
  rfl

-----------------------------------------------------------------------------------------
-- Fields
-----------------------------------------------------------------------------------------

/-- There are two scalars that hold unsigned 64-bit integers. -/
theorem eq_of_isUnsignedLong {scalar : Scalar} (unsigned : scalar.isUnsignedLong = true)
    : scalar = .uint64 ∨ scalar = .fixed64 := by
  cases scalar <;> simp_all [Scalar.isUnsignedLong]

/-- Values that are unsigned 64-bit integers are taken over from JSON without the flag
that says so.
-/
theorem valueFromJson_of_unsigned (form : options.longForm = .long) {kind : Kind}
    (unsigned : holdsUnsignedLongs kind = true) (place : Expr)
    : valueFromJson options kind place = .method (.symbol Library.long) "fromValue" [place] := by
  cases kind with
  | scalar scalar =>
      obtain rfl | rfl := eq_of_isUnsignedLong unsigned <;>
        simp [valueFromJson, scalarFromJson, longFromJson, Scalar.isLong, form]
  | _ => cases unsigned

/-- Keys that are unsigned 64-bit integers are made from texts with the flag that says so.
-/
theorem scalarFromKey_of_unsigned (form : options.longForm = .long) {key : Scalar}
    (unsigned : key.isUnsignedLong = true) (place : Expr)
    : scalarFromKey options key place
      = .method (.symbol Library.long) "fromString" [place, .name "true"] := by
  obtain rfl | rfl := eq_of_isUnsignedLong unsigned <;>
    simp [scalarFromKey, longFromKey, Scalar.isLong, Scalar.isUnsignedLong, form]

/-- A field passes unsigned 64-bit integers as its values and its keys are made, the
former without the flag, the latter with it.
-/
theorem passesUnsigned (reads : ReadsDecimals conversions) (form : options.longForm = .long)
    (small : number < 2 ^ 64) (shape : Shape)
    : PassesUnsigned conversions number shape (takeField options (jsonConversion options) shape)
        (writeField options shape) where
  values unsigned := by
    refine ⟨_, takenValues_takeField, ?_⟩
    change MakesLong conversions number _ (valueFromJson options _ _) _
    rw [valueFromJson_of_unsigned form unsigned]
    exact makesLong_fromValue reads small (valueSource shape)
  keys entry key value map unsigned := by
    refine ⟨_, _, writtenKey?_writeField map, ?_⟩
    rw [scalarFromKey_of_unsigned form unsigned]
    exact makesLong_fromString reads small (.name "key")

/-- Unsigned 64-bit integers that are keys of maps keep their texts. Those in fields,
lists and the values of maps keep theirs exactly if they are less than `2 ^ 63`.
-/
theorem unsigned_longs_survive_iff (reads : ReadsDecimals conversions)
    (form : options.longForm = .long) (small : number < 2 ^ 64) (name : String)
    (shapes : List Shape)
    : ∃ take write : Shape → Stmt,
        (fromJson options name shapes).body.lines
          = Stmt.codeAll (seed name shapes ++ shapes.map take ++ [.result (.name "message")])
        ∧ (encode options name shapes).body.lines
          = Stmt.codeAll (shapes.map write ++ [.result (.name "writer")])
        ∧ ∀ shape ∈ shapes, PassesUnsigned conversions number shape (take shape) (write shape) :=
  ⟨takeField options (jsonConversion options), writeField options,
    lines_fromJson options name shapes, rfl,
    fun shape _ => passesUnsigned reads form small shape⟩

theorem readsDecimals_decimal
    : ReadsDecimals Conversions.decimal where
  fromValue n := congrArg (Long.wrapped · false) (Text.readInt_toString n)
  fromString n unsigned := congrArg (Long.wrapped · unsigned) (Text.readInt_toString n)
  toText _ := rfl

/-- A field with an unsigned 64-bit integer. -/
def balance : Shape :=
  { name := "balance", number := 1, repeated := false, inOneof := false, kind := .scalar .uint64 }

/-- An object with the greatest unsigned 64-bit integer in that field. -/
def greatestBalance : Value :=
  .object [("balance", .text (toString (2 ^ 64 - 1)))]

/-- The greatest unsigned 64-bit integer is lost: it is read as a signed one, and written
as -1.
-/
theorem unsigned_longs_survive_iff_greatest
    : ReadsDecimals Conversions.decimal
      ∧ ({ longForm := .long } : Options).longForm = .long
      ∧ 2 ^ 64 - 1 < 2 ^ 64
      ∧ ∃ take : Shape → Stmt,
          (fromJson { longForm := .long } "Account" [balance]).body.lines
            = Stmt.codeAll
                (seed "Account" [balance] ++ [balance].map take ++ [.result (.name "message")])
          ∧ ∃ taken long,
              takenValues (take balance) = [taken]
              ∧ taken.computed? Conversions.decimal (fun _ _ => none)
                  (Env.set (fun _ => none) "object" greatestBalance)
                = some (Long.object long)
              ∧ Conversions.decimal.longToString long ≠ toString (2 ^ 64 - 1) := by
  have form : ({ longForm := .long } : Options).longForm = .long := rfl
  have small : 2 ^ 64 - 1 < 2 ^ 64 := by decide
  obtain ⟨take, _, taking, _, passes⟩ :=
    unsigned_longs_survive_iff readsDecimals_decimal form small "Account" [balance]
  obtain ⟨taken, isTaken, makes⟩ := (passes balance List.mem_cons_self).values rfl
  have given
      : (valueSource balance).computed? Conversions.decimal (fun _ _ => none)
            (Env.set (fun _ => none) "object" greatestBalance)
        = some (.text (toString (2 ^ 64 - 1))) :=
    rfl
  obtain ⟨long, made, kept⟩ := makes _ _ given
  refine ⟨readsDecimals_decimal, form, small, take, taking, taken, long, isTaken, made, ?_⟩
  exact fun same => absurd (kept.mp same) (by decide)

end ProtobufTypeScript.Message
