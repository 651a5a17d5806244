import ProtobufTypeScript.Helper.Declaration
import ProtobufTypeScript.Proofs.Target.Calculation

/-!
What the helpers do that take dates to timestamps and back, in every form of 64-bit integers. No
millisecond is lost on the way; but seconds are rounded towards zero, so that a date before 1970
leaves nanoseconds below zero, unless it is a whole number of seconds away.
-/

namespace ProtobufTypeScript.Helper

open Target

/-- Conversions keep an integer: it can be read again in both forms of 64-bit integers
that are not numbers.
-/
structure Keeps (conversions : Conversions) (value : Int) : Prop where
  long : conversions.longToNumber (conversions.longFromNumber value) = value
  text : conversions.numberFromString (conversions.numberToString value) = value

/-- An integer in a form of 64-bit integers. -/
def inForm (conversions : Conversions) (value : Int) : LongForm → Value
  | .number => .number (.finite value)
  | .long => (conversions.longFromNumber value).object
  | .string => .text (conversions.numberToString value)

/-- What a call of the helper gives that makes 64-bit integers of numbers. -/
def madeLong? (conversions : Conversions) (function : Symbol) : List Value → Option Value :=
  if function = numberToLong.symbol then
    Stmt.applied? conversions (fun _ _ => none) "number" numberToLongBody
  else fun _ => none

/-- A timestamp as an object. -/
def timestampOf (seconds nanos : Value) : Value :=
  .object [("seconds", seconds), ("nanos", nanos)]

variable {conversions : Conversions} {functions : Symbol → List Value → Option Value}
  {options : Options} {env : Env} {millis seconds : Int}

theorem madeLong?_number (value : Rat)
    : madeLong? conversions numberToLong.symbol [.number (.finite value)]
      = some (conversions.longFromNumber value).object :=
  rfl

/-- The seconds are read back from any of the forms that they may be handed on in. The
forms are the cases; two of them rest on the conversions.
-/
theorem number?_inForm (keeps : Keeps conversions seconds) (form : LongForm)
    : conversions.number? (inForm conversions seconds form) = some (seconds : Rat) := by
  cases form with
  | number => rfl
  | long => exact congrArg some keeps.long
  | string => exact congrArg some keeps.text

-----------------------------------------------------------------------------------------
-- From dates
-----------------------------------------------------------------------------------------

section Dates

variable (date : env "date" = some (.date (.finite millis)))

include date

/-- Whole seconds are the milliseconds divided by 1000, rounded towards zero. -/
theorem computed?_wholeSeconds
    : wholeSeconds.computed? conversions functions env
      = some (.number (.finite (millis.tdiv 1000 : Int))) := by
  have whole : truncated ((millis : Rat) / 1000) = millis.tdiv 1000 :=
    truncated_div millis (by decide : 0 < 1000)
  simp [wholeSeconds, dateMillis, Env.name?, date, Value.calculated?, Conversions.static?,
    Conversions.method?, whole]

/-- The seconds of a date are computed in the form chosen for 64-bit integers, from the
whole seconds, which are a number.
-/
theorem computed?_secondsOfDate
    : (secondsOfDate options).computed? conversions (madeLong? conversions) env
      = some (inForm conversions (millis.tdiv 1000) options.longForm) := by
  unfold secondsOfDate
  cases options.longForm with
  | number => exact computed?_wholeSeconds date
  | long => simp [computed?_wholeSeconds date, madeLong?_number, inForm]
  | string =>
      have plain : conversions.static? wholeSeconds "toString" [] = none := rfl
      simp [computed?_wholeSeconds date, plain, Conversions.method?, inForm]

/-- The nanoseconds of a date are the milliseconds that are left after whole seconds, with
the sign of the date. This is where times before 1970 go wrong.
-/
theorem computed?_nanosOfDate
    : nanosOfDate.computed? conversions functions env
      = some (.number (.finite (millis.tmod 1000 * 1000000 : Int))) := by
  have rest : (millis : Rat) - truncated (millis / 1000) * 1000 = millis.tmod 1000 :=
    sub_truncated_mul millis (by decide : 0 < 1000)
  simp [nanosOfDate, dateMillis, Env.name?, date, Value.calculated?, Conversions.static?,
    Conversions.method?, rest]

end Dates

/-- A timestamp has the whole seconds of a date, towards zero, and the rest in
nanoseconds. Witness: the two statements in turn, with the variables after each.
-/
theorem applied?_toTimestampBody (conversions : Conversions) (options : Options) (millis : Int)
    : Stmt.applied? conversions (madeLong? conversions) "date" (toTimestampBody options)
        [.date (.finite millis)]
      = some
          (timestampOf (inForm conversions (millis.tdiv 1000) options.longForm)
            (.number (.finite (millis.tmod 1000 * 1000000 : Int)))) := by
  let given := Env.set (fun _ => none) "date" (.date (.finite millis))
  have seconds
      : (secondsOfDate options).computed? conversions (madeLong? conversions) given
        = some (inForm conversions (millis.tdiv 1000) options.longForm) :=
    computed?_secondsOfDate rfl
  have nanos (seconds : Value)
      : nanosOfDate.computed? conversions (madeLong? conversions) (given.set "seconds" seconds)
        = some (.number (.finite (millis.tmod 1000 * 1000000 : Int))) :=
    computed?_nanosOfDate rfl
  rw [Stmt.applied?, toTimestampBody, Stmt.outcome?, seconds, Option.bind_some, Stmt.outcome?,
    nanos]
  rfl

-----------------------------------------------------------------------------------------
-- To dates
-----------------------------------------------------------------------------------------

/-- The seconds of a timestamp are read in the form in which they are written, provided
that conversions keep the number.
-/
theorem computed?_secondsOfTimestamp {nanos : Value} (keeps : Keeps conversions seconds)
    (given : env "t" = some (timestampOf (inForm conversions seconds options.longForm) nanos))
    : (secondsOfTimestamp options).computed? conversions functions env
      = some (.number (.finite seconds)) := by
  have found
      : (Expr.field "t" "seconds").computed? conversions functions env
        = some (inForm conversions seconds options.longForm) := by
    simp [Env.name?, given, timestampOf, Value.property?, Value.entry]
  unfold secondsOfTimestamp
  cases form : options.longForm with
  | number => rw [found, form]; rfl
  | long =>
      rw [form] at found
      have plain : conversions.static? (.field "t" "seconds") "toNumber" [] = none := rfl
      simp [found, plain, inForm, Conversions.method?, Long.object, keeps.long]
  | string =>
      rw [form] at found
      simp [found, inForm, Conversions.applied?, Conversions.number?, keeps.text]

/-- A date has the seconds and the nanoseconds of a timestamp as milliseconds, of which
the nanoseconds may be a fraction.
-/
theorem applied?_fromTimestampBody (keeps : Keeps conversions seconds) (nanos : Rat)
    : Stmt.applied? conversions functions "t" (fromTimestampBody options)
        [timestampOf (inForm conversions seconds options.longForm) (.number (.finite nanos))]
      = some (.date (.finite (seconds * 1000 + nanos / 1000000))) := by
  let given :=
    Env.set (fun _ => none) "t"
      (timestampOf (inForm conversions seconds options.longForm) (.number (.finite nanos)))
  have whole
      : (Expr.binary .times (secondsOfTimestamp options) (.grouped 1000)).computed? conversions
            functions given
        = some (.number (.finite (seconds * 1000))) := by
    rw [Expr.computed?_binary, computed?_secondsOfTimestamp keeps rfl]
    simp [Value.calculated?]
  have more (millis : Rat)
      : (Expr.binary .plus (.name "millis")
            (.binary .divide (.field "t" "nanos") (.grouped 1000000))).computed? conversions
            functions (given.set "millis" (.number (.finite millis)))
        = some (.number (.finite (millis + nanos / 1000000))) := by
    simp [given, Env.name?, Env.set, timestampOf, Value.property?, Value.entry, Value.calculated?]
  rw [Stmt.applied?, fromTimestampBody, Stmt.outcome?, whole, Option.bind_some, Stmt.outcome?,
    more]
  rfl

-----------------------------------------------------------------------------------------
-- There and back
-----------------------------------------------------------------------------------------

/-- A helper is declared, if it can be, as a function of one parameter with some
statements.
-/
def IsFunction (options : Options) (helper : Helper) (parameter : String) (body : List Stmt)
    : Prop :=
  ∀ registry item,
    declaration registry options helper = .ok item
    → ∃ type returns recorded,
        item
        = functionItem helper parameter type returns { lines := Stmt.codeAll body, recorded }

/-- A helper that needs the registered timestamp, and nothing else, is a function, with
the same body whatever the registry.
-/
theorem isFunction_of_timestamp {helper : Helper} {parameter : String} {body : List Stmt}
    {type returns : Symbol → TypeExpr} {recorded : Symbol → List Symbol}
    (declared
      : ∀ registry,
          declaration registry options helper
            = do
                let timestamp ← registry.symbol Field.timestampName
                return functionItem helper parameter (type timestamp) (returns timestamp)
                  { lines := Stmt.codeAll body, recorded := recorded timestamp })
    : IsFunction options helper parameter body := by
  intro registry item isDeclared
  rw [declared] at isDeclared
  cases found : registry.symbol Field.timestampName with
  | error error =>
      rw [found] at isDeclared
      cases isDeclared
  | ok symbol =>
      rw [found] at isDeclared
      cases isDeclared
      exact ⟨_, _, _, rfl⟩

/-- The helper that makes timestamps is a function of the date, whatever symbol the
message has.
-/
theorem isFunction_toTimestamp (options : Options)
    : IsFunction options toTimestamp "date" (toTimestampBody options) :=
  isFunction_of_timestamp (fun _ => rfl)

/-- The helper that makes dates is a function of the timestamp. -/
theorem isFunction_fromTimestamp (options : Options)
    : IsFunction options fromTimestamp "t" (fromTimestampBody options) :=
  isFunction_of_timestamp (fun _ => rfl)

/-- The helper that makes 64-bit integers is a function of the number. -/
theorem isFunction_numberToLong (options : Options)
    : IsFunction options numberToLong "number" numberToLongBody := by
  intro registry item declared
  cases declared
  exact ⟨_, _, _, rfl⟩

/-- What is left of milliseconds beyond whole seconds has their sign. -/
theorem tmod_mul_nonneg_iff (millis : Int)
    : 0 ≤ millis.tmod 1000 * 1000000 ↔ 0 ≤ millis ∨ 1000 ∣ millis := by
  rw [Int.tmod_eq_emod]
  split <;> omega

/-- A date makes a timestamp with seconds and nanoseconds that are its milliseconds
exactly, and that makes the date again. The nanoseconds are less than a second, on both
sides of zero; they are not negative just for dates from 1970 on and for dates a number of
whole seconds before it.
-/
theorem timestamps_exact_iff (options : Options) (conversions : Conversions) (millis : Int)
    (keeps : Keeps conversions (millis.tdiv 1000))
    : ∃ make take : List Stmt,
        IsFunction options toTimestamp "date" make
        ∧ IsFunction options fromTimestamp "t" take
        ∧ IsFunction options numberToLong "number" numberToLongBody
        ∧ ∃ (value : Value) (seconds nanos : Int),
            Stmt.applied? conversions (madeLong? conversions) "date" make
                [.date (.finite millis)]
              = some (timestampOf value (.number (.finite nanos)))
            ∧ value = inForm conversions seconds options.longForm
            ∧ conversions.number? value = some (seconds : Rat)
            ∧ (seconds * 1000 + nanos / 1000000 : Rat) = millis
            ∧ -1000000000 < nanos
            ∧ nanos < 1000000000
            ∧ (0 ≤ nanos ↔ 0 ≤ millis ∨ 1000 ∣ millis)
            ∧ Stmt.applied? conversions (madeLong? conversions) "t" take
                [timestampOf value (.number (.finite nanos))]
              = some (.date (.finite millis)) := by
  have same
      : ((millis.tdiv 1000 : Int) * 1000 + (millis.tmod 1000 * 1000000 : Int) / 1000000 : Rat)
        = millis := by
    have parted := congrArg (Int.cast : Int → Rat) (Int.mul_tdiv_add_tmod millis 1000)
    push_cast at parted ⊢
    linarith
  have above := Int.tmod_lt_of_pos millis (by decide : (0 : Int) < 1000)
  have below := Int.lt_tmod_of_pos millis (by decide : (0 : Int) < 1000)
  refine ⟨_, _, isFunction_toTimestamp options, isFunction_fromTimestamp options,
    isFunction_numberToLong options, _, millis.tdiv 1000, millis.tmod 1000 * 1000000,
    applied?_toTimestampBody conversions options millis, rfl,
    number?_inForm keeps options.longForm, same, by omega, by omega, tmod_mul_nonneg_iff millis,
    ?_⟩
  rw [applied?_fromTimestampBody keeps, same]

/-- Conversions that write and read decimals keep every number in the range of signed
64-bit integers, which is not cut off.
-/
theorem keeps_decimal {value : Int} (least : -2 ^ 63 ≤ value) (most : value ≤ 2 ^ 63 - 1)
    : Keeps Conversions.decimal value where
  long := by
    have inside : max (-2 ^ 63) (min (truncated value) (2 ^ 63 - 1)) = value := by
      rw [truncated_intCast]
      omega
    exact congrArg Int.cast inside
  text := by
    have read : Text.readInt (toString (truncated value)) = value := by
      rw [truncated_intCast, Text.readInt_toString]
    exact congrArg Int.cast read

/-- The last millisecond of 1969 makes a timestamp with negative nanoseconds. -/
theorem timestamps_exact_iff_last_of_1969
    : Keeps Conversions.decimal ((-1 : Int).tdiv 1000)
      ∧ ∃ (make : List Stmt) (value : Value) (nanos : Int),
          IsFunction { longForm := .long } toTimestamp "date" make
          ∧ Stmt.applied? Conversions.decimal (madeLong? Conversions.decimal) "date" make
              [.date (.finite (-1 : Int))]
            = some (timestampOf value (.number (.finite nanos)))
          ∧ nanos < 0 := by
  have keeps : Keeps Conversions.decimal ((-1 : Int).tdiv 1000) :=
    keeps_decimal (by decide) (by decide)
  obtain ⟨make, _, isMade, _, _, value, _, nanos, made, _, _, _, _, _, sign, _⟩ :=
    timestamps_exact_iff { longForm := .long } Conversions.decimal (-1) keeps
  refine ⟨keeps, make, value, nanos, isMade, made, ?_⟩
  exact not_le.mp (fun nonneg => absurd (sign.mp nonneg) (by decide))

end ProtobufTypeScript.Helper
