import Mathlib.Data.Rat.Floor
import ProtobufTypeScript.Proofs.Target.Evaluation
import ProtobufTypeScript.Proofs.Text.Numeral

/-!
What expressions stand for that calculate with numbers and convert them, and what functions made of
such expressions return. Numbers are exact here, and there is no second zero. What conversions give
that are built in or belong to a library is a parameter, as is what calls of functions give that
are declared elsewhere.
-/

namespace ProtobufTypeScript.Target

/-- A number without its fraction. -/
def truncated (value : Rat) : Int :=
  if 0 ≤ value then ⌊value⌋ else ⌈value⌉

/-- An integer has no part to be cut off. -/
theorem truncated_intCast (value : Int)
    : truncated value = value := by
  rw [truncated, Int.floor_intCast, Int.ceil_intCast, ite_self]

/-- Cutting off the fraction of a quotient is division that rounds towards zero. The sign
of the quotient is that of the number, and decides which way is towards zero.
-/
theorem truncated_div (value : Int) {parts : Nat} (positive : 0 < parts)
    : truncated (value / parts) = value.tdiv parts := by
  have sign : 0 ≤ (value : Rat) / parts ↔ 0 ≤ value := by
    rw [le_div_iff₀ (Nat.cast_pos.mpr positive), zero_mul, Int.cast_nonneg_iff]
  unfold truncated
  rw [Rat.floor_intCast_div_natCast, Rat.ceil_intCast_div_natCast]
  split
  · rw [Int.tdiv_eq_ediv_of_nonneg (sign.mp ‹_›)]
  · have opposite : 0 ≤ -value := by
      rw [sign] at *
      omega
    rw [← Int.tdiv_eq_ediv_of_nonneg opposite, Int.neg_tdiv, neg_neg]

/-- What is left of a number after as many whole parts as it has. -/
theorem sub_truncated_mul (value : Int) {parts : Nat} (positive : 0 < parts)
    : (value : Rat) - truncated (value / parts) * parts = value.tmod parts := by
  rw [truncated_div value positive, Int.tmod_def]
  push_cast
  ring

/-- A 64-bit integer of the library for these. -/
structure Long where
  value : Int
  unsigned : Bool

/-- An integer modulo the number of 64-bit integers. -/
def Long.wrapped (value : Int) (unsigned : Bool) : Long :=
  { value := if unsigned then value % 2 ^ 64 else value.bmod (2 ^ 64), unsigned }

/-- A signed 64-bit integer holds a number up to multiples of 2^64, around zero. -/
@[simp] theorem Long.value_wrapped_signed (value : Int)
    : (Long.wrapped value false).value = value.bmod (2 ^ 64) := by
  simp [wrapped]

/-- An unsigned 64-bit integer holds the remainder by 2^64. -/
@[simp] theorem Long.value_wrapped_unsigned (value : Int)
    : (Long.wrapped value true).value = value % 2 ^ 64 := by
  simp [wrapped]

/-- The object that a 64-bit integer is. -/
def Long.object (long : Long) : Value :=
  .long long.value long.unsigned

/-- The conversions that generated code makes between numbers, texts and 64-bit integers.
-/
structure Conversions where
  longFromValue : String → Long
  longFromString : String → Bool → Long
  longFromNumber : Rat → Long
  longToNumber : Long → Rat
  longToString : Long → String
  numberToString : Rat → String
  numberFromString : String → Rat

/-- Conversions of integers: texts are decimal numerals, which wrap around in 64-bit
integers, and a number that is too large for these is cut off.
-/
def Conversions.decimal : Conversions where
  longFromValue text := Long.wrapped (Text.readInt text) false
  longFromString text unsigned := Long.wrapped (Text.readInt text) unsigned
  longFromNumber value :=
    { value := max (-2 ^ 63) (min (truncated value) (2 ^ 63 - 1)), unsigned := false }
  longToNumber long := long.value
  longToString long := toString long.value
  numberToString value := toString (truncated value)
  numberFromString text := Text.readInt text

/-- The result of an operator that may be one of arithmetic. -/
def Value.calculated? : BinaryOp → Value → Value → Option Value
  | .plus, .number (.finite left), .number (.finite right) =>
      some (.number (.finite (left + right)))
  | .times, .number (.finite left), .number (.finite right) =>
      some (.number (.finite (left * right)))
  | .divide, .number (.finite left), .number (.finite right) =>
      if right = 0 then none else some (.number (.finite (left / right)))
  | .remainder, .number (.finite left), .number (.finite right) =>
      if right = 0 then none
      else some (.number (.finite (left - truncated (left / right) * right)))
  | operator, left, right => operated? operator left right

/-- A new date, given its milliseconds. -/
def Value.dated? : Value → Option Value
  | .number millis => some (.date millis)
  | _ => none

namespace Conversions

variable (conversions : Conversions)

/-- The number that a value stands for in some form of 64-bit integers. -/
def number? : Value → Option Rat
  | .number (.finite value) => some value
  | .long value unsigned => some (conversions.longToNumber ⟨value, unsigned⟩)
  | .text content => some (conversions.numberFromString content)
  | _ => none

/-- The result of a function of the language. -/
def applied? : String → List Value → Option Value
  | "Number", [value] => (conversions.number? value).map (fun value => .number (.finite value))
  | _, _ => none

/-- A 64-bit integer, given the function of the library that makes it and the arguments.
-/
def long? : String → List Value → Option Value
  | "fromValue", [.text content] => some (conversions.longFromValue content).object
  | "fromString", [.text content] => some (conversions.longFromString content false).object
  | "fromString", [.text content, .boolean unsigned] =>
      some (conversions.longFromString content unsigned).object
  | "fromNumber", [.number (.finite value)] => some (conversions.longFromNumber value).object
  | _, _ => none

/-- The result of a method of a class, given the class and the arguments. -/
def static? : Expr → String → List Value → Option Value
  | .symbol referent, method, arguments =>
      if referent = Library.long then conversions.long? method arguments else none
  | .name "Math", "trunc", [.number (.finite value)] =>
      some (.number (.finite (truncated value)))
  | _, _, _ => none

/-- The result of a method of a value. -/
def method? : Value → String → List Value → Option Value
  | .date millis, "getTime", [] => some (.number millis)
  | .number (.finite value), "toString", [] => some (.text (conversions.numberToString value))
  | .long value unsigned, "toNumber", [] =>
      some (.number (.finite (conversions.longToNumber ⟨value, unsigned⟩)))
  | .long value unsigned, "toString", [] =>
      some (.text (conversions.longToString ⟨value, unsigned⟩))
  | _, _, _ => none

end Conversions

/-- An object that is written out with the names of variables only, given their values. -/
def Expr.named? : List Expr → List Value → Option (List (String × Value))
  | [], [] => some []
  | .name text :: entries, value :: values =>
      (named? entries values).map (fun rest => (text, value) :: rest)
  | _, _ => none

section Running

variable (conversions : Conversions) (functions : Symbol → List Value → Option Value)

mutual
/-- The value of an expression that may calculate and convert. -/
def Expr.computed? (env : Env) : Expr → Option Value
  | .grouped value => some (.number (.finite value))
  | .bracketed value => computed? env value
  | .binary operator left right =>
      (computed? env left).bind
        (fun first =>
          (computed? env right).bind (fun second => Value.calculated? operator first second))
  | .call (.name function) arguments =>
      (computedAll? env arguments).bind (conversions.applied? function)
  | .call (.symbol function) arguments => (computedAll? env arguments).bind (functions function)
  -- A class has no value here, so that its methods are looked up by how it is written.
  | .call (.member receiver method) arguments =>
      (computedAll? env arguments).bind
        (fun arguments =>
          (conversions.static? receiver method arguments).or
            ((computed? env receiver).bind
              (fun found => conversions.method? found method arguments)))
  | .construct (.name "Date") [millis] => (computed? env millis).bind Value.dated?
  | .object entries =>
      ((computedAll? env entries).bind (Expr.named? entries)).map .object
  | value => value.value? env

/-- The values of expressions. -/
def Expr.computedAll? (env : Env) : List Expr → Option (List Value)
  | [] => some []
  | value :: rest =>
      (computed? env value).bind
        (fun first => (computedAll? env rest).map (fun others => first :: others))
end

section Forms

variable {conversions : Conversions} {functions : Symbol → List Value → Option Value} {env : Env}
  {value left right receiver : Expr} {arguments : List Expr}

@[simp] theorem Expr.computed?_name (text : String)
    : (Expr.name text).computed? conversions functions env = env.name? text :=
  rfl

@[simp] theorem Expr.computed?_field (object property : String)
    : (Expr.field object property).computed? conversions functions env
      = (env.name? object).bind (fun found => found.property? property) :=
  rfl

@[simp] theorem Expr.computed?_grouped (value : Nat)
    : (Expr.grouped value).computed? conversions functions env
      = some (.number (.finite value)) :=
  rfl

@[simp] theorem Expr.computed?_bracketed
    : (Expr.bracketed value).computed? conversions functions env
      = value.computed? conversions functions env :=
  rfl

@[simp] theorem Expr.computed?_binary (operator : BinaryOp)
    : (Expr.binary operator left right).computed? conversions functions env
      = (left.computed? conversions functions env).bind
          (fun first =>
            (right.computed? conversions functions env).bind
              (fun second => Value.calculated? operator first second)) :=
  rfl

@[simp] theorem Expr.computed?_call_name (function : String)
    : (Expr.call (.name function) arguments).computed? conversions functions env
      = (Expr.computedAll? conversions functions env arguments).bind
          (conversions.applied? function) :=
  rfl

@[simp] theorem Expr.computed?_call_symbol (function : Symbol)
    : (Expr.call (.symbol function) arguments).computed? conversions functions env
      = (Expr.computedAll? conversions functions env arguments).bind (functions function) :=
  rfl

@[simp] theorem Expr.computed?_method (method : String)
    : (receiver.method method arguments).computed? conversions functions env
      = (Expr.computedAll? conversions functions env arguments).bind
          (fun arguments =>
            (conversions.static? receiver method arguments).or
              ((receiver.computed? conversions functions env).bind
                (fun found => conversions.method? found method arguments))) :=
  rfl

@[simp] theorem Expr.computedAll?_nil
    : Expr.computedAll? conversions functions env [] = some [] :=
  rfl

@[simp] theorem Expr.computedAll?_cons (value : Expr) (rest : List Expr)
    : Expr.computedAll? conversions functions env (value :: rest)
      = (value.computed? conversions functions env).bind
          (fun first =>
            (Expr.computedAll? conversions functions env rest).map
              (fun others => first :: others)) :=
  rfl

end Forms

/-- What statements return that declare variables and add to them. -/
def Stmt.outcome? (env : Env) : List Stmt → Option Value
  | .const name _ value :: rest =>
      (value.computed? conversions functions env).bind
        (fun value => outcome? (env.set name value) rest)
  | .mutable name value :: rest =>
      (value.computed? conversions functions env).bind
        (fun value => outcome? (env.set name value) rest)
  | .increase (.name name) value :: rest =>
      ((Expr.binary .plus (.name name) value).computed? conversions functions env).bind
        (fun value => outcome? (env.set name value) rest)
  | .result value :: _ => value.computed? conversions functions env
  | _ => none

/-- What a function of one parameter returns. -/
def Stmt.applied? (parameter : String) (body : List Stmt) : List Value → Option Value
  | [argument] => outcome? conversions functions (Env.set (fun _ => none) parameter argument) body
  | _ => none

end Running

end ProtobufTypeScript.Target
