import ProtobufTypeScript.Target.Declaration
import ProtobufTypeScript.Target.Library

/-!
What expressions stand for when generated code runs, as far as the code that makes, tests and takes
apart values of messages goes. Anything else has no value here, so that nothing is said about it.
-/

namespace ProtobufTypeScript.Target

/-- A number of the language. -/
inductive Number where
  | finite (value : Rat)
  | negativeZero
  | infinite (negative : Bool)
  | notANumber
deriving DecidableEq

/-- Whether two numbers are strictly equal: both zeros are, and what is not a number
equals nothing.
-/
def Number.equals : Number → Number → Bool
  | .notANumber, _ => false
  | .negativeZero, .finite value => decide (value = 0)
  | .finite value, .negativeZero => decide (value = 0)
  | left, right => decide (left = right)

/-- The name under which an object has what it inherits from. -/
def prototypeName : String :=
  "__proto__"

/-- The names of what every object inherits. An object that has nothing of its own under
such a name has something there all the same.
-/
def inheritedNames : List String :=
  [
    "constructor", "hasOwnProperty", "isPrototypeOf", "propertyIsEnumerable", "toLocaleString",
    "toString", "valueOf", prototypeName, "__defineGetter__", "__defineSetter__",
    "__lookupGetter__", "__lookupSetter__"
  ]

/-- A value of the language. -/
inductive Value where
  | undefined
  | boolean (value : Bool)
  | number (value : Number)
  | text (content : String)
  | bytes (content : List UInt8)
  /-- A 64-bit integer of the library for these. -/
  | long (value : Int) (unsigned : Bool)
  | date (millis : Number)
  | list (elements : List Value)
  | object (entries : List (String × Value))
  /-- What every object inherits under a name: a function, or the object that they inherit
  from.
  -/
  | inherited (name : String)

namespace Value

/-- Whether a value is an object, which is strictly equal to itself only. -/
def isReference : Value → Bool
  | .bytes _ => true
  | .long _ _ => true
  | .date _ => true
  | .list _ => true
  | .object _ => true
  | .inherited _ => true
  | _ => false

/-- Whether two values are strictly equal. Of two objects this cannot be told by what they
hold.
-/
def strictlyEqual? : Value → Value → Option Bool
  | .undefined, .undefined => some true
  | .boolean left, .boolean right => some (left == right)
  | .number left, .number right => some (left.equals right)
  | .text left, .text right => some (left == right)
  | left, right => if left.isReference && right.isReference then none else some false

/-- Whether two values hold the same: strictly equal ones do, and objects with the same
contents. Whether a long integer counts as signed makes no difference.
-/
def Same : Value → Value → Prop
  | .number left, .number right => left.equals right = true
  | .long left _, .long right _ => left = right
  | left, right => left = right

/-- Values of which one is not an object are strictly equal if they hold the same. -/
theorem strictlyEqual?_eq_some {left right : Value}
    (plain : (left.isReference && right.isReference) = false)
    : ∃ equal, strictlyEqual? left right = some equal ∧ (equal = true ↔ left.Same right) := by
  cases left <;> cases right <;> simp_all [strictlyEqual?, Same, isReference]

/-- Every value but the one that is not a number is the same as itself. -/
theorem same_refl_of_ne {value : Value} (number : value ≠ .number .notANumber)
    : value.Same value := by
  cases value with
  | number content => cases content <;> simp_all [Same, Number.equals]
  | _ => simp [Same]

/-- What an object has under a name that nothing is stored under: what it inherits, else
`undefined`.
-/
def absent (name : String) : Value :=
  if name ∈ inheritedNames then .inherited name else .undefined

/-- What an object has under a name. -/
def entry : List (String × Value) → String → Value
  | [], name => absent name
  | first :: rest, name => if first.1 = name then first.2 else entry rest name

/-- An object with a value under a name, in the place of the one before if there is one.
-/
def store : List (String × Value) → String → Value → List (String × Value)
  | [], name, value => [(name, value)]
  | first :: rest, name, value =>
      if first.1 = name then (name, value) :: rest else first :: store rest name value

/-- A property of a value. -/
def property? : Value → String → Option Value
  | .object entries, name => some (entry entries name)
  | .list elements, "length" => some (.number (.finite elements.length))
  | .bytes content, "length" => some (.number (.finite content.length))
  | _, _ => none

/-- The opposite of a truth value. -/
def negated? : Value → Option Value
  | .boolean value => some (.boolean !value)
  | _ => none

/-- The result of an operator. -/
def operated? : BinaryOp → Value → Value → Option Value
  | .equal, left, right => (strictlyEqual? left right).map .boolean
  | .notEqual, left, right => (strictlyEqual? left right).map (fun same => .boolean !same)
  | .greater, .number (.finite left), .number (.finite right) => some (.boolean (right < left))
  | _, _, _ => none

/-- Storing under a name changes the entry of that name only. Induction on the entries,
where the name may be found or not.
-/
theorem entry_store {entries : List (String × Value)} {name other : String} {value : Value}
    : entry (store entries name value) other
      = if name = other then value else entry entries other := by
  induction entries with
  | nil => rfl
  | cons first rest ih =>
      unfold store
      by_cases found : first.1 = name
      · subst found
        by_cases same : first.1 = other <;> simp [entry, same]
      · rw [if_neg found]
        by_cases here : first.1 = other
        · have apart : name ≠ other := fun same => found (here.trans same.symm)
          simp [entry, here, apart]
        · simp [entry, here, ih]

/-- An object with several values stored in it, in order. -/
def storeAll (entries : List (String × Value)) (values : List (String × Value))
    : List (String × Value) :=
  values.foldl (fun entries value => store entries value.1 value.2) entries

/-- Storing values under other names leaves an entry alone. Induction on the values. -/
theorem entry_storeAll_of_not_mem {entries values : List (String × Value)} {name : String}
    (absent : name ∉ values.map Prod.fst)
    : entry (storeAll entries values) name = entry entries name := by
  induction values generalizing entries with
  | nil => rfl
  | cons first rest ih =>
      rw [List.map_cons, List.mem_cons, not_or] at absent
      change entry (storeAll (store entries first.1 first.2) rest) name = _
      rw [ih absent.2, entry_store, if_neg (Ne.symm absent.1)]

/-- Under different names each value stays as it is stored. -/
theorem entry_storeAll_of_mem {entries values : List (String × Value)}
    (distinct : (values.map Prod.fst).Nodup) {stored : String × Value} (member : stored ∈ values)
    : entry (storeAll entries values) stored.1 = stored.2 := by
  induction values generalizing entries with
  | nil => cases member
  | cons first rest ih =>
      rw [List.map_cons, List.nodup_cons] at distinct
      change entry (storeAll (store entries first.1 first.2) rest) stored.1 = _
      rcases List.mem_cons.mp member with rfl | later
      · rw [entry_storeAll_of_not_mem distinct.1, entry_store, if_pos rfl]
      · exact ih distinct.2 later

end Value

/-- The values of variables. -/
abbrev Env := String → Option Value

/-- The variables with one of them set. -/
def Env.set (env : Env) (name : String) (value : Value) : Env :=
  fun other => if other = name then some value else env other

@[simp] theorem Env.set_same (env : Env) (name : String) (value : Value)
    : env.set name value name = some value :=
  if_pos rfl

/-- What a name stands for. -/
def Env.name? (env : Env) : String → Option Value
  | "undefined" => some .undefined
  | "true" => some (.boolean true)
  | "false" => some (.boolean false)
  | name => env name

namespace Expr

/-- A constant that a library offers. -/
def constant? (symbol : Symbol) (name : String) : Option Value :=
  if symbol = Library.long then
    match name with
    | "ZERO" => some (.long 0 false)
    | "UZERO" => some (.long 0 true)
    | _ => none
  else none

/-- The result of a method, given the object as it is written, its value and those of the
arguments.
-/
def invoked? : Expr → Option Value → String → List (Option Value) → Option Value
  | .name "Object", _, "entries", [some (.object entries)] =>
      some (.list (entries.map (fun entry => .list [.text entry.1, entry.2])))
  | _, some (.long value _), "isZero", [] => some (.boolean (value == 0))
  | _, _, _, _ => none

/-- A new object, given its class and the values of the arguments. -/
def constructed? : Expr → List (Option Value) → Option Value
  | .name "Uint8Array", [] => some (.bytes [])
  | _, _ => none

/-- The value of an object that is written out, given the values of its parts. -/
def written? : List Expr → List (Option Value) → Option Value
  | [], _ => some (.object [])
  | [.spread _], [some (.object entries)] => some (.object entries)
  | _, _ => none

mutual
/-- The value of an expression. -/
def value? (env : Env) : Expr → Option Value
  | .name text => env.name? text
  | .number value => some (.number (.finite value))
  | .quoted text => some (.text text)
  | .member (.symbol referent) property => constant? referent property
  | .member receiver property =>
      (value? env receiver).bind (fun found => found.property? property)
  | .call (.member receiver called) arguments =>
      invoked? receiver (value? env receiver) called (values? env arguments)
  | .construct callee arguments => constructed? callee (values? env arguments)
  | .not value => (value? env value).bind Value.negated?
  | .binary operator left right =>
      (value? env left).bind
        (fun first => (value? env right).bind (fun second => Value.operated? operator first second))
  | .present value => value? env value
  | .cast value _ => value? env value
  | .spread value => value? env value
  | .object entries => written? entries (values? env entries)
  | .list [] => some (.list [])
  | _ => none

/-- The values of the expressions of a list. -/
def values? (env : Env) : List Expr → List (Option Value)
  | [] => []
  | value :: rest => value? env value :: values? env rest
end

end Expr

/-- The variables after a statement that declares one or stores a value in an object.
Nothing is said about a value that is stored as what the object inherits from.
-/
def Stmt.run? (env : Env) : Stmt → Option Env
  | .const name _ value => (value.value? env).map (env.set name)
  | .assign (.member (.name object) name) value =>
      match env object with
      | some (.object entries) =>
          if name = prototypeName then none
          else
            (value.value? env).map
              (fun content => env.set object (.object (Value.store entries name content)))
      | _ => none
  | _ => none

/-- The object that a constant holds. Nothing is said about one that gives what it
inherits from.
-/
def ValueObject.value? (env : Env) (object : ValueObject) : Option Value :=
  if prototypeName ∈ object.values.map Prod.fst then none
  else
    (object.values.mapM
        (fun (entry : String × Expr) =>
          (entry.2.value? env).map (fun value => (entry.1, value)))).map
      (fun values => .object (Value.storeAll [] values))

end ProtobufTypeScript.Target
