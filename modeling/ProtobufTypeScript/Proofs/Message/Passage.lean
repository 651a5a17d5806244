import ProtobufTypeScript.Target.Declaration

/-!
How emitted code passes values between a message and another object, read off the statements
themselves: from where to where a field goes, one by one, as elements or as entries, and what its
values are turned into on the way. A test whether a value is there makes no difference.
-/

namespace ProtobufTypeScript.Message

open Target

/-- What a value is turned into. -/
inductive Way where
  | plain
  /-- What a function of the language makes of it. -/
  | coerced (function : String)
  /-- What a function makes of it that is declared elsewhere. -/
  | helped (function : Symbol)
  /-- What a method of something that is declared elsewhere makes of it. -/
  | through (owner : Symbol) (method : String)
  /-- What a method of its own gives. -/
  | own (method : String)
  /-- The value itself, taken to be of a type. -/
  | cast (type : Symbol)
deriving DecidableEq

/-- A value that comes from a place, and what it is turned into. -/
structure Turned where
  place : List String
  way : Way
  /-- What stands for the value if it counts as false. -/
  fallback : Option Expr := none

/-- How the values of a field are passed: the field as it is, its elements in order, or
its entries with what their keys are turned into.
-/
inductive Route where
  | single
  | elements
  | entries (keys : Way)

/-- Values that are passed from one place to another. -/
structure Passage where
  source : List String
  target : List String
  route : Route
  way : Way
  fallback : Option Expr := none

/-- What a statement does in a function that makes an object. -/
inductive Step where
  | start (name : String)
  /-- Gives a place an empty list or object. -/
  | clear (target : List String)
  | pass (passage : Passage)
  | finish (name : String)

-----------------------------------------------------------------------------------------
-- Values
-----------------------------------------------------------------------------------------

/-- The place that an expression stands for: a variable or a field of one. -/
def place? : Expr → Option (List String)
  | .name text => some [text]
  | .member (.name owner) field => some [owner, field]
  | _ => none

/-- Whether an expression stands for a missing value. -/
def isMissing : Expr → Bool
  | .name text => text == "undefined" || text == "null"
  | _ => false

/-- Whether a condition only tests whether the value at a place is there. -/
def tests (place : List String) : Expr → Bool
  | .binary .and left right => tests place left && tests place right
  | .binary .notEqual value missing => place? value == some place && isMissing missing
  | value => place? value == some place

/-- The place of a value and what stands for it if it counts as false. -/
def origin? : Expr → Option (List String × Option Expr)
  | .bracketed value => origin? value
  | .binary .or value fallback => (place? value).map (fun place => (place, some fallback))
  | value => (place? value).map (fun place => (place, none))

/-- What a call of something makes of its only argument. -/
def callee? : Expr → Option Way
  | .name function => some (.coerced function)
  | .symbol function => some (.helped function)
  | .member (.symbol owner) method => some (.through owner method)
  | _ => none

/-- What a call turns a value into, given its arguments and what is called. -/
def called? : List Expr → Expr → Option Turned
  | [], .member value method =>
      (origin? value).map
        (fun (place, fallback) => { place, way := .own method, fallback })
  | [value], callee =>
      (callee? callee).bind (fun way => (place? value).map (fun place => { place, way }))
  | _, _ => none

/-- The value that an expression without a condition stands for. -/
def unconditional? : Expr → Option Turned
  | .call callee arguments => called? arguments callee
  | .cast value (.symbol type) => (place? value).map (fun place => { place, way := .cast type })
  | value => (origin? value).map (fun (place, fallback) => { place, way := .plain, fallback })

/-- The value that an expression stands for. -/
def turned? : Expr → Option Turned
  | .conditional condition value missing =>
      (unconditional? value).filter
        (fun turned => tests turned.place condition && isMissing missing)
  | value => unconditional? value

/-- What a variable is turned into. -/
def turnedVariable? (name : String) (value : Expr) : Option Way :=
  (turned? value).bind
    (fun turned =>
      if turned.place = [name] && turned.fallback.isNone then some turned.way else none)

-----------------------------------------------------------------------------------------
-- Statements
-----------------------------------------------------------------------------------------

/-- The list that an expression goes through and what it turns the elements into. -/
def mapped? : Expr → Option (List String × Way)
  | .call (.member list "map") [.arrow [name] value] =>
      (place? list).bind
        (fun place => (turnedVariable? name value).map (fun way => (place, way)))
  | _ => none

/-- What the assignment of a value to a place passes. -/
def assignment? (target : List String) (value : Expr) : Option Passage :=
  ((mapped? value).map (fun (source, way) => { source, target, route := .elements, way })).or
    ((turned? value).map
      (fun turned =>
        {
          source := turned.place
          target
          route := .single
          way := turned.way
          fallback := turned.fallback
        }))

/-- Where the body of a loop over a list adds the elements, and what it turns them into.
-/
def added? (name : String) : List Stmt → Option (List String × Way)
  | [.expression (.call (.member target "push") [value])] =>
      (place? target).bind
        (fun place => (turnedVariable? name value).map (fun way => (place, way)))
  | _ => none

/-- Where a statement in a loop over entries puts them, and what it turns the keys and the
values into.
-/
def stored? (key value : String) : Stmt → Option (List String × Way × Way)
  | .assign (.element target stored) content =>
      (place? target).bind
        (fun place =>
          (turnedVariable? key stored).bind
            (fun keys => (turnedVariable? value content).map (fun way => (place, keys, way))))
  | _ => none

/-- Where the body of a loop over entries puts them, perhaps but for missing values, and
what it turns the keys and the values into.
-/
def storedBy? (key value : String) : List Stmt → Option (List String × Way × Way)
  | [.branch condition [statement] .nothing] =>
      if tests [value] condition then stored? key value statement else none
  | [statement] => stored? key value statement
  | _ => none

/-- The place whose entries a call goes through. -/
def entriesOf? : Expr → Option (List String)
  | .member (.call (.member (.name "Object") "entries") [value]) "forEach" => place? value
  | _ => none

/-- What a statement without a condition passes. -/
def passed? : Stmt → Option Passage
  | .assign target value => (place? target).bind (fun target => assignment? target value)
  | .each name list body =>
      (place? list).bind
        (fun source =>
          (added? name body).map
            (fun (target, way) => { source, target, route := .elements, way }))
  | .callback none callee [] false [.pair key value] body =>
      (entriesOf? callee).bind
        (fun source =>
          (storedBy? key value body).map
            (fun (target, keys, way) => { source, target, route := .entries keys, way }))
  | _ => none

/-- Whether what follows a branch at most gives a place another value. -/
def onlyAssigns (target : List String) : Otherwise → Bool
  | .nothing => true
  | .block [.assign place _] => place? place == some target
  | _ => false

/-- Whether a value is an empty list or object. -/
def isEmpty : Expr → Bool
  | .list [] => true
  | .object [] => true
  | _ => false

/-- What a statement does. -/
def step? : Stmt → Option Step
  | .const name _ _ => some (.start name)
  | .result (.name name) => some (.finish name)
  | .branch condition [statement] otherwise =>
      ((passed? statement).filter
            (fun passage =>
              tests passage.source condition && onlyAssigns passage.target otherwise)).map
        .pass
  | .assign target value =>
      if isEmpty value then (place? target).map .clear
      else (passed? (.assign target value)).map .pass
  | statement => (passed? statement).map .pass

/-- The variable for the keys of a map and the key that is written for each entry. -/
def writtenKey? : Stmt → Option (String × Expr)
  | .callback none _ [] false [.pair name _]
      [.expression
        (.call (.member (.call (.member _ "encode") [.object (.keyed "key" key :: _), _]) _) _)] =>
      some (name, key)
  | _ => none

/-- The statements of a function do some steps, each statement one. -/
def Performs (function : Function) (steps : List Step) : Prop :=
  ∃ statements,
    function.body.lines = Stmt.codeAll statements ∧ statements.map step? = steps.map some

-----------------------------------------------------------------------------------------
-- Values and statements by their form
-----------------------------------------------------------------------------------------

section Forms

variable {callee value missing fallback condition : Expr} {arguments : List Expr}
  {method : String} {place : List String}

@[simp] theorem tests_notEqual
    : tests place (.binary .notEqual value missing)
      = (place? value == some place && isMissing missing) :=
  rfl

@[simp] theorem called?_nil
    : called? [] (.member value method)
      = (origin? value).map (fun (place, fallback) => { place, way := .own method, fallback }) :=
  rfl

@[simp] theorem called?_singleton
    : called? [value] callee
      = (callee? callee).bind (fun way => (place? value).map (fun place => { place, way })) :=
  rfl

@[simp] theorem origin?_bracketed
    : origin? (.bracketed value) = origin? value :=
  rfl

@[simp] theorem origin?_or
    : origin? (.binary .or value fallback)
      = (place? value).map (fun place => (place, some fallback)) :=
  rfl

@[simp] theorem unconditional?_call
    : unconditional? (.call callee arguments) = called? arguments callee :=
  rfl

@[simp] theorem turned?_call
    : turned? (.call callee arguments) = called? arguments callee :=
  rfl

@[simp] theorem turned?_cast {type : Symbol}
    : turned? (.cast value (.symbol type))
      = (place? value).map (fun place => { place, way := .cast type }) :=
  rfl

@[simp] theorem turned?_or
    : turned? (.binary .or value fallback)
      = (place? value).map (fun place => { place, way := .plain, fallback := some fallback }) := by
  simp [turned?, unconditional?]
  rfl

@[simp] theorem turned?_conditional
    : turned? (.conditional condition value missing)
      = (unconditional? value).filter
          (fun turned => tests turned.place condition && isMissing missing) :=
  rfl

@[simp] theorem step?_const {name : String} {type : Option TypeExpr}
    : step? (.const name type value) = some (.start name) :=
  rfl

@[simp] theorem step?_result {name : String}
    : step? (.result (.name name)) = some (.finish name) :=
  rfl

end Forms

-----------------------------------------------------------------------------------------
-- Values at places
-----------------------------------------------------------------------------------------

section Places

variable {value : Expr} {place : List String} (located : place? value = some place)

include located

/-- The places that code passes values between are names and members of names. -/
theorem place?_eq_some
    : (∃ text, value = .name text) ∨ ∃ owner field, value = .member (.name owner) field := by
  unfold place? at located
  split at located
  · exact Or.inl ⟨_, rfl⟩
  · exact Or.inr ⟨_, _, rfl⟩
  · cases located

@[simp] theorem origin?_of_place
    : origin? value = some (place, none) := by
  rcases place?_eq_some located with ⟨text, rfl⟩ | ⟨owner, field, rfl⟩ <;> simp [origin?, located]

@[simp] theorem unconditional?_of_place
    : unconditional? value = some { place, way := .plain } := by
  rcases place?_eq_some located with ⟨text, rfl⟩ | ⟨owner, field, rfl⟩ <;>
    simp [unconditional?, origin?_of_place located]

/-- A place by itself is turned in no way: its value is passed as it is. -/
@[simp] theorem turned?_of_place
    : turned? value = some { place, way := .plain } := by
  rcases place?_eq_some located with ⟨text, rfl⟩ | ⟨owner, field, rfl⟩ <;>
    simp [turned?, unconditional?_of_place located]

@[simp] theorem tests_of_place
    : tests place value = true := by
  rcases place?_eq_some located with ⟨text, rfl⟩ | ⟨owner, field, rfl⟩ <;> simp [tests, located]

end Places

section Turned

variable {value : Expr} {turned : Turned} (known : turned? value = some turned)

include known

/-- What stands for one value does not go through a list. -/
theorem mapped?_of_turned?
    : mapped? value = none := by
  unfold mapped?
  split
  · rename_i list name body
    simp [place?] at known
  · rfl

/-- What passes a value is not an empty list or object. -/
theorem isEmpty_of_turned?
    : isEmpty value = false := by
  unfold isEmpty
  split
  · cases known
  · cases known
  · rfl

/-- An assignment of a turned value is a passage from its place to the target, of one
value.
-/
theorem assignment?_of_turned? (target : List String)
    : assignment? target value
      = some
          {
            source := turned.place
            target
            route := .single
            way := turned.way
            fallback := turned.fallback
          } := by
  simp [assignment?, mapped?_of_turned? known, known]

/-- A value that is turned from a variable, without a default, is turned as the variable.
-/
theorem turnedVariable?_of_turned? {name : String} (place : turned.place = [name])
    (strict : turned.fallback = none)
    : turnedVariable? name value = some turned.way := by
  simp [turnedVariable?, known, place, strict]

end Turned

end ProtobufTypeScript.Message
