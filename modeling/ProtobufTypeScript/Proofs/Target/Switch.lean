import ProtobufTypeScript.Proofs.Target.Contents
import ProtobufTypeScript.Proofs.Target.Evaluation

/-!
What a switch returns. It is entered at the first label that is strictly equal to its subject, or
at `default` if there is none, and runs from there through all later sections up to a `return`.
The labels may name what an exported object holds.
-/

namespace ProtobufTypeScript.Target

/-- A value as strict equality tells it from others. -/
inductive Datum where
  | number (content : Number)
  | text (content : String)
  | undefined
  /-- A function that an exported object holds. -/
  | method (name : String)
  /-- What every object inherits under a name. -/
  | inherited (name : String)
  /-- Any other value, such as `null`, of which it only counts which one it is. -/
  | other (identity : Nat)
deriving DecidableEq

namespace Datum

/-- Whether two values are strictly equal. -/
def equals : Datum → Datum → Bool
  | .number left, .number right => left.equals right
  | left, right => decide (left = right)

/-- An integer as a value. -/
def ofInt (value : Int) : Datum :=
  .number (.finite value)

theorem ofInt_inj {left right : Int}
    : ofInt left = ofInt right ↔ left = right := by
  simp [ofInt]

/-- Numbers that stand for integers are equal exactly if the integers are. -/
theorem equals_ofInt {left right : Int}
    : (ofInt left).equals (ofInt right) = decide (left = right) := by
  simp [ofInt, equals, Number.equals]

/-- Anything but a number is equal to itself only. -/
theorem equals_of_not_number {left right : Datum} (plain : ∀ content, left ≠ .number content)
    : left.equals right = decide (left = right) := by
  cases left with
  | number content => exact absurd rfl (plain content)
  | _ => rfl

/-- What a value has under a key, where that is known: a number has nothing under a key
unless numbers inherit something there.
-/
def property? : Datum → String → Option Datum
  | .number _, key =>
      if key ∈ inheritedNames ++ ["toExponential", "toFixed", "toPrecision"] then none
      else some .undefined
  | _, _ => none

end Datum

-----------------------------------------------------------------------------------------
-- What objects hold
-----------------------------------------------------------------------------------------

/-- The key of an entry. -/
def Entry.key? : Entry → Option String
  | .value _ name _ => some name
  | .method declared => some declared.name
  | .gap => none

/-- The key of the property that an entry makes. A number that is given as what the object
inherits from makes none.
-/
def Entry.property? : Entry → Option String
  | .value _ name _ => if name = prototypeName then none else some name
  | .method declared => some declared.name
  | .gap => none

/-- What an entry holds. -/
def Entry.content? : Entry → Option Datum
  | .value _ _ (.cast (.number integer) _) => some (.ofInt integer)
  | .method declared => some (.method declared.name)
  | _ => none

namespace ObjectConst

/-- The keys of an object, in order. -/
def keys (object : ObjectConst) : List String :=
  object.entries.filterMap Entry.key?

/-- What an object holds under a key: of several entries that make a property with the
key, the last one counts, and without any it is what the object inherits.
-/
def held? (object : ObjectConst) (key : String) : Option Datum :=
  match object.entries.findRev? (fun entry => entry.property? == some key) with
  | some entry => entry.content?
  | none => some (if key ∈ inheritedNames then .inherited key else .undefined)

/-- Whether an object holds a function of one parameter that runs a statement. -/
def Runs (object : ObjectConst) (name parameter : String) (statement : Stmt) : Prop :=
  ∃ function,
    .method function ∈ object.entries
    ∧ function.name = name
    ∧ function.params.map Param.name = [parameter]
    ∧ function.body.lines = statement.code

/-- What an expression stands for in a function of one parameter that an object holds,
given the argument. The parameter hides an object of its name.
-/
def read? (object : ObjectConst) (parameter : String) (argument : Datum) : Expr → Option Datum
  | .name text => if text = parameter then some argument else none
  | .number value => some (.ofInt value)
  | .quoted text => some (.text text)
  | .member (.name owner) key =>
      if owner = parameter then argument.property? key
      else if owner = object.name then object.held? key
      else none
  | _ => none

/-- An object holds what all its entries do that make a property with the key, if there
are any.
-/
theorem held?_of_forall {object : ObjectConst} {key : String} {content : Option Datum}
    (known : ∃ entry ∈ object.entries, entry.property? = some key)
    (same : ∀ entry ∈ object.entries, entry.property? = some key → entry.content? = content)
    : object.held? key = content := by
  have isKnown
      : (object.entries.findRev? (fun entry => entry.property? == some key)).isSome = true := by
    simpa using known
  obtain ⟨entry, found⟩ := Option.isSome_iff_exists.mp isKnown
  rw [held?, found]
  rw [List.findRev?_eq_find?_reverse] at found
  have keyed := List.find?_some found
  exact same entry (List.mem_reverse.mp (List.mem_of_find?_eq_some found)) (eq_of_beq keyed)

/-- An object holds what its last entry does that makes a property with the key. -/
theorem held?_of_last {object : ObjectConst} {key : String} {before after : List Entry}
    {entry : Entry} (parted : object.entries = before ++ entry :: after)
    (keyed : entry.property? = some key) (last : ∀ other ∈ after, other.property? ≠ some key)
    : object.held? key = entry.content? := by
  have none : after.reverse.find? (fun entry => entry.property? == some key) = none := by
    simpa using last
  simp [held?, parted, none, keyed]

/-- Under a key that makes no property an object holds what it inherits. -/
theorem held?_of_absent {object : ObjectConst} {key : String}
    (absent : ∀ entry ∈ object.entries, entry.property? ≠ some key)
    : object.held? key = some (if key ∈ inheritedNames then .inherited key else .undefined) := by
  have none : object.entries.findRev? (fun entry => entry.property? == some key) = none := by
    simpa using absent
  rw [held?, none]

/-- The numbers that an object holds are integers, and so equal to themselves. Witness:
the content of the last entry with the key.
-/
theorem held?_eq_some {object : ObjectConst} {key : String} {value : Datum}
    (held : object.held? key = some value)
    : (∃ integer, value = .ofInt integer) ∨ ∀ content, value ≠ .number content := by
  rw [held?] at held
  split at held
  · unfold Entry.content? at held
    split at held
    · exact Or.inl ⟨_, (Option.some.inj held).symm⟩
    · obtain rfl := Option.some.inj held
      exact Or.inr nofun
    · cases held
  · obtain rfl := Option.some.inj held
    exact Or.inr (by split <;> exact nofun)

/-- Strict equality tells apart what an object holds, since none of it is a number that
differs from itself.
-/
theorem any_equals_held?_iff {object : ObjectConst} {key other : String} {value : Datum}
    (held : object.held? key = some value)
    : (object.held? other).any value.equals = true ↔ object.held? other = some value := by
  cases content : object.held? other with
  | none => simp
  | some second =>
      rw [Option.any_some, Option.some_inj, @eq_comm _ second]
      rcases held?_eq_some held with ⟨integer, rfl⟩ | plain
      · rcases held?_eq_some content with ⟨another, rfl⟩ | plain
        · rw [Datum.equals_ofInt, decide_eq_true_iff, Datum.ofInt_inj, eq_comm]
        · cases second with
          | number numeric => exact absurd rfl (plain numeric)
          | _ => simp [Datum.ofInt, Datum.equals]
      · rw [Datum.equals_of_not_number plain, decide_eq_true_iff]

end ObjectConst

-----------------------------------------------------------------------------------------
-- Running a switch
-----------------------------------------------------------------------------------------

/-- Whether a label is the one for all other values. -/
def CaseLabel.isDefault : CaseLabel → Bool
  | .case _ => false
  | .default => true

/-- Whether a label is strictly equal to a value. -/
def CaseLabel.matches (read? : Expr → Option Datum) (value : Datum) : CaseLabel → Bool
  | .case label => (read? label).any value.equals
  | .default => false

/-- Whether it is known what a label stands for. -/
def CaseLabel.isKnown (read? : Expr → Option Datum) : CaseLabel → Bool
  | .case label => (read? label).isSome
  | .default => true

/-- The statements from the first section with a label of some kind to the end of the
switch.
-/
def Section.from? (starts : CaseLabel → Bool) : List Section → Option (List Stmt)
  | [] => none
  | .mk labels body :: rest =>
      if labels.any starts then some (body ++ rest.flatMap Section.body)
      else Section.from? starts rest

namespace Stmt

/-- The labels of a switch, in order. -/
def labels : Stmt → List CaseLabel
  | .choose _ sections => sections.flatMap Section.labels
  | _ => []

/-- What statements return if the first one does. -/
def returned? : List Stmt → Option Expr
  | .result value :: _ => some value
  | _ => none

/-- The expression that a switch returns, if it is known what its subject and its labels
stand for.
-/
def answer? (read? : Expr → Option Datum) : Stmt → Option Expr
  | .choose subject sections =>
      if (sections.flatMap Section.labels).all (CaseLabel.isKnown read?) then
        (read? subject).bind
          (fun value =>
            ((Section.from? (CaseLabel.matches read? value) sections).or
                (Section.from? CaseLabel.isDefault sections)).bind
              returned?)
      else none
  | _ => none

end Stmt

section Entering

variable {α : Type} {starts : CaseLabel → Bool} {labels : α → List CaseLabel} {entries : List α}

/-- A switch is entered at the first section of a family that has a label of the kind, by
induction on the family.
-/
theorem Section.from?_of_find? (result : α → Expr) (later : List Section) {entry : α}
    (first : entries.find? (fun entry => (labels entry).any starts) = some entry)
    : ∃ rest,
        Section.from? starts
            (entries.map (fun entry => .mk (labels entry) [.result (result entry)]) ++ later)
          = some (.result (result entry) :: rest) := by
  induction entries with
  | nil => cases first
  | cons head tail ih =>
      rw [List.map_cons, List.cons_append, Section.from?]
      rw [List.find?_cons] at first
      split at first
      · rename_i here
        obtain rfl := Option.some.inj first
        rw [if_pos here]
        exact ⟨_, rfl⟩
      · rename_i apart
        rw [if_neg (by rw [apart]; exact Bool.false_ne_true)]
        exact ih first

/-- A switch is entered after a family of sections that has no label of the kind. -/
theorem Section.from?_of_find?_eq_none {result : α → Expr} {later : List Section}
    (none : entries.find? (fun entry => (labels entry).any starts) = none)
    : Section.from? starts
          (entries.map (fun entry => .mk (labels entry) [.result (result entry)]) ++ later)
        = Section.from? starts later := by
  induction entries with
  | nil => rfl
  | cons head tail ih =>
      rw [List.find?_eq_none] at none
      obtain ⟨apart, others⟩ := List.forall_mem_cons.mp none
      rw [List.map_cons, List.cons_append, Section.from?, if_neg apart]
      exact ih (List.find?_eq_none.mpr others)

/-- A switch that ends with `default`, in which every section returns: it returns for the
first section with a label that is strictly equal to the subject, or else for the last
section. Witness: whether some section has such a label.
-/
theorem Stmt.answer?_choose {read? : Expr → Option Datum} {subject fallback : Expr}
    {value : Datum} {others : List CaseLabel} (labels : α → List CaseLabel) (result : α → Expr)
    (given : read? subject = some value)
    (known
      : ∀ entry ∈ entries, ∀ label ∈ labels entry,
          label.isKnown read? = true ∧ label.isDefault = false)
    (knownLast : ∀ label ∈ others, label.isKnown read? = true) (last : .default ∈ others)
    : (Stmt.choose subject
            (entries.map (fun entry => .mk (labels entry) [.result (result entry)])
              ++ [.mk others [.result fallback]])).answer?
          read?
      = some
          ((entries.find? (fun entry => (labels entry).any (CaseLabel.matches read? value))).elim
            fallback result) := by
  have allKnown
      : ((entries.map (fun entry => Section.mk (labels entry) [.result (result entry)])
                ++ [Section.mk others [.result fallback]]).flatMap
            Section.labels).all
          (CaseLabel.isKnown read?)
        = true := by
    refine List.all_eq_true.mpr (List.forall_mem_flatMap.mpr (List.forall_mem_append.mpr ⟨?_, ?_⟩))
    · exact List.forall_mem_map.mpr (fun entry member label inLabels =>
        (known entry member label inLabels).1)
    · exact List.forall_mem_singleton.mpr knownLast
  rw [Stmt.answer?, if_pos allKnown, given, Option.bind_some]
  cases met : entries.find? (fun entry => (labels entry).any (CaseLabel.matches read? value)) with
  | some entry =>
      obtain ⟨rest, entered⟩ :=
        Section.from?_of_find? result [.mk others [.result fallback]] met
      rw [entered]
      rfl
  | none =>
      have noDefault
          : entries.find? (fun entry => (labels entry).any CaseLabel.isDefault) = none := by
        refine List.find?_eq_none.mpr (fun entry member found => ?_)
        obtain ⟨label, inLabels, isDefault⟩ := List.any_eq_true.mp found
        rw [(known entry member label inLabels).2] at isDefault
        cases isDefault
      have entered
          : Section.from? CaseLabel.isDefault [.mk others [.result fallback]]
            = some [.result fallback] :=
        if_pos (List.any_eq_true.mpr ⟨.default, last, rfl⟩)
      rw [Section.from?_of_find?_eq_none met, Section.from?_of_find?_eq_none noDefault, entered,
        Section.from?]
      split <;> rfl

end Entering

end ProtobufTypeScript.Target
