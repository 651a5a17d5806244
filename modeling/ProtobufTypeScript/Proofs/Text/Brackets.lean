import Mathlib.Data.List.Basic

/-!
Brackets. A text is read with the closing brackets in mind that are owed by the brackets it opened:
each closing bracket must be the one owed last. A text is balanced if it can be read and owes
nothing in the end; whatever is owed before, reading it then changes nothing.
-/

namespace ProtobufTypeScript.Text

/-- The bracket that closes an opening one. -/
def closingOf? : Char → Option Char
  | '(' => some ')'
  | '[' => some ']'
  | '\x7b' => some '\x7d'
  | _ => none

def isClosing (c : Char) : Bool :=
  c == ')' || c == ']' || c == '\x7d'

def isBracket (c : Char) : Bool :=
  (closingOf? c).isSome || isClosing c

/-- What is still owed after a closing bracket, if it is the one owed last. -/
def closeWith (c : Char) : List Char → Option (List Char)
  | [] => none
  | due :: others => if c = due then some others else none

/-- What is owed after a character, the bracket to come next in front. -/
def readBracket (owed : List Char) (c : Char) : Option (List Char) :=
  match closingOf? c with
  | some closing => some (closing :: owed)
  | none => if isClosing c then closeWith c owed else some owed

/-- What is owed after a text. -/
def owedAfter (owed : List Char) (text : List Char) : Option (List Char) :=
  text.foldlM readBracket owed

/-- Every closing bracket closes the last one that is open, and none is left open. -/
def IsBalanced (text : List Char) : Prop :=
  owedAfter [] text = some []

instance (text : List Char) : Decidable (IsBalanced text) :=
  inferInstanceAs (Decidable (owedAfter [] text = some []))

example : IsBalanced "(a[i], \x7b b: c() \x7d)".toList ∧ ¬ IsBalanced "(a[i)]".toList := by decide

variable {before after : List Char} {first second text : List Char}

@[simp] theorem owedAfter_nil (owed : List Char)
    : owedAfter owed [] = some owed :=
  rfl

/-- Reading a text is reading its first character and going on with the brackets that are
owed then.
-/
@[simp] theorem owedAfter_cons (owed : List Char) (c : Char) (rest : List Char)
    : owedAfter owed (c :: rest) = (readBracket owed c).bind (owedAfter · rest) :=
  rfl

/-- Reading two texts in sequence is reading the second one with the brackets that the
first one leaves open.
-/
@[simp] theorem owedAfter_append (owed : List Char)
    : owedAfter owed (first ++ second) = (owedAfter owed first).bind (owedAfter · second) :=
  List.foldlM_append

/-- There are six brackets, three that open and three that close. -/
theorem isBracket_iff {c : Char}
    : isBracket c = true
      ↔ c = '(' ∨ c = ')' ∨ c = '[' ∨ c = ']' ∨ c = '\x7b' ∨ c = '\x7d' := by
  unfold isBracket closingOf? isClosing
  split <;> simp_all [or_assoc]

/-- A character that is no bracket leaves the open brackets as they are. -/
theorem readBracket_of_plain {c : Char} (plain : isBracket c = false) (owed : List Char)
    : readBracket owed c = some owed := by
  rw [isBracket, Bool.or_eq_false_iff, Option.isSome_eq_false_iff, Option.isNone_iff_eq_none]
    at plain
  simp [readBracket, plain.1, plain.2]

/-- What is owed further down is left alone, since reading a character looks at the
innermost bracket only. Witness: the cases of an opening, a closing and any other
character.
-/
theorem readBracket_below {c : Char} (read : readBracket before c = some after)
    (owed : List Char)
    : readBracket (before ++ owed) c = some (after ++ owed) := by
  unfold readBracket at read ⊢
  cases opening : closingOf? c with
  | some closing =>
      rw [opening] at read
      rw [← Option.some.inj read]
      rfl
  | none =>
      rw [opening] at read
      dsimp only at read ⊢
      split at read
      · rename_i closes
        rw [if_pos closes]
        cases before with
        | nil => cases read
        | cons due others =>
            rw [List.cons_append, closeWith] at *
            split at read
            · rename_i same
              rw [if_pos same, Option.some.inj read]
            · cases read
      · rename_i other
        rw [if_neg other, Option.some.inj read]

/-- A text that can be read when something is owed can be read when more is owed below
that, by induction on the text.
-/
theorem owedAfter_below (read : owedAfter before text = some after) (owed : List Char)
    : owedAfter (before ++ owed) text = some (after ++ owed) := by
  induction text generalizing before with
  | nil =>
      cases read
      rfl
  | cons c rest ih =>
      rw [owedAfter_cons] at read ⊢
      obtain ⟨between, here, later⟩ := Option.bind_eq_some_iff.mp read
      rw [readBracket_below here owed]
      exact ih later

/-- Reading a balanced text changes nothing in what is owed. -/
theorem IsBalanced.owedAfter_eq (balanced : IsBalanced text) (owed : List Char)
    : owedAfter owed text = some owed :=
  owedAfter_below balanced owed

theorem isBalanced_nil
    : IsBalanced [] :=
  rfl

/-- Balanced texts in sequence are balanced, since the first one leaves no bracket open.
-/
theorem IsBalanced.append (before : IsBalanced first) (after : IsBalanced second)
    : IsBalanced (first ++ second) := by
  rw [IsBalanced, owedAfter_append, before.owedAfter_eq]
  exact after

-----------------------------------------------------------------------------------------
-- The brackets of a text
-----------------------------------------------------------------------------------------

/-- The brackets of a text, without what stands between them. -/
def brackets (text : List Char) : List Char :=
  text.filter isBracket

@[simp] theorem brackets_nil
    : brackets [] = [] :=
  rfl

@[simp] theorem brackets_append
    : brackets (first ++ second) = brackets first ++ brackets second :=
  List.filter_append first second

theorem brackets_cons (c : Char) (rest : List Char)
    : brackets (c :: rest) = if isBracket c then c :: brackets rest else brackets rest :=
  List.filter_cons

/-- A text without brackets has none to keep. -/
theorem brackets_of_plain (plain : ∀ c ∈ text, isBracket c = false)
    : brackets text = [] :=
  List.filter_eq_nil_iff.mpr (fun c member => Bool.eq_false_iff.mp (plain c member))

/-- Only the brackets of a text count for what is left open, by induction on the text with
any brackets open before it.
-/
theorem owedAfter_brackets (owed : List Char)
    : owedAfter owed (brackets text) = owedAfter owed text := by
  induction text generalizing owed with
  | nil => rfl
  | cons c rest ih =>
      rw [brackets, List.filter_cons]
      split
      · rw [owedAfter_cons, owedAfter_cons]
        congr 1
        funext after
        exact ih after
      · rename_i plain
        rw [owedAfter_cons, readBracket_of_plain (Bool.eq_false_iff.mpr plain)]
        exact ih owed

/-- Whether a text is balanced shows in its brackets. -/
theorem isBalanced_brackets
    : IsBalanced (brackets text) ↔ IsBalanced text := by
  rw [IsBalanced, IsBalanced, owedAfter_brackets]

-----------------------------------------------------------------------------------------
-- Balanced texts one after the other
-----------------------------------------------------------------------------------------

/-- Balanced texts in sequence are balanced, however many there are, by induction on what
they are made of.
-/
theorem isBalanced_flatMap {α : Type} {values : List α} {code : α → List Char}
    (each : ∀ value ∈ values, IsBalanced (code value))
    : IsBalanced (values.flatMap code) := by
  induction values with
  | nil => exact isBalanced_nil
  | cons value rest ih =>
      obtain ⟨here, later⟩ := List.forall_mem_cons.mp each
      exact here.append (ih later)

/-- Balanced texts may have a balanced text between any two of them. Witness: induction on
the parts, of which the last one has nothing behind it.
-/
theorem isBalanced_intercalate {α : Type} {code : α → List Char} {separator : List α}
    {parts : List (List α)} (between : IsBalanced (separator.flatMap code))
    (each : ∀ part ∈ parts, IsBalanced (part.flatMap code))
    : IsBalanced ((separator.intercalate parts).flatMap code) := by
  induction parts with
  | nil => exact isBalanced_nil
  | cons part rest ih =>
      obtain ⟨here, later⟩ := List.forall_mem_cons.mp each
      cases rest with
      | nil => simpa using here
      | cons next others =>
          rw [List.intercalate_cons_cons, List.flatMap_append, List.flatMap_append]
          exact (here.append between).append (ih later)

-----------------------------------------------------------------------------------------
-- Strings
-----------------------------------------------------------------------------------------

/-- Whether a string is balanced. -/
def Balances (text : String) : Prop :=
  IsBalanced text.toList

instance (text : String) : Decidable (Balances text) :=
  inferInstanceAs (Decidable (IsBalanced text.toList))

/-- Reading a balanced string changes nothing in what is owed. -/
theorem Balances.owedAfter_eq {text : String} (balanced : Balances text) (owed : List Char)
    : owedAfter owed (brackets text.toList) = some owed :=
  (isBalanced_brackets.mpr balanced).owedAfter_eq owed

/-- A text without brackets is balanced. -/
theorem balances_of_plain {text : String} (plain : ∀ c ∈ text.toList, isBracket c = false)
    : Balances text := by
  rw [Balances, ← isBalanced_brackets, brackets_of_plain plain]
  exact isBalanced_nil

/-- Balanced strings in sequence are balanced. This is the fact for their characters. -/
theorem balances_append {before after : String} (first : Balances before)
    (second : Balances after)
    : Balances (before ++ after) := by
  rw [Balances, String.toList_append]
  exact IsBalanced.append first second

/-- Balanced strings are balanced with a balanced separator between any two of them, by
the same for lists of characters.
-/
theorem balances_intercalate {separator : String} {parts : List String}
    (between : Balances separator) (each : ∀ part ∈ parts, Balances part)
    : Balances (separator.intercalate parts) := by
  have characters
      : IsBalanced
          ((separator.toList.intercalate (parts.map String.toList)).flatMap (fun c => [c])) := by
    refine isBalanced_intercalate ?_ (List.forall_mem_map.mpr (fun part member => ?_))
    · simpa using (show IsBalanced separator.toList from between)
    · simpa using (show IsBalanced part.toList from each part member)
  rw [Balances, String.toList_intercalate]
  simpa using characters

end ProtobufTypeScript.Text
