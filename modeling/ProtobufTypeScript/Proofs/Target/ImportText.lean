import Mathlib.Tactic.TypeStar
import ProtobufTypeScript.Proofs.Target.Contents
import ProtobufTypeScript.Proofs.Text.Lines
import ProtobufTypeScript.Proofs.Text.Order
import ProtobufTypeScript.Target.SourceUnit

/-!
Import statements as text. A clause binds a local name to an exported one if it is that name, or the
exported name with the local one after `as`. What an import statement binds is read off its text by
someone who knows the grammar of such lines and nothing about how they came to be written.
-/

namespace ProtobufTypeScript.Target

-----------------------------------------------------------------------------------------
-- What a text binds
-----------------------------------------------------------------------------------------

/-- Whether a clause of an import statement binds the local name of an import to the name
that its module exports.
-/
inductive Import.BoundBy (entry : Import) : String → Prop
  /-- The name is kept, and the clause is this name. -/
  | same (kept : entry.2 = entry.1.name) : BoundBy entry entry.2
  /-- The clause gives both names. -/
  | renamed (other : entry.2 ≠ entry.1.name) : BoundBy entry (entry.1.name ++ " as " ++ entry.2)

/-- Whether a text is a statement that binds just the given imports to what the module at
a specifier holds.
-/
inductive ImportStatement.Binds (specifier : String) : List Import → String → Prop
  /-- A local name for the whole module. -/
  | whole (entry : Import) (entire : entry.isWhole = true)
    : Binds specifier [entry] ("import * as " ++ entry.2 ++ " from '" ++ specifier ++ "';")
  /-- Clauses for names that the module exports: one for each import, and none for
  anything else.
  -/
  | named (entries : List Import) (clauses : List String)
    (parts : ∀ entry ∈ entries, entry.isWhole = false)
    (stated : ∀ entry ∈ entries, ∃ clause ∈ clauses, entry.BoundBy clause)
    (meant : ∀ clause ∈ clauses, ∃ entry ∈ entries, entry.BoundBy clause)
    (once : clauses.Nodup)
    : Binds specifier entries
        ("import \x7b " ++ ", ".intercalate clauses ++ " \x7d from '" ++ specifier ++ "';")

/-- The clause of an import binds its local name, whether it is renamed or not. -/
theorem Import.boundBy_clause (entry : Import)
    : entry.BoundBy entry.clause := by
  rw [Import.clause]
  split
  · rename_i kept
    exact .same kept
  · rename_i other
    exact .renamed other

/-- The text of a statement binds the imports of the statement, if it is a statement for a
whole module exactly when its imports stand for one. Both forms of statements are the
cases.
-/
theorem ImportStatement.binds_text {statement : ImportStatement}
    (kinds
      : ∀ entry ∈ statement.bound,
          entry.isWhole = true ↔ statement = .whole entry statement.specifier)
    : ImportStatement.Binds statement.specifier statement.bound statement.text := by
  cases statement with
  | whole entry specifier =>
      exact .whole entry ((kinds entry (List.mem_singleton.mpr rfl)).mpr rfl)
  | named entries specifier =>
      refine .named entries _ (fun entry member => ?_) (fun entry member => ?_)
        (fun clause member => ?_) (Text.nodup_sortDistinct _ _)
      · have apart := mt (kinds entry member).mp (by simp)
        simpa using apart
      · exact ⟨entry.clause, Text.mem_sortStrings.mpr (List.mem_map_of_mem member),
          entry.boundBy_clause⟩
      · obtain ⟨entry, inEntries, rfl⟩ := List.mem_map.mp (Text.mem_sortStrings.mp member)
        exact ⟨entry, inEntries, entry.boundBy_clause⟩

-----------------------------------------------------------------------------------------
-- A reader of import statements
-----------------------------------------------------------------------------------------

/-- The words of a text: what stands between its blanks. -/
def wordsOf (text : List Char) : List (List Char) :=
  (Text.splitAt ' ' text).filter (fun word => !word.isEmpty)

/-- The exported and the local name that a clause gives, if it has the form of a clause.
-/
def readClause? (clause : List Char) : Option (String × String) :=
  match (wordsOf clause).map String.ofList with
  | [name] => some (name, name)
  | [exported, "as", name] => some (exported, name)
  | _ => none

/-- The local name that the beginning of a line binds to a whole module, if it has this
form.
-/
def readWhole? (text : List Char) : Option String :=
  match (wordsOf text).map String.ofList with
  | ["import", "*", "as", name, "from"] => some name
  | _ => none

/-- What the part of a line before its quotes binds: pairs of an exported and a local
name, where a star stands for the whole module. Clauses stand between braces.
-/
def readBindings? (text : List Char) : Option (List (String × String)) :=
  match Text.cutAt '\x7b' text with
  | none => (readWhole? text).map (fun name => [("*", name)])
  | some (_, rest) =>
      (Text.cutAt '\x7d' rest).bind (fun cut => (Text.splitAt ',' cut.1).mapM readClause?)

/-- What a line binds, and the specifier between its quotes. -/
def readImport? (line : String) : Option (List (String × String) × String) := do
  let (head, rest) ← Text.cutAt '\'' line.toList
  let (specifier, _) ← Text.cutAt '\'' rest
  let bindings ← readBindings? head
  return (bindings, String.ofList specifier)

/-- What an import binds: the name that its module exports, or a star, and the local name.
-/
def Import.binding (entry : Import) : String × String :=
  (if entry.isWhole then "*" else entry.1.name, entry.2)

/-- Whether a name can be told from what stands around it in an import statement. -/
structure IsWord (name : String) : Prop where
  nonempty : name ≠ ""
  plain : ∀ c ∈ name.toList, c ∉ [' ', ',', '\x7b', '\x7d', '\'']

-----------------------------------------------------------------------------------------
-- Words and clauses are read back
-----------------------------------------------------------------------------------------

section Reading

variable {entry : Import} {word : List Char}

@[simp] theorem wordsOf_nil
    : wordsOf [] = [] :=
  rfl

/-- A blank parts the words before it from those after it. -/
theorem wordsOf_append_blank (before after : List Char)
    : wordsOf (before ++ ' ' :: after) = wordsOf before ++ wordsOf after := by
  have parts
      : (before ++ ' ' :: after).splitOn ' ' = before.splitOn ' ' ++ after.splitOn ' ' :=
    List.splitOnP_append_cons before after (by decide)
  simp only [wordsOf, Text.splitAt_eq_splitOn, parts, List.filter_append]

/-- A name without blanks is the one word of its text. -/
theorem wordsOf_of_solid (solid : ' ' ∉ word) (some : word ≠ [])
    : wordsOf word = [word] := by
  rw [wordsOf, Text.splitAt_eq_splitOn, List.splitOn_eq_singleton solid,
    List.filter_cons_of_pos (by simpa using some), List.filter_nil]

/-- No character that parts clauses stands in a word. -/
theorem IsWord.not_mem {name : String} (plain : IsWord name) {c : Char}
    (mark : c ∈ [' ', ',', '\x7b', '\x7d', '\''])
    : c ∉ name.toList :=
  fun member => plain.plain c member mark

/-- A word is read as this one word. -/
theorem IsWord.wordsOf_toList {name : String} (plain : IsWord name)
    : wordsOf name.toList = [name.toList] :=
  wordsOf_of_solid (plain.not_mem (by simp)) (by simpa using plain.nonempty)

/-- Whether both names of an import are words. -/
structure Import.HasWords (entry : Import) : Prop where
  exported : IsWord entry.1.name
  bound : IsWord entry.2

/-- The words of a clause are the name, or the two names with `as` between them. -/
theorem Import.HasWords.readClause? (words : entry.HasWords)
    : Target.readClause? entry.clause.toList = some (entry.1.name, entry.2) := by
  by_cases kept : entry.2 = entry.1.name
  · have one : wordsOf entry.clause.toList = [entry.2.toList] := by
      rw [Import.clause, if_pos kept, words.bound.wordsOf_toList]
    simp [Target.readClause?, one, kept]
  · have text
        : entry.clause.toList
          = entry.1.name.toList ++ ' ' :: (['a', 's'] ++ ' ' :: entry.2.toList) := by
      simp [Import.clause, kept]
    have three
        : wordsOf entry.clause.toList = [entry.1.name.toList, ['a', 's'], entry.2.toList] := by
      rw [text, wordsOf_append_blank, wordsOf_append_blank, words.exported.wordsOf_toList,
        words.bound.wordsOf_toList]
      rfl
    have middle : String.ofList ['a', 's'] = "as" := rfl
    simp [Target.readClause?, three, middle]

/-- Of the characters that delimit clauses and statements none stands in a clause, as none
stands in a word.
-/
theorem Import.HasWords.not_mem_clause (words : entry.HasWords) {c : Char}
    (mark : c ∈ [',', '\x7b', '\x7d', '\''])
    : c ∉ entry.clause.toList := by
  have exported : c ∉ entry.1.name.toList := words.exported.not_mem (by simp_all)
  have bound : c ∉ entry.2.toList := words.bound.not_mem (by simp_all)
  have plain : c ∉ " as ".toList := by
    simp only [List.mem_cons, List.not_mem_nil, or_false] at mark
    rcases mark with rfl | rfl | rfl | rfl <;> decide
  rw [Import.clause]
  split
  · exact bound
  · simp only [String.toList_append, List.mem_append, not_or]
    exact ⟨⟨exported, plain⟩, bound⟩

/-- Blanks around a clause change nothing for its reader. -/
theorem readClause?_between_blanks (clause : List Char)
    : readClause? (' ' :: clause) = readClause? clause
      ∧ readClause? (clause ++ [' ']) = readClause? clause := by
  have first : wordsOf (' ' :: clause) = wordsOf clause := wordsOf_append_blank [] clause
  have last : wordsOf (clause ++ [' ']) = wordsOf clause := by
    rw [wordsOf_append_blank, wordsOf_nil, List.append_nil]
  exact ⟨by rw [readClause?, readClause?, first], by rw [readClause?, readClause?, last]⟩

/-- Between the braces, clauses with commas between them are read one by one, by induction
on the imports that they are for.
-/
theorem mapM_readClause?_intercalate {entries : List Import} (some : entries ≠ [])
    (words : ∀ entry ∈ entries, entry.HasWords)
    : (Text.splitAt ','
          (' ' :: ((", ".intercalate (entries.map Import.clause)).toList ++ [' ']))).mapM
        readClause?
      = Option.some (entries.map (fun entry => (entry.1.name, entry.2))) := by
  simp only [Text.splitAt_eq_splitOn]
  induction entries with
  | nil => exact absurd rfl some
  | cons entry rest ih =>
      obtain ⟨here, later⟩ := List.forall_mem_cons.mp words
      have free : ',' ∉ ' ' :: entry.clause.toList := by
        simpa using here.not_mem_clause (c := ',') (by simp)
      cases rest with
      | nil =>
          have only
              : ' ' :: ((", ".intercalate ([entry].map Import.clause)).toList ++ [' '])
                = (' ' :: entry.clause.toList) ++ [' '] := by
            simp
          rw [only, List.splitOn_eq_singleton (by simpa using free)]
          simp [(readClause?_between_blanks _).1, (readClause?_between_blanks _).2,
            here.readClause?]
      | cons second others =>
          have parted
              : ' ' :: ((", ".intercalate ((entry :: second :: others).map Import.clause)).toList
                    ++ [' '])
                = (' ' :: entry.clause.toList) ++ ','
                    :: (' ' :: ((", ".intercalate ((second :: others).map Import.clause)).toList
                        ++ [' '])) := by
            simp [String.intercalate_cons_cons]
          rw [parted, List.splitOn_append_cons_self_of_not_mem free, List.mapM_cons,
            ih (by simp) later, (readClause?_between_blanks _).1, here.readClause?]
          rfl

-----------------------------------------------------------------------------------------
-- Statements are read back
-----------------------------------------------------------------------------------------

/-- The words of a statement for a whole module say which name it binds: it is the fourth
word of five.
-/
theorem readWhole?_of_word {name : String} (plain : IsWord name)
    : readWhole? ("import * as " ++ name ++ " from ").toList = some name := by
  have text
      : ("import * as " ++ name ++ " from ").toList
        = "import".toList ++ ' ' :: ("*".toList ++ ' ' :: ("as".toList ++ ' '
            :: (name.toList ++ ' ' :: ("from".toList ++ ' ' :: [])))) := by
    simp
  have words
      : wordsOf ("import * as " ++ name ++ " from ").toList
        = ["import".toList, "*".toList, "as".toList, name.toList, "from".toList] := by
    simp only [text, wordsOf_append_blank, plain.wordsOf_toList]
    rfl
  rw [readWhole?, words]
  simp

/-- Some of the imports that a list is of, in the order of their clauses. -/
theorem exists_map_clause_eq (entries : List Import) (clauses : List String)
    (stated : ∀ clause ∈ clauses, clause ∈ entries.map Import.clause)
    : ∃ order : List Import, order.map Import.clause = clauses ∧ order ⊆ entries := by
  induction clauses with
  | nil => exact ⟨[], rfl, List.nil_subset _⟩
  | cons clause rest ih =>
      obtain ⟨here, later⟩ := List.forall_mem_cons.mp stated
      obtain ⟨entry, member, rfl⟩ := List.mem_map.mp here
      obtain ⟨order, rfl, inEntries⟩ := ih later
      exact ⟨entry :: order, rfl, List.cons_subset.mpr ⟨member, inEntries⟩⟩

end Reading

namespace ImportStatement

variable {statement : ImportStatement}

/-- The quotes of a line part what it binds from the specifier. -/
theorem readImport?_of_quoted {line specifier : String} {head : List Char}
    {bindings : List (String × String)}
    (text : line.toList = head ++ '\'' :: (specifier.toList ++ '\'' :: [';']))
    (unquoted : '\'' ∉ head) (plain : '\'' ∉ specifier.toList)
    (read : readBindings? head = some bindings)
    : readImport? line = some (bindings, specifier) := by
  simp only [readImport?, text, Text.cutAt_append_cons unquoted, Text.cutAt_append_cons plain,
    read, Option.bind_eq_bind, Option.bind_some, Option.pure_def, String.ofList_toList]

/-- What the clauses of a statement bind is read between its braces. -/
theorem readBindings?_clauses {order : List Import} {clauses : List Char} (some : order ≠ [])
    (words : ∀ entry ∈ order, entry.HasWords)
    (written : clauses = (", ".intercalate (order.map Import.clause)).toList)
    (closed : '\x7d' ∉ clauses)
    : readBindings?
        ("import ".toList ++ '\x7b' :: ((' ' :: (clauses ++ [' '])) ++ '\x7d' :: " from ".toList))
      = Option.some (order.map (fun entry => (entry.1.name, entry.2))) := by
  have before : '\x7b' ∉ "import ".toList := by decide
  have inside : '\x7d' ∉ ' ' :: (clauses ++ [' ']) := by simpa using closed
  rw [readBindings?, Text.cutAt_append_cons before]
  simp only [Text.cutAt_append_cons inside, Option.bind_some]
  rw [written, mapM_readClause?_intercalate some words]

/-- Of the marks that delimit a statement none stands in its clauses. -/
theorem not_mem_clauses {order : List Import} (words : ∀ entry ∈ order, entry.HasWords) {c : Char}
    (mark : c ∈ ['\x7b', '\x7d', '\''])
    : c ∉ (", ".intercalate (order.map Import.clause)).toList := by
  have between : ∀ d ∈ ", ".toList, d ≠ c := by
    simp only [List.mem_cons, List.not_mem_nil, or_false] at mark
    rcases mark with rfl | rfl | rfl <;> simp
  have apart : ∀ d ∈ (", ".intercalate (order.map Import.clause)).toList, d ≠ c := by
    rw [String.toList_intercalate, forall_mem_intercalate between, List.map_map]
    refine List.forall_mem_map.mpr (fun entry member d inClause same => ?_)
    exact (words entry member).not_mem_clause (List.mem_cons_of_mem _ mark) (same ▸ inClause)
  exact fun member => apart c member rfl

/-- A reader of the text of a statement finds what the statement imports and from where,
if the names are words and no quote stands in the specifier. Witness: the parts at which
the text is cut, the last of which is the specifier.
-/
theorem readImport?_text
    (kinds
      : ∀ entry ∈ statement.bound,
          entry.isWhole = true ↔ statement = .whole entry statement.specifier)
    (some : statement.bound ≠ []) (words : ∀ entry ∈ statement.bound, entry.HasWords)
    (plain : '\'' ∉ statement.specifier.toList)
    : ∃ bindings,
        readImport? statement.text = Option.some (bindings, statement.specifier)
        ∧ ∀ binding, binding ∈ bindings ↔ binding ∈ statement.bound.map Import.binding := by
  cases statement with
  | whole entry specifier =>
      have here : entry.HasWords := words entry (List.mem_singleton.mpr rfl)
      have entire : entry.isWhole = true :=
        (kinds entry (List.mem_singleton.mpr rfl)).mpr rfl
      have unquoted : '\'' ∉ ("import * as " ++ entry.2 ++ " from ").toList := by
        simpa using here.bound.not_mem (c := '\'') (by simp)
      have braceless : '\x7b' ∉ ("import * as " ++ entry.2 ++ " from ").toList := by
        simpa using here.bound.not_mem (c := '\x7b') (by simp)
      refine ⟨[("*", entry.2)], ?_, by simp [bound, Import.binding, entire]⟩
      refine readImport?_of_quoted (by simp [text, ImportStatement.specifier]) unquoted plain ?_
      rw [readBindings?, Text.cutAt_eq_none braceless]
      simp only [readWhole?_of_word here.bound, Option.map_some]
  | named entries specifier =>
      obtain ⟨order, written, inEntries⟩ :=
        exists_map_clause_eq entries (Text.sortStrings (entries.map Import.clause))
          (fun clause member => Text.mem_sortStrings.mp member)
      have each : ∀ entry ∈ order, entry.HasWords :=
        fun entry member => words entry (inEntries member)
      have listed : ∀ entry ∈ entries, entry.clause ∈ order.map Import.clause := by
        intro entry member
        rw [written, Text.mem_sortStrings]
        exact List.mem_map_of_mem member
      have someListed : order ≠ [] := by
        rintro rfl
        obtain ⟨entry, member⟩ := List.exists_mem_of_ne_nil _ some
        exact absurd (listed entry member) List.not_mem_nil
      have parts : ∀ entry ∈ entries, entry.binding = (entry.1.name, entry.2) := by
        intro entry member
        have apart := mt (kinds entry member).mp (by simp)
        rw [Import.binding, if_neg apart]
      refine ⟨order.map (fun entry => (entry.1.name, entry.2)), ?_, ?_⟩
      · refine readImport?_of_quoted ?_ ?_ plain
          (readBindings?_clauses someListed each rfl (not_mem_clauses each (by simp)))
        · simp [text, ← written, ImportStatement.specifier]
        · simpa using not_mem_clauses each (c := '\'') (by simp)
      · intro binding
        constructor
        · intro member
          obtain ⟨entry, inOrder, rfl⟩ := List.mem_map.mp member
          exact List.mem_map.mpr ⟨entry, inEntries inOrder, parts entry (inEntries inOrder)⟩
        · intro member
          obtain ⟨entry, inBound, rfl⟩ := List.mem_map.mp member
          -- The clause of the entry may stand for another one, which then has the same names.
          obtain ⟨other, inOrder, same⟩ := List.mem_map.mp (listed entry inBound)
          have read := (each other inOrder).readClause?
          rw [same, (words entry inBound).readClause?, Option.some.injEq] at read
          rw [parts entry inBound, read]
          exact List.mem_map_of_mem inOrder

end ImportStatement

end ProtobufTypeScript.Target
