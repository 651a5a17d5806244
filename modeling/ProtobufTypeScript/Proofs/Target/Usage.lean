import ProtobufTypeScript.Helper.Basic
import ProtobufTypeScript.Target.Library
import ProtobufTypeScript.Target.Stmt

/-!
How code uses symbols: which text stands right behind a symbol. Code that text may follow is put
together from parts that other parts close off, so that it is enough to know what each part is
closed off by.
-/

namespace ProtobufTypeScript.Target

/-- Which texts may stand right behind which symbols. What libraries offer and most of the
helpers may be used in any way.
-/
structure Usage where
  allows : Symbol → List Char → Prop
  reader (next : List Char) : allows Library.reader next
  writer (next : List Char) : allows Library.writer next
  long (next : List Char) : allows Library.long next
  dataLoader (next : List Char) : allows Library.dataLoader next
  hash (next : List Char) : allows Library.hash next
  helper (helper : Helper) (next : List Char) (ordinary : helper ≠ .fromJsonTimestamp)
    : allows helper.symbol next

/-- Whether a text neither asks for a member nor goes on with a name. -/
def Closes (text : List Char) : Prop :=
  ∀ c ∈ text.head?, c ≠ '.' ∧ c.isAlphanum = false

/-- Whether a text is not empty and closes what stands before it, whatever comes later. -/
def closes (text : String) : Bool :=
  match text.toList with
  | c :: _ => c ≠ '.' && !c.isAlphanum
  | [] => false

theorem closes_nil
    : Closes [] := by
  simp [Closes]

/-- A text that closes what stands before it still does so when more text follows. -/
theorem Closes.of_closes {text : String} (closing : closes text = true) (next : List Char)
    : Closes (text.toList ++ next) := by
  unfold closes at closing
  split at closing
  · rename_i c rest written
    rw [written]
    simpa [Closes] using closing
  · cases closing

namespace Usage

variable {usage : Usage}

/-- Whether a snippet uses its symbols in ways that are allowed if a text comes next. -/
def AllowsBefore (usage : Usage) (next : List Char) (snippet : Snippet) : Prop :=
  ∀ before symbol after,
    snippet = before ++ .symbol symbol :: after
    → usage.allows symbol (Snippet.written after ++ next)

/-- Whether a snippet uses its symbols in ways that are allowed, whatever comes next. -/
def AllowsAnywhere (usage : Usage) (snippet : Snippet) : Prop :=
  ∀ next, usage.AllowsBefore next snippet

/-- Whether a snippet uses its symbols in ways that are allowed if what comes next closes
it.
-/
def Allows (usage : Usage) (snippet : Snippet) : Prop :=
  ∀ next, Closes next → usage.AllowsBefore next snippet

/-- Whether a symbol may be used as it is. -/
def Frees (usage : Usage) (symbol : Symbol) : Prop :=
  ∀ next, Closes next → usage.allows symbol next

/-- Whether a member of a symbol may be used. -/
def Grants (usage : Usage) (symbol : Symbol) (member : String) : Prop :=
  ∀ next, Closes next → usage.allows symbol (("." ++ member).toList ++ next)

/-- Whether all text lines of a block use their symbols in ways that are allowed. -/
def AllowsLines (usage : Usage) (block : Block) : Prop :=
  ∀ line, .text line ∈ block → usage.Allows line

-----------------------------------------------------------------------------------------
-- Snippets
-----------------------------------------------------------------------------------------

/-- Code in two parts is allowed before a text exactly if its first part is allowed before
the second one and the text, and the second part before the text. A symbol stands in one
of the parts.
-/
theorem allowsBefore_append {next : List Char} {left right : Snippet}
    : usage.AllowsBefore next (left ++ right)
      ↔ usage.AllowsBefore (Snippet.written right ++ next) left
        ∧ usage.AllowsBefore next right := by
  constructor
  · intro allowed
    constructor
    · rintro before symbol after rfl
      simpa [Snippet.written] using allowed before symbol (after ++ right) (by simp)
    · rintro before symbol after rfl
      exact allowed (left ++ before) symbol after (by simp)
  · rintro ⟨inLeft, inRight⟩ before symbol after parted
    rcases List.append_eq_append_iff.mp parted with ⟨rest, rfl, later⟩ | ⟨rest, rfl, later⟩
    · exact inRight rest symbol after later
    · cases rest with
      | nil => exact inRight [] symbol after later.symm
      | cons piece others =>
          obtain ⟨rfl, rfl⟩ := List.cons.inj later
          simpa [Snippet.written] using inLeft before symbol others rfl

/-- What is allowed before every text is allowed before those that close it. -/
theorem AllowsAnywhere.allows {snippet : Snippet} (allowed : usage.AllowsAnywhere snippet)
    : usage.Allows snippet :=
  fun next _ => allowed next

/-- What may stand anywhere may stand where it is closed. -/
theorem anywhere {snippet : Snippet} {p : Prop} (allowed : usage.AllowsAnywhere snippet)
    : usage.Allows snippet ∧ (p → usage.AllowsAnywhere snippet) :=
  ⟨allowed.allows, fun _ => allowed⟩

@[simp] theorem allowsAnywhere_nil
    : usage.AllowsAnywhere [] := by
  intro next before symbol after parted
  simp at parted

@[simp] theorem allows_nil
    : usage.Allows [] :=
  allowsAnywhere_nil.allows

@[simp] theorem allowsAnywhere_plain (text : String)
    : usage.AllowsAnywhere [.plain text] := by
  intro next before symbol after parted
  simp [List.singleton_eq_append_iff] at parted

@[simp] theorem allows_plain (text : String)
    : usage.Allows [.plain text] :=
  (allowsAnywhere_plain text).allows

theorem allows_after_plain (text : String) {snippet : Snippet} (allowed : usage.Allows snippet)
    : usage.Allows ([.plain text] ++ snippet) :=
  fun next closing =>
    allowsBefore_append.mpr ⟨allowsAnywhere_plain text _, allowed next closing⟩

/-- Code that a text closes may stand anywhere with that text. -/
theorem allowsAnywhere_closed {snippet : Snippet} {text : String} (closing : closes text = true)
    (allowed : usage.Allows snippet)
    : usage.AllowsAnywhere (snippet ++ [.plain text]) := by
  intro next
  rw [allowsBefore_append]
  refine ⟨allowed _ ?_, allowsAnywhere_plain text next⟩
  simpa [Snippet.written] using Closes.of_closes closing next

/-- Parts that are allowed before every text are so in sequence. -/
theorem allowsAnywhere_append {left right : Snippet} (first : usage.AllowsAnywhere left)
    (second : usage.AllowsAnywhere right)
    : usage.AllowsAnywhere (left ++ right) :=
  fun next => allowsBefore_append.mpr ⟨first _, second next⟩

/-- This holds of any number of parts. Induction on what they stand for. -/
theorem allowsAnywhere_flatMap {α : Type} {values : List α} {snippet : α → Snippet}
    (each : ∀ value ∈ values, usage.AllowsAnywhere (snippet value))
    : usage.AllowsAnywhere (values.flatMap snippet) := by
  induction values with
  | nil => exact allowsAnywhere_nil
  | cons value rest ih =>
      obtain ⟨first, others⟩ := List.forall_mem_cons.mp each
      exact allowsAnywhere_append first (ih others)

/-- What is allowed before every text may stand before what is allowed. -/
theorem allows_append {left right : Snippet} (first : usage.AllowsAnywhere left)
    (second : usage.Allows right)
    : usage.Allows (left ++ right) :=
  fun next closing => allowsBefore_append.mpr ⟨first _, second next closing⟩

/-- A symbol is allowed before a text exactly if the usage says so. -/
theorem allowsBefore_symbol {symbol : Symbol} {next : List Char}
    : usage.AllowsBefore next [.symbol symbol] ↔ usage.allows symbol next := by
  constructor
  · intro allowed
    simpa [Snippet.written] using allowed [] symbol [] rfl
  · rintro allowed before other after parted
    obtain ⟨rfl, rest⟩ | ⟨rfl, rest⟩ := List.singleton_eq_append_iff.mp parted
    · obtain ⟨same, rfl⟩ := List.cons.inj rest
      cases same
      simpa [Snippet.written] using allowed
    · cases rest

end Usage

end ProtobufTypeScript.Target
