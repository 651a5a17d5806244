import ProtobufTypeScript.Proofs.Text.Lines
import ProtobufTypeScript.Target.Snippet

/-!
Marks in written code. The scan for marks reads a text from its start; after any beginning of the
text it either stands outside of marks or inside one. A mark that it meets on the outside is read as
the symbol it was written for, provided that neither the name nor the path of the symbol holds mark
characters, and is replaced by the name chosen for that symbol.
-/

namespace ProtobufTypeScript.Target

/-- Whether a character is one of the three that marks are made with. -/
def IsMarkChar (c : Char) : Prop :=
  c = markStart ∨ c = markSplit ∨ c = markEnd

instance (c : Char) : Decidable (IsMarkChar c) :=
  inferInstanceAs (Decidable (c = markStart ∨ c = markSplit ∨ c = markEnd))

/-- Whether a text holds no mark characters. -/
def MarkFree (text : List Char) : Prop :=
  ∀ c ∈ text, ¬ IsMarkChar c

instance (text : List Char) : Decidable (MarkFree text) :=
  List.decidableBAll (fun c => ¬ IsMarkChar c) text

/-- Whether the name of a symbol and the path of its module hold no mark characters. -/
structure Symbol.MarkFree (symbol : Symbol) : Prop where
  name : Target.MarkFree symbol.name.toList
  path : ∀ module ∈ symbol.origin.module?, Target.MarkFree module.path.toList

instance (symbol : Symbol) : Decidable symbol.MarkFree :=
  decidable_of_iff
    (Target.MarkFree symbol.name.toList
      ∧ ∀ module ∈ symbol.origin.module?, Target.MarkFree module.path.toList)
    ⟨fun free => ⟨free.1, free.2⟩, fun free => ⟨free.name, free.path⟩⟩

/-- What the scan for marks keeps at the end of a text: the reversed beginning of the mark
it stands in, if it stands in one.
-/
def openMark : Option (List Char) → List Char → Option (List Char)
  | state, [] => state
  | none, c :: rest => openMark (if c = markStart then some [] else none) rest
  | some seen, c :: rest => openMark (if c = markEnd then none else some (c :: seen)) rest

/-- Whether the scan stands outside of marks at the end of a text. -/
def LeavesMarks (text : List Char) : Prop :=
  openMark none text = none

-----------------------------------------------------------------------------------------
-- Texts without mark characters
-----------------------------------------------------------------------------------------

namespace MarkFree

/-- A text in two parts is free of marks exactly if both parts are. -/
theorem append_iff {left right : List Char}
    : MarkFree (left ++ right) ↔ MarkFree left ∧ MarkFree right := by
  unfold MarkFree
  simp only [List.mem_append, or_imp, forall_and]

/-- A text is free of marks exactly if its first character is none of theirs and the rest
is free of them.
-/
theorem cons_iff {c : Char} {rest : List Char}
    : MarkFree (c :: rest) ↔ ¬ IsMarkChar c ∧ MarkFree rest := by
  unfold MarkFree
  simp only [List.mem_cons, forall_eq_or_imp]

theorem ne_start {text : List Char} (free : MarkFree text) {c : Char} (member : c ∈ text)
    : c ≠ markStart :=
  fun same => free c member (Or.inl same)

theorem ne_split {text : List Char} (free : MarkFree text) {c : Char} (member : c ∈ text)
    : c ≠ markSplit :=
  fun same => free c member (Or.inr (Or.inl same))

end MarkFree

-----------------------------------------------------------------------------------------
-- The inside of a mark
-----------------------------------------------------------------------------------------

namespace Module

/-- The letter that a mark holds for the kind of a module. -/
def letter : Module → Char
  | package _ => 'p'
  | generated _ => 'g'

/-- The mark of a module is its letter and then its path. -/
theorem markBody_eq (module : Module)
    : module.markBody = module.letter :: module.path.toList := by
  cases module <;> rfl

theorem not_isMarkChar_letter (module : Module)
    : ¬ IsMarkChar module.letter := by
  cases module with
  | package name => exact (by decide : ¬ IsMarkChar 'p')
  | generated path => exact (by decide : ¬ IsMarkChar 'g')

/-- A module is read back from its letter and its path. -/
theorem ofMark?_letter (module : Module)
    : ofMark? module.letter module.path.toList = some module := by
  cases module with
  | package name => simp [letter, path, ofMark?]
  | generated path => simp [letter, Module.path, ofMark?]

end Module

/-- The letters for an origin that has a mark, and its path. -/
def Origin.markBody : Origin → List Char
  | .own => []
  | .helper => []
  | .named module => 'n' :: module.markBody
  | .wholeModule module => 's' :: module.markBody

/-- What stands between the two ends of the mark of a symbol. -/
def Symbol.markInside (symbol : Symbol) : List Char :=
  symbol.origin.markBody ++ markSplit :: symbol.name.toList

namespace Symbol

/-- A symbol from a module is written as its inside between the two outer characters of
marks.
-/
theorem mark_of_isFromModule {symbol : Symbol} (imported : symbol.isFromModule = true)
    : symbol.mark = markStart :: symbol.markInside ++ [markEnd] := by
  obtain ⟨name, origin⟩ := symbol
  cases origin with
  | own => cases imported
  | helper => cases imported
  | named module => simp [mark, markInside, Origin.markBody]
  | wholeModule module => simp [mark, markInside, Origin.markBody]

/-- A symbol of the unit itself is written as its name. -/
theorem mark_of_local {symbol : Symbol} (here : symbol.isFromModule = false)
    : symbol.mark = symbol.name.toList := by
  obtain ⟨name, origin⟩ := symbol
  cases origin with
  | own => rfl
  | helper => rfl
  | named module => cases here
  | wholeModule module => cases here

/-- The only mark characters inside a mark are those between its parts, as its parts are
free of them.
-/
theorem eq_markSplit_of_mem_markInside {symbol : Symbol} (free : symbol.MarkFree) {c : Char}
    (member : c ∈ symbol.markInside) (mark : IsMarkChar c)
    : c = markSplit := by
  have body : ∀ module ∈ symbol.origin.module?, c ∉ module.markBody := by
    intro module found
    rw [Module.markBody_eq, List.mem_cons, not_or]
    exact ⟨
      fun same => module.not_isMarkChar_letter (same ▸ mark),
      fun inPath => free.path module found c inPath mark
    ⟩
  have origin : c ∉ symbol.origin.markBody := by
    intro inOrigin
    cases found : symbol.origin with
    | own => simp [found, Origin.markBody] at inOrigin
    | helper => simp [found, Origin.markBody] at inOrigin
    | named module =>
        rw [found, Origin.markBody] at inOrigin
        rw [found] at body
        have different : c ≠ 'n' := fun same => absurd (same ▸ mark) (by decide)
        exact body module rfl (List.mem_of_ne_of_mem different inOrigin)
    | wholeModule module =>
        rw [found, Origin.markBody] at inOrigin
        rw [found] at body
        have different : c ≠ 's' := fun same => absurd (same ▸ mark) (by decide)
        exact body module rfl (List.mem_of_ne_of_mem different inOrigin)
  rcases List.mem_append.mp member with inOrigin | later
  · exact absurd inOrigin origin
  · rcases List.mem_cons.mp later with here | inName
    · exact here
    · exact absurd mark (free.name c inName)

/-- The inside of a mark does not hold the character that ends marks, so that the first
one ends it.
-/
theorem markEnd_not_mem_markInside {symbol : Symbol} (free : symbol.MarkFree)
    : markEnd ∉ symbol.markInside :=
  fun member => absurd
    (eq_markSplit_of_mem_markInside free member (Or.inr (Or.inr rfl))) (by decide)

/-- The inside of a mark does not hold the character that starts marks. -/
theorem markStart_not_mem_markInside {symbol : Symbol} (free : symbol.MarkFree)
    : markStart ∉ symbol.markInside :=
  fun member => absurd (eq_markSplit_of_mem_markInside free member (Or.inl rfl)) (by decide)

end Symbol

/-- The inside of a mark is read as the symbol it was written for. -/
theorem Symbol.ofMark?_markInside {symbol : Symbol} (imported : symbol.isFromModule = true)
    (free : symbol.MarkFree)
    : Symbol.ofMark? symbol.markInside = some symbol := by
  have path : ∀ module ∈ symbol.origin.module?, markSplit ∉ module.path.toList :=
    fun module found member => (free.path module found).ne_split member rfl
  obtain ⟨name, origin⟩ := symbol
  have cut
      : ∀ module ∈ origin.module?,
          Text.cutAt markSplit (module.path.toList ++ markSplit :: name.toList)
            = some (module.path.toList, name.toList) :=
    fun module found => Text.cutAt_append_cons (path module found) name.toList
  cases origin with
  | own => cases imported
  | helper => cases imported
  | named module =>
      simp [markInside, Origin.markBody, Module.markBody_eq, ofMark?, cut module rfl,
        Module.ofMark?_letter]
  | wholeModule module =>
      simp [markInside, Origin.markBody, Module.markBody_eq, ofMark?, cut module rfl,
        Module.ofMark?_letter]

-----------------------------------------------------------------------------------------
-- The scan
-----------------------------------------------------------------------------------------

/-- Where a text leaves no mark open, what follows it is resolved on its own. Witness:
induction on the text, with the mark that is open before it generalised.
-/
theorem resolveFrom_append (names : Symbol → String) (state : Option (List Char))
    {before : List Char} (after : List Char) (left : openMark state before = none)
    : resolveFrom names state (before ++ after)
      = resolveFrom names state before ++ resolve names after := by
  induction before generalizing state with
  | nil =>
      cases state with
      | none => rfl
      | some seen => cases left
  | cons c rest ih =>
      rw [List.cons_append]
      cases state with
      | none =>
          rw [openMark] at left
          simp only [resolveFrom]
          split <;> rename_i opens
          · rw [if_pos opens] at left
            exact ih _ left
          · rw [if_neg opens] at left
            rw [ih _ left, List.cons_append]
      | some seen =>
          rw [openMark] at left
          simp only [resolveFrom]
          split <;> rename_i closes
          · rw [if_pos closes] at left
            cases Symbol.ofMark? seen.reverse with
            | none => exact ih _ left
            | some symbol => exact (congrArg _ (ih _ left)).trans (List.append_assoc _ _ _).symm
          · rw [if_neg closes] at left
            exact ih _ left

/-- A text that leaves marks is resolved on its own. -/
theorem resolve_append (names : Symbol → String) {before : List Char} (after : List Char)
    (left : LeavesMarks before)
    : resolve names (before ++ after) = resolve names before ++ resolve names after :=
  resolveFrom_append names none after left

/-- Inside a mark the scan gathers characters up to the end of the mark. -/
theorem resolveFrom_some_append (names : Symbol → String) (seen : List Char) {inside : List Char}
    (rest : List Char) (absent : markEnd ∉ inside)
    : resolveFrom names (some seen) (inside ++ markEnd :: rest)
      = (((Symbol.ofMark? (seen.reverse ++ inside)).map names).getD "").toList
          ++ resolve names rest := by
  induction inside generalizing seen with
  | nil =>
      simp only [List.nil_append, resolveFrom, if_true, List.append_nil]
      cases Symbol.ofMark? seen.reverse <;> rfl
  | cons c later ih =>
      have here : c ≠ markEnd := fun same => absent (same ▸ List.mem_cons_self)
      have there : markEnd ∉ later := fun member => absent (List.mem_cons_of_mem c member)
      rw [List.cons_append, resolveFrom, if_neg here, ih _ there, List.reverse_cons,
        List.append_assoc, List.singleton_append]

/-- A scan of a text that is free of marks ends outside of marks. Induction on the text.
-/
theorem LeavesMarks.of_markFree {text : List Char} (free : MarkFree text)
    : LeavesMarks text := by
  induction text with
  | nil => rfl
  | cons c rest ih =>
      rw [LeavesMarks, openMark, if_neg (free.ne_start List.mem_cons_self)]
      exact ih (MarkFree.cons_iff.mp free).2

/-- A text that is free of marks is resolved to itself. Induction on the text. -/
theorem resolve_of_markFree (names : Symbol → String) {text : List Char} (free : MarkFree text)
    : resolve names text = text := by
  induction text with
  | nil => rfl
  | cons c rest ih =>
      rw [resolve, resolveFrom, if_neg (free.ne_start List.mem_cons_self)]
      exact congrArg (c :: ·) (ih (MarkFree.cons_iff.mp free).2)

/-- A mark that starts outside of marks is replaced by the name chosen for its symbol. -/
theorem resolve_mark (names : Symbol → String) {symbol : Symbol}
    (imported : symbol.isFromModule = true) (free : symbol.MarkFree)
    {before : List Char} (after : List Char) (left : LeavesMarks before)
    : resolve names (before ++ (symbol.mark ++ after))
      = resolve names before ++ ((names symbol).toList ++ resolve names after) := by
  have written
      : symbol.mark ++ after = markStart :: (symbol.markInside ++ markEnd :: after) := by
    simp [Symbol.mark_of_isFromModule imported]
  rw [resolve_append names _ left, written, resolve, resolve, resolveFrom, if_pos rfl,
    resolveFrom_some_append names [] after (Symbol.markEnd_not_mem_markInside free),
    List.reverse_nil, List.nil_append, Symbol.ofMark?_markInside imported free]
  rfl

-----------------------------------------------------------------------------------------
-- Own names
-----------------------------------------------------------------------------------------

/-- The name that is read from the inside of a mark is a part of it, behind the last
separator.
-/
theorem Symbol.name_subset_of_ofMark? {inside : List Char} {symbol : Symbol}
    (read : Symbol.ofMark? inside = some symbol)
    : symbol.name.toList ⊆ inside := by
  unfold ofMark? at read
  split at read
  · rename_i kind letter rest
    obtain ⟨⟨path, name⟩, cut, read⟩ := Option.bind_eq_some_iff.mp read
    obtain ⟨module, -, read⟩ := Option.bind_eq_some_iff.mp read
    have named : symbol.name = String.ofList name := by
      split at read
      · exact (Option.some.inj read) ▸ rfl
      · split at read
        · exact (Option.some.inj read) ▸ rfl
        · cases read
    rw [named, String.toList_ofList, Text.eq_append_of_cutAt cut]
    intro c member
    simp [member]
  · cases read

/-- What is resolved to own names holds no characters but those of the text and of the
mark that the text starts in, by induction on the text.
-/
theorem mem_of_mem_resolveFrom {state : Option (List Char)} {text : List Char} {c : Char}
    (member : c ∈ resolveFrom Symbol.name state text)
    : c ∈ text ∨ ∃ seen ∈ state, c ∈ markStart :: seen := by
  induction text generalizing state with
  | nil =>
      cases state with
      | none => cases member
      | some seen => exact .inr ⟨seen, rfl, by simpa [resolveFrom] using member⟩
  | cons d rest ih =>
      have outside (later : c ∈ resolveFrom Symbol.name none rest) : c ∈ d :: rest :=
        List.mem_cons_of_mem d ((ih later).resolve_right nofun)
      cases state with
      | none =>
          rw [resolveFrom] at member
          split at member
          · rename_i opens
            rcases ih member with later | ⟨seen, ⟨⟩, here⟩
            · exact .inl (List.mem_cons_of_mem d later)
            · exact .inl (by simp [opens, List.mem_singleton.mp here])
          · rcases List.mem_cons.mp member with rfl | later
            · exact .inl List.mem_cons_self
            · exact .inl (outside later)
      | some seen =>
          rw [resolveFrom] at member
          split at member
          · split at member
            · rename_i symbol read
              rcases List.mem_append.mp member with inName | later
              · have inSeen : c ∈ seen.reverse := Symbol.name_subset_of_ofMark? read inName
                exact .inr ⟨seen, rfl, List.mem_cons_of_mem _ (List.mem_reverse.mp inSeen)⟩
              · exact .inl (outside later)
            · exact .inl (outside member)
          · rcases ih member with later | ⟨_, ⟨⟩, here⟩
            · exact .inl (List.mem_cons_of_mem d later)
            · rw [List.mem_cons, List.mem_cons] at here
              rcases here with start | rfl | inSeen
              · exact .inr ⟨seen, rfl, start ▸ List.mem_cons_self⟩
              · exact .inl List.mem_cons_self
              · exact .inr ⟨seen, rfl, List.mem_cons_of_mem _ inSeen⟩

/-- Symbols that keep their own names are written with characters of the text only. -/
theorem resolve_name_subset (text : List Char)
    : resolve Symbol.name text ⊆ text :=
  fun _ member => (mem_of_mem_resolveFrom member).resolve_right nofun

end ProtobufTypeScript.Target
