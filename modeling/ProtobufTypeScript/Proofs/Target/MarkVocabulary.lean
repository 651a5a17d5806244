import ProtobufTypeScript.Proofs.Target.Marks
import ProtobufTypeScript.Proofs.Target.Symbol
import ProtobufTypeScript.Proofs.Target.Vocabulary
import ProtobufTypeScript.Proofs.Text.UpperCase
import ProtobufTypeScript.Target.SourceUnit

/-!
The vocabulary without mark characters. In code within it, marks stand for its symbols and for
nothing else: a mark occurs in the written text exactly where a symbol does, and resolving replaces
each symbol by its name and leaves no mark character behind. No mark is the start of another one, so
that symbols are told apart wherever their marks stand.
-/

namespace ProtobufTypeScript.Target

/-- The characters for marks are three in a row, so that a range of codes tells them. -/
theorem isMarkChar_iff {c : Char}
    : IsMarkChar c ↔ 0xE000 ≤ c.toNat ∧ c.toNat ≤ 0xE002 := by
  have eq_iff : ∀ d : Char, c = d ↔ c.toNat = d.toNat :=
    fun d => ⟨congrArg Char.toNat, Char.toNat_inj.mp⟩
  rw [IsMarkChar, eq_iff, eq_iff, eq_iff, show markStart.toNat = 0xE000 from rfl,
    show markSplit.toNat = 0xE001 from rfl, show markEnd.toNat = 0xE002 from rfl]
  omega

/-- The symbols of helpers hold no characters of marks. -/
theorem markFree_helper (helper : Helper)
    : helper.symbol.MarkFree := by
  cases helper <;> decide

/-- All characters but the mark characters, and all symbols that are written without them.
-/
def unmarked : Vocabulary where
  letter c := ¬ IsMarkChar c
  symbol := Symbol.MarkFree
  ascii c below := by
    rw [isMarkChar_iff]
    omega
  upperCase c free upper member := by
    rcases Text.toNat_of_mem_upperCase member with rfl | apart
    · exact free
    · simp only [Text.reserved, List.mem_cons, List.not_mem_nil] at apart
      rw [isMarkChar_iff]
      omega
  reader := by decide
  writer := by decide
  long := by decide
  dataLoader := by decide
  hash := by decide
  helper helper _ := markFree_helper helper

/-- What is written for a piece under a choice of names. -/
def Piece.under (names : Symbol → String) : Piece → List Char
  | .plain text => text.toList
  | .symbol referent =>
      if referent.isFromModule then (names referent).toList else referent.name.toList

/-- The written form of a piece. -/
def Piece.written : Piece → List Char
  | .plain text => text.toList
  | .symbol referent => referent.mark

theorem Snippet.written_cons (piece : Piece) (rest : Snippet)
    : Snippet.written (piece :: rest) = piece.written ++ Snippet.written rest := by
  cases piece <;> rfl

/-- A piece is either free of mark characters or the mark of a symbol. -/
theorem Piece.written_cases {piece : Piece} (clean : unmarked.HasPiece piece)
    : MarkFree piece.written
      ∨ ∃ symbol, piece = .symbol symbol ∧ symbol.isFromModule = true ∧ symbol.MarkFree := by
  cases piece with
  | plain text => exact Or.inl clean
  | symbol symbol =>
      cases imported : symbol.isFromModule with
      | true => exact Or.inr ⟨symbol, rfl, imported, clean⟩
      | false =>
          rw [Piece.written, Symbol.mark_of_local imported]
          exact Or.inl clean.name

namespace Snippet

variable {snippet : Snippet}

/-- Resolving replaces each symbol from a module by its name, and nothing else, by
induction on the pieces.
-/
theorem resolve_written (names : Symbol → String) (clean : unmarked.Writes snippet)
    : resolve names snippet.written = snippet.flatMap (Piece.under names) := by
  induction snippet with
  | nil => rfl
  | cons piece rest ih =>
      obtain ⟨here, later⟩ := Vocabulary.writes_cons.mp clean
      rw [written_cons, List.flatMap_cons, ← ih later]
      cases piece with
      | plain text =>
          have free : MarkFree text.toList := here
          exact (resolve_append names _ (LeavesMarks.of_markFree free)).trans
            (congrArg (· ++ _) (resolve_of_markFree names free))
      | symbol referent =>
          have free : referent.MarkFree := here
          rw [Piece.written, Piece.under]
          split
          · rename_i imported
            exact resolve_mark names imported free _ (show LeavesMarks [] from rfl)
          · rename_i here
            rw [Symbol.mark_of_local (Bool.eq_false_iff.mpr here),
              resolve_append names _ (LeavesMarks.of_markFree free.name),
              resolve_of_markFree names free.name]

/-- Code without stray mark characters has none once it is resolved, as each mark has made
room for a name without them.
-/
theorem markFree_text (names : Symbol → String) (clean : unmarked.Writes snippet)
    (named : ∀ symbol ∈ snippet.symbols, MarkFree (names symbol).toList)
    : MarkFree (snippet.text names).toList := by
  rw [Snippet.text, String.toList_ofList, resolve_written names clean]
  refine List.forall_mem_flatMap.mpr ?_
  intro piece member
  have known : unmarked.HasPiece piece := clean piece member
  cases piece with
  | plain text => exact known
  | symbol referent =>
      rw [Piece.under]
      split
      · exact named referent (mem_symbols_iff.mpr member)
      · exact (show referent.MarkFree from known).name

/-- Two marks that a text starts with are the same. Witness: the first end of a mark in
the text, up to which both go.
-/
theorem eq_of_mark_append_eq {left right : Symbol} {afterLeft afterRight : List Char}
    (leftImported : left.isFromModule = true) (leftFree : left.MarkFree)
    (rightImported : right.isFromModule = true) (rightFree : right.MarkFree)
    (same : left.mark ++ afterLeft = right.mark ++ afterRight)
    : left = right := by
  have insides
      : left.markInside ++ markEnd :: afterLeft = right.markInside ++ markEnd :: afterRight := by
    simpa [Symbol.mark_of_isFromModule leftImported, Symbol.mark_of_isFromModule rightImported]
      using same
  -- Neither inside holds the closing character, so both are cut at the same place.
  have cut := congrArg (Text.cutAt markEnd) insides
  rw [Text.cutAt_append_cons (Symbol.markEnd_not_mem_markInside leftFree),
    Text.cutAt_append_cons (Symbol.markEnd_not_mem_markInside rightFree)] at cut
  have inside : left.markInside = right.markInside := (Prod.ext_iff.mp (Option.some.inj cut)).1
  have read := congrArg Symbol.ofMark? inside
  rw [Symbol.ofMark?_markInside leftImported leftFree,
    Symbol.ofMark?_markInside rightImported rightFree] at read
  exact Option.some.inj read

/-- A mark starts with the character for starts, and has it nowhere else. -/
theorem eq_nil_of_mark_eq {symbol : Symbol} (imported : symbol.isFromModule = true)
    (free : symbol.MarkFree) {before tail : List Char}
    (split : symbol.mark = before ++ markStart :: tail)
    : before = [] := by
  rw [Symbol.mark_of_isFromModule imported, List.cons_append] at split
  cases before with
  | nil => rfl
  | cons c rest =>
      have later : markStart ∈ symbol.markInside ++ [markEnd] := by
        rw [(List.cons.inj split).2]
        exact List.mem_append_right _ List.mem_cons_self
      rcases List.mem_append.mp later with inside | atEnd
      · exact absurd inside (Symbol.markStart_not_mem_markInside free)
      · exact absurd (List.mem_singleton.mp atEnd) (by decide)

/-- A mark that occurs in code without stray mark characters is that of one of its
symbols. Witness: induction on the pieces; a mark starts in a mark only where that starts.
-/
theorem mem_of_mark_occurs {symbol : Symbol} (clean : unmarked.Writes snippet)
    (imported : symbol.isFromModule = true) (free : symbol.MarkFree) {before after : List Char}
    (occurs : snippet.written = before ++ (symbol.mark ++ after))
    : symbol ∈ snippet.symbols := by
  induction snippet generalizing before with
  | nil => simp [Symbol.mark_of_isFromModule imported, written] at occurs
  | cons piece rest ih =>
      obtain ⟨here, later⟩ := Vocabulary.writes_cons.mp clean
      have keep : symbol ∈ Snippet.symbols rest → symbol ∈ Snippet.symbols (piece :: rest) :=
        fun member => mem_symbols_iff.mpr (List.mem_cons_of_mem _ (mem_symbols_iff.mp member))
      rw [written_cons] at occurs
      -- The mark starts behind the first piece, or inside it.
      rcases List.append_eq_append_iff.mp occurs with ⟨gap, -, split⟩ | ⟨tail, split, whole⟩
      · exact keep (ih later split)
      · cases tail with
        | nil =>
            have start : Snippet.written rest = [] ++ (symbol.mark ++ after) := whole.symm
            exact keep (ih later start)
        | cons c tail =>
            have start : c = markStart := by
              rw [Symbol.mark_of_isFromModule imported] at whole
              exact (List.cons.inj whole).1.symm
            rw [start] at split whole
            rcases piece.written_cases here with plain | ⟨other, rfl, otherImported, otherFree⟩
            · refine absurd rfl (plain.ne_start (c := markStart) ?_)
              rw [split]
              exact List.mem_append_right _ List.mem_cons_self
            -- A piece that is a mark is opened at its start only, so that both marks start there.
            · have atStart := eq_nil_of_mark_eq otherImported otherFree split
              rw [atStart, List.nil_append] at split
              rw [← split] at whole
              have same : symbol = other :=
                eq_of_mark_append_eq imported free otherImported otherFree whole
              exact mem_symbols_iff.mpr (same ▸ List.mem_cons_self)

end Snippet

-----------------------------------------------------------------------------------------
-- Assigned names
-----------------------------------------------------------------------------------------

/-- Whether a piece is text without mark characters, or a symbol from a module that is
marked without any but those of the mark itself.
-/
def Piece.IsClear : Piece → Prop
  | .plain text => MarkFree text.toList
  | .symbol referent => referent.isFromModule = true ∧ referent.MarkFree

instance : (piece : Piece) → Decidable piece.IsClear
  | .plain text => inferInstanceAs (Decidable (MarkFree text.toList))
  | .symbol referent =>
      inferInstanceAs (Decidable (referent.isFromModule = true ∧ referent.MarkFree))

/-- What a piece comes out as when names are assigned to symbols: a symbol that has none
keeps its own.
-/
def Piece.assigned (imports : List Import) : Piece → List Char
  | .plain text => text.toList
  | .symbol referent =>
      match imports.lookup referent with
      | some name => name.toList
      | none => referent.name.toList

namespace Snippet

variable {snippet : Snippet}

/-- Clear pieces are within the vocabulary without marks. -/
theorem writes_of_isClear (clear : ∀ piece ∈ snippet, piece.IsClear)
    : unmarked.Writes snippet := by
  intro piece member
  have here := clear piece member
  cases piece with
  | plain text => exact here
  | symbol referent => exact here.2

/-- The name that is looked up for a clear piece is the one assigned to it. -/
theorem under_nameOf (imports : List Import) {piece : Piece} (clear : piece.IsClear)
    : piece.under (SourceUnit.nameOf imports) = piece.assigned imports := by
  cases piece with
  | plain text => rfl
  | symbol referent =>
      rw [Piece.under, if_pos clear.1, Piece.assigned, SourceUnit.nameOf]
      cases imports.lookup referent <;> rfl

/-- Resolving puts the name assigned to its very symbol for every mark, and leaves the
text between the marks alone. Only one mark can stand at the start of a text, so that the
marks of different symbols are never taken for each other. Witness: each mark is read as
its symbol.
-/
theorem marks_resolve_to_assigned_names (imports : List Import)
    (clear : ∀ piece ∈ snippet, piece.IsClear)
    : resolve (SourceUnit.nameOf imports) snippet.written = snippet.flatMap (Piece.assigned imports)
      ∧ ∀ left right afterLeft afterRight,
          .symbol left ∈ snippet
          → .symbol right ∈ snippet
          → left.mark ++ afterLeft = right.mark ++ afterRight
          → left = right ∧ afterLeft = afterRight := by
  constructor
  · rw [resolve_written _ (writes_of_isClear clear), List.flatMap_def, List.flatMap_def]
    congr 1
    exact List.map_congr_left (fun piece member => under_nameOf imports (clear piece member))
  · intro left right afterLeft afterRight inLeft inRight same
    obtain ⟨leftImported, leftFree⟩ := clear _ inLeft
    obtain ⟨rightImported, rightFree⟩ := clear _ inRight
    obtain rfl : left = right :=
      eq_of_mark_append_eq leftImported leftFree rightImported rightFree same
    exact ⟨rfl, List.append_cancel_left same⟩

/-- Namesakes from two units side by side, of which only the second one is assigned a
name.
-/
theorem marks_resolve_to_assigned_names_namesakes
    : let first := Symbol.ofUnit "Timestamp" "google/protobuf/timestamp"
      let second := Symbol.ofUnit "Timestamp" "vendor/time"
      let snippet : Snippet :=
        [.symbol first, .symbol second, .plain "(", .symbol Library.long, .plain ")"]
      (∀ piece ∈ snippet, piece.IsClear)
      ∧ resolve (SourceUnit.nameOf [(second, "Timestamp1")]) snippet.written
        = "TimestampTimestamp1(Long)".toList
      ∧ ∀ afterFirst afterSecond, first.mark ++ afterFirst ≠ second.mark ++ afterSecond := by
  intro first second snippet
  have clear : ∀ piece ∈ snippet, piece.IsClear := by decide
  obtain ⟨resolved, apart⟩ := marks_resolve_to_assigned_names [(second, "Timestamp1")] clear
  refine ⟨clear, resolved.trans (by decide), ?_⟩
  intro afterFirst afterSecond same
  have one := apart first second _ _ (by simp [snippet]) (by simp [snippet]) same
  exact absurd one.1 (by decide)

end Snippet

end ProtobufTypeScript.Target
