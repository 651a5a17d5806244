import ProtobufTypeScript.Helper.Basic
import ProtobufTypeScript.Proofs.Target.Alphabet
import ProtobufTypeScript.Proofs.Target.Symbol
import ProtobufTypeScript.Target.Declaration
import ProtobufTypeScript.Target.Library

/-!
Vocabularies: the characters and the symbols that code is made of. Code is within a vocabulary if
all its parts are, so that one pass over the generators shows where every character and every symbol
of their code can come from. A lemma `spells_x` is about the text x, `writes_x` about the code of x
in a line, `covers_x` about the lines of x, and `hasX_y` about the parts of y.
-/

namespace ProtobufTypeScript

/-- Whether a helper converts points in time, for which it needs the registered timestamp
message.
-/
def Helper.needsTimestamp : Helper → Bool
  | toTimestamp => true
  | fromTimestamp => true
  | fromJsonTimestamp => true
  | _ => false

namespace Target

/-- The characters and symbols that code may be made of. What all code needs is among
them: the ASCII characters, and the symbols of the libraries and of the helpers that need
no registered type.
-/
structure Vocabulary where
  letter : Char → Prop
  symbol : Symbol → Prop
  ascii : ∀ c : Char, c.toNat < 128 → letter c
  upperCase : ∀ c, letter c → ∀ upper ∈ Text.upperCase c, letter upper
  reader : symbol Library.reader
  writer : symbol Library.writer
  long : symbol Library.long
  dataLoader : symbol Library.dataLoader
  hash : symbol Library.hash
  helper : ∀ helper : Helper, helper.needsTimestamp = false → symbol helper.symbol

namespace Vocabulary

variable (words : Vocabulary)

/-- Whether a text is made of the characters of a vocabulary. -/
def Spells (text : String) : Prop :=
  ∀ c ∈ text.toList, words.letter c

/-- Whether the helpers that convert points in time are among the symbols of a vocabulary.
-/
def HasTimestampHelpers : Prop :=
  ∀ helper : Helper, helper.needsTimestamp = true → words.symbol helper.symbol

/-- Whether a piece of code text is within a vocabulary. -/
def HasPiece : Piece → Prop
  | .plain text => words.Spells text
  | .symbol symbol => words.symbol symbol

/-- Whether code text is within a vocabulary. -/
def Writes (snippet : Snippet) : Prop :=
  ∀ piece ∈ snippet, words.HasPiece piece

/-- Whether a step of the layout is within a vocabulary, its comment included. -/
def HasLine : Line Snippet → Prop
  | .text snippet => words.Writes snippet
  | .doc comment => words.Spells comment
  | .remark comment => words.Spells comment
  | .blank => True
  | .indent => True
  | .dedent => True

/-- Whether lines of code are within a vocabulary. -/
def Covers (block : Block) : Prop :=
  ∀ line ∈ block, words.HasLine line

attribute [simp] reader writer long dataLoader hash helper

variable {words : Vocabulary}

/-- The alphabet of a vocabulary, whose texts are those of the vocabulary. -/
def alphabet (words : Vocabulary) : Alphabet where
  letter := words.letter
  plain c below _ := words.ascii c below
  upperCase := words.upperCase

/-- A text in two parts is within a vocabulary exactly if both parts are. -/
@[simp] theorem spells_append {left right : String}
    : words.Spells (left ++ right) ↔ words.Spells left ∧ words.Spells right :=
  words.alphabet.spells_append

/-- Whether all characters of a text are ASCII characters. -/
def isAscii (text : String) : Bool :=
  text.toList.all (fun c => decide (c.toNat < 128))

/-- ASCII texts are within every vocabulary. -/
theorem spells_of_isAscii {text : String} (ascii : isAscii text = true)
    : words.Spells text := by
  intro c member
  exact words.ascii c (of_decide_eq_true (List.all_eq_true.mp ascii c member))

@[simp] theorem spells_join {texts : List String}
    : words.Spells (String.join texts) ↔ ∀ text ∈ texts, words.Spells text :=
  words.alphabet.spells_join

/-- Texts with ASCII text between them are within a vocabulary exactly if each of them is.
-/
theorem spells_intercalate {separator : String} (ascii : isAscii separator = true)
    {texts : List String}
    : words.Spells (separator.intercalate texts) ↔ ∀ text ∈ texts, words.Spells text :=
  words.alphabet.spells_intercalate (spells_of_isAscii ascii)

@[simp] theorem spells_nat_repr (value : Nat)
    : words.Spells value.repr :=
  words.alphabet.spells_nat_repr value

/-- Numerals are within every vocabulary. -/
@[simp] theorem spells_int_repr (value : Int)
    : words.Spells value.repr :=
  words.alphabet.spells_int_repr value

@[simp] theorem hasPiece_plain {text : String}
    : words.HasPiece (.plain text) ↔ words.Spells text :=
  Iff.rfl

@[simp] theorem hasPiece_symbol {symbol : Symbol}
    : words.HasPiece (.symbol symbol) ↔ words.symbol symbol :=
  Iff.rfl

@[simp] theorem writes_nil
    : words.Writes [] :=
  fun _ member => absurd member List.not_mem_nil

@[simp] theorem writes_cons {piece : Piece} {rest : Snippet}
    : words.Writes (piece :: rest) ↔ words.HasPiece piece ∧ words.Writes rest :=
  List.forall_mem_cons

/-- Code in two parts is within a vocabulary exactly if both parts are. -/
@[simp] theorem writes_append {left right : Snippet}
    : words.Writes (left ++ right) ↔ words.Writes left ∧ words.Writes right :=
  List.forall_mem_append

/-- Code that is made piece by piece is within a vocabulary exactly if each piece is. -/
@[simp] theorem writes_flatMap {α : Type} {items : List α} {code : α → Snippet}
    : words.Writes (items.flatMap code) ↔ ∀ item ∈ items, words.Writes (code item) :=
  List.forall_mem_flatMap

/-- Code with ASCII text between its parts is within a vocabulary exactly if each part is.
-/
theorem writes_intercalate {separator : String} (ascii : isAscii separator = true)
    {snippets : List Snippet}
    : words.Writes ([Piece.plain separator].intercalate snippets)
      ↔ ∀ snippet ∈ snippets, words.Writes snippet :=
  forall_mem_intercalate (by simpa using spells_of_isAscii ascii)

@[simp] theorem covers_nil
    : words.Covers [] :=
  fun _ member => absurd member List.not_mem_nil

@[simp] theorem covers_cons {line : Line Snippet} {rest : Block}
    : words.Covers (line :: rest) ↔ words.HasLine line ∧ words.Covers rest :=
  List.forall_mem_cons

/-- Lines in two parts are within a vocabulary exactly if both parts are. -/
@[simp] theorem covers_append {left right : Block}
    : words.Covers (left ++ right) ↔ words.Covers left ∧ words.Covers right :=
  List.forall_mem_append

/-- Lines that are made part by part are within a vocabulary exactly if each part is. -/
@[simp] theorem covers_flatMap {α : Type} {items : List α} {code : α → Block}
    : words.Covers (items.flatMap code) ↔ ∀ item ∈ items, words.Covers (code item) :=
  List.forall_mem_flatMap

/-- Blocks with empty lines between them are within a vocabulary exactly if each block is.
-/
@[simp] theorem covers_intercalate_blank {blocks : List Block}
    : words.Covers ([Line.blank].intercalate blocks) ↔ ∀ block ∈ blocks, words.Covers block :=
  forall_mem_intercalate (by simp [HasLine])

end Vocabulary

end Target

end ProtobufTypeScript
