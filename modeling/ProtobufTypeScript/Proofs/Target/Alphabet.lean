import ProtobufTypeScript.Proofs.Target.Contents
import ProtobufTypeScript.Proofs.Text.Brackets
import ProtobufTypeScript.Proofs.Text.Casing
import ProtobufTypeScript.Proofs.Text.UpperCase
import ProtobufTypeScript.Text.Ends

/-!
Alphabets: the characters that names and comments are made of. Parts of texts are within the
alphabet of the texts, and what is joined to them in names and comments is plain.
-/

namespace ProtobufTypeScript.Target

/-- The characters that texts may be made of. Plain ASCII characters are among them, which
are those that are not brackets, and with a character those of its upper-case form.
-/
structure Alphabet where
  letter : Char → Prop
  plain : ∀ c : Char, c.toNat < 128 → Text.isBracket c = false → letter c
  upperCase : ∀ c, letter c → ∀ upper ∈ Text.upperCase c, letter upper

namespace Alphabet

/-- Whether a text is made of the characters of an alphabet. -/
def Spells (letters : Alphabet) (text : String) : Prop :=
  ∀ c ∈ text.toList, letters.letter c

/-- Whether all characters of a text are ASCII characters and none is a bracket. -/
def isPlain (text : String) : Bool :=
  text.toList.all (fun c => decide (c.toNat < 128) && !Text.isBracket c)

/-- All characters but the brackets. -/
def unbracketed : Alphabet where
  letter c := Text.isBracket c = false
  plain _ _ plain := plain
  upperCase c plain upper member := by
    rcases Text.toNat_of_mem_upperCase member with rfl | apart
    · exact plain
    · refine Bool.eq_false_iff.mpr (fun bracket => apart ?_)
      rcases Text.isBracket_iff.mp bracket with rfl | rfl | rfl | rfl | rfl | rfl <;> decide

variable {letters : Alphabet}

-----------------------------------------------------------------------------------------
-- Texts put together
-----------------------------------------------------------------------------------------

/-- Plain texts are within every alphabet. -/
theorem spells_of_isPlain {text : String} (plain : isPlain text = true)
    : letters.Spells text := by
  intro c member
  have here := List.all_eq_true.mp plain c member
  rw [Bool.and_eq_true, decide_eq_true_eq, Bool.not_eq_true'] at here
  exact letters.plain c here.1 here.2

/-- A text in two parts is made of some letters exactly if both parts are. -/
@[simp] theorem spells_append {left right : String}
    : letters.Spells (left ++ right) ↔ letters.Spells left ∧ letters.Spells right := by
  simp only [Spells, String.toList_append, List.mem_append, or_imp, forall_and]

@[simp] theorem spells_join {texts : List String}
    : letters.Spells (String.join texts) ↔ ∀ text ∈ texts, letters.Spells text := by
  simp only [Spells, String.toList_join, List.mem_flatMap]
  grind

/-- Joined texts are made of the letters of the separator and of the texts. -/
theorem spells_intercalate {separator : String} (between : letters.Spells separator)
    {texts : List String}
    : letters.Spells (separator.intercalate texts) ↔ ∀ text ∈ texts, letters.Spells text := by
  rw [Spells, String.toList_intercalate, forall_mem_intercalate between, List.forall_mem_map]
  rfl

/-- No digit is a bracket: the six brackets are tried. -/
theorem not_isBracket_of_isDigit {c : Char} (digit : c.isDigit = true)
    : Text.isBracket c = false := by
  refine Bool.eq_false_iff.mpr (fun bracket => ?_)
  rcases Text.isBracket_iff.mp bracket with rfl | rfl | rfl | rfl | rfl | rfl <;>
    exact absurd digit (by decide)

/-- Numerals are made of digits, which every alphabet has. -/
@[simp] theorem spells_nat_repr (value : Nat)
    : letters.Spells value.repr := by
  intro c member
  rw [Nat.toList_repr] at member
  have digit := Nat.isDigit_of_mem_toDigits (by decide) (by decide) member
  have below : c.toNat ≤ 57 := (Char.isDigit_iff_toNat.mp digit).2
  exact letters.plain c (by omega) (not_isBracket_of_isDigit digit)

/-- Numerals of integers have a sign at most, besides their digits. -/
@[simp] theorem spells_int_repr (value : Int)
    : letters.Spells value.repr := by
  rw [Int.repr_eq_if]
  split
  · exact spells_nat_repr _
  · exact spells_append.mpr ⟨spells_of_isPlain (by decide), spells_nat_repr _⟩

-----------------------------------------------------------------------------------------
-- Parts of texts
-----------------------------------------------------------------------------------------

theorem spells_of_subset {inner outer : String} (subset : inner.toList ⊆ outer.toList)
    (spelled : letters.Spells outer)
    : letters.Spells inner :=
  fun c member => spelled c (subset member)

/-- What is left of a text before an ending is a part of it. -/
theorem spells_beforeEnd {tail text : String} (spelled : letters.Spells text)
    : ∀ rest ∈ Text.beforeEnd? tail text, letters.Spells rest := by
  intro rest found
  unfold Text.beforeEnd? at found
  split at found
  · rw [← Option.some.inj found]
    refine spells_of_subset ?_ spelled
    rw [String.toList_ofList]
    exact List.take_subset _ _
  · cases found

/-- What is left of a text after a beginning is a part of it. -/
theorem spells_afterStart {head text : String} (spelled : letters.Spells text)
    : ∀ rest ∈ Text.afterStart? head text, letters.Spells rest := by
  intro rest found
  unfold Text.afterStart? at found
  split at found
  · rw [← Option.some.inj found]
    refine spells_of_subset ?_ spelled
    rw [String.toList_ofList]
    exact List.drop_subset _ _
  · cases found

/-- Camel case keeps characters within an alphabet. -/
theorem letter_camelChars {text : List Char} (spelled : ∀ c ∈ text, letters.letter c)
    : ∀ c ∈ Text.camelChars text, letters.letter c := by
  intro c member
  rcases Text.mem_camelChars member with inText | ⟨small, inText, capital⟩
  · exact spelled c inText
  · exact letters.upperCase small (spelled small inText) c capital

/-- Lines are parts of the text that is split. Induction along the way it is split. -/
theorem letter_splitLines {text : List Char} (spelled : ∀ c ∈ text, letters.letter c)
    : ∀ line ∈ Text.splitLines text, ∀ c ∈ line, letters.letter c := by
  induction text using Text.splitLines.induct with
  | case1 => simp [Text.splitLines]
  | case2 rest ih =>
      rw [Text.splitLines]
      exact List.forall_mem_cons.mpr
        ⟨by simp, ih fun c member => spelled c (List.mem_cons_of_mem _ member)⟩
  | case3 rest ih =>
      rw [Text.splitLines]
      exact List.forall_mem_cons.mpr ⟨by simp, ih fun c member => spelled c (by simp [member])⟩
  | case4 c rest feed pair none ih =>
      rw [Text.splitLines, none]
      · exact List.forall_mem_singleton.mpr
          (List.forall_mem_singleton.mpr (spelled c List.mem_cons_self))
      · exact feed
      · exact pair
  | case5 c rest feed pair line others some ih =>
      rw [Text.splitLines, some]
      · have later := ih fun d member => spelled d (List.mem_cons_of_mem _ member)
        rw [some, List.forall_mem_cons] at later
        exact List.forall_mem_cons.mpr
          ⟨List.forall_mem_cons.mpr ⟨spelled c List.mem_cons_self, later.1⟩, later.2⟩
      · exact feed
      · exact pair

theorem spells_lines {text : String} (spelled : letters.Spells text)
    : ∀ line ∈ Text.lines text, letters.Spells line := by
  refine List.forall_mem_map.mpr ?_
  intro line member c inLine
  rw [String.toList_ofList] at inLine
  exact letter_splitLines spelled line member c inLine

/-- Parts between separators are parts of the text. Induction on the text. -/
theorem letter_splitAt (separator : Char) {text : List Char}
    (spelled : ∀ c ∈ text, letters.letter c)
    : ∀ part ∈ Text.splitAt separator text, ∀ c ∈ part, letters.letter c := by
  induction text with
  | nil => simp [Text.splitAt]
  | cons c rest ih =>
      rw [List.forall_mem_cons] at spelled
      have later := ih spelled.2
      rw [Text.splitAt]
      split
      · exact List.forall_mem_cons.mpr ⟨by simp, later⟩
      · cases split : Text.splitAt separator rest with
        | nil => simpa using spelled.1
        | cons part others =>
            rw [split, List.forall_mem_cons] at later
            exact List.forall_mem_cons.mpr
              ⟨List.forall_mem_cons.mpr ⟨spelled.1, later.1⟩, later.2⟩

end Alphabet

end ProtobufTypeScript.Target
