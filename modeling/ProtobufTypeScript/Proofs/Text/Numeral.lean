/-!
Decimal numerals: different numbers are written differently, as each can be read again.
-/

namespace ProtobufTypeScript.Text

/-- A natural number can be read off its digits. -/
theorem toString_nat_injective {m n : Nat} (h : toString m = toString n) : m = n := by
  simpa only [Nat.toString_eq_repr, Nat.toList_repr, Nat.ofDigitChars_ten_toDigits]
    using congrArg (fun text => Nat.ofDigitChars 10 text.toList 0) h

theorem toString_int_of_nonneg {m : Int} (h : 0 ≤ m) : toString m = toString m.toNat := by
  obtain ⟨n, rfl⟩ := Int.eq_ofNat_of_zero_le h
  rfl

/-- The integer that a numeral stands for. -/
def readInt (text : String) : Int :=
  match text.toList with
  | '-' :: digits => -(Nat.ofDigitChars 10 digits 0 : Int)
  | digits => (Nat.ofDigitChars 10 digits 0 : Int)

/-- An integer can be read off its sign and its digits. A natural number is no case of a
sign, since none of its characters is one.
-/
theorem readInt_toString (n : Int) : readInt (toString n) = n := by
  cases n with
  | ofNat n =>
      have text : toString (Int.ofNat n) = Nat.repr n := rfl
      have unsigned : ∀ digits, Nat.toDigits 10 n ≠ '-' :: digits := by
        intro digits same
        have digit : Char.isDigit '-' :=
          Nat.isDigit_of_mem_toDigits (by decide) (Nat.le_refl 10) (same ▸ List.mem_cons_self)
        exact absurd digit (by decide)
      rw [text, readInt, Nat.toList_repr]
      split
      · exact absurd ‹_› (unsigned _)
      · rw [Nat.ofDigitChars_ten_toDigits]
        rfl
  | negSucc n =>
      have text : (toString (Int.negSucc n)).toList = '-' :: Nat.toDigits 10 (n + 1) := by
        rw [← Nat.toList_repr]
        exact String.toList_append
      rw [readInt, text]
      exact congrArg (fun n : Nat => -(n : Int)) Nat.ofDigitChars_ten_toDigits

/-- Different integers are written differently: an integer is read back from its numeral.
-/
theorem toString_int_injective {m n : Int} (h : toString m = toString n) : m = n := by
  rw [← readInt_toString m, ← readInt_toString n, h]

end ProtobufTypeScript.Text
