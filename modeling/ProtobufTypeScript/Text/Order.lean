/-!
Finite sets written as lists: every member once, in ascending order. Strings are ordered by code
point.
-/

namespace ProtobufTypeScript.Text

/-- The members of a list in ascending order, each once. -/
def sortDistinct {α : Type} [BEq α] (le : α → α → Bool) (xs : List α) : List α :=
  xs.eraseDups.mergeSort le

/-- Whether a string comes before another or equals it. -/
def atMost (a b : String) : Bool :=
  decide (a ≤ b)

/-- The strings of a list in ascending order, each once. -/
def sortStrings (xs : List String) : List String :=
  sortDistinct atMost xs

end ProtobufTypeScript.Text
