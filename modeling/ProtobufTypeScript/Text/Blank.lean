/-!
White space in the sense of Unicode's property `White_Space`, trimming by it, and the texts that
hold nothing else.
-/

namespace ProtobufTypeScript.Text

/-- Whether a character is white space: the ASCII controls from tab to carriage return,
the space, the next-line control, and the space characters of the other blocks.
-/
def isSpace (c : Char) : Bool :=
  (0x9 ≤ c.toNat && c.toNat ≤ 0xD)
  || c.toNat == 0x20
  || c.toNat == 0x85
  || c.toNat == 0xA0
  || c.toNat == 0x1680
  || (0x2000 ≤ c.toNat && c.toNat ≤ 0x200A)
  || c.toNat == 0x2028
  || c.toNat == 0x2029
  || c.toNat == 0x202F
  || c.toNat == 0x205F
  || c.toNat == 0x3000

/-- Drops white space at both ends. -/
def trimChars (cs : List Char) : List Char :=
  ((cs.dropWhile isSpace).reverse.dropWhile isSpace).reverse

/-- Drops white space at both ends of a string. -/
def trim (s : String) : String :=
  String.ofList (trimChars s.toList)

/-- Whether a string is empty or all white space. -/
def isBlank (s : String) : Bool :=
  s.toList.all isSpace

end ProtobufTypeScript.Text
