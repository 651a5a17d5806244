/-!
Variable-length integers: seven bits in each byte, the lowest first, and the high bit of a byte says
that another one follows. At most ten bytes are read, of which the tenth holds a single bit.
-/

namespace ProtobufTypeScript.Wire

/-- A sequence of bytes. -/
abbrev Bytes := List UInt8

/-- Reads an integer of at most the given number of bytes, and the bytes after it. -/
def readVarintWithin : Nat → Bytes → Option (Nat × Bytes)
  | 0, _ => none
  | _, [] => none
  | limit + 1, byte :: rest =>
      if byte < 128 then
        if limit = 0 && byte > 1 then none else some (byte.toNat, rest)
      else
        match readVarintWithin limit rest with
        | some (high, rest) => some (byte.toNat - 128 + 128 * high, rest)
        | none => none

/-- Reads an integer, and the bytes after it. -/
def readVarint (bytes : Bytes) : Option (Nat × Bytes) :=
  readVarintWithin 10 bytes

/-- The shortest form of an integer. -/
def writeVarint (value : Nat) : Bytes :=
  if value < 128 then [UInt8.ofNat value]
  else UInt8.ofNat (value % 128 + 128) :: writeVarint (value / 128)

/-- Reading an integer takes at least one byte. -/
theorem length_lt_of_readVarintWithin {limit : Nat} {bytes rest : Bytes} {value : Nat}
    (read : readVarintWithin limit bytes = some (value, rest))
    : rest.length < bytes.length := by
  induction limit, bytes using readVarintWithin.induct generalizing value rest with
  | case1 => simp [readVarintWithin] at read
  | case2 => simp [readVarintWithin] at read
  | case3 limit byte tail small last => simp [readVarintWithin, small, last] at read
  | case4 limit byte tail small more =>
      simp [readVarintWithin, small, more] at read
      simp [← read.2]
  | case5 limit byte tail large high after found ih =>
      simp [readVarintWithin, large, found] at read
      have := ih found
      simp only [← read.2, List.length_cons]
      omega
  | case6 limit byte tail large missing => simp [readVarintWithin, large, missing] at read

/-- Reading an integer takes at least one byte. -/
theorem length_lt_of_readVarint {bytes rest : Bytes} {value : Nat}
    (read : readVarint bytes = some (value, rest))
    : rest.length < bytes.length :=
  length_lt_of_readVarintWithin read

end ProtobufTypeScript.Wire
