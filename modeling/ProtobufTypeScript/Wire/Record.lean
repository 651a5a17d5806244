import ProtobufTypeScript.Wire.Varint

/-!
Binary messages as lists of numbered values. A value is framed by its wire type; a group lasts until
the end mark of its own number, and what is in it is passed over. How deeply messages and groups may
still nest is an allowance, of which each level takes one.
-/

namespace ProtobufTypeScript.Wire

/-- A value as it is framed, or one of the marks around a group. -/
inductive Value where
  | varint (value : Nat)
  | fixed64
  | bytes (content : Bytes)
  | groupStart
  | groupEnd
  | fixed32
deriving DecidableEq, Repr

/-- A value with the number of its field. -/
structure Entry where
  number : Nat
  value : Value
deriving DecidableEq, Repr

/-- The bytes up to a length and those after it. -/
def readExactly (length : Nat) (bytes : Bytes) : Option (Bytes × Bytes) :=
  let content := bytes.take length
  if content.length = length then some (content, bytes.drop length) else none

/-- Reads a value of a wire type. -/
def readValue (wire : Nat) (bytes : Bytes) : Option (Value × Bytes) :=
  match wire with
  | 0 => (readVarint bytes).map (fun read => (.varint read.1, read.2))
  | 1 => (readExactly 8 bytes).map (fun read => (.fixed64, read.2))
  | 2 =>
      (readVarint bytes).bind fun length =>
        (readExactly length.1 length.2).map (fun read => (.bytes read.1, read.2))
  | 3 => some (.groupStart, bytes)
  | 4 => some (.groupEnd, bytes)
  | 5 => (readExactly 4 bytes).map (fun read => (.fixed32, read.2))
  | _ => none

/-- Reads a key and its value. The key fits into 32 bits, and its number is not zero. -/
def readEntry (bytes : Bytes) : Option (Entry × Bytes) :=
  (readVarint bytes).bind fun key =>
    if 8 ≤ key.1 && key.1 < 0x100000000 then
      (readValue (key.1 % 8) key.2).map
        (fun read => ({ number := key.1 / 8, value := read.1 }, read.2))
    else none

theorem length_le_of_readExactly {length : Nat} {bytes : Bytes} {read : Bytes × Bytes}
    (found : readExactly length bytes = some read)
    : read.2.length ≤ bytes.length := by
  simp only [readExactly, Option.ite_none_right_eq_some, Option.some.injEq] at found
  simp [← found.2]

/-- Reading a value leaves no more bytes than there were. -/
theorem length_le_of_readValue {wire : Nat} {bytes : Bytes} {read : Value × Bytes}
    (found : readValue wire bytes = some read)
    : read.2.length ≤ bytes.length := by
  unfold readValue at found
  split at found
  · obtain ⟨value, first, rfl⟩ := Option.map_eq_some_iff.mp found
    exact Nat.le_of_lt (length_lt_of_readVarint first)
  · obtain ⟨content, first, rfl⟩ := Option.map_eq_some_iff.mp found
    exact length_le_of_readExactly first
  · obtain ⟨length, first, found⟩ := Option.bind_eq_some_iff.mp found
    obtain ⟨content, second, rfl⟩ := Option.map_eq_some_iff.mp found
    have shorter := length_lt_of_readVarint first
    exact Nat.le_trans (length_le_of_readExactly second) (Nat.le_of_lt shorter)
  · simp only [Option.some.injEq] at found
    simp [← found]
  · simp only [Option.some.injEq] at found
    simp [← found]
  · obtain ⟨content, first, rfl⟩ := Option.map_eq_some_iff.mp found
    exact length_le_of_readExactly first
  · simp at found

/-- Reading a key and its value takes at least one byte. -/
theorem length_lt_of_readEntry {bytes : Bytes} {read : Entry × Bytes}
    (found : readEntry bytes = some read)
    : read.2.length < bytes.length := by
  obtain ⟨key, first, found⟩ := Option.bind_eq_some_iff.mp found
  split at found
  · obtain ⟨value, second, rfl⟩ := Option.map_eq_some_iff.mp found
    exact Nat.lt_of_le_of_lt (length_le_of_readValue second) (length_lt_of_readVarint first)
  · simp at found

/-- All keys and values of a sequence of bytes, which they fill. -/
def readEntries (bytes : Bytes) : Option (List Entry) :=
  if bytes.isEmpty then some []
  else
    match _ : readEntry bytes with
    | none => none
    | some read => (readEntries read.2).map (read.1 :: ·)
termination_by bytes.length
decreasing_by exact length_lt_of_readEntry ‹_›

/-- The values outside groups, and a start mark for each outermost group. The open groups
are given by their numbers from the inside out; what is in them needs an allowance above
their number.
-/
def outsideGroups (allowance : Nat) : List Nat → List Entry → Option (List Entry)
  | [], [] => some []
  | _ :: _, [] => none
  | groups, entry :: rest =>
      match entry.value, groups with
      | .groupEnd, [] => none
      | .groupEnd, number :: outer =>
          if entry.number = number then outsideGroups allowance outer rest else none
      | .groupStart, [] =>
          if 0 < allowance then
            (outsideGroups allowance [entry.number] rest).map (entry :: ·)
          else none
      | .groupStart, _ :: _ =>
          if groups.length < allowance then outsideGroups allowance (entry.number :: groups) rest
          else none
      | _, [] => (outsideGroups allowance [] rest).map (entry :: ·)
      | _, _ :: _ =>
          if groups.length < allowance then outsideGroups allowance groups rest else none

/-- The values of a binary message. -/
def readRecord (allowance : Nat) (bytes : Bytes) : Option (List Entry) :=
  (readEntries bytes).bind (outsideGroups allowance [])

end ProtobufTypeScript.Wire
