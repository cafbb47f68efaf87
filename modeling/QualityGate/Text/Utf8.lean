/-
UTF-8, strictly and leniently.

`scan` reads bytes as a list of characters with a hole for every maximal part that is no well-formed
sequence.  The strict reading fails on a hole, the lenient one puts the replacement character there.
-/

namespace QualityGate.Text

/-- Bytes of one character. -/
def encodeChar (c : Char) : List UInt8 :=
  let n := c.toNat
  if n < 0x80 then [UInt8.ofNat n]
  else if n < 0x800 then [UInt8.ofNat (0xc0 + n / 0x40), UInt8.ofNat (0x80 + n % 0x40)]
  else if n < 0x10000 then
    [UInt8.ofNat (0xe0 + n / 0x1000), UInt8.ofNat (0x80 + n / 0x40 % 0x40), UInt8.ofNat (0x80 + n % 0x40)]
  else
    [UInt8.ofNat (0xf0 + n / 0x40000), UInt8.ofNat (0x80 + n / 0x1000 % 0x40),
      UInt8.ofNat (0x80 + n / 0x40 % 0x40), UInt8.ofNat (0x80 + n % 0x40)]

/-- Bytes of a text. -/
def encode (s : List Char) : List UInt8 :=
  s.flatMap encodeChar

/-- How a sequence goes on after its first byte: the number of bytes to come, the ends of the range
of the first of them, and the bits that the first byte holds. -/
def leadOf (b : UInt8) : Option (Nat × UInt8 × UInt8 × Nat) :=
  let n := b.toNat
  if 0xc2 ≤ n ∧ n ≤ 0xdf then some (1, 0x80, 0xbf, n - 0xc0)
  else if n = 0xe0 then some (2, 0xa0, 0xbf, 0)
  else if n = 0xed then some (2, 0x80, 0x9f, 0xd)
  else if 0xe1 ≤ n ∧ n ≤ 0xef then some (2, 0x80, 0xbf, n - 0xe0)
  else if n = 0xf0 then some (3, 0x90, 0xbf, 0)
  else if 0xf1 ≤ n ∧ n ≤ 0xf3 then some (3, 0x80, 0xbf, n - 0xf0)
  else if n = 0xf4 then some (3, 0x80, 0x8f, 4)
  else none

/-- The next `count` continuation bytes folded into `bits`, with the rest; a byte that does not go
on with the sequence is left in the rest, and the sequence is then a hole. -/
def follow (count : Nat) (low high : UInt8) (bits : Nat) (bytes : List UInt8) :
    Option Char × List UInt8 :=
  match count with
  | 0 => (some (Char.ofNat bits), bytes)
  | count + 1 =>
    match bytes with
    | [] => (none, [])
    | b :: rest =>
      if low ≤ b && b ≤ high then follow count 0x80 0xbf (bits * 0x40 + b.toNat % 0x40) rest
      else (none, b :: rest)

theorem follow_length_le (count : Nat) (low high : UInt8) (bits : Nat) (bytes : List UInt8) :
    (follow count low high bits bytes).2.length ≤ bytes.length := by
  induction count generalizing low high bits bytes with
  | zero => simp [follow]
  | succ count ih =>
    cases bytes with
    | nil => simp [follow]
    | cons b rest =>
      simp only [follow]
      split
      · exact Nat.le_succ_of_le (ih ..)
      · simp

/-- The first character or hole of a non-empty byte sequence, and the rest. -/
def scanFirst (b : UInt8) (rest : List UInt8) : Option Char × List UInt8 :=
  if b < 0x80 then (some (Char.ofNat b.toNat), rest)
  else
    match leadOf b with
    | some (count, low, high, bits) => follow count low high bits rest
    | none => (none, rest)

theorem scanFirst_length_le (b : UInt8) (rest : List UInt8) :
    (scanFirst b rest).2.length ≤ rest.length := by
  unfold scanFirst
  split
  · simp
  · split
    · exact follow_length_le ..
    · simp

/-- The characters and holes of a byte sequence. -/
def scan : List UInt8 → List (Option Char)
  | [] => []
  | b :: rest => (scanFirst b rest).1 :: scan (scanFirst b rest).2
termination_by bytes => bytes.length
decreasing_by
  have := scanFirst_length_le b rest
  simp only [List.length_cons]
  omega

/-- The text that the bytes encode, if they are well-formed. -/
def decode? (bytes : List UInt8) : Option (List Char) :=
  (scan bytes).mapM id

/-- The text that the bytes encode, with a replacement character for each hole. -/
def decodeLossy (bytes : List UInt8) : List Char :=
  (scan bytes).map fun c => c.getD '\ufffd'

end QualityGate.Text
