/-!
# Bytes

Bytes are written in hexadecimal, with two digits each, the high half first. Writing uses small
letters, reading takes either case, so reading undoes writing and every accepted spelling of the
same bytes is written again in one way.

Addresses and hashes are byte strings of a fixed length. The ledger stores them under one spelling,
small hexadecimal digits behind `0x`; reading takes any case and does without the mark. So two
spellings of one value are stored and looked up under the same key.
-/

namespace DonationLedger

/-! ## Hexadecimal text -/

namespace Text

/-- The value of a hexadecimal digit in either case. -/
def hexValue? (c : Char) : Option Nat :=
  if '0' ≤ c ∧ c ≤ '9' then some (c.toNat - '0'.toNat)
  else if 'a' ≤ c ∧ c ≤ 'f' then some (c.toNat - 'a'.toNat + 10)
  else if 'A' ≤ c ∧ c ≤ 'F' then some (c.toNat - 'A'.toNat + 10)
  else none

/-- The digit of a number below 16. -/
def hexDigit (n : Nat) : Char :=
  if n < 10 then Char.ofNat (n + '0'.toNat) else Char.ofNat (n - 10 + 'a'.toNat)

/-- The two digits of a byte. -/
def hexPair (b : UInt8) : List Char := [hexDigit (b.toNat / 16), hexDigit (b.toNat % 16)]

/-- The digits of some bytes. -/
def hexChars (bs : List UInt8) : List Char := bs.flatMap hexPair

/-- The bytes that some digits stand for. -/
def hexBytes? : List Char → Option (List UInt8)
  | [] => some []
  | a :: b :: cs => match hexValue? a, hexValue? b, hexBytes? cs with
    | some x, some y, some bs => some ((x * 16 + y).toUInt8 :: bs)
    | _, _, _ => none
  | [_] => none

/-- The characters after an optional `0x`, the letter in either case. -/
def dropHexMark : List Char → List Char
  | '0' :: 'x' :: cs => cs
  | '0' :: 'X' :: cs => cs
  | cs => cs

/-- The bytes of a text of digits with an optional mark in front. -/
def readHex? (s : String) : Option (List UInt8) := hexBytes? (dropHexMark s.toList)

/-- The bytes written with the mark `0x` in front. -/
def writeHex (bs : List UInt8) : String := String.ofList ('0' :: 'x' :: hexChars bs)

/-- A number in hexadecimal with the mark `0x` and no leading zero. -/
def writeQuantity (n : Nat) : String := String.ofList ('0' :: 'x' :: Nat.toDigits 16 n)

theorem hexValue?_hexDigit (n : Nat) (h : n < 16) : hexValue? (hexDigit n) = some n := by
  have : n = 0 ∨ n = 1 ∨ n = 2 ∨ n = 3 ∨ n = 4 ∨ n = 5 ∨ n = 6 ∨ n = 7 ∨ n = 8 ∨ n = 9 ∨ n = 10 ∨
      n = 11 ∨ n = 12 ∨ n = 13 ∨ n = 14 ∨ n = 15 := by omega
  rcases this with h | h | h | h | h | h | h | h | h | h | h | h | h | h | h | h <;> subst h <;> decide

theorem hexBytes?_hexChars (bs : List UInt8) : hexBytes? (hexChars bs) = some bs := by
  induction bs with
  | nil => rfl
  | cons b bs ih =>
    have hb : b.toNat < 256 := b.toNat_lt
    have split : b.toNat / 16 * 16 + b.toNat % 16 = b.toNat := by omega
    show hexBytes? (hexDigit (b.toNat / 16) :: hexDigit (b.toNat % 16) :: hexChars bs) = _
    simp [hexBytes?, ih, hexValue?_hexDigit (b.toNat / 16) (by omega),
      hexValue?_hexDigit (b.toNat % 16) (by omega), split]

theorem readHex?_writeHex (bs : List UInt8) : readHex? (writeHex bs) = some bs := by
  simp [readHex?, writeHex, dropHexMark, hexBytes?_hexChars]

end Text

/-! ## Addresses and hashes -/

/-- A byte string of length `n`. -/
structure FixedBytes (n : Nat) where
  bytes : List UInt8
  length_eq : bytes.length = n
  deriving DecidableEq

/-- An account or contract on a chain. -/
abbrev Address := FixedBytes 20

/-- The hash of a transaction on a chain, or a topic of a log. -/
abbrev Hash := FixedBytes 32

namespace FixedBytes

variable {n : Nat}

/-- The bytes, if their number is right. -/
def ofBytes? (n : Nat) (bs : List UInt8) : Option (FixedBytes n) :=
  if h : bs.length = n then some ⟨bs, h⟩ else none

/-- The value that a text spells. -/
def parse? (n : Nat) (s : String) : Option (FixedBytes n) :=
  (Text.readHex? s).bind (ofBytes? n)

/-- The one spelling that the ledger stores. -/
def spelling (v : FixedBytes n) : String := Text.writeHex v.bytes

/-- The value of which every byte is zero. -/
def zero (n : Nat) : FixedBytes n := ⟨List.replicate n 0, List.length_replicate⟩

instance : Inhabited (FixedBytes n) := ⟨zero n⟩

theorem ofBytes?_bytes (v : FixedBytes n) : ofBytes? n v.bytes = some v := by
  simp [ofBytes?, v.length_eq]

theorem parse?_spelling (v : FixedBytes n) : parse? n v.spelling = some v := by
  simp [parse?, spelling, Text.readHex?_writeHex, ofBytes?_bytes]

end FixedBytes

/-- The number that some bytes spell, the highest byte first. -/
def natOfBytes (bs : List UInt8) : Nat := bs.foldl (fun acc b => acc * 256 + b.toNat) 0

end DonationLedger
