import DonationLedger.Bytes

/-!
# Logs and receipts

What a node tells about the chain: the logs that a contract wrote, and the receipt of a
transaction that was included in a block.

Into the data of a log the contract packs a text and an amount as words of 32 bytes: where the text
begins, the amount, the length of the text, and the text itself, filled up with zeros to whole
words. Reading follows the offset wherever it leads inside the data and does not look at the
filling, so bytes behind the text and a missing end of the filling do no harm.
-/

namespace DonationLedger

/-- A log of a contract. The node marks a log that a reorganisation took back as removed. -/
structure Log where
  address : Address
  topics : List Hash
  data : List UInt8
  block : Nat
  hash : Hash
  index : Nat
  removed : Bool
  deriving DecidableEq

/-- The receipt of a transaction on a chain. -/
structure Receipt where
  hash : Hash
  reverted : Bool
  sender : Address
  recipient : Option Address
  block : Nat
  logs : List Log
  deriving DecidableEq

namespace Log

/-- Logs in the order of their places on the chain. -/
def before (a b : Log) : Bool := a.block < b.block || (a.block == b.block && a.index ≤ b.index)

end Log

/-! ## The data of a curation event -/

namespace Abi

/-- The number of bytes of a word. -/
def wordSize : Nat := 32

/-- The last `k` bytes of a number, the highest byte first. -/
def bigEndian : Nat → Nat → List UInt8
  | 0, _ => []
  | k + 1, n => bigEndian k (n / 256) ++ [(n % 256).toUInt8]

/-- A number as a word. -/
def word (n : Nat) : List UInt8 := bigEndian wordSize n

/-- The zeros that fill up a text of `n` bytes to whole words. -/
def filling (n : Nat) : List UInt8 := List.replicate ((wordSize - n % wordSize) % wordSize) 0

/-- The data of an event with this text and this amount. -/
def encode (text : List UInt8) (amount : Nat) : List UInt8 :=
  word (2 * wordSize) ++ word amount ++ word text.length ++ text ++ filling text.length

/-- The word at an offset, `none` where it does not lie inside the data. -/
def wordAt? (data : List UInt8) (offset : Nat) : Option Nat :=
  let bytes := (data.drop offset).take wordSize
  if bytes.length = wordSize then some (natOfBytes bytes) else none

/-- The text and the amount of some data, `none` where a part does not lie inside it. -/
def decode? (data : List UInt8) : Option (List UInt8 × Nat) :=
  match wordAt? data 0, wordAt? data wordSize with
  | some offset, some amount => match wordAt? data offset with
    | some size =>
      let text := (data.drop (offset + wordSize)).take size
      if text.length = size then some (text, amount) else none
    | none => none
  | _, _ => none

theorem length_bigEndian (k n : Nat) : (bigEndian k n).length = k := by
  induction k generalizing n with
  | zero => rfl
  | succ k ih => simp [bigEndian, ih]

theorem length_word (n : Nat) : (word n).length = wordSize := length_bigEndian _ _

end Abi

end DonationLedger
