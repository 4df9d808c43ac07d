import DonationLedger.Text.Basic

/-!
# Punycode

The reading of labels that spell other letters with ASCII alone. Before the last hyphen stand the
ASCII characters of the label. Behind it stand numbers, each of which says how far to go on
through all places and all code points to the next insertion. Numbers are words of 32 bits.
-/

namespace DonationLedger.Host.Punycode

/-- The value of a digit: small letters from zero on, then figures. -/
def digit? (n : Nat) : Option Nat :=
  if 0x61 ≤ n ∧ n ≤ 0x7A then some (n - 0x61)
  else if 0x30 ≤ n ∧ n ≤ 0x39 then some (n - 0x30 + 26)
  else none

/-- The least digit at a position that does not end a number. -/
def threshold (bias position : Nat) : Nat :=
  if position ≤ bias then 1 else if bias + 26 ≤ position then 26 else position - bias

/-- A difference divided until it is small, with the positions that this takes. -/
def settled : (fuel : Nat) → (delta position : Nat) → Nat × Nat
  | 0, delta, position => (delta, position)
  | fuel + 1, delta, position =>
    if 455 < delta then settled fuel (delta / 35) (position + 36) else (delta, position)

/-- The bias after a difference, when the label has so many code points. -/
def adapted (delta count : Nat) (isFirst : Bool) : Nat :=
  let delta := if isFirst then delta / 700 else delta / 2
  let (delta, position) := settled 32 (delta + delta / count) 0
  position + 36 * delta / (delta + 38)

def wordLimit : Nat := power 2 32

/-- What is known while a number is read: its digits' weight, their position and the sum. -/
structure Reading where
  weight : Nat
  position : Nat
  sum : Nat
  deriving DecidableEq, Repr

/-- A label while it is read: its code points, the code point and the place of the last insertion,
and the bias of the next number. -/
structure Progress where
  codes : List Nat
  code : Nat
  place : Nat
  bias : Nat
  deriving DecidableEq, Repr

namespace Progress

def start (ascii : List Nat) : Progress := ⟨ascii, 128, 0, 72⟩

/-- The start of a number. -/
def reading (p : Progress) : Reading := ⟨1, 36, p.place⟩

/-- Inserts the next code point once its number is read. -/
def insert (p : Progress) (sum : Nat) : Option Progress :=
  let count := p.codes.length + 1
  let code := p.code + sum / count
  let place := sum % count
  if code < 0xD800 ∨ (0xDFFF < code ∧ code < 0x110000) then
    some
      { codes := p.codes.take place ++ code :: p.codes.drop place
        code := code
        place := place + 1
        bias := adapted (sum - p.place) count (p.place == 0) }
  else none

end Progress

/-- Reads the numbers. At the end none may be begun. -/
def readFrom (p : Progress) : Option Reading → List Nat → Option (List Nat)
  | none, [] => some p.codes
  | some _, [] => none
  | begun, n :: ns =>
    let r := begun.getD p.reading
    match digit? n with
    | none => none
    | some d =>
      let sum := r.sum + d * r.weight
      let least := threshold p.bias r.position
      if wordLimit ≤ sum then none
      else if d < least then
        match p.insert sum with
        | some q => readFrom q none ns
        | none => none
      else
        let weight := r.weight * (36 - least)
        if wordLimit ≤ weight then none
        else readFrom p (some ⟨weight, r.position + 36, sum⟩) ns

def hyphen : Nat := 0x2D

/-- The ASCII characters before the last hyphen, and the numbers. A hyphen at the front is none
that divides them. -/
def divided (ns : List Nat) : List Nat × List Nat :=
  let back := ns.reverse
  let numbers := (back.takeWhile fun n => n ≠ hyphen).reverse
  let ascii := ((back.dropWhile fun n => n ≠ hyphen).drop 1).reverse
  if ascii.isEmpty then ([], ns) else (ascii, numbers)

/-- The code points that a label spells. -/
def decode? (ns : List Nat) : Option (List Nat) :=
  let (ascii, numbers) := divided ns
  readFrom (.start ascii) none numbers

end DonationLedger.Host.Punycode
