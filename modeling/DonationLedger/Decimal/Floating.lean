import DonationLedger.Decimal.Text
import DonationLedger.Text.Basic

/-!
# Decimals and floating-point numbers

Archived amounts are floating-point numbers of 64 bits. A decimal becomes one by its whole part
and its places, which are added and then rounded to the decimal's own places; a number becomes a
decimal by its shortest text.

A floating-point number is a mantissa times a power of two, and stands for all reals that round to
it. Of all decimals among them the text has the fewest digits, and of those with as few the one
nearest to the number. Everything is done in whole numbers.
-/

namespace DonationLedger

/-! ## The fewest digits that read back -/

namespace Shortest

/-- The number `mantissa * 2 ^ exponent`. -/
structure Binary where
  mantissa : Nat
  exponent : Int
  deriving DecidableEq, Repr

namespace Binary

/-- The parts of a pattern of 64 bits without its sign, `none` for what is no number. -/
def ofBits? (bits : Nat) : Option Binary :=
  let fraction : Nat := bits % power 2 52
  let raised : Nat := bits / power 2 52 % power 2 11
  if raised = 2047 then none
  else if raised = 0 then some ⟨fraction, -1074⟩
  else some ⟨fraction + power 2 52, Int.ofNat raised - 1075⟩

/-- The factor above the line. -/
def above (b : Binary) : Nat := power 2 b.exponent.toNat

/-- The factor below the line. -/
def below (b : Binary) : Nat := power 2 (-b.exponent).toNat

/-- How many quarters of a unit the reals that round to the number reach downwards. -/
def reach (b : Binary) : Nat := if b.mantissa = power 2 52 ∧ -1074 < b.exponent then 1 else 2

/-- Whether `c * 10 ^ k` rounds to the number. The ends of the interval do if the mantissa is
even. -/
def covers (b : Binary) (c : Nat) (k : Int) : Bool :=
  let up := power 10 k.toNat
  let down := power 10 (-k).toNat
  let point := 4 * c * up * b.below
  let low := (4 * b.mantissa - b.reach) * b.above * down
  let high := (4 * b.mantissa + 2) * b.above * down
  if b.mantissa % 2 = 0 then low ≤ point && point ≤ high else low < point && point < high

/-- The largest `c` such that `c * 10 ^ k` is at most the number. -/
def floorAt (b : Binary) (k : Int) : Nat :=
  b.mantissa * b.above * power 10 (-k).toNat / (b.below * power 10 k.toNat)

/-- Whether `c * 10 ^ k` lies at least as near to the number as `(c + 1) * 10 ^ k`. -/
def nearerBelow (b : Binary) (c : Nat) (k : Int) : Bool :=
  2 * b.mantissa * b.above * power 10 (-k).toNat ≤ (2 * c + 1) * b.below * power 10 k.toNat

/-- The decimal with steps of `10 ^ k` that rounds to the number, if there is one. -/
def at? (b : Binary) (k : Int) : Option Nat :=
  let c := b.floorAt k
  match b.covers c k, b.covers (c + 1) k with
  | true, true => some (if b.nearerBelow c k then c else c + 1)
  | true, false => some c
  | false, true => some (c + 1)
  | false, false => none

/-- The power of ten of the leading digit. -/
def magnitude (b : Binary) : Int :=
  let top := b.mantissa * b.above
  if b.below ≤ top then ((Nat.toDigits 10 (top / b.below)).length : Int) - 1
  else
    let j := (Nat.toDigits 10 ((b.below + top - 1) / top)).length - 1
    if b.below ≤ power 10 j * top then -(j : Int) else -((j : Int) + 1)

/-- The first of the next digit counts that is enough. -/
def search (b : Binary) (magnitude : Int) : Nat → Nat → Nat × Int
  | _, 0 => (0, 0)
  | count, fuel + 1 =>
    let k := magnitude - count + 1
    match b.at? k with
    | some c => (c, k)
    | none => search b magnitude (count + 1) fuel

/-- The digits and the power of ten of the last of them. -/
def shortest (b : Binary) : Nat × Int :=
  if b.mantissa = 0 then (0, 0) else b.search b.magnitude 1 18

/-- The digits with all their places and without an exponent. -/
def positional (b : Binary) : List Char :=
  let (c, k) := b.shortest
  let digits := Nat.toDigits 10 c
  if 0 ≤ k then digits ++ List.replicate k.toNat '0'
  else
    let places := (-k).toNat
    let all := List.replicate (places + 1 - digits.length) '0' ++ digits
    all.take (all.length - places) ++ '.' :: all.drop (all.length - places)

end Binary

/-- The shortest text of a number of 64 bits. -/
def text? (bits : Nat) : Option String :=
  (Binary.ofBits? bits).map fun b =>
    String.ofList (if bits / power 2 63 % 2 = 1 then '-' :: b.positional else b.positional)

/-- The shortest text with a point in it, as a number that is no whole number is written. -/
def pointed? (bits : Nat) : Option String :=
  (text? bits).map fun s => if s.toList.contains '.' then s else s ++ ".0"

end Shortest

/-! ## Decimals -/

namespace Decimal

/-- `base ^ n` by squaring, on top of `acc`. -/
def floatPower (base acc : Float) : Nat → Nat → Float
  | 0, _ => acc
  | _, 0 => acc
  | fuel + 1, n => floatPower (base * base) (if n % 2 = 1 then acc * base else acc) fuel (n / 2)

/-- The floating-point number of a decimal. -/
def toFloat (d : Decimal) : Float :=
  let size :=
    if d.scale = 0 then Float.ofNat d.mantissa
    else
      let unit := power 10 d.scale
      let whole := Float.ofNat (d.mantissa / unit)
      let places := Float.ofNat (d.mantissa % unit) / Float.ofNat unit
      if places == 0 then whole
      else
        let shift := floatPower 10 1 8 d.scale
        ((whole + places) * shift).round / shift
  if d.negative && d.mantissa != 0 then -size else size

/-- The decimal of a floating-point number, read from its shortest text. -/
def ofFloat? (f : Float) : Option Decimal :=
  (Shortest.text? f.toBits.toNat).bind parse?

end Decimal

end DonationLedger
