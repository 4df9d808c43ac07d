import DonationLedger.Text.Basic

/-!
# Numbers in JSON

A number without point and exponent that fits a word of 64 bits, with or without a sign, is a
whole number. Any other is a floating-point number: its leading digits up to a word, times or
divided by a power of ten. Zero with a sign is a floating-point number too.
-/

namespace DonationLedger.Json

/-- What a number in JSON is read as. -/
inductive Number
  | whole (n : Int)
  | floating (f : Float)

namespace Number

/-- The digits read so far, and the power of ten that is still to be applied. -/
structure Scan where
  digits : Nat
  power : Int
  full : Bool
  deriving DecidableEq, Repr

/-- One more digit before the point. A digit that does not fit counts as a power of ten. -/
def Scan.whole (s : Scan) (d : Nat) : Scan :=
  if s.full || s.digits * 10 + d > Text.maxWord64 then
    { s with full := true, power := s.power + 1 }
  else { s with digits := s.digits * 10 + d }

/-- One more digit after the point. A digit that does not fit is dropped with all after it. -/
def Scan.place (s : Scan) (d : Nat) : Scan :=
  if s.full || s.digits * 10 + d > Text.maxWord64 then { s with full := true }
  else { s with digits := s.digits * 10 + d, power := s.power - 1 }

/-- The values of the leading digits, and what follows them. -/
def digitRun : List Char → List Nat × List Char
  | [] => ([], [])
  | c :: cs => match Text.digitValue? c with
    | some d => ((d :: (digitRun cs).1), (digitRun cs).2)
    | none => ([], c :: cs)

/-- The number of an exponent's digits. -/
def exponent (cs : List Char) : Int :=
  match cs with
  | '-' :: cs => -((Text.digits? cs).getD 0 : Int)
  | '+' :: cs => (Text.digits? cs).getD 0
  | cs => (Text.digits? cs).getD 0

/-- `f * 10 ^ power`, applied in steps of at most 308 powers. -/
def scaled : Nat → Float → Int → Float
  | 0, f, _ => f
  | fuel + 1, f, power =>
    if 0 ≤ power then f * Float.ofScientific 1 false (min power.toNat 400)
    else if -power ≤ 308 then f / Float.ofScientific 1 false (-power).toNat
    else scaled fuel (f / Float.ofScientific 1 false 308) (power + 308)

/-- The number that a text of the JSON format stands for. -/
def ofLexeme (lexeme : String) : Number :=
  let (negative, cs) := match lexeme.toList with
    | '-' :: cs => (true, cs)
    | cs => (false, cs)
  let (ds, rest) := digitRun cs
  let all := ds.foldl (fun n d => n * 10 + d) 0
  if rest.isEmpty ∧
      (if negative then 0 < all ∧ all ≤ Text.maxSigned64 + 1 else all ≤ Text.maxWord64)
  then .whole (if negative then -all else all)
  else
    let start : Scan := ⟨0, 0, false⟩
    let s := ds.foldl Scan.whole start
    let (places, rest) := match rest with
      | '.' :: cs => digitRun cs
      | cs => ([], cs)
    let s := places.foldl Scan.place s
    let power := match rest with
      | _ :: cs => s.power + exponent cs
      | [] => s.power
    let size := scaled 4 (Float.ofNat s.digits) power
    .floating (if negative then -size else size)

end Number

end DonationLedger.Json
