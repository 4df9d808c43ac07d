import DonationLedger.Decimal

/-!
# Decimals in text

Writing keeps every stored place, so `2.50` stays `2.50`, and shows a sign only before a number
that is not zero. Reading takes an optional sign, digits with at most one point, and underscores
after the first digit. Places that do not fit are rounded at the half, upwards, by the first of
them; whole digits that do not fit refuse the text.
-/

namespace DonationLedger.Decimal

/-- `n` zeros in front of the digits. -/
def padZeros (n : Nat) (cs : List Char) : List Char := List.replicate n '0' ++ cs

/-- The digits with a point before the last `scale` of them. -/
def pointed (scale : Nat) (digits : List Char) : List Char :=
  if scale = 0 then digits
  else
    let all := padZeros (scale + 1 - digits.length) digits
    all.take (all.length - scale) ++ '.' :: all.drop (all.length - scale)

/-- The digits of a decimal without its sign. -/
def digitText (d : Decimal) : List Char := pointed d.scale (Nat.toDigits 10 d.mantissa)

/-- The text of a decimal. -/
def text (d : Decimal) : String :=
  if d.negative && d.mantissa != 0 then String.ofList ('-' :: digitText d)
  else String.ofList (digitText d)

/-- What was read so far: the mantissa, the places after the point if a point was read, whether
any digit was, and whether the mantissa was wide before its last digit. -/
structure Reading where
  mantissa : Nat
  places : Nat
  point : Bool
  digits : Bool
  wide : Bool
  deriving DecidableEq, Repr

namespace Reading

def start : Reading := ⟨0, 0, false, false, false⟩

/-- From here on a mantissa is wide: one more digit might not fit 64 bits. -/
def wideBound : Nat := 1844674407370954906

/-- The reading rounded by the first digit that no longer fits. A mantissa that leaves its range
by this gives up its last digit. -/
def rounded (r : Reading) (digit : Nat) : Option Reading :=
  if digit < 5 then some r
  else if r.mantissa + 1 < limit then some { r with mantissa := r.mantissa + 1 }
  else if r.places = 0 then none
  else some { r with mantissa := (r.mantissa + 5) / 10, places := r.places - 1 }

/-- Whether a character may stand among digits. -/
def isDigitOrUnderscore (c : Char) : Bool := c = '_' || (Text.digitValue? c).isSome

/-- The reading rounded by the places that no longer fit. Underscores before them are passed over
in a wide reading; in any other the first of them counts as a zero. -/
def cutOff (r : Reading) (places : List Char) : Option Reading :=
  if places.all isDigitOrUnderscore then
    match if r.wide then places.dropWhile (· = '_') else places with
    | c :: _ => r.rounded ((Text.digitValue? c).getD 0)
    | [] => some r
  else none

/-- The reading with one more digit. -/
def push (r : Reading) (digit : Nat) : Reading :=
  ⟨r.mantissa * 10 + digit, if r.point then r.places + 1 else r.places, r.point, true,
    r.wide || wideBound ≤ r.mantissa⟩

/-- The reading after the characters, `none` where they are no decimal. -/
def read (r : Reading) : List Char → Option Reading
  | [] => some r
  | c :: cs =>
    if r.point && r.places ≥ maxScale then r.cutOff (c :: cs)
    else match Text.digitValue? c with
      | some d =>
        if (r.push d).mantissa < limit then read (r.push d) cs
        else if r.point then r.cutOff (c :: cs)
        else none
      | none =>
        if c = '.' then if r.point then none else read { r with point := true } cs
        else if c = '_' then if r.digits then read r cs else none
        else none

end Reading

/-- The decimal that a text spells. -/
def parse? (s : String) : Option Decimal :=
  let (negative, cs) := match s.toList with
    | '-' :: cs => (true, cs)
    | '+' :: cs => (false, cs)
    | cs => (false, cs)
  match Reading.start.read cs with
  | some r => if r.digits then ofParts? negative r.mantissa r.places else none
  | none => none

end DonationLedger.Decimal
