import DonationLedger.Text.Basic
import DonationLedger.Text.Lowercase

/-!
# Time

A span of time in whole nanoseconds. Clocks count its seconds in 64 bits, so a product that
needs more seconds has no value.

A point in time of the Gregorian calendar in universal time, to the nanosecond. Its text is that
of RFC 3339 with `Z` and as many groups of three places as it takes. Reading is more lenient: any
offset, blanks between the numbers, numbers without leading zeros, and a second 60, which is kept
as a second 59 of double length.
-/

namespace DonationLedger

/-! ## Spans of time -/

/-- A span of time. -/
structure Duration where
  nanos : Nat
  deriving DecidableEq, Repr, Inhabited

namespace Duration

/-- Nanoseconds in a second. -/
def perSecond : Nat := 1000000000

/-- Nanoseconds in a millisecond. -/
def perMilli : Nat := 1000000

def ofSeconds (n : Nat) : Duration := ⟨n * perSecond⟩

def ofMillis (n : Nat) : Duration := ⟨n * perMilli⟩

/-- Whole seconds and the nanoseconds beside them. -/
def ofParts (seconds nanos : Nat) : Duration := ⟨seconds * perSecond + nanos⟩

def seconds (d : Duration) : Nat := d.nanos / perSecond

def subsecond (d : Duration) : Nat := d.nanos % perSecond

def millis (d : Duration) : Nat := d.nanos / perMilli

/-- `n` times the span, `none` where the seconds leave 64 bits. -/
def times? (d : Duration) (n : Nat) : Option Duration :=
  let product : Duration := ⟨d.nanos * n⟩
  if product.seconds ≤ Text.maxWord64 then some product else none

/-- The shorter of two spans. -/
def least (a b : Duration) : Duration := if a.nanos ≤ b.nanos then a else b

end Duration

/-! ## Points in time -/

/-- A point in time: the day counted from 1 March of the year zero, the second of the day, and the
nanosecond, which runs on into a leap second. -/
structure Time where
  day : Int
  second : Nat
  nanos : Nat
  deriving DecidableEq, Repr

namespace Time

/-! ## Calendar -/

def secondsPerDay : Nat := 86400

def isLeapYear (y : Int) : Bool := y % 4 == 0 && (y % 100 != 0 || y % 400 == 0)

def daysInMonth (y : Int) (m : Nat) : Nat :=
  if m = 2 then if isLeapYear y then 29 else 28
  else if m ∈ [4, 6, 9, 11] then 30
  else 31

/-- The number of a day. Years begin in March, so that a leap day is the last of its year. -/
def dayNumber (y : Int) (m d : Nat) : Int :=
  let y := if m ≤ 2 then y - 1 else y
  let m : Int := if m ≤ 2 then m + 9 else m - 3
  365 * y + y / 4 - y / 100 + y / 400 + (153 * m + 2) / 5 + d - 1

/-- The year, the month and the day of a number. -/
def civil (n : Int) : Int × Nat × Nat :=
  let era := n / 146097
  let doe := n % 146097
  let yoe := (doe - doe / 1460 + doe / 36524 - doe / 146096) / 365
  let doy := doe - (365 * yoe + yoe / 4 - yoe / 100)
  let mp := (5 * doy + 2) / 153
  let d := doy - (153 * mp + 2) / 5 + 1
  let m := if mp < 10 then mp + 3 else mp - 9
  let y := yoe + era * 400 + (if m ≤ 2 then 1 else 0)
  (y, m.toNat, d.toNat)

/-- Whether a year can be told. -/
def isKnownYear (y : Int) : Bool := -262143 ≤ y && y ≤ 262142

/-! ## Reading -/

def isDigit (c : Char) : Bool := '0' ≤ c && c ≤ '9'

/-- A number of at least one and at most `most` digits, and what follows it. -/
def number? (most : Nat) (cs : List Char) : Option (Nat × List Char) :=
  let ds := (cs.take most).takeWhile isDigit
  (Text.digits? ds).map fun n => (n, cs.drop ds.length)

/-- A number after blanks. -/
def field? (most : Nat) (cs : List Char) : Option (Nat × List Char) :=
  number? most (Text.dropBlanks cs)

/-- A year: four digits at most, or any number of them behind a sign. -/
def year? (cs : List Char) : Option (Int × List Char) :=
  match Text.dropBlanks cs with
  | '-' :: cs => (number? cs.length cs).map fun r => (-(r.1 : Int), r.2)
  | '+' :: cs => (number? cs.length cs).map fun r => ((r.1 : Int), r.2)
  | cs => (number? 4 cs).map fun r => ((r.1 : Int), r.2)

/-- What follows a mark, which blanks may stand before. -/
def mark? (c : Char) (cs : List Char) : Option (List Char) :=
  match Text.dropBlanks cs with
  | d :: cs => if d = c then some cs else none
  | [] => none

/-- A date, and what follows it. -/
def date? (cs : List Char) : Option (Int × List Char) := do
  let (y, cs) ← year? cs
  let cs ← mark? '-' cs
  let (m, cs) ← field? 2 cs
  let cs ← mark? '-' cs
  let (d, cs) ← field? 2 cs
  if isKnownYear y ∧ 1 ≤ m ∧ m ≤ 12 ∧ 1 ≤ d ∧ d ≤ daysInMonth y m then
    some (dayNumber y m d, cs)
  else none

/-- Places of a second in nanoseconds. Places after the ninth are dropped. -/
def places? (cs : List Char) : Option (Nat × List Char) :=
  match cs with
  | '.' :: cs =>
    let ds := (cs.take 9).takeWhile isDigit
    (Text.digits? ds).map fun n =>
      (n * power 10 (9 - ds.length), (cs.drop ds.length).dropWhile isDigit)
  | cs => some (0, cs)

/-- A time of day in seconds and nanoseconds, and what follows it. -/
def clock? (cs : List Char) : Option (Nat × Nat × List Char) := do
  let (h, cs) ← field? 2 cs
  let cs ← mark? ':' cs
  let (m, cs) ← field? 2 cs
  let cs ← mark? ':' cs
  let (s, cs) ← field? 2 cs
  let (nanos, cs) ← places? cs
  if h ≤ 23 ∧ m ≤ 59 ∧ s ≤ 60 then
    if s = 60 then some (h * 3600 + m * 60 + 59, nanos + 1000000000, cs)
    else some (h * 3600 + m * 60 + s, nanos, cs)
  else none

/-- Two digits and their value. -/
def twoDigits? : List Char → Option (Nat × List Char)
  | a :: b :: cs => match Text.digitValue? a, Text.digitValue? b with
    | some x, some y => some (x * 10 + y, cs)
    | _, _ => none
  | _ => none

/-- An offset from universal time in seconds, and what follows it. -/
def offset? (cs : List Char) : Option (Int × List Char) :=
  let cs := Text.dropBlanks cs
  let signed := fun (negative : Bool) cs => do
    let (h, cs) ← twoDigits? cs
    let (m, cs) ← twoDigits? (cs.dropWhile fun c => c = ':' || Text.isBlank c)
    let size : Int := h * 3600 + m * 60
    if m ≤ 59 then some (if negative then -size else size, cs) else none
  if (cs.take 3).map Text.lowerAscii = ['u', 't', 'c'] then some (0, cs.drop 3)
  else match cs with
    | 'Z' :: cs => some (0, cs)
    | 'z' :: cs => some (0, cs)
    | '+' :: cs => signed false cs
    | '-' :: cs => signed true cs
    | c :: cs => if c.toNat = 0x2212 then signed true cs else none
    | [] => none

/-- The point in time of a text. -/
def parse? (s : String) : Option Time := do
  let (day, cs) ← date? s.toList
  let cs ← match cs with
    | c :: cs => if c = 'T' ∨ c = 't' ∨ c = ' ' then some cs else none
    | [] => none
  let (second, nanos, cs) ← clock? cs
  let (offset, cs) ← offset? cs
  if !(Text.dropBlanks cs).isEmpty ∨ secondsPerDay ≤ offset.natAbs then none
  else
    let total := day * secondsPerDay + second - offset
    let day := total / secondsPerDay
    if isKnownYear (civil day).1 then some ⟨day, (total % secondsPerDay).toNat, nanos⟩ else none

/-! ## Writing -/

/-- The digits of a number, filled up with zeros in front. -/
def padded (width n : Nat) : String :=
  let ds := Nat.toDigits 10 n
  String.ofList (List.replicate (width - ds.length) '0' ++ ds)

def yearText (y : Int) : String :=
  if 0 ≤ y ∧ y ≤ 9999 then padded 4 y.toNat
  else (if y < 0 then "-" else "+") ++ padded 4 y.natAbs

/-- The places of a second in as many groups of three as it takes. -/
def placesText (nanos : Nat) : String :=
  if nanos = 0 then ""
  else if nanos % 1000000 = 0 then "." ++ padded 3 (nanos / 1000000)
  else if nanos % 1000 = 0 then "." ++ padded 6 (nanos / 1000)
  else "." ++ padded 9 nanos

/-- The text of a point in time. -/
def text (t : Time) : String :=
  let (y, m, d) := civil t.day
  let leap := t.nanos / 1000000000
  yearText y ++ "-" ++ padded 2 m ++ "-" ++ padded 2 d ++ "T" ++
    padded 2 (t.second / 3600) ++ ":" ++ padded 2 (t.second / 60 % 60) ++ ":" ++
    padded 2 (t.second % 60 + leap) ++ placesText (t.nanos % 1000000000) ++ "Z"

end Time

end DonationLedger
