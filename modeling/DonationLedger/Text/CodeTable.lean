import DonationLedger.Bytes
import DonationLedger.Text.Basic

/-!
# Tables of code points

Tables of a character standard are written as text. Between blanks stand entries in base 16: a
code point `A` or a range `A-B`. In a table of runs an entry goes on with the values that belong
to it, as in `A-B=C.D`; a run `A-B/S=C` takes in every `S`-th code point of its range.
-/

namespace DonationLedger.Text

/-- Code points from the first to the last. -/
structure CodeRange where
  first : Nat
  last : Nat
  deriving DecidableEq, Repr

namespace CodeRange

def has (r : CodeRange) (n : Nat) : Bool := r.first ≤ n && n ≤ r.last

end CodeRange

/-- Code points at equal distances, and the values that belong to the first of them. -/
structure CodeRun where
  range : CodeRange
  stride : Nat
  values : List Nat
  deriving DecidableEq, Repr

namespace CodeRun

def has (r : CodeRun) (n : Nat) : Bool := r.range.has n && (n - r.range.first) % r.stride == 0

/-- The values of a code point of the run, which grow as the code points do. -/
def image (r : CodeRun) (n : Nat) : List Nat := r.values.map (· + (n - r.range.first))

end CodeRun

/-! ## Reading -/

/-- The entries read so far, the latest first, and the characters of the one begun. -/
structure EntryReader where
  entries : List (List Char)
  begun : List Char
  deriving DecidableEq, Repr

namespace EntryReader

def start : EntryReader := ⟨[], []⟩

/-- Ends the entry that was begun, if any was. -/
def close (r : EntryReader) : EntryReader :=
  if r.begun.isEmpty then r else ⟨r.begun.reverse :: r.entries, []⟩

/-- Reads one more character. -/
def next (r : EntryReader) (c : Char) : EntryReader :=
  if c = ' ' || c = '\n' then r.close else { r with begun := c :: r.begun }

end EntryReader

/-- The entries of a table in their order. -/
def tableEntries (s : String) : List (List Char) :=
  (s.foldl EntryReader.next .start).close.entries.reverse

/-- A number in base 16. -/
def hexNumber? (cs : List Char) : Option Nat :=
  if cs.isEmpty then none
  else cs.foldl (fun acc c => match acc, hexValue? c with
    | some n, some d => some (n * 16 + d)
    | _, _ => none) (some 0)

/-- A code point or a range. -/
def readRange? (cs : List Char) : Option CodeRange := do
  match splitList '-' cs with
  | [a] =>
    let n ← hexNumber? a
    some ⟨n, n⟩
  | [a, b] =>
    let first ← hexNumber? a
    let last ← hexNumber? b
    some ⟨first, last⟩
  | _ => none

/-- A run with its values. -/
def readRun? (cs : List Char) : Option CodeRun := do
  match splitList '=' cs with
  | [codes, values] =>
    let values ← (splitList '.' values).mapM hexNumber?
    match splitList '/' codes with
    | [range] =>
      let range ← readRange? range
      some ⟨range, 1, values⟩
    | [range, stride] =>
      let range ← readRange? range
      let stride ← hexNumber? stride
      some ⟨range, stride, values⟩
    | _ => none
  | _ => none

/-- The ranges of a table. -/
def readRanges (s : String) : List CodeRange := (tableEntries s).filterMap readRange?

/-- The runs of a table. -/
def readRuns (s : String) : List CodeRun := (tableEntries s).filterMap readRun?

end DonationLedger.Text
