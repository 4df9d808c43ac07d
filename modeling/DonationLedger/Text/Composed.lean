import DonationLedger.Text.CompositionTable
import DonationLedger.Text.MarkTable

/-!
# Composed form

The canonical composition of a text: letters and their marks are taken apart, the marks on one
letter are put in the order of their combining classes, and what composes is put together again.
Code points that are always replaced by others in this form are not looked for; a text has to be
free of them.
-/

namespace DonationLedger.Text

/-! ## Syllables of Hangul -/

/-- The first syllable, the first lead, the first vowel, and the code point before the first
tail. -/
def syllableBase : Nat := 0xAC00

def leadBase : Nat := 0x1100

def vowelBase : Nat := 0x1161

def tailBase : Nat := 0x11A7

/-- The letters of a syllable. -/
def syllableLetters (n : Nat) : List Nat :=
  let s := n - syllableBase
  let letters := [leadBase + s / 588, vowelBase + s % 588 / 28]
  if s % 28 = 0 then letters else letters ++ [tailBase + s % 28]

def isSyllable (n : Nat) : Bool := syllableBase ≤ n && n < syllableBase + 11172

/-- The syllable of two letters, or of a syllable without a tail and a tail. -/
def syllable? (a b : Nat) : Option Nat :=
  if leadBase ≤ a ∧ a < leadBase + 19 ∧ vowelBase ≤ b ∧ b < vowelBase + 21 then
    some (syllableBase + ((a - leadBase) * 21 + (b - vowelBase)) * 28)
  else if isSyllable a ∧ (a - syllableBase) % 28 = 0 ∧ tailBase < b ∧ b < tailBase + 28 then
    some (a + (b - tailBase))
  else none

/-! ## Composites -/

/-- The two parts of a composite. -/
def parts? (n : Nat) : Option (Nat × Nat) :=
  match compositionTable.find? fun r => r.range.first == n with
  | some ⟨_, _, [a, b]⟩ => some (a, b)
  | _ => none

/-- The composite of two parts. -/
def composite? (a b : Nat) : Option Nat :=
  match syllable? a b with
  | some n => some n
  | none => (compositionTable.find? fun r => r.values == [a, b]).map fun r => r.range.first

/-- The code points that a code point is composed of, where composites lie at most so deep inside
each other. -/
def takenApart : (depth : Nat) → Nat → List Nat
  | 0, n => [n]
  | depth + 1, n =>
    if isSyllable n then syllableLetters n
    else match parts? n with
      | some (a, b) => takenApart depth a ++ [b]
      | none => [n]

/-- How deep composites lie inside each other. -/
def compositeDepth : Nat := 3

/-! ## Marks in order -/

/-- A code point put before others whose marks are in order. -/
def putMark (n : Nat) : List Nat → List Nat
  | [] => [n]
  | m :: ms =>
    if combiningClass m ≠ 0 ∧ combiningClass m < combiningClass n then m :: putMark n ms
    else n :: m :: ms

/-- The code points with the marks on each letter in the order of their classes. Marks of one
class keep their order. -/
def inMarkOrder : List Nat → List Nat
  | [] => []
  | n :: ns => putMark n (inMarkOrder ns)

/-! ## Composing -/

/-- A letter with the marks after it that did not compose with it, the latest first. -/
structure Cluster where
  letter : Nat
  marks : List Nat
  deriving DecidableEq, Repr

namespace Cluster

def codes (c : Cluster) : List Nat := c.letter :: c.marks.reverse

/-- Whether no mark in between keeps a code point from the letter. -/
def reaches (c : Cluster) (n : Nat) : Bool :=
  match c.marks with
  | [] => true
  | m :: _ => combiningClass m < combiningClass n

end Cluster

/-- Composes what follows an open cluster, or the front of a text, with it. -/
def composeFrom : Option Cluster → List Nat → List Nat
  | none, [] => []
  | some c, [] => c.codes
  | none, n :: ns =>
    if combiningClass n = 0 then composeFrom (some ⟨n, []⟩) ns else n :: composeFrom none ns
  | some c, n :: ns =>
    match if c.reaches n then composite? c.letter n else none with
    | some letter => composeFrom (some { c with letter := letter }) ns
    | none =>
      if combiningClass n = 0 then c.codes ++ composeFrom (some ⟨n, []⟩) ns
      else composeFrom (some { c with marks := n :: c.marks }) ns

/-- The first combining mark. Code points below it neither compose nor are put in order. -/
def firstMark : Nat := 0x300

/-- The code points in composed form. -/
def composed (ns : List Nat) : List Nat :=
  if ns.all (· < firstMark) then ns
  else composeFrom none (inMarkOrder (ns.flatMap (takenApart compositeDepth)))

end DonationLedger.Text
