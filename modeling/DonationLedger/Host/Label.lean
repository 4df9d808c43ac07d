import DonationLedger.Host.MappingTable
import DonationLedger.Host.Punycode
import DonationLedger.Text.Basic
import DonationLedger.Text.Composed
import DonationLedger.Text.DirectionTable
import DonationLedger.Text.JoiningTable

/-!
# Labels of domain names

What a label may be made of. A label that begins with `xn--` spells another one in Punycode; what
it spells must be in the form that every label is brought into, so that no two spellings of one
label are accepted. A label does not begin with a mark, joiners stand only where they change the
shape of letters, and in a domain name with letters written from right to left every label has to
keep its order when it is shown.
-/

namespace DonationLedger.Host

open Text

/-- The code points of a label. -/
abbrev Label := List Nat

namespace Label

def isAscii (l : Label) : Bool := l.all (· < 0x80)

/-- The code points of ASCII that no domain name may hold. -/
def isDenied (n : Nat) : Bool :=
  n ≤ 0x20 || n = 0x7F || ("%#/:<>?@[\\]^|".toList.map Char.toNat).contains n

/-- The mark at the front of a label in Punycode. -/
def punycodeMark : Label := [0x78, 0x6E, 0x2D, 0x2D]

/-- The longest label that is read from Punycode. -/
def longestPunycode : Nat := 2000

/-- The longest label beyond ASCII. -/
def longest : Nat := 1000

/-- Whether the code points are what becomes of them in a domain name. -/
def isStable (l : Label) : Bool :=
  l.all (fun n => mapped? n == some [n] && !isDenied n) && composed l == l

/-- The label that a label spells behind the mark of Punycode. -/
def ofPunycode? (l : Label) : Option Label := do
  if l.isAscii ∧ l.length ≤ longestPunycode ∧ l ≠ [] ∧ l.getLast? ≠ some Punycode.hyphen then
    let spelled ← Punycode.decode? l
    if isStable spelled then some spelled else none
  else none

/-- The label itself, or the label that it spells. -/
def read? (l : Label) : Option Label :=
  if l.take 4 = punycodeMark then ofPunycode? (l.drop 4) else some l

/-! ## Joiners -/

def nonJoiner : Nat := 0x200C

def joiner : Nat := 0x200D

/-- Whether the first code point that counts for joining passes. -/
def meets (passes : Nat → Bool) (l : Label) : Bool :=
  match l.find? fun n => passes n || !isJoiningTransparent n with
  | some n => passes n
  | none => false

/-- Whether a code point may stand between others, of which those before it are given backwards.
A joiner may follow a virama; one that parts letters may also part two that would join. -/
def mayStand (before : Label) (n : Nat) (after : Label) : Bool :=
  if n ≠ joiner ∧ n ≠ nonJoiner then true
  else if before.head?.any fun m => combiningClass m == 9 then true
  else n == nonJoiner && meets joinsNext before && meets joinsPrevious after

/-- Whether every joiner may stand where it does. -/
def joinersStand (before : Label) : Label → Bool
  | [] => true
  | n :: ns => mayStand before n ns && joinersStand (n :: before) ns

/-- Whether a label may be part of a domain name. -/
def isValid (l : Label) : Bool :=
  !(l.head?.any isMark) && joinersStand [] l && (l.isAscii || l.length ≤ longest)

/-! ## Direction -/

/-- Whether a label holds characters written from right to left. The first of them are those of
the Hebrew block. -/
def hasRightToLeft (l : Label) : Bool :=
  l.any fun n => 0x590 ≤ n &&
    match direction n with
    | .rightToLeft => true
    | .arabicLetter => true
    | .arabicNumber => true
    | _ => false

/-- What may stand in a label of either direction. -/
def isDirectionless : Direction → Bool
  | .europeanNumber => true
  | .europeanSeparator => true
  | .europeanTerminator => true
  | .commonSeparator => true
  | .nonspacingMark => true
  | .boundaryNeutral => true
  | .otherNeutral => true
  | _ => false

/-- The last direction that is no mark's. -/
def lastDirection? (ds : List Direction) : Option Direction :=
  ds.reverse.find? fun d => d ≠ .nonspacingMark

/-- Whether directions after the first go on from left to right. -/
def goesRight (rest : List Direction) : Bool :=
  rest.all (fun d => d == .leftToRight || isDirectionless d) &&
    (lastDirection? rest).all fun d => d == .leftToRight || d == .europeanNumber

/-- Whether directions after the first go on from right to left, with numbers of one kind. -/
def goesLeft (rest : List Direction) : Bool :=
  let isLeftward := fun d => d == .rightToLeft || d == .arabicLetter || d == .arabicNumber
  rest.all (fun d => isLeftward d || isDirectionless d) &&
    (lastDirection? rest).all (fun d => isLeftward d || d == .europeanNumber) &&
    !(rest.contains .europeanNumber && rest.contains .arabicNumber)

/-- Whether a label keeps its order beside labels written from right to left. -/
def keepsOrder (l : Label) : Bool :=
  match l.map direction with
  | [] => true
  | first :: rest => match first with
    | .leftToRight => goesRight rest
    | .rightToLeft => goesLeft rest
    | .arabicLetter => goesLeft rest
    | _ => false

end Label

/-! ## Domain names -/

/-- The code points of a domain name as they become, `none` if one is disallowed. -/
def mapAll? : List Nat → Option (List Nat)
  | [] => some []
  | n :: ns => do
    let front ← mapped? n
    let rest ← mapAll? ns
    some (front ++ rest)

def fullStop : Nat := 0x2E

/-- The labels of a domain name, `none` if it is none. -/
def labels? (ns : List Nat) : Option (List Label) := do
  let codes := composed (← mapAll? ns)
  if codes.any Label.isDenied then none
  else
    let labels ← (splitList fullStop codes).mapM Label.read?
    if labels.all Label.isValid &&
        (!(labels.any Label.hasRightToLeft) || labels.all Label.keepsOrder) then
      some labels
    else none

end DonationLedger.Host
