/-!
# What texts are read with

Blanks are cut off both ends of a text, so a value may stand between blanks of any kind. A text is
split into the pieces between the occurrences of one character: there is one piece more than there
are occurrences, so a text without any is one piece, also when it is empty. A whole number is one
optional sign, then at least one ASCII digit and nothing else; a reader takes the range it accepts,
so that a number outside it is refused, never cut. Ranges are counted by powers, as the products
that words of so many bits, units and places are.
-/

namespace DonationLedger

/-! ## Powers -/

/-- The product of `n` factors `base`. -/
def power (base : Nat) : Nat → Nat
  | 0 => 1
  | n + 1 => power base n * base

theorem power_succ (base n : Nat) : power base (n + 1) = power base n * base := rfl

theorem power_pos {base : Nat} (h : 0 < base) (n : Nat) : 0 < power base n := by
  induction n with
  | zero => exact Nat.one_pos
  | succ n ih => exact Nat.mul_pos ih h

namespace Text

/-! ## Blanks -/

/-- The code points of the Unicode property White_Space. -/
def isBlankCode (n : Nat) : Bool :=
  (9 ≤ n && n ≤ 13) || n == 0x20 || n == 0x85 || n == 0xA0 || n == 0x1680 ||
  (0x2000 ≤ n && n ≤ 0x200A) || n == 0x2028 || n == 0x2029 || n == 0x202F || n == 0x205F ||
  n == 0x3000

def isBlank (c : Char) : Bool := isBlankCode c.toNat

/-- The characters without the blanks at their front. -/
def dropBlanks (cs : List Char) : List Char := cs.dropWhile isBlank

/-- The characters without the blanks at both ends. -/
def trimChars (cs : List Char) : List Char := (dropBlanks (dropBlanks cs).reverse).reverse

/-- The text without the blanks at both ends. -/
def trim (s : String) : String := String.ofList (trimChars s.toList)

/-! ## Pieces -/

section
variable {α : Type} [DecidableEq α]

/-- The pieces between the separators. -/
def splitList (sep : α) : List α → List (List α)
  | [] => [[]]
  | c :: cs => match splitList sep cs with
    | first :: rest => if c = sep then [] :: first :: rest else (c :: first) :: rest
    | [] => [[c]]

/-- The pieces of a text. -/
def split (sep : Char) (s : String) : List String := (splitList sep s.toList).map String.ofList

end

/-! ## Whole numbers -/

/-- The value of an ASCII digit. -/
def digitValue? (c : Char) : Option Nat :=
  if '0' ≤ c ∧ c ≤ '9' then some (c.toNat - '0'.toNat) else none

/-- The number that a run of digits adds to `acc`, read from the left. -/
def digitsFrom : Nat → List Char → Option Nat
  | acc, [] => some acc
  | acc, c :: cs => match digitValue? c with
    | some d => digitsFrom (acc * 10 + d) cs
    | none => none

/-- A non-empty run of digits. -/
def digits? : List Char → Option Nat
  | [] => none
  | cs => digitsFrom 0 cs

/-- A whole number in `0 … max`, with an optional plus sign. -/
def natUpTo? (max : Nat) (s : String) : Option Nat :=
  let cs := match s.toList with
    | '+' :: cs => cs
    | cs => cs
  match digits? cs with
  | some n => if n ≤ max then some n else none
  | none => none

/-- The largest 64-bit word. -/
def maxWord64 : Nat := power 2 64 - 1

/-- The largest 32-bit word. -/
def maxWord32 : Nat := power 2 32 - 1

/-- The largest signed 64-bit number. -/
def maxSigned64 : Nat := power 2 63 - 1

/-- A signed 64-bit number with an optional sign. -/
def signed64? (s : String) : Option Int :=
  match s.toList with
  | '-' :: cs => match digits? cs with
    | some n => if n ≤ maxSigned64 + 1 then some (-n) else none
    | none => none
  | _ => (natUpTo? maxSigned64 s).map Int.ofNat

end Text

end DonationLedger
