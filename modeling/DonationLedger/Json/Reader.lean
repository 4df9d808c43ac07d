import DonationLedger.Bytes
import DonationLedger.Json

/-!
# Reading JSON

The value that a text of the JSON format stands for. A reader takes the characters that are left
and returns what it read with the characters after it. The bound on the depth of recursion is the
number of characters, of which every step takes at least one.
-/

namespace DonationLedger.Json

def isSpace (c : Char) : Bool := c = ' ' || c = '\n' || c = '\t' || c = '\r'

def skipSpace (cs : List Char) : List Char := cs.dropWhile isSpace

def isNumberChar (c : Char) : Bool :=
  ('0' ≤ c && c ≤ '9') || c = '-' || c = '+' || c = '.' || c = 'e' || c = 'E'

/-- At least one digit, then what `next` asks for. -/
def someDigits (next : List Char → Bool) (cs : List Char) : Bool :=
  match cs with
  | c :: rest => ('0' ≤ c && c ≤ '9') && next (rest.dropWhile fun c => '0' ≤ c && c ≤ '9')
  | [] => false

/-- An exponent, or nothing. -/
def isExponent : List Char → Bool
  | [] => true
  | e :: cs => (e = 'e' || e = 'E') && match cs with
    | s :: rest => if s = '+' || s = '-' then someDigits List.isEmpty rest
        else someDigits List.isEmpty cs
    | [] => false

/-- Places after a point, or nothing, then an exponent, or nothing. -/
def isFraction : List Char → Bool
  | '.' :: cs => someDigits isExponent cs
  | cs => isExponent cs

/-- Whether the characters are a number. -/
def isNumber (cs : List Char) : Bool :=
  let cs := match cs with
    | '-' :: cs => cs
    | cs => cs
  match cs with
  | '0' :: rest => isFraction rest
  | cs => someDigits isFraction cs

/-- The number of four hexadecimal digits and the characters after them. -/
def hexFour? : List Char → Option (Nat × List Char)
  | a :: b :: c :: d :: cs =>
    match Text.hexValue? a, Text.hexValue? b, Text.hexValue? c, Text.hexValue? d with
    | some w, some x, some y, some z => some (((w * 16 + x) * 16 + y) * 16 + z, cs)
    | _, _, _, _ => none
  | _ => none

def isHighSurrogate (n : Nat) : Bool := 0xD800 ≤ n && n ≤ 0xDBFF

def isLowSurrogate (n : Nat) : Bool := 0xDC00 ≤ n && n ≤ 0xDFFF

/-- The character of an escape by number. A high surrogate needs a low one after it. -/
def unicodeEscape? (cs : List Char) : Option (Char × List Char) :=
  match hexFour? cs with
  | none => none
  | some (n, rest) =>
    if isHighSurrogate n then
      match rest with
      | '\\' :: 'u' :: rest => match hexFour? rest with
        | some (m, rest) =>
          if isLowSurrogate m then
            some (Char.ofNat (0x10000 + (n - 0xD800) * 0x400 + (m - 0xDC00)), rest)
          else none
        | none => none
      | _ => none
    else if isLowSurrogate n then none
    else some (Char.ofNat n, rest)

/-- The character of an escape. -/
def escape? : List Char → Option (Char × List Char)
  | 'u' :: cs => unicodeEscape? cs
  | '"' :: cs => some ('"', cs)
  | '\\' :: cs => some ('\\', cs)
  | '/' :: cs => some ('/', cs)
  | 'b' :: cs => some (Char.ofNat 8, cs)
  | 'f' :: cs => some (Char.ofNat 12, cs)
  | 'n' :: cs => some (Char.ofNat 10, cs)
  | 'r' :: cs => some (Char.ofNat 13, cs)
  | 't' :: cs => some (Char.ofNat 9, cs)
  | _ => none

/-- The characters of a string up to its closing quote, on top of `acc`, latest first. -/
def readString : Nat → List Char → List Char → Option (String × List Char)
  | 0, _, _ => none
  | fuel + 1, acc, cs => match cs with
    | '"' :: cs => some (String.ofList acc.reverse, cs)
    | '\\' :: cs => match escape? cs with
      | some (c, cs) => readString fuel (c :: acc) cs
      | none => none
    | c :: cs => if c.toNat < 0x20 then none else readString fuel (c :: acc) cs
    | [] => none

mutual

/-- A value. -/
def readValue : Nat → List Char → Option (Json × List Char)
  | 0, _ => none
  | fuel + 1, cs => match skipSpace cs with
    | 'n' :: 'u' :: 'l' :: 'l' :: cs => some (null, cs)
    | 't' :: 'r' :: 'u' :: 'e' :: cs => some (bool true, cs)
    | 'f' :: 'a' :: 'l' :: 's' :: 'e' :: cs => some (bool false, cs)
    | '"' :: cs => match readString (fuel + 1) [] cs with
      | some (s, cs) => some (string s, cs)
      | none => none
    | '[' :: cs => match skipSpace cs with
      | ']' :: cs => some (array [], cs)
      | _ => readItems fuel [] cs
    | '\x7b' :: cs => match skipSpace cs with
      | '\x7d' :: cs => some (object [], cs)
      | _ => readMembers fuel [] cs
    | cs =>
      if isNumber (cs.takeWhile isNumberChar) then
        some (number (String.ofList (cs.takeWhile isNumberChar)), cs.dropWhile isNumberChar)
      else none

/-- The items of an array up to its closing bracket. -/
def readItems : Nat → List Json → List Char → Option (Json × List Char)
  | 0, _, _ => none
  | fuel + 1, acc, cs => match readValue fuel cs with
    | some (j, cs) => match skipSpace cs with
      | ',' :: cs => readItems fuel (j :: acc) cs
      | ']' :: cs => some (array (j :: acc).reverse, cs)
      | _ => none
    | none => none

/-- The members of an object up to its closing brace. -/
def readMembers : Nat → List (String × Json) → List Char → Option (Json × List Char)
  | 0, _, _ => none
  | fuel + 1, acc, cs => match skipSpace cs with
    | '"' :: cs => match readString (fuel + 1) [] cs with
      | some (key, cs) => match skipSpace cs with
        | ':' :: cs => match readValue fuel cs with
          | some (j, cs) => match skipSpace cs with
            | ',' :: cs => readMembers fuel ((key, j) :: acc) cs
            | '\x7d' :: cs => some (object ((key, j) :: acc).reverse, cs)
            | _ => none
          | none => none
        | _ => none
      | none => none
    | _ => none

end

/-- The value that the whole text stands for. -/
def parse? (s : String) : Option Json :=
  match readValue (s.length + 1) s.toList with
  | some (j, cs) => if (skipSpace cs).isEmpty then some j else none
  | none => none

end DonationLedger.Json
