import DonationLedger.Bytes
import DonationLedger.Text.Basic

/-!
# Numeric hosts

Hosts that are numbers. One form has up to four parts between points, each decimal, octal or
hexadecimal; the other has eight words of 16 bits between colons, of which one run of zeros may
be left out.
-/

namespace DonationLedger.Host

open Text

def isDigit (c : Char) : Bool := '0' ≤ c && c ≤ '9'

/-- The number of some digits in a base, `none` if one of them is no digit of it. -/
def digitsIn? (base : Nat) (cs : List Char) : Option Nat :=
  cs.foldl (fun acc c => match acc, hexValue? c with
    | some n, some d => if d < base then some (n * base + d) else none
    | _, _ => none) (some 0)

/-! ## Four parts -/

/-- A part of a numeric address: decimal, octal behind `0`, or hexadecimal behind `0x`. -/
def part? (cs : List Char) : Option Nat :=
  match cs with
  | [] => none
  | '0' :: 'x' :: rest => digitsIn? 16 rest
  | '0' :: 'X' :: rest => digitsIn? 16 rest
  | '0' :: rest => digitsIn? 8 rest
  | cs => digitsIn? 10 cs

/-- The parts of a host, without the empty one behind a point at its end. -/
def parts (pieces : List (List Char)) : List (List Char) :=
  if 1 < pieces.length && pieces.getLast? == some [] then pieces.dropLast else pieces

/-- Whether the last part of a host is a number, so that the whole has to be an address. -/
def endsInNumber (pieces : List (List Char)) : Bool :=
  match (parts pieces).getLast? with
  | some last => (!last.isEmpty && last.all isDigit) || match last with
    | '0' :: 'x' :: rest => (digitsIn? 16 rest).isSome
    | '0' :: 'X' :: rest => (digitsIn? 16 rest).isSome
    | _ => false
  | none => false

/-- Whether a host that ends in a number is an address of at most four parts, of which the last
takes all remaining bytes. -/
def isAddress (pieces : List (List Char)) : Bool :=
  let numbers := (parts pieces).map part?
  numbers.length ≤ 4 && numbers.all Option.isSome &&
    numbers.dropLast.all (fun p => p.all (· < 256)) &&
    match numbers.getLast? with
    | some (some n) => n < power 256 (5 - numbers.length)
    | _ => false

/-! ## Eight words -/

/-- Four decimal bytes without leading zeros, as a bracketed address may end. -/
def isDottedQuad (cs : List Char) : Bool :=
  let bytes := splitList '.' cs
  bytes.length == 4 && bytes.all fun p =>
    !p.isEmpty && p.all isDigit && (p.length == 1 || p.head? != some '0') &&
      match digitsIn? 10 p with
      | some n => n < 256
      | none => false

/-- One to four hexadecimal digits. -/
def isWord (cs : List Char) : Bool :=
  !cs.isEmpty && cs.length ≤ 4 && (digitsIn? 16 cs).isSome

/-- How many words of 16 bits a list of groups spells, `none` if a group is faulty. Only the last
group may be four decimal bytes, which are two words. -/
def groupWords? : List (List Char) → Option Nat
  | [] => some 0
  | [g] => if isWord g then some 1 else if isDottedQuad g then some 2 else none
  | g :: gs => if isWord g then (groupWords? gs).map (· + 1) else none

/-- The characters before and after the first double colon. -/
def splitGap : List Char → Option (List Char × List Char)
  | ':' :: ':' :: cs => some ([], cs)
  | c :: cs => (splitGap cs).map fun r => (c :: r.1, r.2)
  | [] => none

def groups (cs : List Char) : List (List Char) := if cs.isEmpty then [] else splitList ':' cs

/-- Whether the characters between brackets are an address of eight words, of which one run of
zeros may be left out. -/
def isBracketed (cs : List Char) : Bool :=
  match splitGap cs with
  | none => groupWords? (groups cs) == some 8
  | some (front, back) =>
    match groupWords? (groups front), groupWords? (groups back) with
    | some m, some n => m + n ≤ 7 && (!front.contains '.')
    | _, _ => false

end DonationLedger.Host
