import DonationLedger.Json

/-!
# Writing JSON

The compact text of a value: no blanks, characters outside ASCII as they are, and inside a
string only quotes, backslashes and control characters escaped.
-/

namespace DonationLedger.Json

/-- Four hexadecimal digits. -/
def fourDigits (n : Nat) : List Char :=
  let cs := Nat.toDigits 16 n
  List.replicate (4 - cs.length) '0' ++ cs

/-- A character as it stands inside a string. -/
def escapeChar (c : Char) : List Char :=
  if c = '"' then ['\\', '"']
  else if c = '\\' then ['\\', '\\']
  else if c.toNat = 8 then ['\\', 'b']
  else if c.toNat = 9 then ['\\', 't']
  else if c.toNat = 10 then ['\\', 'n']
  else if c.toNat = 12 then ['\\', 'f']
  else if c.toNat = 13 then ['\\', 'r']
  else if c.toNat < 0x20 then '\\' :: 'u' :: fourDigits c.toNat
  else [c]

/-- A string with its quotes. -/
def quoted (s : String) : String := String.ofList ('"' :: (s.toList.flatMap escapeChar ++ ['"']))

mutual

/-- The compact text of a value. -/
def text : Json → String
  | null => "null"
  | bool true => "true"
  | bool false => "false"
  | number lexeme => lexeme
  | string s => quoted s
  | array items => "[" ++ ",".intercalate (texts items) ++ "]"
  | object members => "\x7b" ++ ",".intercalate (memberTexts members) ++ "\x7d"

def texts : List Json → List String
  | [] => []
  | j :: js => text j :: texts js

def memberTexts : List (String × Json) → List String
  | [] => []
  | (key, j) :: ms => (quoted key ++ ":" ++ text j) :: memberTexts ms

end

end DonationLedger.Json
