import DonationLedger.Bytes

/-!
# UTF-8

The bytes of a text, and the two ways to read bytes as text: strictly, where any fault refuses
the whole, and with replacement, where every faulty stretch becomes one U+FFFD. A faulty stretch
is the longest run of bytes that begins a well-formed sequence, or else a single byte.

In a percent-encoded text a percent sign and two hexadecimal digits stand for one byte. A percent
sign that no two such digits follow stands for itself. The bytes have to be well-formed.
-/

namespace DonationLedger.Text

/-- The bytes of one character. -/
def charBytes (c : Char) : List UInt8 :=
  let n := c.toNat
  if n < 0x80 then [n.toUInt8]
  else if n < 0x800 then [(0xC0 + n / 64).toUInt8, (0x80 + n % 64).toUInt8]
  else if n < 0x10000 then
    [(0xE0 + n / 4096).toUInt8, (0x80 + n / 64 % 64).toUInt8, (0x80 + n % 64).toUInt8]
  else
    [(0xF0 + n / 262144).toUInt8, (0x80 + n / 4096 % 64).toUInt8, (0x80 + n / 64 % 64).toUInt8,
      (0x80 + n % 64).toUInt8]

/-- The bytes of a text. -/
def utf8Bytes (cs : List Char) : List UInt8 := cs.flatMap charBytes

/-- What stands at the front of some bytes: a character and how many bytes it takes, or a faulty
stretch and its length. -/
inductive Utf8Step
  | character (c : Char) (size : Nat)
  | fault (size : Nat)
  deriving DecidableEq, Repr

def isContinuation (b : UInt8) : Bool := 0x80 ≤ b && b ≤ 0xBF

/-- Whether `b` may follow the lead byte of a sequence of three bytes. -/
def followsThree (lead b : UInt8) : Bool :=
  if lead == 0xE0 then 0xA0 ≤ b && b ≤ 0xBF
  else if lead == 0xED then 0x80 ≤ b && b ≤ 0x9F
  else isContinuation b

/-- Whether `b` may follow the lead byte of a sequence of four bytes. -/
def followsFour (lead b : UInt8) : Bool :=
  if lead == 0xF0 then 0x90 ≤ b && b ≤ 0xBF
  else if lead == 0xF4 then 0x80 ≤ b && b ≤ 0x8F
  else isContinuation b

/-- The character or the faulty stretch that begins with `lead`. -/
def utf8Step (lead : UInt8) (rest : List UInt8) : Utf8Step :=
  if lead < 0x80 then .character (Char.ofNat lead.toNat) 1
  else if 0xC2 ≤ lead && lead ≤ 0xDF then
    match rest with
    | b :: _ =>
      if isContinuation b then
        .character (Char.ofNat ((lead.toNat - 0xC0) * 64 + (b.toNat - 0x80))) 2
      else .fault 1
    | [] => .fault 1
  else if 0xE0 ≤ lead && lead ≤ 0xEF then
    match rest with
    | b :: rest =>
      if followsThree lead b then
        match rest with
        | c :: _ =>
          if isContinuation c then
            .character (Char.ofNat ((lead.toNat - 0xE0) * 4096 + (b.toNat - 0x80) * 64 +
              (c.toNat - 0x80))) 3
          else .fault 2
        | [] => .fault 2
      else .fault 1
    | [] => .fault 1
  else if 0xF0 ≤ lead && lead ≤ 0xF4 then
    match rest with
    | b :: rest =>
      if followsFour lead b then
        match rest with
        | c :: rest =>
          if isContinuation c then
            match rest with
            | d :: _ =>
              if isContinuation d then
                .character (Char.ofNat ((lead.toNat - 0xF0) * 262144 + (b.toNat - 0x80) * 4096 +
                  (c.toNat - 0x80) * 64 + (d.toNat - 0x80))) 4
              else .fault 3
            | [] => .fault 3
          else .fault 2
        | [] => .fault 2
      else .fault 1
    | [] => .fault 1
  else .fault 1

/-- The characters of the bytes, `none` when any of them is faulty. The first argument counts the
bytes of the current character that are still to be passed over. -/
def charsFrom? : Nat → List UInt8 → Option (List Char)
  | _, [] => some []
  | skip + 1, _ :: bs => charsFrom? skip bs
  | 0, b :: bs => match utf8Step b bs with
    | .character c size => (charsFrom? (size - 1) bs).map (c :: ·)
    | .fault _ => none

/-- The characters of the bytes with U+FFFD for every faulty stretch. -/
def lossyFrom : Nat → List UInt8 → List Char
  | _, [] => []
  | skip + 1, _ :: bs => lossyFrom skip bs
  | 0, b :: bs => match utf8Step b bs with
    | .character c size => c :: lossyFrom (size - 1) bs
    | .fault size => Char.ofNat 0xFFFD :: lossyFrom (size - 1) bs

/-- The text of the bytes, `none` when they are no well-formed UTF-8. -/
def utf8? (bs : List UInt8) : Option String := (charsFrom? 0 bs).map String.ofList

/-- The text of the bytes with every faulty stretch replaced. -/
def utf8Lossy (bs : List UInt8) : String := String.ofList (lossyFrom 0 bs)

/-! ## Percent-encoded text -/

/-- The bytes that the characters stand for. -/
def percentBytes : List Char → List UInt8
  | [] => []
  | '%' :: a :: b :: cs => match hexValue? a, hexValue? b with
    | some x, some y => (x * 16 + y).toUInt8 :: percentBytes cs
    | _, _ => 0x25 :: percentBytes (a :: b :: cs)
  | c :: cs => charBytes c ++ percentBytes cs

/-- The text that a percent-encoded text stands for, `none` when its bytes are no UTF-8. -/
def percentDecode? (s : String) : Option String := utf8? (percentBytes s.toList)

end DonationLedger.Text
