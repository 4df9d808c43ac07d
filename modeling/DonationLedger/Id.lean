import DonationLedger.Bytes
import DonationLedger.Text.Lowercase

/-!
# Row ids

An id is either issued here, by a supply that counts the rows of each kind, or taken over from
elsewhere with its text. Issued ids of one kind are numbered from one, so a new id differs from
all ids issued before, also from those of rows that were rolled back.
-/

namespace DonationLedger

/-- What an issued id is the id of. -/
inductive RowKind
  | transaction
  | blockchainTransaction
  | user
  | content
  deriving DecidableEq, Repr

/-- The id of a row. -/
inductive Id
  | issued (kind : RowKind) (number : Nat)
  | foreign (text : String)
  deriving DecidableEq, Repr

namespace Id

instance : Inhabited Id := ⟨foreign ""⟩

/-- The letter that the label of an issued id begins with. -/
def mark : RowKind → String
  | .transaction => "x"
  | .blockchainTransaction => "b"
  | .user => "u"
  | .content => "c"

/-- The label of an id that has no other name. -/
def label : Id → String
  | issued kind number => mark kind ++ toString number
  | foreign text => text

/-- The digits of a universally unique id with dashes between its five groups. -/
def dashed (cs : List Char) : List Char :=
  cs.take 8 ++ '-' :: (cs.drop 8).take 4 ++ '-' :: (cs.drop 12).take 4 ++
    '-' :: (cs.drop 16).take 4 ++ '-' :: cs.drop 20

/-- The digits between the dashes, if the dashes stand where they belong. -/
def undashed? (cs : List Char) : Option (List Char) :=
  let digits := cs.filter fun c => c ≠ '-'
  if digits.length = 32 ∧ dashed digits = cs then some digits else none

/-- What may stand before the dashed digits of a universally unique id, in letters of any case. -/
def uuidScheme : List Char := "urn:uuid:".toList

/-- The 32 digits of a universally unique id: bare, with dashes, with dashes in braces, or with
dashes behind `urn:uuid:`. -/
def uuidDigits? (cs : List Char) : Option (List Char) :=
  let digits := match cs with
    | '\x7b' :: rest => if rest.getLast? = some '\x7d' then undashed? rest.dropLast else none
    | cs =>
      if (cs.take uuidScheme.length).map Text.lowerAscii = uuidScheme then
        undashed? (cs.drop uuidScheme.length)
      else if cs.length = 32 then some cs
      else undashed? cs
  digits.filter fun ds => ds.all fun c => (Text.hexValue? c).isSome

/-- The spelling of a universally unique id that is stored: small letters, with dashes. -/
def canonicalUuid? (s : String) : Option String :=
  (uuidDigits? s.toList).map fun ds => String.ofList (dashed (ds.map Text.lowerAscii))

/-- The id that a universally unique id in any spelling stands for. -/
def ofUuid? (s : String) : Option Id := (canonicalUuid? s).map foreign

end Id

/-- How many ids of each kind were issued. -/
structure IdSupply where
  transactions : Nat
  blockchainTransactions : Nat
  users : Nat
  contents : Nat
  deriving DecidableEq, Repr

namespace IdSupply

def start : IdSupply := ⟨0, 0, 0, 0⟩

instance : Inhabited IdSupply := ⟨start⟩

/-- How many ids of a kind were issued. -/
def count (s : IdSupply) : RowKind → Nat
  | .transaction => s.transactions
  | .blockchainTransaction => s.blockchainTransactions
  | .user => s.users
  | .content => s.contents

/-- The supply after one more id of a kind. -/
def advance (s : IdSupply) : RowKind → IdSupply
  | .transaction => { s with transactions := s.transactions + 1 }
  | .blockchainTransaction => { s with blockchainTransactions := s.blockchainTransactions + 1 }
  | .user => { s with users := s.users + 1 }
  | .content => { s with contents := s.contents + 1 }

/-- The next id of a kind. -/
def next (s : IdSupply) (kind : RowKind) : Id := .issued kind (s.count kind + 1)

/-- Whether the supply has issued the id, or the id comes from elsewhere. -/
def knows (s : IdSupply) : Id → Bool
  | .issued kind number => decide (number ≤ s.count kind)
  | .foreign _ => true

theorem count_le_advance (s : IdSupply) (kind k : RowKind) :
    s.count k ≤ (s.advance kind).count k := by
  cases kind <;> cases k <;> simp [advance, count]

theorem not_knows_next (s : IdSupply) (kind : RowKind) : s.knows (s.next kind) = false := by
  simp [knows, next]

theorem knows_advance (s : IdSupply) (kind : RowKind) (id : Id) (h : s.knows id = true) :
    (s.advance kind).knows id = true := by
  cases id with
  | foreign text => rfl
  | issued k n =>
    have := s.count_le_advance kind k
    simp only [knows, decide_eq_true_eq] at h ⊢
    omega

theorem knows_advance_next (s : IdSupply) (kind : RowKind) :
    (s.advance kind).knows (s.next kind) = true := by
  cases kind <;> simp [knows, advance, next, count]

end IdSupply

end DonationLedger
