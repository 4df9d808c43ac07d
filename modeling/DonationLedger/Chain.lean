import DonationLedger.Text.Basic
import DonationLedger.Text.Lowercase

/-!
# Chains

The chains that the curation contract is deployed on, their numbers and their names. A chain is
named by its number or by its name in any case.
-/

namespace DonationLedger

/-- A chain that donations are paid on. -/
inductive Chain
  | optimism
  | optimismSepolia
  | polygon
  deriving DecidableEq, Repr, Inhabited

namespace Chain

def all : List Chain := [optimism, optimismSepolia, polygon]

/-- The number of the chain in its network's registry. -/
def id : Chain → Int
  | optimism => 10
  | optimismSepolia => 11155420
  | polygon => 137

/-- The name of the chain. -/
def name : Chain → String
  | optimism => "optimism"
  | optimismSepolia => "optimism_sepolia"
  | polygon => "polygon"

/-- How many blocks behind the head a block counts as final. -/
def confirmationDepth : Chain → Nat
  | optimism => 50
  | optimismSepolia => 25
  | polygon => 128

/-- The symbol of the chain's own coin. -/
def coin : Chain → String
  | optimism => "ETH"
  | optimismSepolia => "ETH"
  | polygon => "POL"

/-- The chain of a number. -/
def ofId? (n : Int) : Option Chain := all.find? fun c => c.id == n

/-- The chain of a name, exactly as it is written. -/
def ofName? (s : String) : Option Chain := all.find? fun c => c.name == s

/-- Why a text names no chain. -/
inductive Unknown
  | id (n : Int)
  | name (lowered : String)
  deriving DecidableEq, Repr

/-- The chain that a text names. A text that is a whole number is a number, never a name. -/
def parse (s : String) : Except Unknown Chain :=
  match Text.signed64? s with
  | some n => match ofId? n with
    | some c => .ok c
    | none => .error (.id n)
  | none =>
    let lowered := Text.lowercase s
    if lowered = "optimism-sepolia" then .ok optimismSepolia
    else match ofName? lowered with
      | some c => .ok c
      | none => .error (.name lowered)

/-- Chains in the order of their numbers. -/
def before (a b : Chain) : Bool := a.id ≤ b.id

end Chain

end DonationLedger
