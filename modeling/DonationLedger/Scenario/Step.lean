import DonationLedger.Id
import DonationLedger.Ledger.Call
import DonationLedger.Process
import DonationLedger.Text.Basic

/-!
# Steps of a scenario

A scenario is a list of steps: what the nodes will answer, what goes wrong, and which operations
run. A step may be given limits on the ledger's writes and on its look-ups, and a hook runs further
steps in the middle of a later call of a node.

Rows are called by the names that a scenario gives them. A row without a name goes by the label of
its id, and a name that no row has stands for an id that no row has. A name given twice means the
later row.
-/

namespace DonationLedger.Scenario

/-! ## Names of rows -/

/-- Names and the ids that they were given to, the latest first. -/
abbrev Names := List (String × Id)

namespace Names

/-- The names with one more. -/
def give (ns : Names) (name : String) (id : Id) : Names := (name, id) :: ns

/-- The names after a row was created, which may have been given a name. -/
def giveSome (ns : Names) (name : Option String) (id : Id) : Names :=
  match name with
  | some name => ns.give name id
  | none => ns

/-- The name that an id is shown under. -/
def shown (ns : Names) (id : Id) : String :=
  match ns.find? fun n => n.2 == id with
  | some n => n.1
  | none => id.label

/-- Whether an id was given a name. -/
def isNamed (ns : Names) (id : Id) : Bool := ns.any fun n => n.2 == id

/-- The id of a label, if such an id was issued. -/
def ofLabel? (supply : IdSupply) (label : String) : Option Id :=
  let (kind, digits) := match label.toList with
    | 'x' :: cs => (some RowKind.transaction, cs)
    | 'b' :: cs => (some RowKind.blockchainTransaction, cs)
    | _ => (none, [])
  match kind, Text.digits? digits with
  | some kind, some n =>
    if 1 ≤ n ∧ n ≤ supply.count kind ∧ (Id.issued kind n).label = label then
      some (.issued kind n)
    else none
  | _, _ => none

/-- The id that a name stands for. -/
def meaning (ns : Names) (supply : IdSupply) (name : String) : Id :=
  match ns.find? fun n => n.1 == name with
  | some n => n.2
  | none => match ofLabel? supply name with
    | some id => if ns.isNamed id then .foreign name else id
    | none => .foreign name

end Names

/-! ## Steps -/

/-- The kinds of calls of a node. -/
inductive CallKind
  | receipt
  | logs
  | height
  deriving DecidableEq, Repr

namespace CallKind

def all : List CallKind := [receipt, logs, height]

def name : CallKind → String
  | receipt => "receipt"
  | logs => "logs"
  | height => "height"

def ofName? (s : String) : Option CallKind := all.find? fun k => k.name == s

def ofQuery : Query → CallKind
  | .height => height
  | .logs _ _ => logs
  | .receipt _ => receipt

end CallKind

/-- A call of a ledger transaction, and the name that the row it creates is given. -/
structure NamedCall where
  call : Call String
  name : Option String
  deriving Repr

/-- How many writes of a step work, and how many look-ups by hash miss. -/
structure Limits where
  writes : Option Nat
  hiddenLookups : Option Nat
  deriving DecidableEq, Repr

/-- What a step does. -/
inductive Action
  | user (name : String) (address : Address)
  | content (name reference : String)
  | seed (name : Option String) (chain : Chain) (hash : Hash) (draft : TransactionDraft String)
  | receipt (chain : Chain) (receipt : Receipt) (found : Hash) (after : Nat)
  | logs (chain : Chain) (logs : List Log)
  | height (chain : Chain) (height : Nat)
  | failing (chain : Chain) (kinds : List CallKind)
  | failWrites (fail : Bool)
  | hook (chain : Chain) (kind : CallKind) (steps : List (Limits × Action))
  | resolve (chain : Chain) (blockchainTransaction transaction : String)
  | apply (chain : Chain) (log : Log)
  | settle (transaction : String)
  | follow (chain : Chain)
  | fetchWindow (chain : Chain) (checkpoint : Option Nat)
  | checkpoint (chain : Chain)
  | chains
  | ledger (calls : List NamedCall) (commit : Bool)
  | enqueue (transaction : String)
  | inFlight (transaction : String)
  | schedule (interval : Option Nat)
  | advance (millis : Nat)
  | http (method path : String) (transaction : Option String)

/-- A step: its limits, and what it does. -/
abbrev Step := Limits × Action

mutual

/-- How many hooks the steps set and how many steps they hold, the steps of inner hooks included. -/
def hookCount : Action → Nat
  | .hook _ _ steps => hookCounts steps + steps.length + 1
  | _ => 0

def hookCounts : List (Limits × Action) → Nat
  | [] => 0
  | step :: steps => hookCountStep step + hookCounts steps

def hookCountStep : Limits × Action → Nat
  | (_, action) => hookCount action

end

end DonationLedger.Scenario
