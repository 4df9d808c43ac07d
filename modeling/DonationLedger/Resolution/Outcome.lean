import DonationLedger.Payment
import DonationLedger.Process

/-!
# Outcomes and steps of a resolution

The ends that a transaction can come to, the guarded changes of state, and the reading of one
event on the way to an outcome. A change of state is checked against the state that was read; a
change to the same state of a blockchain transaction is none.
-/

namespace DonationLedger

/-- How a transaction was settled. -/
inductive Outcome
  | succeeded
  | failed
  | canceled
  deriving DecidableEq, Repr

namespace Outcome

def name : Outcome → String
  | succeeded => "succeeded"
  | failed => "failed"
  | canceled => "canceled"

/-- The outcome that a state stands for. A pending transaction has none. -/
def ofState? : TransactionState → Option Outcome
  | .pending => none
  | .succeeded => some succeeded
  | .failed => some failed
  | .canceled => some canceled

/-- The state that an outcome leaves a transaction in. -/
def state : Outcome → TransactionState
  | succeeded => .succeeded
  | failed => .failed
  | canceled => .canceled

theorem ofState?_state (o : Outcome) : ofState? o.state = some o := by cases o <;> rfl

theorem ofState?_eq_none_iff (s : TransactionState) : ofState? s = none ↔ s = .pending := by
  cases s <;> simp [ofState?]

end Outcome

/-- A block number or log index as the ledger stores it, `none` beyond its range. -/
def storedNumber? (n : Nat) : Option Int := if n ≤ Text.maxSigned64 then some n else none

/-- The audit record of an event. -/
def Event.record (e : Event) (blockchainTransaction : Id) (index : Int) : AuditRecord :=
  { blockchainTransaction := blockchainTransaction
    index := index
    curator := e.curator.spelling
    creator := e.creator.spelling
    token := e.token.map FixedBytes.spelling
    uri := e.uri
    amount := e.amount }

namespace Work

/-- Changes the state of a transaction, if the change is allowed. -/
def advance (t : Transaction) (c : StateChange Id) : Work Unit := do
  match TransactionState.check t.state c.state with
  | .error e => throw e
  | .ok () =>
    let _ ← updateTransaction t.id c
    pure ()

/-- Changes the state of a blockchain transaction, if the change is allowed or none. -/
def advanceBlockchain (b : BlockchainTransaction) (state : BlockchainState) : Work Unit := do
  if b.state = state then pure ()
  else match BlockchainState.check b.state state with
    | .error e => throw e
    | .ok () =>
      let _ ← updateBlockchainTransaction b.id state
      pure ()

end Work

namespace Process

/-- What an event of a deployment pays for, or why it is refused. -/
def screen (d : Deployment) (e : Event) : Process (Except InvalidReason Payment) := do
  match Payment.reference e with
  | .error reason => pure (.error reason)
  | .ok reference =>
    let content ← findContent reference
    pure (Payment.priced d.settings e content)

end Process

end DonationLedger
