import DonationLedger.Resolution.Outcome

/-!
# Settling from a receipt

A transaction that expects a blockchain transaction is settled by the receipt of that blockchain
transaction. First what is stored is looked at: a transaction that has ended keeps its outcome,
and a blockchain transaction known as reverted fails it. Otherwise the node is asked for the
receipt, its events are screened, and in a second ledger transaction all that was read is read
again before anything is decided. The expectation on file decides: the first event that pays it
settles the transaction, and if none does it is canceled as invalid.

A job settles one known transaction. It has to be pending, be paid on a chain, name its blockchain
transaction, and that chain has to be registered; the first of these that fails is the failure.
-/

namespace DonationLedger

/-- An event of a receipt, and what it pays for. -/
structure Observed where
  index : Int
  event : Event
  verdict : Except InvalidReason Payment

namespace Observed

/-- Why the event does not pay a transaction, if it does not. -/
def rejection? (o : Observed) (expected : Transaction) (address : Option String) :
    Option InvalidReason :=
  match o.verdict with
  | .error reason => some reason
  | .ok payment => Payment.mismatch? expected address o.event payment

/-- The first event that pays the transaction. -/
def paying? (os : List Observed) (expected : Transaction) (address : Option String) :
    Option Observed :=
  os.find? fun o => (o.rejection? expected address).isNone

end Observed

/-- The event of a log of a receipt with its index, if the log counts. -/
def observable? (d : Deployment) (log : Log) : Option (Int × Event) :=
  if log.removed || log.address != d.contract then none
  else match storedNumber? log.index, Event.ofLog log with
    | some index, .ok event => some (index, event)
    | _, _ => none

namespace Process

/-- The events of the logs that count, each with what it pays for. -/
def observe (d : Deployment) : List Log → Process (List Observed)
  | [] => pure []
  | log :: logs => match observable? d log with
    | none => observe d logs
    | some (index, event) => do
      let verdict ← screen d event
      let rest ← observe d logs
      pure (⟨index, event, verdict⟩ :: rest)

end Process

namespace Work

/-- A blockchain transaction and the transaction that it is to settle. They are linked if the
blockchain transaction is not linked yet; one that settles another transaction is refused. -/
def loadPair (b t : Id) : Work (BlockchainTransaction × Transaction) := do
  match ← findBlockchainTransaction b with
  | none => throw (.settlement (.blockchainTransactionNotFound t))
  | some onChain => match ← findTransaction t with
    | none => throw (.settlement (.transactionNotFound t))
    | some transaction => match onChain.transaction with
      | some linkedTo =>
        if linkedTo = t then pure (onChain, transaction)
        else throw (.settlement (.linkedElsewhere b linkedTo))
      | none =>
        link b t
        pure ({ onChain with transaction := some t }, transaction)

/-- The outcome that follows from what is stored, `none` where the receipt is needed. -/
def settleStored (b : BlockchainTransaction) (t : Transaction) : Work (Option Outcome) := do
  match Outcome.ofState? t.state with
  | some outcome => pure (some outcome)
  | none =>
    if b.state = .reverted then
      advance t (.into .failed)
      pure (some .failed)
    else pure none

/-- The first ledger transaction: the pair, and its outcome if it has one. -/
def openPair (b t : Id) : Work (BlockchainTransaction × Option Outcome) := do
  let (onChain, transaction) ← loadPair b t
  let outcome ← settleStored onChain transaction
  pure (onChain, outcome)

/-- Settles a pending transaction by the events of its receipt. -/
def settleAgainst (t : Transaction) (observed : List Observed) : Work Outcome := do
  let address ← findAddress t.recipient
  match Observed.paying? observed t address with
  | some o =>
    let sender ← findUser o.event.curator.spelling
    advance t { state := .succeeded, remark := none, sender := some sender }
    pure .succeeded
  | none =>
    advance t { state := .canceled, remark := some invalidRemark, sender := none }
    pure .canceled

/-- Stores the audit records of the events. -/
def insertRecords (b : Id) : List Observed → Work Unit
  | [] => pure ()
  | o :: os => do
    insertRecord (o.event.record b o.index)
    insertRecords b os

/-- The second ledger transaction: what the receipt decides. -/
def closePair (b t : Id) (receipt : Receipt) (block : Int) (observed : List Observed) :
    Work Outcome := do
  let (onChain, transaction) ← loadPair b t
  match ← settleStored onChain transaction with
  | some outcome => pure outcome
  | none =>
    recordFacts onChain.id (some receipt.sender.spelling)
      (receipt.recipient.map FixedBytes.spelling) (some block)
    if receipt.reverted then
      advanceBlockchain onChain .reverted
      advance transaction (.into .failed)
      pure .failed
    else
      advanceBlockchain onChain .succeeded
      insertRecords onChain.id observed
      settleAgainst transaction observed

end Work

/-- Settles a transaction from the receipt of the blockchain transaction that it expects. -/
def resolveReceipt (d : Deployment) (b t : Id) : Process Outcome := do
  let (onChain, stored) ← Process.commit (Work.openPair b t)
  match stored with
  | some outcome => pure outcome
  | none => match FixedBytes.parse? 32 onChain.hash with
    | none => .fail (.settlement (.malformedPayload (.storedHash onChain.hash)))
    | some hash =>
      let answer ← Process.ask d.chain (.receipt hash)
      match (answer : Option Receipt) with
      | none => .fail (.settlement (.notMined hash.spelling))
      | some receipt =>
        let observed ← if receipt.reverted then pure [] else Process.observe d receipt.logs
        match storedNumber? receipt.block with
        | none => .fail (.settlement (.malformedPayload (.blockNumber receipt.block)))
        | some block => Process.commit (Work.closePair b t receipt block observed)

/-! ## Jobs -/

/-- How a job ended. -/
structure Settled where
  transaction : Id
  outcome : Outcome
  deriving DecidableEq, Repr

namespace Work

/-- The blockchain transaction that a pending transaction expects. -/
def findExpected (id : Id) : Work BlockchainTransaction := do
  match ← findTransaction id with
  | none => throw (.settlement (.transactionNotFound id))
  | some t =>
    if !t.isPending then throw (.settlement (.transactionNotFound id))
    else if t.provider ≠ .blockchain then
      throw (.settlement (.wrongQueue id t.provider.name))
    else match t.blockchainTransaction with
      | none => throw (.settlement (.blockchainTransactionNotFound id))
      | some b => match ← findBlockchainTransaction b with
        | some b => pure b
        | none => throw (.settlement (.blockchainTransactionNotFound id))

end Work

/-- The deployment of a chain. -/
def Registry.require (r : Registry) (chain : Chain) : Except Failure Deployment :=
  match r.find? chain with
  | some d => .ok d
  | none => .error (.settlement (.unsupportedChain chain.id))

/-- Settles a pending transaction from its receipt. -/
def settle (r : Registry) (id : Id) : Process Settled := do
  let b ← Process.commit (Work.findExpected id)
  let d ← Process.ofExcept (r.require b.chain)
  let outcome ← resolveReceipt d b.id id
  pure ⟨id, outcome⟩

end DonationLedger
