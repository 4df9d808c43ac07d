import DonationLedger.Resolution.Receipt

/-!
# Applying a log

A log of the contract that was seen on the chain is applied to the ledger. Its blockchain
transaction and its event are recorded in any case. If some transaction expects that blockchain
transaction, its receipt decides. Otherwise a payment that passes its checks goes to the oldest
pending transaction that it matches, and if there is none a settled donation is created.
-/

namespace DonationLedger

/-- What applying a log did. -/
inductive Applied
  | removed
  | malformed
  | invalid (reason : InvalidReason)
  | linked (transaction : Id)
  | rejected (transaction : Id)
  | created (transaction : Id)
  | alreadySettled (transaction : Id)
  deriving DecidableEq, Repr

namespace Applied

def name : Applied → String
  | removed => "removed"
  | malformed => "malformed"
  | invalid _ => "invalid"
  | linked _ => "linked"
  | rejected _ => "rejected"
  | created _ => "created"
  | alreadySettled _ => "already_settled"

def reason? : Applied → Option InvalidReason
  | invalid reason => some reason
  | _ => none

def transaction? : Applied → Option Id
  | linked t => some t
  | rejected t => some t
  | created t => some t
  | alreadySettled t => some t
  | _ => none

/-- What the outcome of an expecting transaction means for the log. -/
def ofOutcome (t : Id) : Outcome → Applied
  | .succeeded => linked t
  | .failed => rejected t
  | .canceled => rejected t

end Applied

/-- How far the ledger transaction of a log has got. -/
inductive LogStep
  | applied (result : Applied)
  | needsReceipt (blockchainTransaction transaction : Id)
  deriving DecidableEq, Repr

namespace Work

/-- The blockchain transaction of a hash, created if it is not stored. A writer that was faster
is found by a second look. -/
def obtainBlockchainTransaction (chain : Chain) (hash : String) (block : Int) :
    Work BlockchainTransaction := do
  match ← findByHash chain hash with
  | some b => pure b
  | none => match ← createBlockchainTransaction ⟨chain, hash, none, .pending, some block⟩ with
    | some b => pure b
    | none => match ← findByHash chain hash with
      | some b => pure b
      | none => throw (.ledger (.vanished hash))

/-- The transaction that a blockchain transaction settles or is expected to settle. -/
def findLinked (b : BlockchainTransaction) : Work (Option Transaction) := do
  match b.transaction with
  | some t => match ← findTransaction t with
    | some transaction => pure (some transaction)
    | none => throw (.ledger (.linksMissing b.id t))
  | none => findExpecting b.id

/-- Settles a pending transaction that a payment matched. A sender on file is kept. -/
def settleMatched (t : Transaction) (sender : Option Id) : Work Unit :=
  advance t
    { state := .succeeded
      remark := none
      sender := if t.sender.isNone && sender.isSome then some sender else none }

/-- The donation that a payment makes on its own. -/
def donation (p : Payment) (b recipient : Id) (sender : Option Id) : TransactionDraft Id :=
  { amount := p.amount
    currency := p.currency
    purpose := donationPurpose
    provider := .blockchain
    blockchainTransaction := some b
    sender := sender
    recipient := recipient
    target := some p.content
    targetType := some articleType
    state := .succeeded }

/-- Credits a payment that no transaction was linked to. -/
def credit (b : Id) (e : Event) (p : Payment) : Work Applied := do
  match ← findUser e.creator.spelling with
  | none => pure (.invalid .unknownCreator)
  | some recipient =>
    let sender ← findUser e.curator.spelling
    match ← findPendingMatch (p.criteria recipient) with
    | some t =>
      link b t.id
      settleMatched t sender
      pure (.linked t.id)
    | none =>
      let t ← createTransaction (donation p b recipient sender)
      link b t.id
      pure (.created t.id)

/-- The ledger transaction of a log. -/
def applyEvent (chain : Chain) (hash : String) (block index : Int) (e : Event)
    (verdict : Except InvalidReason Payment) : Work LogStep := do
  let b ← obtainBlockchainTransaction chain hash block
  if b.state = .reverted then pure () else advanceBlockchain b .succeeded
  recordFacts b.id none none (some block)
  insertRecord (e.record b.id index)
  match ← findLinked b with
  | some t =>
    if t.isPending then pure (.needsReceipt b.id t.id)
    else pure (.applied (.alreadySettled t.id))
  | none => match verdict with
    | .error reason => pure (.applied (.invalid reason))
    | .ok payment =>
      let result ← credit b.id e payment
      pure (.applied result)

end Work

/-- Applies a log of a chain. -/
def applyLog (d : Deployment) (log : Log) : Process Applied :=
  if log.removed then pure .removed
  else if log.address ≠ d.contract then pure .malformed
  else match storedNumber? log.block, storedNumber? log.index, Event.ofLog log with
    | some block, some index, .ok event => do
      let verdict ← Process.screen d event
      match ← Process.commit
          (Work.applyEvent d.chain log.hash.spelling block index event verdict) with
      | .applied result => pure result
      | .needsReceipt b t =>
        let outcome ← resolveReceipt d b t
        pure (.ofOutcome t outcome)
    | _, _, _ => pure .malformed

end DonationLedger
