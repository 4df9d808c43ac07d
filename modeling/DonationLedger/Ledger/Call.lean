import DonationLedger.Ledger.Work

/-!
# Single calls of a ledger transaction

The operations of a ledger transaction as data, so that a ledger transaction can be written down
as a list of calls. A call that fails changes nothing and does not keep the later ones from being
made.
-/

namespace DonationLedger

/-- One operation, with ids of type `ι`. -/
inductive Call (ι : Type)
  | findTransaction (id : ι)
  | findExpecting (blockchainTransaction : ι)
  | findPendingMatch (criteria : PaymentCriteria ι)
  | createTransaction (draft : TransactionDraft ι)
  | updateTransaction (id : ι) (change : StateChange ι)
  | findByHash (chain : Chain) (hash : String)
  | findBlockchainTransaction (id : ι)
  | createBlockchainTransaction (draft : BlockchainDraft ι)
  | updateBlockchainTransaction (id : ι) (state : BlockchainState)
  | recordFacts (id : ι) (sender recipient : Option String) (block : Option Int)
  | link (blockchainTransaction transaction : ι)
  | insertRecord (id : ι) (index : Int) (curator creator : String) (token : Option String)
      (uri : String) (amount : Decimal)
  | findCheckpoint (chain : Chain)
  | raiseCheckpoint (chain : Chain) (block : Int)
  | findUser (address : String)
  | findAddress (user : ι)
  deriving Repr

/-- What a call returns. -/
inductive Row
  | transaction (t : Transaction)
  | blockchainTransaction (b : BlockchainTransaction)
  | checkpoint (c : Checkpoint)
  | id (id : Id)
  | address (text : String)
  | none
  deriving DecidableEq, Repr

namespace Row

/-- A row that may be missing. -/
def ofOption {α : Type} (f : α → Row) : Option α → Row
  | some a => f a
  | .none => none

end Row

namespace Call

variable {ι κ : Type}

def map (f : ι → κ) : Call ι → Call κ
  | findTransaction id => findTransaction (f id)
  | findExpecting id => findExpecting (f id)
  | findPendingMatch c => findPendingMatch (c.map f)
  | createTransaction d => createTransaction (d.map f)
  | updateTransaction id c => updateTransaction (f id) (c.map f)
  | findByHash chain hash => findByHash chain hash
  | findBlockchainTransaction id => findBlockchainTransaction (f id)
  | createBlockchainTransaction d => createBlockchainTransaction (d.map f)
  | updateBlockchainTransaction id state => updateBlockchainTransaction (f id) state
  | recordFacts id sender recipient block => recordFacts (f id) sender recipient block
  | link b t => link (f b) (f t)
  | insertRecord id index curator creator token uri amount =>
    insertRecord (f id) index curator creator token uri amount
  | findCheckpoint chain => findCheckpoint chain
  | raiseCheckpoint chain block => raiseCheckpoint chain block
  | findUser address => findUser address
  | findAddress user => findAddress (f user)

/-- Makes a call. -/
def work : Call Id → Work Row
  | findTransaction id => do
    let t ← Work.findTransaction id
    pure (Row.ofOption Row.transaction t)
  | findExpecting id => do
    let t ← Work.findExpecting id
    pure (Row.ofOption Row.transaction t)
  | findPendingMatch c => do
    let t ← Work.findPendingMatch c
    pure (Row.ofOption Row.transaction t)
  | createTransaction d => do
    let t ← Work.createTransaction d
    pure (.transaction t)
  | updateTransaction id c => do
    let t ← Work.updateTransaction id c
    pure (.transaction t)
  | findByHash chain hash => do
    let b ← Work.findByHash chain hash
    pure (Row.ofOption Row.blockchainTransaction b)
  | findBlockchainTransaction id => do
    let b ← Work.findBlockchainTransaction id
    pure (Row.ofOption Row.blockchainTransaction b)
  | createBlockchainTransaction d => do
    let b ← Work.createBlockchainTransaction d
    pure (Row.ofOption Row.blockchainTransaction b)
  | updateBlockchainTransaction id state => do
    let b ← Work.updateBlockchainTransaction id state
    pure (.blockchainTransaction b)
  | recordFacts id sender recipient block => do
    Work.recordFacts id sender recipient block
    pure .none
  | link b t => do
    Work.link b t
    pure .none
  | insertRecord id index curator creator token uri amount => do
    Work.insertRecord ⟨id, index, curator, creator, token, uri, amount⟩
    pure .none
  | findCheckpoint chain => do
    let c ← Work.findCheckpoint chain
    pure (Row.ofOption Row.checkpoint c)
  | raiseCheckpoint chain block => do
    Work.raiseCheckpoint chain block
    pure .none
  | findUser address => do
    let id ← Work.findUser address
    pure (Row.ofOption Row.id id)
  | findAddress user => do
    let a ← Work.findAddress user
    pure (Row.ofOption Row.address a)

/-- Makes a call in a running ledger transaction. -/
def run (c : Call Id) (s : Session) : Except Failure Row × Session := c.work.run.run s

end Call

end DonationLedger
