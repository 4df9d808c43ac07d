import DonationLedger.Bytes
import DonationLedger.Ledger.Basic
import DonationLedger.Text.Lowercase

/-!
# Work in one ledger transaction

Reading and writing between the begin and the end of one ledger transaction. The work sees the
rows as it has changed them so far; they count only once it is committed, and work that fails
leaves the ledger as it was. Ids that were issued stay issued even then.

Every write can fail: the ledger may reject all writes, or work for a limited number of them. A
look-up by hash may miss a row that another writer has stored in the meantime; storing the same
hash again then still tells the truth.
-/

namespace DonationLedger

/-- What goes wrong with the ledger. -/
structure Faults where
  rejecting : Bool
  writesLeft : Option Nat
  hiddenLookups : Nat
  deriving DecidableEq, Repr

namespace Faults

def none : Faults := ⟨false, .none, 0⟩

instance : Inhabited Faults := ⟨none⟩

/-- The faults after one more write was tried. -/
def spend (f : Faults) : Faults := { f with writesLeft := f.writesLeft.map (· - 1) }

/-- Whether the next write goes through. -/
def allows (f : Faults) : Bool := f.writesLeft != some 0 && !f.rejecting

end Faults

/-- The rows, the supply of ids and what goes wrong. -/
structure Session where
  ledger : Ledger
  supply : IdSupply
  faults : Faults
  deriving DecidableEq, Repr

namespace Session

def start : Session := ⟨.empty, .start, .none⟩

instance : Inhabited Session := ⟨start⟩

end Session

/-- Work in a ledger transaction. -/
abbrev Work (α : Type) := ExceptT Failure (StateM Session) α

namespace Work

/-- The rows as the work has changed them so far. -/
def rows : Work Ledger := do
  let s ← get
  pure s.ledger

/-- Passes if a write goes through now. -/
def gate : Work Unit := do
  let s ← get
  set { s with faults := s.faults.spend }
  if s.faults.allows then pure () else throw (.ledger .writeRejected)

/-- Changes the rows. -/
def change (f : Ledger → Ledger) : Work Unit := do
  gate
  modify fun s => { s with ledger := f s.ledger }

/-- A new id. -/
def issue (kind : RowKind) : Work Id := do
  let s ← get
  set { s with supply := s.supply.advance kind }
  pure (s.supply.next kind)

/-! ## Transactions -/

def findTransaction (id : Id) : Work (Option Transaction) := do
  let l ← rows
  pure (l.transaction? id)

/-- The oldest transaction that expects to be paid by a blockchain transaction. -/
def findExpecting (blockchainTransaction : Id) : Work (Option Transaction) := do
  let l ← rows
  pure (l.expecting? blockchainTransaction)

/-- The oldest pending transaction that a payment matches. -/
def findPendingMatch (c : PaymentCriteria Id) : Work (Option Transaction) := do
  let l ← rows
  pure (l.pendingMatch? c)

def createTransaction (d : TransactionDraft Id) : Work Transaction := do
  gate
  let id ← issue .transaction
  let t := d.row id
  modify fun s => { s with ledger := s.ledger.addTransaction t }
  pure t

/-- Changes the state of a transaction if it is pending, and returns it as it then is. -/
def updateTransaction (id : Id) (c : StateChange Id) : Work Transaction := do
  gate
  let l ← rows
  match l.transaction? id with
  | none => throw (.notFound (.transaction id))
  | some t =>
    modify fun s => { s with ledger := s.ledger.mapTransaction id c.apply }
    pure (c.apply t)

/-! ## Blockchain transactions -/

/-- The blockchain transaction of a chain with this hash, unless the look-up misses it. -/
def findByHash (chain : Chain) (hash : String) : Work (Option BlockchainTransaction) := do
  let s ← get
  match s.faults.hiddenLookups with
  | n + 1 =>
    set { s with faults := { s.faults with hiddenLookups := n } }
    pure none
  | 0 => pure (s.ledger.byHash? chain hash)

def findBlockchainTransaction (id : Id) : Work (Option BlockchainTransaction) := do
  let l ← rows
  pure (l.blockchainTransaction? id)

/-- Stores a blockchain transaction, unless its chain and hash are stored already. -/
def createBlockchainTransaction (d : BlockchainDraft Id) : Work (Option BlockchainTransaction) := do
  gate
  let l ← rows
  match l.byHash? d.chain d.hash with
  | some _ => pure none
  | none =>
    let id ← issue .blockchainTransaction
    let b := d.row id
    modify fun s => { s with ledger := s.ledger.addBlockchainTransaction b }
    pure (some b)

/-- The blockchain transaction in another state. Only a pending one changes. -/
def moved (state : BlockchainState) (b : BlockchainTransaction) : BlockchainTransaction :=
  if b.isFinal then b else { b with state := state }

/-- Changes the state of a blockchain transaction if it is pending, and returns it as it then
is. -/
def updateBlockchainTransaction (id : Id) (state : BlockchainState) :
    Work BlockchainTransaction := do
  gate
  let l ← rows
  match l.blockchainTransaction? id with
  | none => throw (.notFound (.blockchainTransaction id))
  | some b =>
    modify fun s => { s with ledger := s.ledger.mapBlockchainTransaction id (moved state) }
    pure (moved state b)

/-- The blockchain transaction with its missing facts filled in. -/
def filled (sender recipient : Option String) (block : Option Int) (b : BlockchainTransaction) :
    BlockchainTransaction :=
  { b with
    sender := b.sender <|> sender
    recipient := b.recipient <|> recipient
    block := b.block <|> block }

/-- Fills in facts that are not known yet. -/
def recordFacts (id : Id) (sender recipient : Option String) (block : Option Int) : Work Unit :=
  change fun l => l.mapBlockchainTransaction id (filled sender recipient block)

/-- Makes the two transactions point at each other. -/
def link (blockchainTransaction transaction : Id) : Work Unit :=
  change fun l => l.link blockchainTransaction transaction

/-- Stores a record, unless one for the same log is stored already. -/
def insertRecord (r : AuditRecord) : Work Unit := change fun l => l.addRecord r

/-! ## Checkpoints and users -/

def findCheckpoint (chain : Chain) : Work (Option Checkpoint) := do
  let l ← rows
  pure (l.checkpoint? chain)

/-- Raises the checkpoint of a chain to a block. -/
def raiseCheckpoint (chain : Chain) (block : Int) : Work Unit :=
  change fun l => l.setCheckpoint chain block

/-- The user with an address on file, in any case. -/
def findUser (address : String) : Work (Option Id) := do
  let l ← rows
  pure (l.user? (Text.lowercase address))

def findAddress (user : Id) : Work (Option String) := do
  let l ← rows
  pure (l.address? user)

/-! ## Expected payments -/

/-- Stores a transaction together with the blockchain transaction that it expects. -/
def seedPayment (chain : Chain) (hash : Hash) (d : TransactionDraft Id) :
    Work (Transaction × BlockchainTransaction) := do
  let t ← createTransaction d
  match ← createBlockchainTransaction ⟨chain, hash.spelling, some t.id, .pending, none⟩ with
  | none => throw (.ledger .duplicateBlockchainTransaction)
  | some b =>
    link b.id t.id
    match ← findTransaction t.id with
    | some linked => pure (linked, b)
    | none => throw (.notFound (.other "transaction"))

end Work

namespace Session

variable {α : Type}

/-- The session after the work was dropped: the rows as before, the ids used up. -/
def dropped (s after : Session) : Session := { after with ledger := s.ledger }

/-- Runs work to its end. What it did counts only if it does not fail. -/
def commit (s : Session) (w : Work α) : Except Failure α × Session :=
  match w.run.run s with
  | (.ok a, after) => (.ok a, after)
  | (.error e, after) => (.error e, s.dropped after)

/-- Puts an address of a new user on file. An address that is on file already is the new user's
from then on. -/
def addUser (s : Session) (address : Address) : Id × Session :=
  let id := s.supply.next .user
  (id, { s with
    ledger := s.ledger.addUser address.spelling id
    supply := s.supply.advance .user })

/-- Makes a reference stand for a new content. -/
def addContent (s : Session) (reference : String) : Id × Session :=
  let id := s.supply.next .content
  (id, { s with
    ledger := s.ledger.addContent reference id
    supply := s.supply.advance .content })

/-- Runs work free of injected faults other than the ledger rejecting all writes. Where it fails,
all is as before, the supply of ids too. -/
def prepare (s : Session) (w : Work α) : Except Failure α × Session :=
  match s.faults, w.run.run { s with faults := ⟨s.faults.rejecting, none, 0⟩ } with
  | faults, (.ok a, after) => (.ok a, { after with faults := faults })
  | _, (.error e, _) => (.error e, s)

end Session

end DonationLedger
