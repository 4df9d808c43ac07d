import DonationLedger.Ledger.Row

/-!
# The ledger

The rows of the ledger in the order of their creation, so the oldest of several rows is the
first. Rows have no time of creation: their order stands for it, as of a clock that never steps
back nor tells a time twice. Users are found by the address on file, content by its reference. What is stored here are
plain lists; the operations of a ledger transaction are built from the few below.
-/

namespace DonationLedger

/-- Everything that is stored. -/
structure Ledger where
  transactions : List Transaction
  blockchainTransactions : List BlockchainTransaction
  records : List AuditRecord
  checkpoints : List Checkpoint
  users : List (String × Id)
  contents : List (String × Id)
  deriving DecidableEq, Repr

namespace Ledger

def empty : Ledger := ⟨[], [], [], [], [], []⟩

instance : Inhabited Ledger := ⟨empty⟩

/-! ## Looking up -/

def transaction? (l : Ledger) (id : Id) : Option Transaction :=
  l.transactions.find? fun t => t.id == id

def blockchainTransaction? (l : Ledger) (id : Id) : Option BlockchainTransaction :=
  l.blockchainTransactions.find? fun b => b.id == id

/-- The blockchain transaction of a chain with this hash as it is written. -/
def byHash? (l : Ledger) (chain : Chain) (hash : String) : Option BlockchainTransaction :=
  l.blockchainTransactions.find? fun b => b.chain == chain && b.hash == hash

/-- The oldest transaction that expects to be paid by a blockchain transaction. The oldest is the one
created first, which is the one with the earliest time of creation if the clock never steps back nor
tells a time twice. -/
def expecting? (l : Ledger) (id : Id) : Option Transaction :=
  l.transactions.find? fun t => t.provider == .blockchain && t.blockchainTransaction == some id

/-- The oldest pending transaction that a payment matches, as in `expecting?` the one created first. -/
def pendingMatch? (l : Ledger) (c : PaymentCriteria Id) : Option Transaction :=
  l.transactions.find? c.admits

def checkpoint? (l : Ledger) (chain : Chain) : Option Checkpoint :=
  l.checkpoints.find? fun c => c.chain == chain

/-- The user whose address on file is spelled so. -/
def user? (l : Ledger) (address : String) : Option Id :=
  (l.users.find? fun u => u.1 == address).map Prod.snd

/-- The address on file of a user. -/
def address? (l : Ledger) (user : Id) : Option String :=
  (l.users.find? fun u => u.2 == user).map Prod.fst

/-- The content of a reference. -/
def content? (l : Ledger) (reference : String) : Option Id :=
  (l.contents.find? fun c => c.1 == reference).map Prod.snd

/-! ## Changing rows -/

/-- The entries with the value of a key set, in its place if the key is there, else at the end. -/
def assign (key : String) (value : Id) : List (String × Id) → List (String × Id)
  | [] => [(key, value)]
  | e :: es => if e.1 = key then (key, value) :: es else e :: assign key value es

def addUser (l : Ledger) (address : String) (id : Id) : Ledger :=
  { l with users := assign address id l.users }

def addContent (l : Ledger) (reference : String) (id : Id) : Ledger :=
  { l with contents := assign reference id l.contents }

def addTransaction (l : Ledger) (t : Transaction) : Ledger :=
  { l with transactions := l.transactions ++ [t] }

def addBlockchainTransaction (l : Ledger) (b : BlockchainTransaction) : Ledger :=
  { l with blockchainTransactions := l.blockchainTransactions ++ [b] }

/-- The ledger with `f` applied to the transaction of an id. -/
def mapTransaction (l : Ledger) (id : Id) (f : Transaction → Transaction) : Ledger :=
  { l with transactions := l.transactions.map fun t => if t.id = id then f t else t }

/-- The ledger with `f` applied to the blockchain transaction of an id. -/
def mapBlockchainTransaction (l : Ledger) (id : Id)
    (f : BlockchainTransaction → BlockchainTransaction) : Ledger :=
  { l with blockchainTransactions := l.blockchainTransactions.map fun b =>
      if b.id = id then f b else b }

/-- The ledger where the two transactions point at each other. -/
def link (l : Ledger) (blockchainTransaction transaction : Id) : Ledger :=
  (l.mapBlockchainTransaction blockchainTransaction fun b =>
    { b with transaction := some transaction }).mapTransaction transaction fun t =>
      { t with blockchainTransaction := some blockchainTransaction }

/-- The ledger with a record, unless one for the same log is there. -/
def addRecord (l : Ledger) (r : AuditRecord) : Ledger :=
  if l.records.any fun s =>
      s.blockchainTransaction == r.blockchainTransaction && s.index == r.index then l
  else { l with records := l.records ++ [r] }

/-- The checkpoints with one of a chain raised to a block, or begun there. -/
def raiseCheckpoint (chain : Chain) (block : Int) : List Checkpoint → List Checkpoint
  | [] => [⟨chain, block⟩]
  | c :: cs =>
    if c.chain = chain then ⟨chain, max c.block block⟩ :: cs
    else c :: raiseCheckpoint chain block cs

def setCheckpoint (l : Ledger) (chain : Chain) (block : Int) : Ledger :=
  { l with checkpoints := raiseCheckpoint chain block l.checkpoints }

/-! ## Lemmas -/

theorem raiseCheckpoint_find (chain : Chain) (block : Int) (cs : List Checkpoint) :
    (raiseCheckpoint chain block cs).find? (fun c => c.chain == chain) =
      some ⟨chain, match cs.find? fun c => c.chain == chain with
        | some c => max c.block block
        | none => block⟩ := by
  induction cs with
  | nil => simp [raiseCheckpoint]
  | cons c cs ih =>
    by_cases h : c.chain = chain
    · simp [raiseCheckpoint, h]
    · have hb : (c.chain == chain) = false := by simpa using h
      simp [raiseCheckpoint, h, hb, ih]

/-- A checkpoint never moves back. -/
theorem checkpoint?_setCheckpoint (l : Ledger) (chain : Chain) (block : Int) :
    (l.setCheckpoint chain block).checkpoint? chain =
      some ⟨chain, match l.checkpoint? chain with
        | some c => max c.block block
        | none => block⟩ := raiseCheckpoint_find chain block l.checkpoints

end Ledger

end DonationLedger
