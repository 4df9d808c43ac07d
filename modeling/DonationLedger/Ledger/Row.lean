import DonationLedger.Chain
import DonationLedger.Decimal
import DonationLedger.Failure
import DonationLedger.Id

/-!
# Rows of the ledger

A transaction is what someone owes or paid; a blockchain transaction is where on a chain it is
paid; an audit record is one donation that the contract reported; a checkpoint is the last block
of a chain that was gone through. Both kinds of transaction begin pending and end once.
-/

namespace DonationLedger

/-- Who carries out a payment. -/
inductive Provider
  | blockchain
  | stripe
  | internal
  deriving DecidableEq, Repr, Inhabited

namespace Provider

def all : List Provider := [blockchain, stripe, internal]

def name : Provider → String
  | blockchain => "blockchain"
  | stripe => "stripe"
  | internal => "internal"

def ofName? (s : String) : Option Provider := all.find? fun p => p.name == s

end Provider

/-- How far a transaction has come. -/
inductive TransactionState
  | pending
  | succeeded
  | failed
  | canceled
  deriving DecidableEq, Repr, Inhabited

namespace TransactionState

def all : List TransactionState := [pending, succeeded, failed, canceled]

def name : TransactionState → String
  | pending => "pending"
  | succeeded => "succeeded"
  | failed => "failed"
  | canceled => "canceled"

/-- The name as it stands in a message. -/
def title : TransactionState → String
  | pending => "Pending"
  | succeeded => "Succeeded"
  | failed => "Failed"
  | canceled => "Canceled"

def ofName? (s : String) : Option TransactionState := all.find? fun p => p.name == s

/-- The states that a state may change into. -/
def successors : TransactionState → List TransactionState
  | pending => [succeeded, failed, canceled]
  | succeeded => []
  | failed => []
  | canceled => []

/-- Whether the change is one of those allowed. -/
def check (current requested : TransactionState) : Except Failure Unit :=
  if requested ∈ current.successors then .ok ()
  else .error (.settlement (.invalidTransition current.title requested.title))

/-- A change is allowed exactly from pending to something else. -/
theorem check_eq_ok_iff (a b : TransactionState) :
    check a b = .ok () ↔ a = pending ∧ b ≠ pending := by
  cases a <;> cases b <;> simp [check, successors]

end TransactionState

/-- What is known of a blockchain transaction. -/
inductive BlockchainState
  | pending
  | reverted
  | succeeded
  deriving DecidableEq, Repr, Inhabited

namespace BlockchainState

def all : List BlockchainState := [pending, reverted, succeeded]

def name : BlockchainState → String
  | pending => "pending"
  | reverted => "reverted"
  | succeeded => "succeeded"

/-- The name as it stands in a message. -/
def title : BlockchainState → String
  | pending => "Pending"
  | reverted => "Reverted"
  | succeeded => "Succeeded"

def ofName? (s : String) : Option BlockchainState := all.find? fun p => p.name == s

/-- The states that a state may change into. -/
def successors : BlockchainState → List BlockchainState
  | pending => [reverted, succeeded]
  | reverted => []
  | succeeded => []

/-- Whether the change is one of those allowed. -/
def check (current requested : BlockchainState) : Except Failure Unit :=
  if requested ∈ current.successors then .ok ()
  else .error (.settlement (.invalidTransition current.title requested.title))

/-- A change is allowed exactly from pending to something else. -/
theorem check_eq_ok_iff (a b : BlockchainState) :
    check a b = .ok () ↔ a = pending ∧ b ≠ pending := by
  cases a <;> cases b <;> simp [check, successors]

end BlockchainState

/-- A payment from a sender, who may be unknown, to a recipient. -/
structure Transaction where
  id : Id
  amount : Decimal
  currency : String
  purpose : String
  provider : Provider
  blockchainTransaction : Option Id
  sender : Option Id
  recipient : Id
  target : Option Id
  targetType : Option String
  state : TransactionState
  remark : Option String
  deriving DecidableEq, Repr

/-- A transaction on a chain, and the payment that it settles. -/
structure BlockchainTransaction where
  id : Id
  transaction : Option Id
  chain : Chain
  hash : String
  state : BlockchainState
  sender : Option String
  recipient : Option String
  block : Option Int
  deriving DecidableEq, Repr

/-- A donation that the contract reported, kept for audit. -/
structure AuditRecord where
  blockchainTransaction : Id
  index : Int
  curator : String
  creator : String
  token : Option String
  uri : String
  amount : Decimal
  deriving DecidableEq, Repr

/-- The last block of a chain that was gone through. -/
structure Checkpoint where
  chain : Chain
  block : Int
  deriving DecidableEq, Repr

def Transaction.isPending (t : Transaction) : Bool := t.state == .pending

def BlockchainTransaction.isFinal (b : BlockchainTransaction) : Bool := b.state != .pending

/-- The remark on a transaction that was paid for on the chain but not as expected. -/
def invalidRemark : String := "invalid"

/-- The purpose of a donation. -/
def donationPurpose : String := "donation"

/-- The kind of content that donations go to. -/
def articleType : String := "article"

/-- The fields of a transaction to be created, with ids of type `ι`. -/
structure TransactionDraft (ι : Type) where
  amount : Decimal
  currency : String
  purpose : String
  provider : Provider
  blockchainTransaction : Option ι
  sender : Option ι
  recipient : ι
  target : Option ι
  targetType : Option String
  state : TransactionState
  deriving DecidableEq, Repr

namespace TransactionDraft

variable {ι κ : Type}

def map (f : ι → κ) (d : TransactionDraft ι) : TransactionDraft κ :=
  { amount := d.amount
    currency := d.currency
    purpose := d.purpose
    provider := d.provider
    blockchainTransaction := d.blockchainTransaction.map f
    sender := d.sender.map f
    recipient := f d.recipient
    target := d.target.map f
    targetType := d.targetType
    state := d.state }

/-- The row of a draft under a new id. -/
def row (d : TransactionDraft Id) (id : Id) : Transaction :=
  { id := id
    amount := d.amount
    currency := d.currency
    purpose := d.purpose
    provider := d.provider
    blockchainTransaction := d.blockchainTransaction
    sender := d.sender
    recipient := d.recipient
    target := d.target
    targetType := d.targetType
    state := d.state
    remark := none }

end TransactionDraft

/-- The fields of a blockchain transaction to be created, with ids of type `ι`. -/
structure BlockchainDraft (ι : Type) where
  chain : Chain
  hash : String
  transaction : Option ι
  state : BlockchainState
  block : Option Int
  deriving DecidableEq, Repr

namespace BlockchainDraft

variable {ι κ : Type}

def map (f : ι → κ) (d : BlockchainDraft ι) : BlockchainDraft κ :=
  ⟨d.chain, d.hash, d.transaction.map f, d.state, d.block⟩

/-- The row of a draft under a new id. -/
def row (d : BlockchainDraft Id) (id : Id) : BlockchainTransaction :=
  ⟨id, d.transaction, d.chain, d.hash, d.state, none, none, d.block⟩

end BlockchainDraft

/-- A change of a transaction's state. The sender is left alone, cleared or set. -/
structure StateChange (ι : Type) where
  state : TransactionState
  remark : Option String
  sender : Option (Option ι)
  deriving DecidableEq, Repr

namespace StateChange

variable {ι κ : Type}

/-- The change to a state and of nothing else. -/
def into (state : TransactionState) : StateChange ι := ⟨state, none, none⟩

def map (f : ι → κ) (c : StateChange ι) : StateChange κ :=
  ⟨c.state, c.remark, c.sender.map fun s => s.map f⟩

/-- The transaction after the change. Only a pending transaction changes. -/
def apply (c : StateChange Id) (t : Transaction) : Transaction :=
  if t.isPending then
    { t with state := c.state, remark := c.remark <|> t.remark, sender := c.sender.getD t.sender }
  else t

theorem apply_id (c : StateChange Id) (t : Transaction) : (c.apply t).id = t.id := by
  unfold apply
  split <;> rfl

end StateChange

/-- What a pending transaction has to be to match a payment, with ids of type `ι`. -/
structure PaymentCriteria (ι : Type) where
  recipient : ι
  target : ι
  currency : String
  amount : Decimal
  deriving DecidableEq, Repr

namespace PaymentCriteria

variable {ι κ : Type}

def map (f : ι → κ) (c : PaymentCriteria ι) : PaymentCriteria κ :=
  ⟨f c.recipient, f c.target, c.currency, c.amount⟩

/-- Whether the transaction waits for such a payment and for no blockchain transaction yet. -/
def admits (c : PaymentCriteria Id) (t : Transaction) : Bool :=
  t.provider == .blockchain && t.isPending && t.recipient == c.recipient &&
    t.target == some c.target && t.currency == c.currency && t.amount.same c.amount &&
    t.blockchainTransaction.isNone

end PaymentCriteria

end DonationLedger
