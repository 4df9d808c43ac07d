import DonationLedger.Chain
import DonationLedger.Id
import DonationLedger.Text.Quoted
import DonationLedger.Url

/-!
# Failures

Every way an operation can fail, as a cause. From the cause follow its code, whether trying again
can help, the message, and what a client of the web interface is told. A message shows ids under
the names that the reader of the message knows them by, so it takes those names.
-/

namespace DonationLedger

/-- Why the ledger refused or lost something. -/
inductive LedgerFault
  | writeRejected
  | linksMissing (blockchainTransaction transaction : Id)
  | vanished (hash : String)
  | duplicateBlockchainTransaction
  | negativeCheckpoint (block : Int)
  | other (text : String)
  deriving DecidableEq, Repr

/-- What was looked for and is not there. -/
inductive Absence
  | transaction (id : Id)
  | blockchainTransaction (id : Id)
  | checkpoint (chain : Chain)
  | other (text : String)
  deriving DecidableEq, Repr

/-- Which datum does not have its form or its range. -/
inductive Malformation
  | storedHash (text : String)
  | blockNumber (block : Nat)
  | checkpoint (block : Nat)
  | other (text : String)
  deriving DecidableEq, Repr

/-- Why a transaction cannot be settled now or at all. -/
inductive SettlementFault
  | transactionNotFound (id : Id)
  | wrongQueue (id : Id) (provider : String)
  | blockchainTransactionNotFound (transaction : Id)
  | notMined (hash : String)
  | unsupportedChain (id : Int)
  | malformedPayload (what : Malformation)
  | invalidTransition (current requested : String)
  | linkedElsewhere (blockchainTransaction linkedTo : Id)
  deriving DecidableEq, Repr

/-- What is wrong with the settings. -/
inductive SettingsFault
  | missing (key : String)
  | unknownChain (what : Chain.Unknown)
  | notAnAddress (key value : String)
  | invalidValue (key value : String)
  | nodeUrl (chain : Chain) (fault : Url.Fault)
  | other (text : String)
  deriving DecidableEq, Repr

/-- What went wrong inside. -/
inductive InternalFault
  | wrapped (innermost : String) (contexts : List String)
  | missingMigration (version : Int)
  | other (text : String)
  deriving DecidableEq, Repr

/-- What is wrong with a request. -/
inductive InputFault
  | unknownChain (what : Chain.Unknown)
  | other (text : String)
  deriving DecidableEq, Repr

/-- Why an operation failed. -/
inductive Failure
  | database (text : String)
  | ledger (fault : LedgerFault)
  | settlement (fault : SettlementFault)
  | node (chain : Chain) (text : String)
  | settings (fault : SettingsFault)
  | internal (fault : InternalFault)
  | notFound (what : Absence)
  | invalidInput (fault : InputFault)
  deriving DecidableEq, Repr

instance : Inhabited Failure := ⟨.ledger .writeRejected⟩

def Chain.Unknown.text : Chain.Unknown → String
  | id n => "Unknown chain id: " ++ toString n
  | name lowered => "Unknown chain: " ++ lowered

def LedgerFault.text (name : Id → String) : LedgerFault → String
  | writeRejected => "write rejected"
  | linksMissing b t =>
    "blockchain transaction " ++ name b ++ " links missing transaction " ++ name t
  | vanished hash => "blockchain transaction " ++ hash ++ " vanished"
  | duplicateBlockchainTransaction => "duplicate blockchain transaction"
  | negativeCheckpoint block => "negative checkpoint " ++ toString block
  | other text => text

def Absence.text (name : Id → String) : Absence → String
  | transaction id => "transaction " ++ name id
  | blockchainTransaction id => "blockchain transaction " ++ name id
  | checkpoint chain => "No checkpoint for " ++ chain.name ++ " yet"
  | other text => text

def Malformation.text : Malformation → String
  | storedHash text => "stored tx hash " ++ text
  | blockNumber block => "block number " ++ toString block ++ " out of range"
  | checkpoint block => "checkpoint " ++ toString block ++ " out of range"
  | other text => text

namespace SettlementFault

def text (name : Id → String) : SettlementFault → String
  | transactionNotFound id => "Pending transaction " ++ name id ++ " not found"
  | wrongQueue id provider =>
    "Transaction " ++ name id ++ " belongs to provider " ++ provider ++ ", not blockchain"
  | blockchainTransactionNotFound id =>
    "Blockchain transaction not found for transaction " ++ name id
  | notMined hash => "Blockchain transaction " ++ hash ++ " not mined yet"
  | unsupportedChain id => "No chain reader registered for chain " ++ toString id
  | malformedPayload what => "Malformed payload: " ++ what.text
  | invalidTransition current requested =>
    "Invalid state transition: " ++ current ++ " -> " ++ requested
  | linkedElsewhere b t =>
    "Blockchain transaction " ++ name b ++ " already settles transaction " ++ name t

def code : SettlementFault → String
  | transactionNotFound _ => "TX_NOT_FOUND"
  | wrongQueue _ _ => "WRONG_QUEUE"
  | blockchainTransactionNotFound _ => "BLOCKCHAIN_TX_NOT_FOUND"
  | notMined _ => "NOT_MINED"
  | unsupportedChain _ => "UNSUPPORTED_CHAIN"
  | malformedPayload _ => "MALFORMED_PAYLOAD"
  | invalidTransition _ _ => "INVALID_TRANSITION"
  | linkedElsewhere _ _ => "ALREADY_LINKED"

/-- Only a receipt that is still missing can turn up later. -/
def retryable : SettlementFault → Bool
  | notMined _ => true
  | _ => false

def status : SettlementFault → Nat
  | transactionNotFound _ => 404
  | blockchainTransactionNotFound _ => 404
  | wrongQueue _ _ => 400
  | unsupportedChain _ => 400
  | notMined _ => 202
  | malformedPayload _ => 409
  | invalidTransition _ _ => 409
  | linkedElsewhere _ _ => 409

end SettlementFault

def SettingsFault.text : SettingsFault → String
  | missing key => "missing configuration field " ++ Text.quote key
  | unknownChain what => "Invalid input: " ++ what.text
  | notAnAddress key value => key ++ " is not an address: " ++ value
  | invalidValue key value => key ++ " has an invalid value: " ++ value
  | nodeUrl chain fault => "RPC url for " ++ chain.name ++ ": " ++ fault.text
  | other text => text

def InputFault.text : InputFault → String
  | unknownChain what => what.text
  | other text => text

namespace InternalFault

/-- A text behind a head, its further lines indented by `blanks`. -/
def indented (head : String) (blanks : String) (text : String) : String :=
  head ++ ("\n" ++ blanks).intercalate (text.splitOn "\n")

/-- The number of a cause, to the right of a field of five characters. -/
def numberHead (n : Nat) : String :=
  let digits := toString n
  String.ofList (List.replicate (5 - digits.length) ' ') ++ digits ++ ": "

/-- The causes from `n` on, each on lines of its own. -/
def numberedCauses : Nat → List String → String
  | _, [] => ""
  | n, cause :: causes =>
    "\n" ++ indented (numberHead n) "       " cause ++ numberedCauses (n + 1) causes

/-- A message and what caused it, the nearest cause first. A single cause has no number. -/
def causeReport (top : String) : List String → String
  | [] => top
  | [cause] => top ++ "\n\nCaused by:\n" ++ indented "    " "    " cause
  | causes => top ++ "\n\nCaused by:" ++ numberedCauses 0 causes

/-- The outermost message of an error in its contexts, and the causes below it. -/
def layers (innermost : String) (contexts : List String) : String × List String :=
  match contexts.reverse with
  | top :: below => (top, below ++ [innermost])
  | [] => (innermost, [])

def text : InternalFault → String
  | wrapped innermost contexts =>
    let (top, causes) := layers innermost contexts
    "Error converting: " ++ causeReport top causes
  | missingMigration version => "Migration error: VersionMissing(" ++ toString version ++ ")"
  | other text => text

end InternalFault

namespace Failure

/-- The message of a failure, with ids under the names that `name` gives them. -/
def message (name : Id → String) : Failure → String
  | database text => "Database error: encountered unexpected or invalid data: " ++ text
  | ledger fault => "Ledger error: " ++ fault.text name
  | settlement fault => "Settlement error: " ++ fault.text name
  | node chain text => "Chain reader error on " ++ chain.name ++ ": " ++ text
  | settings fault => "Configuration error: " ++ fault.text
  | internal fault => "Internal error: " ++ fault.text
  | notFound what => "Not found: " ++ what.text name
  | invalidInput fault => "Invalid input: " ++ fault.text

/-- The stable code of a failure. -/
def code : Failure → String
  | database _ => "DATABASE_ERROR"
  | ledger _ => "DATABASE_ERROR"
  | settlement fault => fault.code
  | node _ _ => "CHAIN_READER_ERROR"
  | settings _ => "CONFIGURATION_ERROR"
  | internal _ => "INTERNAL_ERROR"
  | notFound _ => "NOT_FOUND"
  | invalidInput _ => "INVALID_INPUT"

/-- Whether the same job may be tried again later. A failure of the ledger or of a node leaves
the ledger as it was. -/
def retryable : Failure → Bool
  | database _ => true
  | ledger _ => true
  | settlement fault => fault.retryable
  | node _ _ => true
  | _ => false

/-- The status code of the answer to a web request. -/
def status : Failure → Nat
  | settlement fault => fault.status
  | node _ _ => 502
  | notFound _ => 404
  | invalidInput _ => 400
  | _ => 500

/-- What a web client is told. The details of a failure of the ledger stay inside. -/
def publicMessage (name : Id → String) : Failure → String
  | database _ => "A database error occurred"
  | ledger _ => "A database error occurred"
  | other => other.message name

end Failure

/-- A step succeeds together with what goes on from its result. -/
theorem bind_eq_ok_iff {ε α β : Type} {x : Except ε α} {f : α → Except ε β} {b : β} :
    (x >>= f) = .ok b ↔ ∃ a, x = .ok a ∧ f a = .ok b := by
  cases x with
  | error e => simp [bind, Except.bind]
  | ok a => simp [bind, Except.bind]

end DonationLedger
