import DonationLedger.Decimal.Text
import DonationLedger.Follow.Cycle
import DonationLedger.Json
import DonationLedger.Ledger.Call
import DonationLedger.Resolution.Event
import DonationLedger.Resolution.Receipt

/-!
# Reports

Results and rows as JSON values. Ids are shown under the names that `name` gives them, amounts as
text with all their places, and what is missing as `null`.
-/

namespace DonationLedger

namespace Report

/-- An optional text. -/
def text? (s : Option String) : Json := Json.ofOption .string s

/-- An optional id under its name. -/
def id? (name : Id → String) (id : Option Id) : Json := text? (id.map name)

def amount (d : Decimal) : Json := .string d.text

def block? (n : Option Int) : Json := Json.ofOption Json.ofInt n

end Report

def Chain.json (c : Chain) : Json := .string c.name

def Window.json : Window → Json
  | coldStart safe => .object [("kind", .string "cold_start"), ("safe_height", .ofNat safe)]
  | upToDate c => .object [("kind", .string "up_to_date"), ("checkpoint", .ofNat c)]
  | range first last =>
    .object [("kind", .string "range"), ("from_block", .ofNat first), ("to_block", .ofNat last)]

def Tally.json (t : Tally) : Json :=
  .object
    [("removed", .ofNat t.removed), ("malformed", .ofNat t.malformed),
      ("invalid", .ofNat t.invalid), ("linked", .ofNat t.linked),
      ("rejected", .ofNat t.rejected), ("created", .ofNat t.created),
      ("already_settled", .ofNat t.alreadySettled)]

def CycleReport.json (r : CycleReport) : Json :=
  .object
    [("chain", r.chain.json), ("busy", .bool r.busy),
      ("previous_checkpoint", Json.ofOption Json.ofNat r.previous),
      ("new_checkpoint", Json.ofOption Json.ofNat r.checkpoint),
      ("window", Json.ofOption Window.json r.window), ("logs", .ofNat r.logs),
      ("outcomes", r.tally.json)]

def Outcome.json (o : Outcome) : Json := .string o.name

def Settled.json (name : Id → String) (s : Settled) : Json :=
  .object [("transaction_id", .string (name s.transaction)), ("outcome", s.outcome.json)]

def Applied.json (name : Id → String) (a : Applied) : Json :=
  .object
    (("outcome", .string a.name) ::
      ((match a.reason? with
        | some reason => [("reason", .string reason.name)]
        | none => []) ++
      (match a.transaction? with
        | some t => [("transaction_id", .string (name t))]
        | none => [])))

def Transaction.json (name : Id → String) (t : Transaction) : Json :=
  .object
    [("id", .string (name t.id)), ("amount", Report.amount t.amount),
      ("currency", .string t.currency), ("purpose", .string t.purpose),
      ("provider", .string t.provider.name),
      ("provider_tx_id", Report.id? name t.blockchainTransaction),
      ("sender_id", Report.id? name t.sender), ("recipient_id", .string (name t.recipient)),
      ("target_id", Report.id? name t.target), ("target_type", Report.text? t.targetType),
      ("state", .string t.state.name), ("remark", Report.text? t.remark),
      ("pending", .bool t.isPending)]

def BlockchainTransaction.json (name : Id → String) (b : BlockchainTransaction) : Json :=
  .object
    [("id", .string (name b.id)), ("transaction_id", Report.id? name b.transaction),
      ("chain", b.chain.json), ("tx_hash", .string b.hash), ("state", .string b.state.name),
      ("from_address", Report.text? b.sender), ("to_address", Report.text? b.recipient),
      ("block_number", Report.block? b.block), ("terminal", .bool b.isFinal)]

def AuditRecord.json (name : Id → String) (r : AuditRecord) : Json :=
  .object
    [("blockchain_transaction_id", .string (name r.blockchainTransaction)),
      ("log_index", .ofInt r.index), ("curator_address", .string r.curator),
      ("creator_address", .string r.creator), ("token_address", Report.text? r.token),
      ("uri", .string r.uri), ("amount", Report.amount r.amount)]

def Checkpoint.json (c : Checkpoint) : Json :=
  .object [("chain", c.chain.json), ("block_number", .ofInt c.block)]

/-- Checkpoints in the order of their chains' numbers. -/
def Checkpoint.before (a b : Checkpoint) : Bool := a.chain.before b.chain

def Ledger.json (name : Id → String) (l : Ledger) : Json :=
  .object
    [("transactions", .array (l.transactions.map (Transaction.json name))),
      ("blockchain_transactions",
        .array (l.blockchainTransactions.map (BlockchainTransaction.json name))),
      ("curation_events", .array (l.records.map (AuditRecord.json name))),
      ("checkpoints", .array ((l.checkpoints.mergeSort Checkpoint.before).map Checkpoint.json))]

def Row.json (name : Id → String) : Row → Json
  | transaction t => t.json name
  | blockchainTransaction b => b.json name
  | checkpoint c => c.json
  | id i => .string (name i)
  | address text => .string text
  | none => .null

def Failure.json (name : Id → String) (e : Failure) : Json :=
  .object
    [("error", .string e.code), ("message", .string (e.message name)),
      ("retryable", .bool e.retryable)]

/-- A result or a failure. -/
def Report.result {α : Type} (name : Id → String) (f : α → Json) : Except Failure α → Json
  | .ok a => f a
  | .error e => e.json name

end DonationLedger
