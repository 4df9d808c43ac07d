import DonationLedger.Decimal.Floating
import DonationLedger.Json
import DonationLedger.Json.Number
import DonationLedger.Ledger.Row
import DonationLedger.Time

/-!
# Archived rows

Rows as they are archived: JSON objects with the times of creation and of the last change, ids in
the canonical spelling and amounts as floating-point numbers. Reading takes the members in any
order and ignores those it does not know; a missing optional member is none. The members may also
stand in an array, all of them in their order. An amount may be a number or a text.
-/

namespace DonationLedger

namespace Archive

/-- A row with the times of its creation and of its last change. -/
structure Stamped (α : Type) where
  row : α
  created : Time
  updated : Time
  deriving DecidableEq, Repr

/-- A checkpoint with the time of its last change. -/
structure StampedCheckpoint where
  checkpoint : Checkpoint
  updated : Time
  deriving DecidableEq, Repr

/-- The members of a row of the given names, `none` for a missing one. Of two members with one
name the later counts. -/
def members? (names : List String) : Json → Option (List (Option Json))
  | .object ms => some (names.map fun n => Json.lookup n ms)
  | .array items => if items.length = names.length then some (items.map some) else none
  | _ => none

/-! ## Members -/

def text? (j : Option Json) : Option String := j.bind Json.string?

/-- A member that may be missing or `null`. -/
def optional? {α : Type} (f : Option Json → Option α) : Option Json → Option (Option α)
  | none => some none
  | some .null => some none
  | some j => (f (some j)).map some

def id? (j : Option Json) : Option Id := (text? j).bind Id.ofUuid?

def time? (j : Option Json) : Option Time := (text? j).bind Time.parse?

/-- A whole number of 64 bits with a sign. -/
def whole? (j : Option Json) : Option Int := do
  match ← j with
  | .number lexeme => match Json.Number.ofLexeme lexeme with
    | .whole n => if n ≤ Text.maxSigned64 then some n else none
    | .floating _ => none
  | _ => none

/-- One of a fixed list of names, which may also stand alone in an object with `null`. -/
def oneOf? {α : Type} (ofName? : String → Option α) (j : Option Json) : Option α := do
  match ← j with
  | .string s => ofName? s
  | .object [(s, .null)] => ofName? s
  | _ => none

/-- A decimal times a power of ten, `none` where it leaves its range. -/
def shifted? (d : Decimal) (exponent : Nat) : Option Decimal :=
  if exponent ≤ d.scale then d.withScale? (d.scale - exponent)
  else if exponent ≤ Decimal.maxScale then
    (Decimal.ofParts? d.negative (d.mantissa * power 10 (exponent - d.scale)) 0).map Decimal.trimmed
  else none

/-- A decimal divided by a power of ten, with as many of its places as there is room for. -/
def lowered? (d : Decimal) (exponent : Nat) : Option Decimal :=
  if Decimal.maxScale < exponent then none
  else if d.scale + exponent ≤ Decimal.maxScale then d.withScale? (d.scale + exponent)
  else
    let unit := power 10 (d.scale + exponent - Decimal.maxScale)
    Decimal.ofParts? d.negative ((2 * d.mantissa + unit) / (2 * unit)) Decimal.maxScale

/-- A decimal with an exponent. -/
def scientific? (s : String) : Option Decimal := do
  let cs := s.toList
  let isMark := fun c => c = 'e' || c = 'E'
  let base ← Decimal.parse? (String.ofList (cs.takeWhile fun c => !isMark c))
  match cs.dropWhile fun c => !isMark c with
  | _ :: '-' :: digits =>
    let n ← Text.natUpTo? Text.maxWord32 (String.ofList digits)
    lowered? base n
  | _ :: digits =>
    let n ← Text.natUpTo? Text.maxWord32 (String.ofList digits)
    shifted? base n
  | [] => none

/-- An amount: a number, or the text of a decimal. -/
def amount? (j : Option Json) : Option Decimal := do
  match ← j with
  | .number lexeme => match Json.Number.ofLexeme lexeme with
    | .whole n => Decimal.ofParts? (n < 0) n.natAbs 0
    | .floating f => Decimal.ofFloat? f
  | .string s => Decimal.parse? s <|> scientific? s
  | _ => none

/-! ## Reading rows -/

def transactionMembers : List String :=
  ["id", "amount", "currency", "purpose", "provider", "provider_tx_id", "sender_id",
    "recipient_id", "target_id", "target_type", "state", "remark", "created_at", "updated_at"]

def readTransaction (j : Json) : Option (Stamped Transaction) := do
  match ← members? transactionMembers j with
  | [id, amount, currency, purpose, provider, providerTx, sender, recipient, target, targetType,
      state, remark, created, updated] =>
    let row : Transaction :=
      { id := ← id? id
        amount := ← amount? amount
        currency := ← text? currency
        purpose := ← text? purpose
        provider := ← oneOf? Provider.ofName? provider
        blockchainTransaction := ← optional? id? providerTx
        sender := ← optional? id? sender
        recipient := ← id? recipient
        target := ← optional? id? target
        targetType := ← optional? text? targetType
        state := ← oneOf? TransactionState.ofName? state
        remark := ← optional? text? remark }
    return ⟨row, ← time? created, ← time? updated⟩
  | _ => none

def blockchainMembers : List String :=
  ["id", "transaction_id", "chain", "tx_hash", "state", "from_address", "to_address",
    "block_number", "created_at", "updated_at"]

def readBlockchainTransaction (j : Json) : Option (Stamped BlockchainTransaction) := do
  match ← members? blockchainMembers j with
  | [id, transaction, chain, hash, state, sender, recipient, block, created, updated] =>
    let row : BlockchainTransaction :=
      { id := ← id? id
        transaction := ← optional? id? transaction
        chain := ← oneOf? Chain.ofName? chain
        hash := ← text? hash
        state := ← oneOf? BlockchainState.ofName? state
        sender := ← optional? text? sender
        recipient := ← optional? text? recipient
        block := ← optional? whole? block }
    return ⟨row, ← time? created, ← time? updated⟩
  | _ => none

def recordMembers : List String :=
  ["blockchain_transaction_id", "log_index", "curator_address", "creator_address",
    "token_address", "uri", "amount"]

def readRecord (j : Json) : Option AuditRecord := do
  match ← members? recordMembers j with
  | [blockchainTransaction, index, curator, creator, token, uri, amount] =>
    return {
      blockchainTransaction := ← id? blockchainTransaction
      index := ← whole? index
      curator := ← text? curator
      creator := ← text? creator
      token := ← optional? text? token
      uri := ← text? uri
      amount := ← amount? amount }
  | _ => none

def checkpointMembers : List String := ["chain", "block_number", "updated_at"]

def readCheckpoint (j : Json) : Option StampedCheckpoint := do
  match ← members? checkpointMembers j with
  | [chain, block, updated] =>
    return ⟨⟨← oneOf? Chain.ofName? chain, ← whole? block⟩, ← time? updated⟩
  | _ => none

/-! ## Writing rows -/

/-- An amount as a floating-point number. -/
def amountJson (d : Decimal) : Json :=
  .number ((Shortest.pointed? d.toFloat.toBits.toNat).getD "0.0")

def idJson (id : Id) : Json := .string id.label

def timeJson (t : Time) : Json := .string t.text

def textJson (s : Option String) : Json := Json.ofOption .string s

/-- Members under their names. -/
def object (names : List String) (values : List Json) : Json := .object (names.zip values)

def writeTransaction (s : Stamped Transaction) : Json :=
  let t := s.row
  object transactionMembers
    [idJson t.id, amountJson t.amount, .string t.currency, .string t.purpose,
      .string t.provider.name, Json.ofOption idJson t.blockchainTransaction,
      Json.ofOption idJson t.sender, idJson t.recipient, Json.ofOption idJson t.target,
      textJson t.targetType, .string t.state.name, textJson t.remark, timeJson s.created,
      timeJson s.updated]

def writeBlockchainTransaction (s : Stamped BlockchainTransaction) : Json :=
  let b := s.row
  object blockchainMembers
    [idJson b.id, Json.ofOption idJson b.transaction, .string b.chain.name, .string b.hash,
      .string b.state.name, textJson b.sender, textJson b.recipient,
      Json.ofOption Json.ofInt b.block, timeJson s.created, timeJson s.updated]

def writeRecord (r : AuditRecord) : Json :=
  object recordMembers
    [idJson r.blockchainTransaction, .ofInt r.index, .string r.curator, .string r.creator,
      textJson r.token, .string r.uri, amountJson r.amount]

def writeCheckpoint (s : StampedCheckpoint) : Json :=
  object checkpointMembers
    [.string s.checkpoint.chain.name, .ofInt s.checkpoint.block, timeJson s.updated]

end Archive

end DonationLedger
