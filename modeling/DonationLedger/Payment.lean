import DonationLedger.Curation.Event
import DonationLedger.Ledger.Row
import DonationLedger.Settings

/-!
# Payments

What a curation event pays for, and whether that is what a transaction expects. The first check
needs the settings and the content, not the ledger: a creator, a reference to known content, a
token of the chain, an amount that fits it. The second compares a payment with an expected
transaction: the recipient, the currency in any ASCII case, the amount by value and the target,
if one is set. The first check that fails gives the reason.
-/

namespace DonationLedger

/-- Why an event is not credited. -/
inductive InvalidReason
  | zeroCreator
  | unknownCreator
  | unparseableUri
  | unknownContent
  | unknownToken
  | amountOverflow
  | missingCurationEvent
  | recipientMismatch
  | currencyMismatch
  | amountMismatch
  | targetMismatch
  deriving DecidableEq, Repr

namespace InvalidReason

/-- The name of a reason in a report. -/
def name : InvalidReason → String
  | zeroCreator => "zero_creator"
  | unknownCreator => "unknown_creator"
  | unparseableUri => "unparseable_uri"
  | unknownContent => "unknown_content"
  | unknownToken => "unknown_token"
  | amountOverflow => "amount_overflow"
  | missingCurationEvent => "missing_curation_event"
  | recipientMismatch => "recipient_mismatch"
  | currencyMismatch => "currency_mismatch"
  | amountMismatch => "amount_mismatch"
  | targetMismatch => "target_mismatch"

def text : InvalidReason → String
  | zeroCreator => "creator is the zero address"
  | unknownCreator => "creator is not a platform user"
  | unparseableUri => "content uri cannot be parsed"
  | unknownContent => "content reference is unknown"
  | unknownToken => "token is not accepted on this chain"
  | amountOverflow => "amount does not fit the token decimals"
  | missingCurationEvent => "no curation event in receipt"
  | recipientMismatch => "creator is not the expected recipient"
  | currencyMismatch => "currency differs from the expected payment"
  | amountMismatch => "amount differs from the expected payment"
  | targetMismatch => "content differs from the expected target"

end InvalidReason

/-- What an event pays for. -/
structure Payment where
  content : Id
  currency : String
  amount : Decimal
  deriving DecidableEq, Repr

namespace Payment

/-- The reference to the content of an event, unless the event is refused before it is needed. -/
def reference (e : Event) : Except InvalidReason String :=
  if e.creator = FixedBytes.zero 20 then .error .zeroCreator
  else match contentReference? e.uri with
    | some reference => .ok reference
    | none => .error .unparseableUri

/-- The payment of an event for a content that was looked up. -/
def priced (settings : ChainSettings) (e : Event) (content : Option Id) :
    Except InvalidReason Payment :=
  match content with
  | none => .error .unknownContent
  | some content => match settings.token? e.token with
    | none => .error .unknownToken
    | some token => match humanAmount? e.amount token.decimals with
      | none => .error .amountOverflow
      | some amount => .ok ⟨content, token.symbol, amount⟩

/-- The payment of an event, where `content` finds the content of a reference. -/
def screen (settings : ChainSettings) (content : String → Option Id) (e : Event) :
    Except InvalidReason Payment := do
  let found ← reference e
  priced settings e (content found)

/-- Why a payment of an event is not what a transaction expects, if it is not. The address is the
one on file for the transaction's recipient. -/
def mismatch? (expected : Transaction) (address : Option String) (e : Event) (p : Payment) :
    Option InvalidReason :=
  if address.bind (FixedBytes.parse? 20) ≠ some e.creator then some .recipientMismatch
  else if !Text.sameAscii expected.currency p.currency then some .currencyMismatch
  else if !expected.amount.same p.amount then some .amountMismatch
  else match expected.target with
    | some target => if target = p.content then none else some .targetMismatch
    | none => none

/-- What a pending transaction has to be to match a payment to a recipient. -/
def criteria (p : Payment) (recipient : Id) : PaymentCriteria Id :=
  ⟨recipient, p.content, p.currency, p.amount⟩

end Payment

end DonationLedger
