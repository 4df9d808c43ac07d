import DonationLedger.Curation.Log
import DonationLedger.Decimal
import DonationLedger.Text.Utf8

/-!
# Curation events

A curator pays a creator for a piece of content, in a token or in the chain's own coin. The
contract writes one log for it, of one shape for tokens and another for the coin; the first topic
tells which, and each shape has its own number of topics.
-/

namespace DonationLedger

/-- A donation as the contract reports it. The amount is in the smallest units. -/
structure Event where
  curator : Address
  creator : Address
  token : Option Address
  uri : String
  amount : Decimal
  deriving DecidableEq

/-- The shapes of the contract's logs. -/
inductive EventShape
  | token
  | coin
  deriving DecidableEq, Repr

namespace EventShape

def all : List EventShape := [token, coin]

/-- The form of the event whose hash is the first topic. -/
def signature : EventShape → String
  | token => "Curation(address,address,address,string,uint256)"
  | coin => "Curation(address,address,string,uint256)"

/-- The first topic of the shape's logs. -/
def topic : EventShape → Hash
  | token => ⟨[0xc2, 0xe4, 0x1b, 0x3d, 0x49, 0xbb, 0xcc, 0xba, 0xc6, 0xce, 0xb1, 0x42, 0xba, 0xd6,
      0x11, 0x96, 0x08, 0xad, 0xf4, 0xf1, 0xee, 0x1c, 0xa5, 0xcc, 0x6f, 0xc3, 0x32, 0xe0, 0xca,
      0x2f, 0xc6, 0x02], rfl⟩
  | coin => ⟨[0xd7, 0xdc, 0x07, 0x22, 0xe6, 0xbc, 0x99, 0x87, 0xe5, 0x05, 0xda, 0x6e, 0xb6, 0xe2,
      0x8f, 0xb6, 0xca, 0xb4, 0x80, 0xd6, 0x22, 0xb4, 0x78, 0x01, 0x11, 0x68, 0x97, 0x62, 0x31,
      0x05, 0x56, 0x94], rfl⟩

/-- How many topics the shape's logs have. -/
def topicCount : EventShape → Nat
  | token => 4
  | coin => 3

/-- The shape of a first topic. -/
def ofTopic? (h : Hash) : Option EventShape := all.find? fun s => s.topic == h

theorem ofTopic?_topic (s : EventShape) : ofTopic? s.topic = some s := by cases s <;> decide

end EventShape

/-- Why a log is no curation event. -/
inductive EventFault
  | unknownTopic
  | topicCount (n : Nat)
  | malformedData
  | amountOverflow
  deriving DecidableEq, Repr

def EventFault.text : EventFault → String
  | unknownTopic => "log is not a curation event"
  | topicCount n => "unexpected topic count " ++ toString n
  | malformedData => "malformed abi data"
  | amountOverflow => "amount does not fit a decimal"

/-- The address in the last 20 bytes of a topic. -/
def Hash.address (h : Hash) : Address :=
  ⟨h.bytes.drop 12, by rw [List.length_drop, h.length_eq]⟩

namespace Event

/-- The event of the topics after the first, with the text and the amount of its data. -/
def assemble (shape : EventShape) (topics : List Hash) (text : List UInt8) (amount : Decimal) :
    Option Event :=
  match shape, topics with
  | .token, [curator, creator, token] =>
    some ⟨curator.address, creator.address, some token.address, Text.utf8Lossy text, amount⟩
  | .coin, [curator, creator] =>
    some ⟨curator.address, creator.address, none, Text.utf8Lossy text, amount⟩
  | _, _ => none

/-- The event that a log reports. Who wrote the log is for the caller to check. -/
def ofLog (log : Log) : Except EventFault Event :=
  match log.topics with
  | [] => .error .unknownTopic
  | first :: rest => match EventShape.ofTopic? first with
    | none => .error .unknownTopic
    | some shape =>
      if log.topics.length ≠ shape.topicCount then .error (.topicCount log.topics.length)
      else match Abi.decode? log.data with
        | none => .error .malformedData
        | some (text, amount) => match Decimal.ofNat? amount with
          | none => .error .amountOverflow
          | some amount => match assemble shape rest text amount with
            | some event => .ok event
            | none => .error (.topicCount log.topics.length)

end Event

/-- The reference to the content of a URI of the form `ipfs://` and ASCII letters and digits. -/
def contentReference? (uri : String) : Option String :=
  match uri.toList with
  | 'i' :: 'p' :: 'f' :: 's' :: ':' :: '/' :: '/' :: rest =>
    if rest.isEmpty || !rest.all Char.isAlphanum then none else some (String.ofList rest)
  | _ => none

/-- An amount in smallest units as an amount of the currency, `none` beyond 28 places. -/
def humanAmount? (units : Decimal) (decimals : Nat) : Option Decimal :=
  (units.withScale? decimals).map Decimal.trimmed

end DonationLedger
