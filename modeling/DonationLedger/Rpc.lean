import DonationLedger.Curation.Event
import DonationLedger.Json
import DonationLedger.Process
import DonationLedger.Url

/-!
# Asking a node

The requests that a node is sent for the three questions, and what its replies mean. Logs are asked
for by the contract and by the first topics of its two shapes, within the bounds that are given. A
node leaves the place of a log open while its block is pending; such a log cannot be applied, so a
reply that holds one is a failure as a whole, never a shorter list. A receipt without a block counts
as missing.
-/

namespace DonationLedger.Rpc

/-- A request: a method and its parameters, if it has any. -/
structure Request where
  method : String
  params : Option Json

/-- A log as a node sends it. -/
structure WireLog where
  address : Address
  topics : List Hash
  data : List UInt8
  block : Option Nat
  hash : Option Hash
  index : Option Nat
  removed : Bool
  deriving DecidableEq

/-- A receipt as a node sends it. -/
structure WireReceipt where
  hash : Hash
  succeeded : Bool
  sender : Address
  recipient : Option Address
  block : Option Nat
  logs : List WireLog
  deriving DecidableEq

/-- What a node replies to a question if it replies at all. -/
def Wire : Query → Type
  | .height => Nat
  | .logs _ _ => List WireLog
  | .receipt _ => Option WireReceipt

/-! ## Requests -/

def method : Query → String
  | .height => "eth_blockNumber"
  | .logs _ _ => "eth_getLogs"
  | .receipt _ => "eth_getTransactionReceipt"

/-- A bound of a filter, left out where there is none. -/
def bound (key : String) : Option Nat → List (String × Json)
  | some n => [(key, .string (Text.writeQuantity n))]
  | none => []

/-- The filter for the logs of a contract within bounds. -/
def filter (contract : Address) (first last : Option Nat) : Json :=
  .object
    (bound "fromBlock" first ++ bound "toBlock" last ++
      [("address", .string contract.spelling),
        ("topics", .array [.array (EventShape.all.map fun s => .string s.topic.spelling)])])

/-- The request for a question. -/
def request (contract : Address) : Query → Request
  | .height => ⟨method .height, none⟩
  | .logs first last =>
    ⟨method (.logs first last), some (.array [filter contract first last])⟩
  | .receipt hash => ⟨method (.receipt hash), some (.array [.string hash.spelling])⟩

/-! ## Replies -/

/-- A log with its place, or what it lacks. -/
def log (w : WireLog) : Except String Log :=
  match w.block with
  | none => .error "log without block number"
  | some block => match w.hash with
    | none => .error "log without transaction hash"
    | some hash => match w.index with
      | none => .error "log without log index"
      | some index => .ok ⟨w.address, w.topics, w.data, block, hash, index, w.removed⟩

/-- All logs in their order, or what the first faulty one lacks. -/
def logs : List WireLog → Except String (List Log)
  | [] => .ok []
  | w :: ws => do
    let l ← log w
    let ls ← logs ws
    .ok (l :: ls)

/-- A receipt with its block, `none` while it has none. -/
def receipt (w : WireReceipt) : Except String (Option Receipt) :=
  match w.block with
  | none => .ok none
  | some block => do
    let ls ← logs w.logs
    .ok (some ⟨w.hash, !w.succeeded, w.sender, w.recipient, block, ls⟩)

/-- What a reply says. -/
def meaning : (q : Query) → Wire q → Except String q.Answer
  | .height, n => .ok n
  | .logs _ _, ws => logs ws
  | .receipt _, none => .ok none
  | .receipt _, some w => receipt w

/-- A node's chain and the contract that it is asked about. -/
structure Reader where
  chain : Chain
  contract : Address
  deriving DecidableEq

/-- What carries requests to a node and brings back its replies, with whatever else comes of it on the way. -/
abbrev Line (m : Type → Type) := (q : Query) → Request → m (Except String (Wire q))

/-- What brings back a reply that depends on nothing but the request. -/
abbrev Connection := (q : Query) → Request → Except String (Wire q)

namespace Reader

/-- A reader of the node at a URL. -/
def connect (chain : Chain) (url : String) (contract : Address) : Except Failure Reader :=
  match Url.fault? url with
  | some fault => .error (.settings (.nodeUrl chain fault))
  | none => .ok ⟨chain, contract⟩

/-- The answer that a reply gives. What went wrong on the way is reported under the method's name. -/
def read (r : Reader) (q : Query) : Except String (Wire q) → Except Failure q.Answer
  | .error text => .error (.node r.chain (method q ++ " failed: " ++ text))
  | .ok wire => match meaning q wire with
    | .ok answer => .ok answer
    | .error text => .error (.node r.chain text)

/-- Asks a question over a line: sends its request and reads the reply. -/
def askOn {m : Type → Type} [Monad m] (r : Reader) (line : Line m) (q : Query) :
    m (Except Failure q.Answer) := do
  let reply ← line q (request r.contract q)
  return r.read q reply

/-- Asks a question. -/
def ask (r : Reader) (c : Connection) (q : Query) : Except Failure q.Answer :=
  Id.run (r.askOn (fun q request => pure (c q request)) q)

end Reader

end DonationLedger.Rpc
