import DonationLedger.Report
import DonationLedger.Web.Route

/-!
# Answers of the web interface

What the operations of the web interface find, and the answers that clients get for it. A failure
is answered with its status, its code and a message that says nothing about the inside of the
ledger.
-/

namespace DonationLedger.Web

/-- An answer: a status and a body, if there is one. -/
structure Response where
  status : Nat
  body : Option Json

/-- What an operation found. -/
inductive Finding
  | health (inFlight : Nat) (chains : List (Chain × Option Checkpoint))
  | enqueued (id : Id) (queued : Bool)
  | cycle (report : CycleReport)
  | checkpoint (stored : Checkpoint)
  deriving DecidableEq, Repr

/-- The chain of a named piece of a path. -/
def chain (text : String) : Except Failure Chain :=
  match Chain.parse text with
  | .ok c => .ok c
  | .error e => .error (.invalidInput (.unknownChain e))

/-- Runs one cycle on the named chain. -/
def follow (r : Registry) (text : String) : Process Finding := do
  let c ← Process.ofExcept (chain text)
  let report ← DonationLedger.follow r c
  pure (.cycle report)

/-- Looks up the checkpoint of the named chain. -/
def checkpoint (r : Registry) (text : String) : Process Finding := do
  let c ← Process.ofExcept (chain text)
  match ← storedCheckpoint r c with
  | some stored => pure (.checkpoint stored)
  | none => .fail (.notFound (.checkpoint c))

/-- The checkpoints of chains. -/
def checkpoints (r : Registry) : List Chain → Process (List (Chain × Option Checkpoint))
  | [] => pure []
  | c :: cs => do
    let stored ← storedCheckpoint r c
    let rest ← checkpoints r cs
    pure ((c, stored) :: rest)

/-- How the service fares, with so many jobs in flight. -/
def health (r : Registry) (inFlight : Nat) : Process Finding := do
  let found ← checkpoints r r.chains
  pure (.health inFlight found)

def chainStatus (c : Chain × Option Checkpoint) : Json :=
  .object
    [("chain", c.1.json), ("chain_id", .ofInt c.1.id),
      ("checkpoint", Report.block? (c.2.map Checkpoint.block))]

namespace Finding

def status : Finding → Nat
  | enqueued _ _ => 202
  | _ => 200

def json (name : Id → String) : Finding → Json
  | health inFlight chains =>
    .object
      [("status", .string "healthy"), ("settlements_in_flight", .ofNat inFlight),
        ("chains", .array (chains.map chainStatus))]
  | enqueued id queued =>
    .object [("transaction_id", .string (name id)), ("queued", .bool queued)]
  | cycle report => report.json
  | checkpoint stored =>
    .object
      [("chain", stored.chain.json), ("chain_id", .ofInt stored.chain.id),
        ("block_number", .ofInt stored.block)]

end Finding

/-- What a client is told about a failure. -/
def failureBody (name : Id → String) (e : Failure) : Json :=
  .object [("error", .string (e.publicMessage name)), ("error_code", .string e.code)]

/-- The answer for what an operation found. -/
def answer (name : Id → String) : Except Failure Finding → Response
  | .ok found => ⟨found.status, some (found.json name)⟩
  | .error e => ⟨e.status, some (failureBody name e)⟩

def refuse (r : Refusal) : Response := ⟨r.status, none⟩

/-- The answer as a request for the head only gets it. -/
def Response.head (r : Response) : Response := { r with body := none }

end DonationLedger.Web
