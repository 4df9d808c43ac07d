import DonationLedger.Curation.Log
import DonationLedger.Ledger.Work
import DonationLedger.Settings

/-!
# Processes

An operation that spans several ledger transactions and talks to nodes in between is a process:
it makes one request after another and goes on with each answer. Nothing of the ledger is held
while a node is asked, so between any two requests of one process other processes may run. How
requests are answered is not part of a process.
-/

namespace DonationLedger

/-- A question to the node of a chain. -/
inductive Query
  | height
  | logs (first last : Option Nat)
  | receipt (hash : Hash)
  deriving DecidableEq

/-- What a node answers if it does not fail. A receipt is missing until its block is mined. -/
def Query.Answer : Query → Type
  | height => Nat
  | logs _ _ => List Log
  | receipt _ => Option Receipt

/-- A chain's settings, and the contract that its node watches. -/
structure Deployment where
  settings : ChainSettings
  contract : Address
  deriving DecidableEq

namespace Deployment

def chain (d : Deployment) : Chain := d.settings.chain

end Deployment

/-- The deployments, at most one for a chain. -/
abbrev Registry := List Deployment

namespace Registry

def find? (r : Registry) (chain : Chain) : Option Deployment :=
  List.find? (fun d => d.chain == chain) r

/-- The registry with a deployment in place of any other of its chain. -/
def register (r : Registry) (d : Deployment) : Registry :=
  r.filter (fun e => e.chain != d.chain) ++ [d]

/-- The chains of the registry in the order of their numbers. -/
def chains (r : Registry) : List Chain := (r.map Deployment.chain).mergeSort Chain.before

end Registry

/-- An operation that ends with an `α` or a failure. -/
inductive Process (α : Type) : Type 1
  | finish (result : Except Failure α)
  | ledger {β : Type} (work : Work β) (next : Except Failure β → Process α)
  | content (reference : String) (next : Except Failure (Option Id) → Process α)
  | node (chain : Chain) (query : Query) (next : Except Failure query.Answer → Process α)
  | acquire (chain : Chain) (next : Bool → Process α)
  | release (chain : Chain) (next : Process α)

namespace Process

variable {α β : Type}

/-- The process that goes on with the result of the first, also if that is a failure. -/
def andThen : Process α → (Except Failure α → Process β) → Process β
  | finish r, k => k r
  | ledger w next, k => ledger w fun r => (next r).andThen k
  | content ref next, k => content ref fun r => (next r).andThen k
  | node chain q next, k => node chain q fun r => (next r).andThen k
  | acquire chain next, k => acquire chain fun b => (next b).andThen k
  | release chain next, k => release chain (next.andThen k)

/-- The process that goes on if the first does not fail. -/
def bind (p : Process α) (k : α → Process β) : Process β :=
  p.andThen fun
    | .ok a => k a
    | .error e => finish (.error e)

instance : Monad Process where
  pure a := finish (.ok a)
  bind := bind

/-- Ends with a failure. -/
def fail (e : Failure) : Process α := finish (.error e)

/-- Ends with a result that is already there. -/
def ofExcept (r : Except Failure α) : Process α := finish r

/-- One ledger transaction, committed if it does not fail. -/
def commit (w : Work α) : Process α := ledger w finish

/-- Looks a content reference up. -/
def findContent (reference : String) : Process (Option Id) := content reference finish

/-- Asks the node of a chain. -/
def ask (chain : Chain) (q : Query) : Process q.Answer := node chain q finish

/-- Runs a process unless another one holds the chain. The chain is given free at the end, also
after a failure. -/
def exclusively (chain : Chain) (busy : α) (p : Process α) : Process α :=
  acquire chain fun free =>
    if free then p.andThen fun r => release chain (finish r)
    else finish (.ok busy)

end Process

end DonationLedger
