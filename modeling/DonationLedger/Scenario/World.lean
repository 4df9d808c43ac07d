import DonationLedger.Report
import DonationLedger.Scenario.Step
import DonationLedger.Scenario.Task

/-!
# The world of a scenario

Everything that a scenario plays with: the ledger, nodes that answer what they were told to, the
queue, the chains that a cycle holds, and a clock that only moves when a step moves it. What is to
happen is a list of errands that are due now, in their order, and a list of errands for later.

A call of a node is written down first, then a hook that waits for it runs, and then the call
fails or is answered.
-/

namespace DonationLedger.Scenario

/-- A call of a node. -/
structure NodeCall where
  chain : Chain
  query : Query
  deriving DecidableEq

/-- A call as it stands in a transcript. -/
def NodeCall.json (c : NodeCall) : Json :=
  let argument := match c.query with
    | .height => Json.null
    | .receipt hash => .string hash.spelling
    | .logs first last =>
      .array [Json.ofOption Json.ofNat first, Json.ofOption Json.ofNat last]
  .array [c.chain.json, .string (CallKind.ofQuery c.query).name, argument]

/-- A receipt that a node has, and how many more times it is asked for in vain. -/
structure StoredReceipt where
  found : Hash
  receipt : Receipt
  after : Nat
  deriving DecidableEq

/-- What a node will answer. -/
structure Node where
  chain : Chain
  receipts : List StoredReceipt
  logs : List Log
  height : Nat
  failing : List CallKind

namespace Node

/-- The node with a receipt in place of any other under the same hash. -/
def putReceipt (r : StoredReceipt) (n : Node) : Node :=
  { n with receipts := n.receipts.filter (fun s => s.found != r.found) ++ [r] }

/-- The node after it was asked for a receipt once more. -/
def countDown (hash : Hash) (n : Node) : Node :=
  { n with receipts := n.receipts.map fun s =>
      if s.found = hash then { s with after := s.after - 1 } else s }

/-- Whether a log lies within bounds, where a missing bound does not bind. -/
def within (first last : Option Nat) (log : Log) : Bool :=
  first.all (fun n => n ≤ log.block) && last.all fun n => log.block ≤ n

/-- The answer of a node, and the node after it. -/
def answer (n : Node) : (q : Query) → q.Answer × Node
  | .height => (n.height, n)
  | .logs first last => (n.logs.filter (within first last), n)
  | .receipt hash => match n.receipts.find? fun s => s.found == hash with
    | some s => (if s.after = 0 then some s.receipt else none, n.countDown hash)
    | none => (none, n)

end Node

/-- Steps that wait for a call. -/
structure Hook where
  chain : Chain
  kind : CallKind
  steps : List Step

/-- The whole world. Times are in nanoseconds. The schedule in force, if any is, has the number
`schedules`, and its cycles come at every `period`. -/
structure World where
  registry : Registry
  settings : QueueSettings
  session : Session
  names : Names
  nodes : List Node
  hooks : List Hook
  busy : List Chain
  queue : Queue
  now : Nat
  ready : List Errand
  timers : List (Nat × Errand)
  schedules : Nat
  period : Nat
  calls : List (Nat × NodeCall)
  during : List Json

namespace World

/-- A world with nothing in it. -/
def start (registry : Registry) (settings : QueueSettings) : World :=
  { registry := registry
    settings := settings
    session := .start
    names := []
    nodes := registry.map fun d => ⟨d.chain, [], [], 0, []⟩
    hooks := []
    busy := []
    queue := .empty
    now := 0
    ready := []
    timers := []
    schedules := 0
    period := 0
    calls := []
    during := [] }

/-- The name that an id is shown under. -/
def shown (w : World) (id : Id) : String := w.names.shown id

/-- The id that a name stands for. -/
def meaning (w : World) (name : String) : Id := w.names.meaning w.session.supply name

/-- The rows that are committed. -/
def json (w : World) : Json := w.session.ledger.json w.shown

/-! ## Nodes -/

/-- The world with the node of a chain changed. -/
def changeNode (w : World) (chain : Chain) (f : Node → Node) : World :=
  { w with nodes := w.nodes.map fun n => if n.chain = chain then f n else n }

/-- The oldest hook that waits for a call, and the others. -/
def popHook (chain : Chain) (kind : CallKind) : List Hook → Option (List Step × List Hook)
  | [] => none
  | h :: hs =>
    if h.chain = chain ∧ h.kind = kind then some (h.steps, hs)
    else (popHook chain kind hs).map fun r => (r.1, h :: r.2)

/-- The failure of a call that a node was told to fail. -/
def unreachable (chain : Chain) : Failure := .node chain "node unreachable"

/-- Writes a call down. -/
def noteCall (w : World) (chain : Chain) (q : Query) : World :=
  { w with calls := w.calls ++ [(w.now, ⟨chain, q⟩)] }

/-- The node of a chain fails a call or answers it. -/
def reply (w : World) (chain : Chain) (q : Query) : Except Failure q.Answer × World :=
  match w.nodes.find? fun n => n.chain == chain with
  | none => (.error (unreachable chain), w)
  | some n =>
    if n.failing.contains (CallKind.ofQuery q) then (.error (unreachable chain), w)
    else
      let (answer, n) := n.answer q
      (.ok answer, w.changeNode chain fun _ => n)

/-! ## The end of a task -/

/-- The world with the limits of before in place of those that a step had. -/
def restored (w : World) (l : Limits) (before : Faults) : World :=
  let faults := { w.session.faults with
    writesLeft := if l.writes.isSome then before.writesLeft else w.session.faults.writesLeft
    hiddenLookups :=
      if l.hiddenLookups.isSome then before.hiddenLookups else w.session.faults.hiddenLookups }
  { w with session := { w.session with faults := faults } }

/-- Ends a step with its result. -/
def tell (w : World) (l : Limits) (before : Faults) (result : Json) : World :=
  let w := w.restored l before
  { w with during := w.during ++ [result] }

/-- A worker ends an attempt, which may have failed, and is free. -/
def endJob (w : World) (job : Job) (failure : Option Failure) : World :=
  let ending := Queue.ending w.settings job failure
  let w : World := { w with queue := w.queue.finish job ending }
  let w : World := match ending with
    | .retry next delay =>
      { w with timers := w.timers ++ [(w.now + delay.nanos, .resend next)] }
    | _ => w
  if w.queue.channel.isEmpty then w else { w with ready := w.ready ++ [.take] }

/-- Sees to the next cycle of a schedule, unless the schedule ended. A cycle that is late comes at
once. -/
def endCycle (w : World) (schedule : Nat) (chain : Chain) (next : Nat) : World :=
  if w.schedules ≠ schedule then w
  else if next ≤ w.now then { w with ready := .cycle schedule chain next :: w.ready }
  else { w with timers := w.timers ++ [(next, .cycle schedule chain next)] }

/-- Ends a process. -/
def conclude (w : World) (r : Except Failure Shown) : Ending → World
  | .result l before => w.tell l before (Report.result w.shown (fun result => result w.shown) r)
  | .job job => w.endJob job (match r with
    | .ok _ => none
    | .error e => some e)
  | .cycle schedule chain next => w.endCycle schedule chain next

/-! ## Processes -/

/-- Runs a process that holds chains until it ends or waits. The first argument plays the steps of
hooks. -/
def perform (fire : List Step → World → Progress × World) (ending : Ending) :
    (held : List Chain) → Process Shown → World → Progress × World
  | _, .finish r, w => (none, w.conclude r ending)
  | held, .ledger work next, w =>
    let (r, session) := w.session.commit work
    perform fire ending held (next r) { w with session := session }
  | held, .content reference next, w =>
    perform fire ending held (next (.ok (w.session.ledger.content? reference))) w
  | held, .node chain q next, w =>
    let w := w.noteCall chain q
    let (progress, w) := match popHook chain (CallKind.ofQuery q) w.hooks with
      | some (steps, hooks) => fire steps { w with hooks := hooks }
      | none => (none, w)
    match progress with
    | some (time, frames) => (some (time, frames ++ [.call chain q next held ending]), w)
    | none =>
      let (r, w) := w.reply chain q
      perform fire ending held (next r) w
  | held, .acquire chain next, w =>
    if w.busy.contains chain then perform fire ending held (next false) w
    else perform fire ending (chain :: held) (next true) { w with busy := chain :: w.busy }
  | held, .release chain next, w =>
    perform fire ending (held.erase chain) next { w with busy := w.busy.erase chain }

/-! ## What is to happen -/

/-- Enqueues a transaction. A free worker will take it. -/
def enqueue (w : World) (id : Id) : Bool × World :=
  let (queued, queue) := w.queue.enqueue id
  (queued, { w with queue := queue, ready := if queued then w.ready ++ [.take] else w.ready })

/-- Gives up errands of other schedules than the one in force, and frees the chains that their
tasks hold. -/
def dropOutdated (w : World) : World :=
  let outdated := (w.ready ++ w.timers.map Prod.snd).filter (Errand.isOutdated w.schedules)
  { w with
    ready := w.ready.filter fun t => !t.isOutdated w.schedules
    timers := w.timers.filter fun t => !t.2.isOutdated w.schedules
    busy := (outdated.flatMap Errand.held).foldl List.erase w.busy }

/-- Ends the schedule in force and begins another one at an interval. -/
def schedule (w : World) (interval : Option Nat) : Nat × World :=
  let w := dropOutdated { w with schedules := w.schedules + 1 }
  match interval with
  | none => (0, w)
  | some 0 => (w.registry.length, w)
  | some period =>
    (w.registry.length, { w with
      period := period
      ready := w.ready ++ w.registry.chains.map fun c => .cycle w.schedules c w.now })

end World

end DonationLedger.Scenario
