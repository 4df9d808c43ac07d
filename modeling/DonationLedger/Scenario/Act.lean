import DonationLedger.Scenario.World
import DonationLedger.Web.Answer

/-!
# What steps do

A step has its result at once, or is a process that runs, or waits for the clock. The limits of a
step end with it. Steps of a hook share the limits of the step that they interrupt, unless they
have their own.
-/

namespace DonationLedger.Scenario

/-- What a step comes to: its result, a process that ends with it, or a time to wait for. -/
inductive Deed : Type 1
  | done (result : Json)
  | process (p : Process Shown)
  | wait (time : Nat)

namespace World

/-- A process whose result is shown. -/
def showing {α : Type} (f : (Id → String) → α → Json) (p : Process α) : Deed :=
  .process (p.andThen fun r => .finish (r.map fun a shown => f shown a))

/-- An operation on a registered chain. -/
def onChain {α : Type} (w : World) (chain : Chain) (p : Deployment → Process α) : Process α :=
  match w.registry.require chain with
  | .ok d => p d
  | .error e => .fail e

/-- The id of the row that a call created. -/
def createdId? (call : Call Id) (row : Row) : Option Id :=
  match call, row with
  | .createTransaction _, .transaction t => some t.id
  | .createBlockchainTransaction _, .blockchainTransaction b => some b.id
  | _, _ => none

/-- Makes the calls of a ledger transaction one after another. -/
def makeCalls (w : World) : List NamedCall → List Json × World
  | [] => ([], w)
  | c :: cs =>
    let call := c.call.map w.meaning
    let (r, session) := call.run w.session
    let created := match r with
      | .ok row => createdId? call row
      | .error _ => none
    let names := match created with
      | some id => w.names.giveSome c.name id
      | none => w.names
    let w : World := { w with session := session, names := names }
    let result := Report.result w.shown (Row.json w.shown) r
    let (results, w) := makeCalls w cs
    (result :: results, w)

/-- Makes the calls of a ledger transaction, and commits or drops it. -/
def transact (w : World) (calls : List NamedCall) (commit : Bool) : Json × World :=
  let (results, after) := w.makeCalls calls
  let session := if commit then after.session else w.session.dropped after.session
  (.array results, { after with session := session })

/-- Stores an expected payment and gives its transaction a name. -/
def seed (w : World) (name : Option String) (chain : Chain) (hash : Hash)
    (draft : TransactionDraft String) : Json × World :=
  let (r, session) := w.session.prepare (Work.seedPayment chain hash (draft.map w.meaning))
  let names := match r with
    | .ok (t, _) => w.names.giveSome name t.id
    | .error _ => w.names
  let w : World := { w with session := session, names := names }
  (Report.result w.shown (fun rows => .array [rows.1.json w.shown, rows.2.json w.shown]) r, w)

def fetchedJson (f : FetchedWindow) : Json :=
  .object
    [("plan", f.window.json), ("new_checkpoint", .ofNat f.window.checkpoint),
      ("logs", .array (f.logs.map fun log =>
        .array [.ofNat log.block, .ofNat log.index, .string log.hash.spelling]))]

/-! ## The web interface -/

/-- The text that stands for an id in a path. -/
def idMark : String := "\x7bid\x7d"

/-- The id that a named row goes by in a path. -/
def pathId : String := "1d000000-0000-4000-8000-0000000001d0"

def responseJson (r : Web.Response) : Json :=
  .object [("status", .ofNat r.status), ("body", r.body.getD .null)]

/-- Carries out a request whose answer is turned into another one at the end. -/
def request (w : World) (f : Web.Response → Web.Response) (method path : String)
    (row : Option String) : Deed × World :=
  let path := if row.isSome then pathId.intercalate (path.splitOn idMark) else path
  let asking (p : Process Web.Finding) : Deed × World :=
    (.process (p.andThen fun r =>
      .finish (.ok fun shown => responseJson (f (Web.answer shown r)))), w)
  match Web.route method path with
  | .error refusal => (.done (responseJson (f (Web.refuse refusal))), w)
  | .ok (.enqueue id) =>
    let id := match row with
      | some name => if id = .foreign pathId then w.meaning name else id
      | none => id
    let (queued, w) := w.enqueue id
    (.done (responseJson (f (Web.answer w.shown (.ok (.enqueued id queued))))), w)
  | .ok .health => asking (Web.health w.registry w.queue.inFlight.length)
  | .ok (.follow chain) => asking (Web.follow w.registry chain)
  | .ok (.checkpoint chain) => asking (Web.checkpoint w.registry chain)

/-! ## Steps -/

/-- What the clock shows, and how many jobs are in flight. -/
def clockJson (w : World) : Json :=
  .object
    [("now", .ofNat (Duration.millis ⟨w.now⟩)), ("in_flight", .ofNat w.queue.inFlight.length)]

/-- Does what a step does before anything else can happen. -/
def act (w : World) : Action → Deed × World
  | .user name address =>
    let (id, session) := w.session.addUser address
    (.done (.string name), { w with session := session, names := w.names.give name id })
  | .content name reference =>
    let (id, session) := w.session.addContent reference
    (.done (.string name), { w with session := session, names := w.names.give name id })
  | .seed name chain hash draft =>
    let (result, w) := w.seed name chain hash draft
    (.done result, w)
  | .receipt chain receipt found after =>
    (.done .null, w.changeNode chain (Node.putReceipt ⟨found, receipt, after⟩))
  | .logs chain logs => (.done .null, w.changeNode chain fun n => { n with logs := n.logs ++ logs })
  | .height chain height => (.done .null, w.changeNode chain fun n => { n with height := height })
  | .failing chain kinds => (.done .null, w.changeNode chain fun n => { n with failing := kinds })
  | .failWrites fail =>
    let faults := { w.session.faults with rejecting := fail }
    (.done .null, { w with session := { w.session with faults := faults } })
  | .hook chain kind steps => (.done .null, { w with hooks := w.hooks ++ [⟨chain, kind, steps⟩] })
  | .resolve chain b t =>
    (showing (fun _ => Outcome.json)
      (w.onChain chain fun d => resolveReceipt d (w.meaning b) (w.meaning t)), w)
  | .apply chain log => (showing Applied.json (w.onChain chain fun d => applyLog d log), w)
  | .settle t => (showing Settled.json (settle w.registry (w.meaning t)), w)
  | .follow chain =>
    (showing (fun _ => CycleReport.json) (DonationLedger.follow w.registry chain), w)
  | .fetchWindow chain checkpoint =>
    (showing (fun _ => fetchedJson) (w.onChain chain fun d => d.fetchWindow checkpoint), w)
  | .checkpoint chain =>
    (showing (fun _ => Json.ofOption Checkpoint.json) (storedCheckpoint w.registry chain), w)
  | .chains => (.done (.array (w.registry.chains.map Chain.json)), w)
  | .ledger calls commit =>
    let (result, w) := w.transact calls commit
    (.done result, w)
  | .enqueue t =>
    let (queued, w) := w.enqueue (w.meaning t)
    (.done (.bool queued), w)
  | .inFlight t =>
    (.done (.object
      [("count", .ofNat w.queue.inFlight.length),
        ("transaction", .bool (w.queue.inFlight.contains (w.meaning t)))]), w)
  | .schedule interval =>
    let (loops, w) := w.schedule (interval.map fun n => (Duration.ofMillis n).nanos)
    (.done (.ofNat loops), w)
  | .advance millis => (.wait (w.now + (Duration.ofMillis millis).nanos), w)
  | .http method path row =>
    w.request (if method == "HEAD" then Web.Response.head else id) method path row

/-- The world with a step's own limits in force. -/
def limited (w : World) (l : Limits) : World :=
  let faults := { w.session.faults with
    writesLeft := l.writes <|> w.session.faults.writesLeft
    hiddenLookups := l.hiddenLookups.getD w.session.faults.hiddenLookups }
  { w with session := { w.session with faults := faults } }

/-- Plays a step within its limits until it ends or waits. The first argument plays the steps of
hooks. -/
def playStep (fire : List Step → World → Progress × World) (step : Step) (w : World) :
    Progress × World :=
  let before := w.session.faults
  let (deed, w) := (w.limited step.1).act step.2
  match deed with
  | .done result => (none, w.tell step.1 before result)
  | .process p => perform fire (.result step.1 before) [] p w
  | .wait time => (some (time, [.clock step.1 before]), w)

/-- Plays steps until they end or one of them waits. -/
def playSteps (fire : List Step → World → Progress × World) :
    List Step → World → Progress × World
  | [], w => (none, w)
  | step :: rest, w => match playStep fire step w with
    | (none, w) => playSteps fire rest w
    | (some (time, frames), w) => (some (time, frames ++ [.steps rest]), w)

/-- Plays the steps of a hook. As many hooks may run inside each other as `depth` says. -/
def playHook : (depth : Nat) → List Step → World → Progress × World
  | 0, _, w => (none, w)
  | depth + 1, steps, w => playSteps (playHook depth) steps w

/-- Does what one frame of a task says. -/
def enter (depth : Nat) (w : World) : Frame → Progress × World
  | .clock l before => (none, w.tell l before w.clockJson)
  | .steps rest => playSteps (playHook depth) rest w
  | .call chain q next held ending =>
    let (r, w) := w.reply chain q
    perform (playHook depth) ending held (next r) w

/-- Goes on with a task that waited. -/
def resume (depth : Nat) : List Frame → World → Progress × World
  | [], w => (none, w)
  | frame :: rest, w => match enter depth w frame with
    | (none, w) => resume depth rest w
    | (some (time, frames), w) => (some (time, frames ++ rest), w)

end World

end DonationLedger.Scenario
