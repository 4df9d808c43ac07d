import DonationLedger.Json.Writer
import DonationLedger.Scenario.Act

/-!
# Playing a scenario

Each step of a scenario has a result, and leaves behind the calls that nodes got meanwhile, the
results of the steps that hooks ran, and the committed rows if they are not what they were after
the step before.

While the clock moves, what comes due happens at its own time, and at one time in the order in
which it came to be due. Jobs and cycles take no time by themselves; a task that waits goes on
when its time has come. A cycle of a schedule comes one interval after the one before it was due. A
cycle that is late by more than five milliseconds begins the count anew.
-/

namespace DonationLedger.Scenario

/-! ## The clock -/

namespace World

/-- A task that waits will go on at its time. One of a schedule that ended is given up instead, and
the chains that it held are free. -/
def await (w : World) : Progress → World
  | none => w
  | some (time, frames) =>
    dropOutdated { w with timers := w.timers ++ [(time, .resume frames)] }

/-- A free worker takes a job, if there is one, and carries it out. -/
def work (depth : Nat) (w : World) : Progress × World :=
  match w.queue.take w.settings with
  | none => (none, w)
  | some (job, queue) =>
    perform (playHook depth) (.job job) []
      ((settle w.registry job.transaction).andThen fun r => .finish (r.map fun _ _ => .null))
      { w with queue := queue }

/-- How late a cycle may be for the next one to come at the time that was planned. -/
def tolerance : Nat := (Duration.ofMillis 5).nanos

/-- When the cycle after one that was due at a time comes. -/
def nextDue (w : World) (due : Nat) : Nat :=
  if due + tolerance < w.now then w.now + w.period else due + w.period

/-- Runs a cycle of a schedule. -/
def runCycle (depth : Nat) (w : World) (schedule : Nat) (chain : Chain) (due : Nat) :
    Progress × World :=
  perform (playHook depth) (.cycle schedule chain (w.nextDue due)) []
    ((DonationLedger.follow w.registry chain).andThen fun r => .finish (r.map fun _ _ => .null)) w

/-- Does what is due. -/
def run (depth : Nat) (w : World) : Errand → World
  | .take =>
    let (progress, w) := w.work depth
    w.await progress
  | .resend job => { w with queue := w.queue.resend job, ready := w.ready ++ [.take] }
  | .cycle schedule chain due =>
    let (progress, w) := w.runCycle depth schedule chain due
    w.await progress
  | .resume frames =>
    let (progress, w) := resume depth frames w
    w.await progress

/-- The earliest of some times. -/
def earliest : List (Nat × Errand) → Option Nat
  | [] => none
  | t :: ts => match earliest ts with
    | some n => some (min t.1 n)
    | none => some t.1

/-- Does what is due up to a time, each errand at its own time, for at most so many errands. -/
def drain (depth last : Nat) : Nat → World → World
  | 0, w => w
  | fuel + 1, w => match w.ready with
    | task :: rest => drain depth last fuel (run depth { w with ready := rest } task)
    | [] => match earliest w.timers with
      | none => w
      | some due =>
        if due ≤ last then
          drain depth last fuel
            { w with
              now := max w.now due
              ready := (w.timers.filter fun t => t.1 ≤ due).map Prod.snd
              timers := w.timers.filter fun t => due < t.1 }
        else w

/-- The shortest time between the cycles of a schedule. -/
def shortestPeriod : Nat := (Duration.ofMillis 1).nanos

/-- More errands than can come due in a span of time, where hooks play at most so many steps, each
of which may enqueue a job, begin a schedule or wait. -/
def errandBound (w : World) (span hookSteps : Nat) : Nat :=
  3 * ((hookSteps + 1) * ((span + tolerance) / shortestPeriod + 3) * (w.registry.length + 1) +
    (w.queue.inFlight.length + hookSteps + 1) * (w.settings.maxAttempts + 2) +
    w.ready.length + w.timers.length + 2)

/-- Moves the clock on to a time. -/
def pass (hookSteps : Nat) (w : World) (time : Nat) : World :=
  { drain (hookSteps + 1) time (w.errandBound (time - w.now) hookSteps) w with
    now := max w.now time }

/-- Moves the clock on until a step that waits has ended. It waits at most as often as is said. -/
def settled (hookSteps : Nat) : Nat → Progress × World → World
  | 0, (_, w) => w
  | _, (none, w) => w
  | fuel + 1, (some (time, frames), w) =>
    settled hookSteps fuel (resume (hookSteps + 1) frames (w.pass hookSteps time))

end World

/-! ## Entries -/

/-- What a step left behind. -/
structure Entry where
  result : Json
  calls : List (Nat × NodeCall)
  during : List Json
  state : Option Json

namespace World

/-- Plays a step of a scenario whose hooks play at most so many steps, and writes down what it
leaves behind. Its own result comes after those of all steps that ran meanwhile. -/
def playEntry (hookSteps : Nat) (w : World) (step : Step) : Entry × World :=
  let after := settled hookSteps (hookSteps + 2)
    (playStep (playHook (hookSteps + 1)) step { w with calls := [], during := [] })
  let state := after.json
  (⟨after.during.getLast?.getD .null, after.calls, after.during.dropLast,
    if state.text = w.json.text then none else some state⟩, after)

/-- Plays steps one after another. -/
def playAll (hookSteps : Nat) (w : World) : List Step → List Entry
  | [] => []
  | step :: steps =>
    let (entry, w) := w.playEntry hookSteps step
    entry :: playAll hookSteps w steps

end World

/-- Whether a step moves the clock, so that its calls are written down with their times. -/
def movesClock : Action → Bool
  | .advance _ => true
  | _ => false

/-- Calls in the order of their times, and of their texts at one time. -/
def timedBefore (a b : Nat × String × Json) : Bool :=
  a.1 < b.1 || (a.1 == b.1 && decide (a.2.1 ≤ b.2.1))

/-- The calls of a step that moved the clock, each with its time. -/
def timedCalls (calls : List (Nat × NodeCall)) : List Json :=
  let timed := calls.map fun c => (Duration.millis ⟨c.1⟩, c.2.json.text, c.2.json)
  (timed.mergeSort timedBefore).map fun c => .array [.ofNat c.1, c.2.2]

/-- An entry of a transcript. What is empty or unchanged is left out. -/
def Entry.json (e : Entry) (timed : Bool) : Json :=
  let calls := if timed then timedCalls e.calls else e.calls.map fun c => c.2.json
  .object
    (("r", e.result) ::
      ((if calls.isEmpty then [] else [("calls", .array calls)]) ++
      (if e.during.isEmpty then [] else [("during", .array e.during)]) ++
      (match e.state with
        | some state => [("state", state)]
        | none => [])))

/-- Plays a scenario from an empty world and returns its transcript. -/
def play (registry : Registry) (settings : QueueSettings) (steps : List Step) : List Json :=
  let entries := World.playAll (hookCounts steps) (World.start registry settings) steps
  (entries.zip steps).map fun e => e.1.json (movesClock e.2.2)

end DonationLedger.Scenario
