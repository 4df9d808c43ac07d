import DonationLedger.Failure
import DonationLedger.Settings

/-!
# The queue of settlement jobs

A fixed number of workers takes jobs from one channel. From the moment a transaction is enqueued
until its job has ended for good its id is in flight, also while the job waits for its next
attempt, and an id in flight is not enqueued a second time. An attempt that fails is repeated
after a delay, if the failure may pass and attempts are left.

The delay is the base delay after the first attempt, then twice as long each time, up to a longest
delay. The factor is a word of 32 bits, so from the thirty-third attempt on it stays at the largest
word; a product that is too long for a span of time counts as the longest delay.
-/

namespace DonationLedger

/-! ## Delays -/

namespace QueueSettings

/-- By how much the base delay is multiplied after an attempt. -/
def factor (attempt : Nat) : Nat :=
  if attempt - 1 < 32 then power 2 (attempt - 1) else Text.maxWord32

/-- The delay after a failed attempt. Attempts are counted from one. -/
def backoff (s : QueueSettings) (attempt : Nat) : Duration :=
  ((s.backoffBase.times? (factor attempt)).getD s.backoffMax).least s.backoffMax

/-- A delay is never longer than the longest. -/
theorem backoff_le (s : QueueSettings) (attempt : Nat) :
    (s.backoff attempt).nanos ≤ s.backoffMax.nanos := by
  unfold backoff Duration.least
  split
  · assumption
  · exact Nat.le_refl _

end QueueSettings

/-! ## Jobs -/

/-- An attempt at settling a transaction. Attempts are counted from one. -/
structure Job where
  transaction : Id
  attempt : Nat
  deriving DecidableEq, Repr

/-- The jobs by where they are: on their way into the channel, in it, with a worker, or waiting for
their next attempt. -/
structure Queue where
  inFlight : List Id
  sending : List Job
  channel : List Job
  running : List Job
  waiting : List Job
  deriving DecidableEq, Repr

namespace Queue

def empty : Queue := ⟨[], [], [], [], []⟩

instance : Inhabited Queue := ⟨empty⟩

/-- The most workers of which a list can be kept: it has eight bytes for each, and its size is a
signed word. -/
def mostWorkers : Nat := (power 2 63 - 1) / 8

/-- Starts the workers where there is memory for `room` of them, and tells how many they are. `none`
where not all can be started: then none is. -/
def start (s : QueueSettings) (room : Nat) : Option (Nat × Queue) :=
  if s.pool ≤ min room mostWorkers then some (s.pool, empty) else none

/-- The jobs that have not ended. -/
def live (q : Queue) : List Job := q.sending ++ q.channel ++ q.running ++ q.waiting

/-- The first attempt at a transaction. -/
def firstJob (id : Id) : Job := ⟨id, 1⟩

/-- Puts an id in flight, with a job on its way, and tells whether it was not in flight. -/
def claim (q : Queue) (id : Id) : Bool × Queue :=
  if q.inFlight.contains id then (false, q)
  else (true, { q with inFlight := q.inFlight ++ [id], sending := q.sending ++ [firstJob id] })

/-- A job on its way gets into the channel. -/
def send (q : Queue) (job : Job) : Queue :=
  { q with sending := q.sending.erase job, channel := q.channel ++ [job] }

/-- Enqueues a transaction and tells whether it was not in flight. -/
def enqueue (q : Queue) (id : Id) : Bool × Queue :=
  match q.claim id with
  | (true, q) => (true, q.send (firstJob id))
  | (false, q) => (false, q)

/-- A free worker takes the first job from the channel. -/
def take (s : QueueSettings) (q : Queue) : Option (Job × Queue) :=
  match q.channel with
  | [] => none
  | job :: rest =>
    if q.running.length < s.pool then
      some (job, { q with channel := rest, running := q.running ++ [job] })
    else none

/-- What follows the end of an attempt. -/
inductive Ending
  | settled
  | abandoned
  | retry (job : Job) (delay : Duration)
  deriving DecidableEq, Repr

/-- What follows an attempt with this failure, or with none. -/
def ending (s : QueueSettings) (job : Job) : Option Failure → Ending
  | none => .settled
  | some e =>
    if e.retryable && job.attempt < s.maxAttempts then
      .retry ⟨job.transaction, job.attempt + 1⟩ (s.backoff job.attempt)
    else .abandoned

/-- A worker ends an attempt. -/
def finish (q : Queue) (job : Job) : Ending → Queue
  | .settled =>
    { q with running := q.running.erase job, inFlight := q.inFlight.erase job.transaction }
  | .abandoned =>
    { q with running := q.running.erase job, inFlight := q.inFlight.erase job.transaction }
  | .retry next _ =>
    { q with running := q.running.erase job, waiting := q.waiting ++ [next] }

/-- A job that waited goes back into the channel. -/
def resend (q : Queue) (job : Job) : Queue :=
  { q with waiting := q.waiting.erase job, channel := q.channel ++ [job] }

theorem claim_fst (q : Queue) (id : Id) : (q.claim id).1 = !q.inFlight.contains id := by
  unfold claim
  cases q.inFlight.contains id <;> rfl

theorem enqueue_fst (q : Queue) (id : Id) : (q.enqueue id).1 = !q.inFlight.contains id := by
  rw [← claim_fst]
  unfold enqueue
  split <;> simp_all

end Queue

end DonationLedger
