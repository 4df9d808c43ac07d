import DonationLedger.Json
import DonationLedger.Ledger.Work
import DonationLedger.Queue
import DonationLedger.Scenario.Step

/-!
# Tasks of a scenario

Jobs, cycles and the steps of a scenario are tasks. A task runs until it ends or waits for a time,
which only the step that moves the clock makes it do. What it is to do then is kept as frames: the
innermost comes first, and each goes on where the one before it ended.
-/

namespace DonationLedger.Scenario

/-- A result, to be shown with the names that rows have at its time. -/
abbrev Shown := (Id → String) → Json

/-- What follows the end of a process. -/
inductive Ending
  /-- A step has its result, and the limits of before are in force again. -/
  | result (limits : Limits) (before : Faults)
  /-- A worker is free. -/
  | job (job : Job)
  /-- The next cycle of the schedule comes at its time. -/
  | cycle (schedule : Nat) (chain : Chain) (next : Nat)
  deriving DecidableEq, Repr

/-- A part of what a waiting task is to do. -/
inductive Frame : Type 1
  /-- A step that moved the clock has its result. -/
  | clock (limits : Limits) (before : Faults)
  /-- The other steps of a hook are played. -/
  | steps (rest : List Step)
  /-- A node answers the call that a hook interrupted, and a process that holds chains goes on. -/
  | call (chain : Chain) (query : Query) (next : Except Failure query.Answer → Process Shown)
    (held : List Chain) (ending : Ending)

namespace Frame

/-- The chains that the frame's process holds. -/
def held : Frame → List Chain
  | call _ _ _ held _ => held
  | _ => []

/-- Whether the frame is a cycle of another schedule than the one of this number. -/
def isOutdated (schedule : Nat) : Frame → Bool
  | call _ _ _ _ (.cycle number _ _) => number != schedule
  | _ => false

end Frame

/-- What a task came to: `none` if it ended, or the time that it waits for and its frames. -/
abbrev Progress := Option (Nat × List Frame)

/-- Something that is to happen. A cycle has the number of the schedule that it comes from and the
time that it was due. -/
inductive Errand : Type 1
  | take
  | resend (job : Job)
  | cycle (schedule : Nat) (chain : Chain) (due : Nat)
  | resume (frames : List Frame)

namespace Errand

/-- Whether the errand belongs to another schedule than the one of this number. -/
def isOutdated (schedule : Nat) : Errand → Bool
  | cycle number _ _ => number != schedule
  | resume frames => frames.any (Frame.isOutdated schedule)
  | _ => false

/-- The chains that the errand's task holds. -/
def held : Errand → List Chain
  | resume frames => frames.flatMap Frame.held
  | _ => []

end Errand

end DonationLedger.Scenario
