import DonationLedger.Resolution.Event
import DonationLedger.Resolution.Receipt
import DonationLedger.Text.Basic

/-!
# Following a chain

One cycle picks the window after the stored checkpoint, asks the node for its logs, applies them
in the order of their places on the chain, and only then moves the checkpoint. So a cycle that
stops halfway is gone through again, never passed over. At most one cycle runs on a chain at a
time; a second one reports that the chain is busy and does nothing.

Which blocks of a chain to go through next. Only blocks deep enough below the head are final, so
only they are read, and a window has a largest size. The first time on a chain nothing of the past
is read: the node answers with what it has, and following starts at the last final block.

Numbers of blocks are words of 64 bits. A sum that would leave them stays at the largest word.
-/

namespace DonationLedger

/-! ## Windows -/

/-- What to read next. -/
inductive Window
  | coldStart (safe : Nat)
  | upToDate (checkpoint : Nat)
  | range (first last : Nat)
  deriving DecidableEq, Repr

namespace Window

/-- A sum of words that stays within a word. -/
def plus (a b : Nat) : Nat := min (a + b) Text.maxWord64

/-- The last final block below a head. -/
def safeHeight (height depth : Nat) : Nat := height - depth

/-- The window after a checkpoint. -/
def plan (checkpoint : Option Nat) (height depth size : Nat) : Window :=
  let safe := safeHeight height depth
  match checkpoint with
  | none => coldStart safe
  | some c =>
    if plus c 1 > safe then upToDate c
    else range (plus c 1) (min (plus c (max size 1)) safe)

/-- The checkpoint once the window was gone through. -/
def checkpoint : Window → Nat
  | coldStart safe => safe
  | upToDate c => c
  | range _ last => last

/-- The bounds to ask the node for, if it is asked at all. -/
def bounds? : Window → Option (Option Nat × Option Nat)
  | coldStart _ => some (none, none)
  | upToDate _ => none
  | range first last => some (some first, some last)

theorem plus_eq {a b : Nat} (h : a + b ≤ Text.maxWord64) : plus a b = a + b := Nat.min_eq_left h

/-- A window is never empty and never above the last final block. -/
theorem plan_range {c height depth size first last : Nat}
    (h : plan (some c) height depth size = range first last) :
    first ≤ last ∧ last ≤ safeHeight height depth := by
  simp only [plan] at h
  split at h
  · cases h
  · next hle =>
    cases h
    refine ⟨?_, Nat.min_le_right _ _⟩
    simp only [plus] at hle ⊢
    omega

end Window

/-! ## Cycles -/

/-- The logs of a window, ready to be applied. -/
structure FetchedWindow where
  window : Window
  logs : List Log
  deriving DecidableEq

/-- How many logs of a cycle had which result. -/
structure Tally where
  removed : Nat
  malformed : Nat
  invalid : Nat
  linked : Nat
  rejected : Nat
  created : Nat
  alreadySettled : Nat
  deriving DecidableEq, Repr

namespace Tally

def zero : Tally := ⟨0, 0, 0, 0, 0, 0, 0⟩

/-- The tally after one more result. -/
def add (t : Tally) : Applied → Tally
  | .removed => { t with removed := t.removed + 1 }
  | .malformed => { t with malformed := t.malformed + 1 }
  | .invalid _ => { t with invalid := t.invalid + 1 }
  | .linked _ => { t with linked := t.linked + 1 }
  | .rejected _ => { t with rejected := t.rejected + 1 }
  | .created _ => { t with created := t.created + 1 }
  | .alreadySettled _ => { t with alreadySettled := t.alreadySettled + 1 }

def total (t : Tally) : Nat :=
  t.removed + t.malformed + t.invalid + t.linked + t.rejected + t.created + t.alreadySettled

theorem total_add (t : Tally) (a : Applied) : (t.add a).total = t.total + 1 := by
  cases a <;> simp only [add, total] <;> omega

end Tally

/-- What a cycle did. -/
structure CycleReport where
  chain : Chain
  busy : Bool
  previous : Option Nat
  checkpoint : Option Nat
  window : Option Window
  logs : Nat
  tally : Tally
  deriving DecidableEq, Repr

/-- The report of a cycle that found another one running. -/
def CycleReport.occupied (chain : Chain) : CycleReport :=
  ⟨chain, true, none, none, none, 0, .zero⟩

namespace Deployment

/-- The logs up to a block, in the order of their places. -/
def confirmed (last : Nat) (logs : List Log) : List Log :=
  (logs.filter fun log => log.block ≤ last).mergeSort Log.before

/-- Picks the window after a checkpoint and asks for its logs. -/
def fetchWindow (d : Deployment) (checkpoint : Option Nat) : Process FetchedWindow := do
  let height ← Process.ask d.chain .height
  let window := Window.plan checkpoint height d.settings.confirmationDepth d.settings.windowSize
  match window.bounds? with
  | none => pure ⟨window, []⟩
  | some (first, last) =>
    let logs ← Process.ask d.chain (.logs first last)
    pure ⟨window, confirmed window.checkpoint logs⟩

/-- Applies logs one after another. -/
def applyLogs (d : Deployment) : Tally → List Log → Process Tally
  | tally, [] => pure tally
  | tally, log :: logs => do
    let result ← applyLog d log
    applyLogs d (tally.add result) logs

end Deployment

namespace Work

/-- The stored checkpoint of a chain as a block number. -/
def findFollowed (chain : Chain) : Work (Option Nat) := do
  match ← findCheckpoint chain with
  | none => pure none
  | some c =>
    if c.block < 0 then throw (.ledger (.negativeCheckpoint c.block))
    else pure (some c.block.toNat)

end Work

/-- The stored checkpoint of a registered chain. -/
def storedCheckpoint (r : Registry) (chain : Chain) : Process (Option Checkpoint) := do
  let _ ← Process.ofExcept (r.require chain)
  Process.commit (Work.findCheckpoint chain)

/-- Moves the checkpoint of a chain, unless it is there already. -/
def moveCheckpoint (chain : Chain) (previous : Option Nat) (block : Nat) : Process Unit :=
  if previous = some block then pure ()
  else match storedNumber? block with
    | none => .fail (.settlement (.malformedPayload (.checkpoint block)))
    | some stored => Process.commit (Work.raiseCheckpoint chain stored)

/-- One cycle on a chain that no other cycle holds. -/
def cycle (d : Deployment) : Process CycleReport := do
  let previous ← Process.commit (Work.findFollowed d.chain)
  let fetched ← d.fetchWindow previous
  let tally ← d.applyLogs .zero fetched.logs
  moveCheckpoint d.chain previous fetched.window.checkpoint
  pure
    { chain := d.chain
      busy := false
      previous := previous
      checkpoint := some fetched.window.checkpoint
      window := some fetched.window
      logs := fetched.logs.length
      tally := tally }

/-- One cycle on a registered chain. -/
def follow (r : Registry) (chain : Chain) : Process CycleReport := do
  let d ← Process.ofExcept (r.require chain)
  Process.exclusively chain (.occupied chain) (cycle d)

end DonationLedger
