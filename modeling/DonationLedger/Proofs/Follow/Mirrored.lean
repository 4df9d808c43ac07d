import DonationLedger.Proofs.Follow.Walk
import DonationLedger.Proofs.Resolution.Mirrored
import DonationLedger.Proofs.System.Flaky

/-!
# Cycles on rows under other ids

Whatever a cycle asks and whatever it stores, it does the same where rows go by other ids, and it fails as soon as
something goes wrong. What it reports has no ids in it.
-/

namespace DonationLedger

namespace Process

variable {σ : Renaming} {d : Deployment}

theorem mirrored_screen (d : Deployment) (e : Event) : Mirrored σ id (screen d e) (screen d e) := by
  unfold screen
  cases Payment.reference e with
  | error reason => exact .finish _
  | ok ref => exact .content (fun _ => .finish _) fun _ => trivial

theorem mirrored_observe (d : Deployment) (logs : List Log) :
    Mirrored σ id (observe d logs) (observe d logs) := by
  induction logs with
  | nil => exact .finish _
  | cons log logs ih =>
    unfold observe
    split
    · exact ih
    · exact (mirrored_screen d _).bind fun _ => ih.bind fun _ => .finish _

theorem mirrored_closeAnswered (d : Deployment) (b t : Id) (hash : Hash) (answer : Option Receipt) :
    Mirrored σ id (closeAnswered d b t hash answer) (closeAnswered d (σ.id b) (σ.id t) hash answer) := by
  cases answer with
  | none => exact .fails trivial trivial
  | some receipt =>
    have hobserve : Mirrored σ id (observeReceipt d receipt) (observeReceipt d receipt) := by
      unfold observeReceipt
      split
      · exact .finish _
      · exact mirrored_observe d receipt.logs
    refine hobserve.bind fun os => ?_
    unfold closeObserved
    split
    · exact .fails trivial trivial
    · exact .commit (Work.mirrored_closePair b t receipt _ os) (Work.lasting_closePair _ _ _ _ _)

theorem mirrored_resolveReceipt (d : Deployment) (b t : Id) :
    Mirrored σ id (resolveReceipt d b t) (resolveReceipt d (σ.id b) (σ.id t)) := by
  rw [resolveReceipt_eq, resolveReceipt_eq]
  refine (Mirrored.commit (Work.mirrored_openPair b t) (Work.lasting_openPair b t)).bind fun p => ?_
  obtain ⟨c, stored⟩ := p
  cases stored with
  | some o => exact .finish _
  | none =>
    simp only [closeOpened, Prod.map_apply, id, show (c.rename σ.id).hash = c.hash from rfl]
    split
    · exact .fails trivial trivial
    · exact .node (fun answer => mirrored_closeAnswered d b t _ answer) fun
        | _, .failure _ _ => trivial
        | _, .receipt _ => trivial

theorem mirrored_applyLog (d : Deployment) (log : Log) :
    Mirrored σ (Applied.rename σ.id) (applyLog d log) (applyLog d log) := by
  rcases ha : d.applicable? log with _ | ⟨block, index, e⟩
  · rw [applyLog_of_none ha]
    split
    · exact .finish Applied.removed
    · exact .finish Applied.malformed
  · rw [applyLog_of_some ha]
    refine (mirrored_screen d e).bind fun verdict => (Mirrored.commit (Work.mirrored_applyEvent _ _ _ _ _ _)
      (Work.lasting_applyEvent _ _ _ _ _ _)).bind fun step => ?_
    cases step with
    | applied result => exact .finish result
    | needsReceipt b t =>
      refine (mirrored_resolveReceipt d b t).bind fun o => ?_
      show Mirrored σ _ (finish (.ok (Applied.ofOutcome t o))) (finish (.ok (Applied.ofOutcome (σ.id t) o)))
      rw [← Applied.ofOutcome_rename]
      exact .finish _

theorem mirrored_applyLogs (d : Deployment) (tally : Tally) (logs : List Log) :
    Mirrored σ id (d.applyLogs tally logs) (d.applyLogs tally logs) := by
  induction logs generalizing tally with
  | nil => exact .finish _
  | cons log logs ih =>
    refine (mirrored_applyLog d log).bind fun a => ?_
    rw [Tally.add_rename]
    exact ih _

theorem mirrored_fetchWindow (d : Deployment) (checkpoint : Option Nat) :
    Mirrored σ id (d.fetchWindow checkpoint) (d.fetchWindow checkpoint) := by
  refine .node (fun height => ?_) fun | _, .failure _ _ => trivial
  simp only [finish_andThen]
  split
  · exact .finish _
  · exact .node (fun logs => .finish _) fun | _, .failure _ _ => trivial

theorem mirrored_moveCheckpoint (chain : Chain) (previous : Option Nat) (block : Nat) :
    Mirrored σ id (moveCheckpoint chain previous block) (moveCheckpoint chain previous block) := by
  unfold moveCheckpoint
  split
  · exact .finish _
  · split
    · exact .fails trivial trivial
    · exact .commit (Work.mirrored_raiseCheckpoint chain _) (Work.lasting_raiseCheckpoint chain _)

theorem mirrored_cycle (d : Deployment) : Mirrored σ id (cycle d) (cycle d) :=
  (Mirrored.commit (Work.mirrored_findFollowed d.chain) (Work.lasting_findFollowed d.chain)).bind fun previous =>
    (mirrored_fetchWindow d previous).bind fun f => (mirrored_applyLogs d .zero f.logs).bind fun _ =>
      (mirrored_moveCheckpoint d.chain previous f.window.checkpoint).bind fun _ => .finish _

end Process

/-- The cycle that gives its chain free in the end. -/
def guardedCycle (d : Deployment) (chain : Chain) : Process CycleReport :=
  (cycle d).andThen fun result => .release chain (.finish result)

theorem follow_eq {r : Registry} {chain : Chain} {d : Deployment} (hd : r.find? chain = some d) :
    follow r chain = .acquire chain fun free =>
      if free then guardedCycle d chain else .finish (.ok (.occupied chain)) := by
  unfold follow Registry.require
  rw [hd]
  rfl

namespace Process

variable {r : Registry} {reader : Reader} {chain : Chain} {d : Deployment} {s s₀ : Session}

theorem mirrored_guardedCycle (σ : Renaming) : Mirrored σ id (guardedCycle d chain) (guardedCycle d chain) :=
  (mirrored_cycle d).andThen (fun a => .release (.finish a)) (fun _ => trivial) fun _ => trivial

theorem alone_guardedCycle (s : Session) :
    (guardedCycle d chain).alone reader s = (cycle d).alone reader s := by
  unfold guardedCycle
  rw [alone_andThen]
  rfl

theorem alone_follow (hd : r.find? chain = some d) (s : Session) :
    (follow r chain).alone reader s = (cycle d).alone reader s := by
  rw [follow_eq hd]
  exact alone_guardedCycle s

/-- A cycle on a free chain comes to its end. -/
theorem Goes.follow_alone {o : Outside} (h : (follow r chain).Goes o s₀ [] s [] (follow r chain)) (reader : Reader)
    (ho : ∀ l ref, o.contents l ref (.ok (l.content? ref))) (ho' : ∀ chain q, o.answers chain q (reader chain q))
    (hd : r.find? chain = some d) : ∃ held, (follow r chain).Goes o s₀ []
      ((follow r chain).alone reader s).2 held (finish ((follow r chain).alone reader s).1) := by
  rw [follow_eq hd] at h ⊢
  exact (h.next (.acquire chain _ s [])).alone reader ho ho' (mirrored_guardedCycle .keep).lockless

end Process

end DonationLedger
