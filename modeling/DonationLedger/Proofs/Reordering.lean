import DonationLedger.Proofs.Follow.Requests
import DonationLedger.Proofs.Replay
import Mathlib.Data.List.Destutter
import Mathlib.Data.List.Sort

/-!
# In which order and how often a node tells its logs

A node may tell the logs of a window in any order, and any of them more than once. Sorted by their places, the
repetitions of a log stand next to each other (`Deployment.destutter_confirmed`), and a log that was just applied
changes nothing when it is applied again (`Process.alike_destutter`). So two cycles that are told the same logs come to
the same ledger.
-/

namespace DonationLedger

/-! ## Logs in order -/

/-- Different logs are at different places. -/
def Log.Apart (logs : List Log) : Prop :=
  ∀ a ∈ logs, ∀ b ∈ logs, a.block = b.block → a.index = b.index → a = b

/-- The log is the other one, or its place comes first. -/
def Log.Precedes (a b : Log) : Prop := a = b ∨ a.block < b.block ∨ a.block = b.block ∧ a.index < b.index

instance : Std.Antisymm Log.Precedes where
  antisymm a b hab hba := by
    rcases hab with hab | hab
    · exact hab
    · rcases hba with hba | hba
      · exact hba.symm
      · omega

theorem Log.before_iff {a b : Log} : a.before b = true ↔ a.block < b.block ∨ a.block = b.block ∧ a.index ≤ b.index := by
  simp [before]

namespace Deployment

variable {logs logs' : List Log} (last : Nat)

theorem mem_confirmed {log : Log} : log ∈ confirmed last logs ↔ log ∈ logs ∧ log.block ≤ last := by
  simp [confirmed]

theorem precedes_confirmed (h : Log.Apart logs) : (confirmed last logs).Pairwise Log.Precedes := by
  have hsorted : (confirmed last logs).Pairwise fun a b => a.before b = true := by
    refine List.pairwise_mergeSort (fun a b c hab hbc => ?_) (fun a b => ?_) _
    · rw [Log.before_iff] at *
      omega
    · rw [Bool.or_eq_true, Log.before_iff, Log.before_iff]
      omega
  refine hsorted.imp_of_mem fun {a b} ha hb hab => ?_
  rw [Log.before_iff] at hab
  have heq := h a ((mem_confirmed last).1 ha).1 b ((mem_confirmed last).1 hb).1
  by_cases hplace : a.block = b.block ∧ a.index = b.index
  · exact .inl (heq hplace.1 hplace.2)
  · refine .inr ?_
    omega

/-- Without repetitions, the same logs in order are the same list. -/
theorem destutter_confirmed (h : Log.Apart logs) (hm : ∀ log, log ∈ logs' ↔ log ∈ logs) :
    (confirmed last logs').destutter (· ≠ ·) = (confirmed last logs).destutter (· ≠ ·) := by
  have h' : Log.Apart logs' := fun a ha b hb => h a ((hm a).1 ha) b ((hm b).1 hb)
  rw [(precedes_confirmed last h).destutter_eq_dedup, (precedes_confirmed last h').destutter_eq_dedup]
  refine List.Perm.eq_of_pairwise' ((precedes_confirmed last h').sublist (List.dedup_sublist _))
    ((precedes_confirmed last h).sublist (List.dedup_sublist _)) ?_
  refine (List.perm_ext_iff_of_nodup (List.nodup_dedup _) (List.nodup_dedup _)).2 fun log => ?_
  rw [List.mem_dedup, List.mem_dedup, mem_confirmed, mem_confirmed, hm]

end Deployment

/-! ## Ends that are alike -/

/-- Both ended with the same session: with results of which `R` holds, or with the same failure. -/
inductive Alike {α β : Type} (R : α → β → Prop) : Except Failure α × Session → Except Failure β × Session → Prop
  | ok {a : α} {b : β} (h : R a b) (s : Session) : Alike R (.ok a, s) (.ok b, s)
  | error (e : Failure) (s : Session) : Alike R (.error e, s) (.error e, s)

/-- Nothing is asked of two results. -/
def anyTwo {α β : Type} : α → β → Prop := fun _ _ => True

namespace Alike

variable {α β γ : Type} {x : Except Failure α × Session} {y : Except Failure β × Session}
  {z : Except Failure γ × Session}

theorem refl (x : Except Failure α × Session) : Alike anyTwo x x := by
  obtain ⟨e | a, s⟩ := x
  · exact .error e s
  · exact .ok trivial s

theorem symm (h : Alike anyTwo x y) : Alike anyTwo y x := by
  cases h with
  | ok _ s => exact .ok trivial s
  | error e s => exact .error e s

theorem session {R : α → β → Prop} (h : Alike R x y) : y.2 = x.2 := by
  cases h <;> rfl

theorem trans (h : Alike anyTwo x y) (k : Alike anyTwo y z) : Alike anyTwo x z := by
  cases h with
  | ok _ s =>
    cases k
    exact .ok trivial s
  | error e s =>
    cases k
    exact .error e s

end Alike

namespace Process

variable {α β γ δ : Type} {R : α → β → Prop} {Q : γ → δ → Prop} {reader reader' : Reader} {d : Deployment}
  {s s' : Session}

/-- What goes on alike after ends that are alike ends alike. -/
theorem alike_bind {p : Process α} {q : Process β} {k : α → Process γ} {l : β → Process δ}
    (h : Alike R (p.alone reader s) (q.alone reader' s'))
    (hk : ∀ a b s₁, p.alone reader s = (.ok a, s₁) → R a b →
      Alike Q ((k a).alone reader s₁) ((l b).alone reader' s₁)) :
    Alike Q ((p >>= k).alone reader s) ((q >>= l).alone reader' s') := by
  have hp : (p >>= k).alone reader s = _ := alone_andThen reader p _ s
  have hq : (q >>= l).alone reader' s' = _ := alone_andThen reader' q _ s'
  rw [hp, hq]
  generalize hx : p.alone reader s = x at h
  generalize q.alone reader' s' = y at h
  cases h with
  | ok hab s₁ => exact hk _ _ s₁ hx hab
  | error e s₁ => exact .error e s₁

/-- What asks for receipts only ends the same with readers that have the same receipts. -/
theorem alone_congr {locks : Chain → Prop} {p : Process α} (hp : p.Confined Query.IsReceipt locks)
    (hr : ∀ chain hash, reader' chain (.receipt hash) = reader chain (.receipt hash)) (s : Session) :
    p.alone reader' s = p.alone reader s := by
  induction p generalizing s with
  | finish r => rfl
  | ledger w next ih => exact ih _ (hp _) _
  | content ref next ih => exact ih _ (hp _) _
  | node chain q next ih =>
    obtain ⟨hq, hp⟩ := hp
    cases q with
    | receipt hash =>
      refine (ih _ (hp _) s).trans ?_
      rw [hr chain hash]
      rfl
    | height => exact hq.elim
    | logs first last => exact hq.elim
  | acquire chain next ih => exact ih _ (hp.2 _) s
  | release chain next ih => exact ih hp.2 s

/-! ## Applying repetitions -/

/-- The tally of before plays no part. -/
theorem alike_tally (n n' : Tally) (logs : List Log) (s : Session) :
    Alike anyTwo ((d.applyLogs n logs).alone reader s) ((d.applyLogs n' logs).alone reader s) := by
  induction logs generalizing n n' s with
  | nil => exact .ok trivial s
  | cons log logs ih => exact alike_bind (.refl _) fun a b s₁ _ _ => ih _ _ s₁

/-- A log that stands next to itself is applied once. -/
theorem alike_twice (n n' : Tally) (log : Log) (logs : List Log) (hs : s.Ready) :
    Alike anyTwo ((d.applyLogs n (log :: log :: logs)).alone reader s)
      ((d.applyLogs n' (log :: logs)).alone reader s) := by
  refine alike_bind (.refl _) fun a b s₁ ha _ => ?_
  obtain ⟨⟨-, hs₁, a', hagain⟩, -⟩ := resume_applyLog hs ha
  have htwice : (applyLog d log).alone reader s₁ = (.ok a', s₁) :=
    (alone_applyLog_again hs₁.keyed hs₁.faults hagain).1
  have hskip : (d.applyLogs (n.add a) (log :: logs)).alone reader s₁ =
      (d.applyLogs ((n.add a).add a') logs).alone reader s₁ := alone_bind htwice
  rw [hskip]
  exact alike_tally _ _ logs s₁

/-- Repetitions next to each other play no part. The induction is on the logs behind the one in hand, which is dropped
where the next one is the same. -/
theorem alike_destutter' (n n' : Tally) (log : Log) (logs : List Log) (hs : s.Ready) :
    Alike anyTwo ((d.applyLogs n (log :: logs)).alone reader s)
      ((d.applyLogs n' (logs.destutter' (· ≠ ·) log)).alone reader s) := by
  induction logs generalizing n n' log s with
  | nil => exact alike_tally n n' [log] s
  | cons next logs ih =>
    by_cases hne : log ≠ next
    · rw [List.destutter'_cons_pos _ hne]
      refine alike_bind (.refl _) fun a b s₁ ha _ => ?_
      obtain ⟨⟨-, hs₁, -⟩, -⟩ := resume_applyLog hs ha
      exact ih _ _ next hs₁
    · rw [List.destutter'_cons_neg _ hne]
      obtain rfl := not_ne_iff.1 hne
      exact (alike_twice n n log logs hs).trans (ih n n' log hs)

theorem alike_destutter (n n' : Tally) (logs : List Log) (hs : s.Ready) :
    Alike anyTwo ((d.applyLogs n logs).alone reader s)
      ((d.applyLogs n' (logs.destutter (· ≠ ·))).alone reader s) := by
  cases logs with
  | nil => exact alike_tally n n' [] s
  | cons log logs => exact alike_destutter' n n' log logs hs

end Process

/-! ## Cycles -/

/-- The second node tells what the first one does, but the logs of some windows in another order and with other
repetitions. -/
structure Reader.Retold (reader reader' : Reader) : Prop where
  height : ∀ chain, reader' chain .height = reader chain .height
  receipt : ∀ chain hash, reader' chain (.receipt hash) = reader chain (.receipt hash)
  logs : ∀ chain first last, reader' chain (.logs first last) = reader chain (.logs first last) ∨
    ∃ logs logs' : List Log, reader chain (.logs first last) = .ok logs ∧
      reader' chain (.logs first last) = .ok logs' ∧ Log.Apart logs ∧ ∀ log, log ∈ logs' ↔ log ∈ logs

/-- Both windows are the same, and hold the same logs in the same order if repetitions are left out. -/
def FetchedWindow.Alike (f f' : FetchedWindow) : Prop :=
  f'.window = f.window ∧ f'.logs.destutter (· ≠ ·) = f.logs.destutter (· ≠ ·)

namespace Process

variable {reader reader' : Reader} {d : Deployment} {s : Session}

theorem alike_ask {chain : Chain} {q : Query} {R : q.Answer → q.Answer → Prop} {a b : q.Answer}
    (ha : reader chain q = .ok a) (hb : reader' chain q = .ok b) (hr : R a b) (s : Session) :
    Alike R ((ask chain q).alone reader s) ((ask chain q).alone reader' s) := by
  show Alike R (reader chain q, s) (reader' chain q, s)
  rw [ha, hb]
  exact .ok hr s

theorem alike_ask_same {chain : Chain} {q : Query} (h : reader' chain q = reader chain q) (s : Session) :
    Alike (· = ·) ((ask chain q).alone reader s) ((ask chain q).alone reader' s) := by
  show Alike _ (reader chain q, s) (reader' chain q, s)
  rw [h]
  cases reader chain q with
  | error e => exact .error e s
  | ok a => exact .ok rfl s

theorem alike_fetchWindow (h : reader.Retold reader') (d : Deployment) (checkpoint : Option Nat) (s : Session) :
    Alike FetchedWindow.Alike ((d.fetchWindow checkpoint).alone reader s)
      ((d.fetchWindow checkpoint).alone reader' s) := by
  refine alike_bind (alike_ask_same (h.height d.chain) s) fun height height' s₁ _ he => ?_
  subst he
  simp only
  split
  · exact .ok ⟨rfl, rfl⟩ s₁
  · rename_i first last _
    rcases h.logs d.chain first last with hsame | ⟨logs, logs', hlogs, hlogs', hapart, hmem⟩
    · refine alike_bind (alike_ask_same hsame s₁) ?_
      rintro logs _ s₂ - rfl
      exact .ok ⟨rfl, rfl⟩ s₂
    · refine alike_bind (R := fun x y => x = logs ∧ y = logs') (alike_ask hlogs hlogs' ⟨rfl, rfl⟩ s₁) ?_
      rintro _ _ s₂ - ⟨rfl, rfl⟩
      exact .ok ⟨rfl, Deployment.destutter_confirmed _ hapart hmem⟩ s₂

/-- Both windows are gone through alike. -/
theorem alike_applyLogs (h : reader.Retold reader') {f f' : FetchedWindow} (hf : f.Alike f') (hs : s.Ready) :
    Alike anyTwo ((d.applyLogs .zero f.logs).alone reader s) ((d.applyLogs .zero f'.logs).alone reader' s) := by
  have hconfined : (d.applyLogs .zero f'.logs).Confined Query.IsReceipt fun _ => False :=
    confined_applyLogs d .zero f'.logs
  rw [alone_congr hconfined h.receipt]
  have hfirst : Alike anyTwo ((d.applyLogs .zero f.logs).alone reader s)
      ((d.applyLogs .zero (f.logs.destutter (· ≠ ·))).alone reader s) := alike_destutter .zero .zero f.logs hs
  rw [← hf.2] at hfirst
  exact hfirst.trans (alike_destutter .zero .zero f'.logs hs).symm

/-- What the reports of both cycles agree on: all but how often logs were counted. -/
def sameWindow (report report' : CycleReport) : Prop :=
  report'.chain = report.chain ∧ report'.previous = report.previous ∧ report'.checkpoint = report.checkpoint ∧
    report'.window = report.window

theorem alike_cycle (h : reader.Retold reader') (hs : s.Ready) :
    Alike sameWindow ((cycle d).alone reader s) ((cycle d).alone reader' s) := by
  have hread : Alike (· = ·) ((commit (Work.findFollowed d.chain)).alone reader s)
      ((commit (Work.findFollowed d.chain)).alone reader' s) := by
    show Alike _ (s.commit _) (s.commit _)
    rcases s.commit (Work.findFollowed d.chain) with ⟨e | previous, s₁⟩
    · exact .error e s₁
    · exact .ok rfl s₁
  refine alike_bind hread fun previous _ s₁ hy he => ?_
  subst he
  obtain rfl := (Work.yields_findFollowed.1 (alone_commit_ok hy)).1
  refine alike_bind (alike_fetchWindow h d previous s₁) fun f f' s₂ hfetch hf => ?_
  obtain ⟨rfl, -⟩ := alone_fetchWindow_ok hfetch
  refine alike_bind (alike_applyLogs h hf hs) fun tally tally' s₃ _ _ => ?_
  have hmove : Alike anyTwo ((moveCheckpoint d.chain previous f.window.checkpoint).alone reader s₃)
      ((moveCheckpoint d.chain previous f'.window.checkpoint).alone reader' s₃) := by
    rw [hf.1]
    unfold moveCheckpoint
    split
    · exact .ok trivial s₃
    · split
      · exact .error _ s₃
      · exact .refl _
  refine alike_bind hmove fun _ _ s₄ _ _ => ?_
  exact .ok ⟨rfl, rfl, congrArg (some ·.checkpoint) hf.1, congrArg some hf.1⟩ s₄

end Process

namespace System

variable {r : Registry} {w : System} {reader reader' : Reader}

/-- In whatever order a node tells the logs of a window, and however often each, a cycle that nobody disturbs ends with
the same ledger, and fails in the same way if it fails. -/
theorem order_of_logs_irrelevant (hw : w.Reachable r) (h : reader.Retold reader') (chain : Chain) :
    Alike Process.sameWindow ((follow r chain).alone reader w.session.calm)
      ((follow r chain).alone reader' w.session.calm) := by
  rcases hd : r.find? chain with _ | d
  · unfold follow Registry.require
    rw [hd]
    exact .error _ _
  · rw [Process.alone_follow hd, Process.alone_follow hd]
    exact Process.alike_cycle h hw.ready

end System

/-! ## Two donations -/

namespace Donation

/-- The contract reports the same donation once more, in another transaction of the block. -/
def secondLog : Log := { log with hash := otherHash, index := 1 }

/-- A node that tells these logs. -/
def telling (logs : List Log) : Reader
  | _, .logs .. => .ok logs
  | chain, q => ahead chain q

end Donation

open Donation in
/-- The second log comes first, and comes again, and the ledger is the same. One log that is told twice is credited
once. -/
theorem System.donations_retold : (telling [log, secondLog]).Retold (telling [secondLog, log, secondLog]) ∧
    ((follow [deployment] .optimism).alone (telling [secondLog, log, secondLog]) filed.session.calm).2.ledger =
      ((follow [deployment] .optimism).alone (telling [log, secondLog]) filed.session.calm).2.ledger ∧
    ((follow [deployment] .optimism).alone (telling [log, log]) filed.session.calm).2.ledger.transactions =
      [transaction] := by
  have hretold : (telling [log, secondLog]).Retold (telling [secondLog, log, secondLog]) := by
    refine ⟨fun _ => rfl, fun _ _ => rfl, fun _ _ _ => .inr ⟨_, _, rfl, rfl, ?_, fun x => ?_⟩⟩
    · unfold Log.Apart
      decide +kernel
    · simp only [List.mem_cons, List.not_mem_nil, or_false]
      tauto
  have htwice : (telling [log]).Retold (telling [log, log]) :=
    ⟨fun _ => rfl, fun _ _ => rfl, fun _ _ _ => .inr ⟨_, _, rfl, rfl, by unfold Log.Apart; decide +kernel, by simp⟩⟩
  have hsame := order_of_logs_irrelevant (filed_reachable [deployment]) hretold .optimism
  have honce := order_of_logs_irrelevant (filed_reachable [deployment]) htwice .optimism
  refine ⟨hretold, congrArg Session.ledger hsame.session, ?_⟩
  rw [honce.session]
  decide +kernel

end DonationLedger
