import DonationLedger.Proofs.Queue.Course
import Mathlib.Tactic.IntervalCases

/-!
# The attempts at an enqueued transaction

From the moment a transaction is put in flight its job is attempted until an attempt ends for good
(`QueueSettings.Ends`): attempts are counted from one, each begins when the one before it has ended and its delay has
passed, and after the last one the transaction can be enqueued again. At each moment the job is under way, with the
attempts before it behind it (`Course.UnderWay`), or it is over (`Course.Over`). This holds of every course; that there
is a last attempt needs that nobody is passed over for ever.
-/

namespace DonationLedger

/-- After an attempt with this result there is no other: it went well, or its failure will not pass, or no attempts are
left. -/
def QueueSettings.Ends (s : QueueSettings) (attempt : Nat) (result : Option Failure) : Prop :=
  result = none ∨ (∃ e, result = some e ∧ e.retryable = false) ∨ s.maxAttempts ≤ attempt

namespace Queue

variable {s : QueueSettings} {q q' : Queue} {id : Id} {job : Job}

theorem finish_of_ends {result : Option Failure} (h : s.Ends job.attempt result) :
    q.finish job (ending s job result) = { q.released job with inFlight := q.inFlight.erase job.transaction } := by
  cases result with
  | none => rfl
  | some e =>
    have hstop : (e.retryable && decide (job.attempt < s.maxAttempts)) = false := by
      rcases h with h | ⟨e', h, he⟩ | h
      · cases h
      · cases h
        simp [he]
      · simp [Nat.not_lt.2 h]
    simp [ending, hstop, finish, released]

theorem ending_of_not_ends {result : Option Failure} (h : ¬ s.Ends job.attempt result) :
    ending s job result = .retry ⟨job.transaction, job.attempt + 1⟩ (s.backoff job.attempt) := by
  simp only [QueueSettings.Ends, not_or, not_exists, not_and, Nat.not_le, Bool.not_eq_false] at h
  obtain ⟨hfailed, hpasses, hleft⟩ := h
  obtain ⟨e, rfl⟩ := Option.ne_none_iff_exists'.1 hfailed
  simp [ending, hpasses e rfl, hleft]

/-- A transaction gets in flight when a caller is told so, and not otherwise. -/
theorem Step.not_mem_inFlight {m : Move} (h : Step s q m q') (hid : id ∉ q.inFlight) (hm : m ≠ .claim id true) :
    id ∉ q'.inFlight := by
  cases h with
  | claim other =>
    unfold Queue.claim
    split
    · exact hid
    · rename_i hout
      have hne : id ≠ other := by
        rintro rfl
        rw [claim_fst, Bool.eq_false_iff.2 hout] at hm
        exact hm rfl
      simp [hid, hne]
  | take ht =>
    obtain ⟨rest, -, rfl⟩ := take_cases ht
    exact hid
  | finish _ failure =>
    unfold Queue.finish
    split
    case h_3 => exact hid
    all_goals exact fun hin => hid (List.mem_of_mem_erase hin)
  | send _ | resend _ => exact hid

/-- A caller who is told so has put a first job on its way. -/
theorem Step.firstJob_mem (h : Step s q (.claim id true) q') : firstJob id ∈ q'.sending := by
  generalize hm : Move.claim id true = m at h
  cases h with
  | claim other =>
    obtain ⟨rfl, hacc⟩ := Move.claim.inj hm
    unfold Queue.claim at hacc ⊢
    split at hacc
    · cases hacc
    · rename_i hout
      rw [if_neg hout]
      exact List.mem_append_right _ (List.mem_singleton_self _)
  | send _ | take _ | finish _ _ | resend _ => cases hm

namespace Course

variable (c : Course s) (n : Nat) (id : Id) (results : Nat → Option Failure)

/-- The moments after a claim, up to the next one of the transaction that is accepted. -/
def Since (i : Nat) : Prop := n < i ∧ ∀ i', n < i' → i' < i → c.move i' ≠ some (.claim id true)

/-- What becomes of the attempts that follow a claim. -/
def Told : Prop :=
  ∀ i attempt failure, c.Since n id i → c.move i = some (.finish ⟨id, attempt⟩ failure) → failure = results attempt

/-- From when on a job may be attempted: what its timer says, as long as it waits for that. -/
def opens (job : Job) (p : Place) (i : Nat) : Nat :=
  match p with
  | .waiting => c.due i job
  | _ => c.now i

/-- An attempt is to come or in progress, and the ones before it have been made, each of them once. -/
structure UnderWay (job : Job) (p : Place) (i : Nat) : Prop where
  since : c.Since n id i
  transaction : job.transaction = id
  attempt : 1 ≤ job.attempt
  place : job ∈ (c.queue i).jobs p
  earlier : ∀ j, 1 ≤ j → j < job.attempt → ¬ s.Ends j (results j) ∧
    ∃ b e, n < b ∧ b < e ∧ e < i ∧ c.move b = some (.take ⟨id, j⟩) ∧
      c.move e = some (.finish ⟨id, j⟩ (results j)) ∧
      (j + 1 = job.attempt → c.now e + (s.backoff j).nanos ≤ c.opens job p i)
  begun : ∀ b k, n < b → b < i → c.move b = some (.take k) → k.transaction = id →
    k.attempt ≤ job.attempt ∧ (k.attempt = job.attempt → p = .running)
  started : p = .running → ∃ b, n < b ∧ b < i ∧ c.move b = some (.take job)

/-- The last attempt has been made. -/
structure Over (i : Nat) : Prop where
  since : c.Since n id i
  out : id ∉ (c.queue i).inFlight

variable {c n id results} {p : Place} {i : Nat}

theorem Since.next (h : c.Since n id i) (hm : c.move i ≠ some (.claim id true)) : c.Since n id (i + 1) :=
  ⟨Nat.lt_succ_of_lt h.1, fun i' hn hi => (Nat.lt_succ_iff_lt_or_eq.1 hi).elim (h.2 i' hn) fun he => he ▸ hm⟩

theorem Since.of_le (h : c.Since n id i) {b : Nat} (hn : n < b) (hb : b ≤ i) : c.Since n id b :=
  ⟨hn, fun i' hi' hlt => h.2 i' hi' (Nat.lt_of_lt_of_le hlt hb)⟩

/-- What was over stays so until the transaction is claimed again. -/
theorem Over.later (h : c.Over n id i) {i' : Nat} (hi : i ≤ i') (hs : c.Since n id i') : c.Over n id i' := by
  induction i', hi using Nat.le_induction with
  | base => exact h
  | succ i' hi ih =>
    have ho := ih (hs.of_le (Nat.lt_of_lt_of_le h.since.1 hi) (Nat.le_succ _))
    refine ⟨hs, ?_⟩
    cases hm : c.move i' with
    | none => exact (c.idles i' hm).1 ▸ ho.out
    | some m =>
      refine (c.moves i' m hm).1.not_mem_inFlight ho.out ?_
      rintro rfl
      exact hs.2 i' ho.since.1 (Nat.lt_succ_self _) hm

theorem Over.not_live (h : c.Over n id i) (hj : job ∈ (c.queue i).live) : job.transaction ≠ id :=
  fun he => h.out (((c.flying i).mem_inFlight_iff id).2 ⟨job, hj, he⟩)

theorem mem_channel_of_take (hm : c.move i = some (.take job)) : job ∈ (c.queue i).channel := by
  have hstep := (c.moves i _ hm).1
  generalize c.queue (i + 1) = q' at hstep
  cases hstep with
  | take ht =>
    obtain ⟨rest, hc, -⟩ := take_cases ht
    rw [hc]
    exact List.mem_cons_self

theorem mem_running_of_finish {failure : Option Failure} (hm : c.move i = some (.finish job failure)) :
    job ∈ (c.queue i).running := by
  have hstep := (c.moves i _ hm).1
  generalize c.queue (i + 1) = q' at hstep
  cases hstep with
  | finish h => exact h

namespace UnderWay

variable (h : c.UnderWay n id results job p i)
include h

theorem unique {k : Job} {l : Place} (hk : k ∈ (c.queue i).jobs l) (he : k.transaction = id) : k = job ∧ l = p :=
  (c.flying i).unique hk h.place (he.trans h.transaction.symm)

theorem unclaimed : c.move i ≠ some (.claim id true) := by
  intro hm
  have hfate := (c.flying i).fate (c.moves i _ hm).1 h.place
  generalize hmove : Move.claim id true = m at hfate
  cases hfate <;> cases hmove
  rename_i hne
  exact hne (congrArg some h.transaction.symm)

/-- A moment at which the attempt does not end. -/
theorem goes {p' : Place} (hp : job ∈ (c.queue (i + 1)).jobs p') (hopens : c.opens job p i ≤ c.opens job p' (i + 1))
    (htaken : ∀ k, c.move i = some (.take k) → k.transaction = id → k = job ∧ p' = .running)
    (hstarted : p' = .running → p = .running ∨ c.move i = some (.take job)) (hrun : p = .running → p' = .running) :
    c.UnderWay n id results job p' (i + 1) where
  since := h.since.next h.unclaimed
  transaction := h.transaction
  attempt := h.attempt
  place := hp
  earlier j hj hlt := by
    obtain ⟨hends, b, e, hb, hbe, he, htake, hfinish, hdelay⟩ := h.earlier j hj hlt
    exact ⟨hends, b, e, hb, hbe, Nat.lt_succ_of_lt he, htake, hfinish, fun hl => Nat.le_trans (hdelay hl) hopens⟩
  begun b k hn hb hm hk := by
    rcases Nat.lt_succ_iff_lt_or_eq.1 hb with hb | rfl
    · exact (h.begun b k hn hb hm hk).imp_right fun himp he => hrun (himp he)
    · obtain ⟨rfl, hp'⟩ := htaken k hm hk
      exact ⟨Nat.le_refl _, fun _ => hp'⟩
  started hp' := by
    rcases hstarted hp' with hp | hm
    · obtain ⟨b, hn, hb, hm⟩ := h.started hp
      exact ⟨b, hn, Nat.lt_succ_of_lt hb, hm⟩
    · exact ⟨i, h.since.1, Nat.lt_succ_self i, hm⟩

/-- What concerns other transactions does not matter. -/
theorem stays (hp : job ∈ (c.queue (i + 1)).jobs p) (hm : ∀ m, c.move i = some m → m.transaction? ≠ some id) :
    c.UnderWay n id results job p (i + 1) := by
  refine h.goes hp ?_ (fun k hk he => absurd (congrArg some he) (hm _ hk)) .inl fun hrun => hrun
  have hnow := c.now_le i
  have hdue : c.due (i + 1) job = c.due i job := by
    cases hmove : c.move i with
    | none => rw [(c.idles i hmove).2]
    | some m => rw [(c.moves i m hmove).2, timers_of_ne (h.transaction ▸ hm m hmove)]
  cases p <;> simp only [opens, hdue] <;> omega

/-- At the next moment the attempt is still to come or in progress, or it has just ended. -/
theorem step : (∃ p', c.UnderWay n id results job p' (i + 1)) ∨ ∃ failure, c.move i = some (.finish job failure) := by
  cases hm : c.move i with
  | none =>
    refine .inl ⟨p, h.stays ?_ (by simp [hm])⟩
    rw [(c.idles i hm).1]
    exact h.place
  | some m =>
    obtain ⟨hstep, hdue⟩ := c.moves i m hm
    have hnow := c.now_le i
    cases (c.flying i).fate hstep h.place with
    | stays hp hne =>
      refine .inl ⟨p, h.stays hp fun m' hm' => ?_⟩
      rw [hm] at hm'
      cases hm'
      rwa [← h.transaction]
    | sent hp => exact .inl ⟨.channel, h.goes hp hnow (by simp [hm]) nofun nofun⟩
    | taken hp =>
      refine .inl ⟨.running, h.goes hp hnow (fun k hk _ => ?_) (fun _ => .inr hm) nofun⟩
      rw [hm] at hk
      cases hk
      exact ⟨rfl, rfl⟩
    | ended failure => exact .inr ⟨failure, rfl⟩
    | resent hp => exact .inl ⟨.channel, h.goes hp (Nat.le_trans (c.ripe i job hm) hnow) (by simp [hm]) nofun nofun⟩

variable {failure : Option Failure}

theorem result (hr : c.Told n id results) (hm : c.move i = some (.finish job failure)) :
    failure = results job.attempt := by
  refine hr i job.attempt failure h.since ?_
  rw [hm, ← h.transaction]

/-- An attempt that is not the last: the next one waits until its delay has passed. -/
theorem retries (hm : c.move i = some (.finish job (results job.attempt)))
    (hends : ¬ s.Ends job.attempt (results job.attempt)) :
    c.UnderWay n id results ⟨id, job.attempt + 1⟩ .waiting (i + 1) := by
  obtain ⟨hstep, hdue⟩ := c.moves i _ hm
  have hnext := ending_of_not_ends hends
  rw [h.transaction] at hnext
  have hp := (h.unique (l := .running) (mem_running_of_finish hm) h.transaction).2
  refine ⟨h.since.next h.unclaimed, rfl, Nat.le_add_left _ _, ?_, fun j hj hlt => ?_, fun b k hn hb hb' hk => ?_, nofun⟩
  · generalize c.queue (i + 1) = q' at hstep
    cases hstep with
    | finish hr =>
      rw [hnext]
      exact List.mem_append_right _ (List.mem_singleton_self _)
  · rcases Nat.lt_succ_iff_lt_or_eq.1 hlt with hlt | rfl
    · obtain ⟨hne, b, e, hb, hbe, he, htake, hfinish, -⟩ := h.earlier j hj hlt
      exact ⟨hne, b, e, hb, hbe, Nat.lt_succ_of_lt he, htake, hfinish, fun hl => by simp only at hl; omega⟩
    · obtain ⟨b, hn, hb, htake⟩ := h.started hp.symm
      have hjob : job = ⟨id, job.attempt⟩ := by rw [← h.transaction]
      refine ⟨hends, b, i, hn, hb, Nat.lt_succ_self i, hjob ▸ htake, hjob ▸ hm, fun _ => ?_⟩
      simp [opens, hdue, timers, hnext]
  · rcases Nat.lt_succ_iff_lt_or_eq.1 hb with hb | rfl
    · have hle := (h.begun b k hn hb hb' hk).1
      exact ⟨Nat.le_succ_of_le hle, fun he => absurd he (Nat.ne_of_lt (Nat.lt_succ_of_le hle))⟩
    · rw [hm] at hb'
      cases hb'

theorem isOver (hm : c.move i = some (.finish job failure)) (hends : s.Ends job.attempt failure) :
    c.Over n id (i + 1) where
  since := h.since.next h.unclaimed
  out := by
    have hstep := (c.moves i _ hm).1
    generalize c.queue (i + 1) = q' at hstep
    cases hstep with
    | finish _ =>
      rw [finish_of_ends hends, h.transaction]
      exact fun hin => ((c.flying i).single.mem_erase_iff.1 hin).1 rfl

end UnderWay

/-- A claim that is accepted puts the first attempt on its way. -/
theorem underWay_of_claim (h : c.move n = some (.claim id true)) :
    c.UnderWay n id results (firstJob id) .sending (n + 1) where
  since := ⟨Nat.lt_succ_self n, fun _ hn hi => absurd hi (Nat.not_lt.2 hn)⟩
  transaction := rfl
  attempt := Nat.le_refl 1
  place := (c.moves n _ h).1.firstJob_mem
  earlier _ hj hlt := absurd hlt (Nat.not_lt.2 hj)
  begun _ _ hn hb := absurd hb (Nat.not_lt.2 hn)
  started := nofun

/-- An attempt is under way or all is over, at each moment until the transaction is claimed again. -/
theorem underWay_or_over (h : c.move n = some (.claim id true)) (hr : c.Told n id results) (hs : c.Since n id i) :
    (∃ job p, c.UnderWay n id results job p i) ∨ c.Over n id i := by
  have hn : n + 1 ≤ i := hs.1
  induction i, hn using Nat.le_induction with
  | base => exact .inl ⟨_, _, underWay_of_claim h⟩
  | succ i hi ih =>
    rcases ih (hs.of_le hi (Nat.le_succ i)) with ⟨job, p, hu⟩ | ho
    · rcases hu.step with ⟨p', hu'⟩ | ⟨failure, hm⟩
      · exact .inl ⟨job, p', hu'⟩
      · obtain rfl := hu.result hr hm
        by_cases hends : s.Ends job.attempt (results job.attempt)
        · exact .inr (hu.isOver hm hends)
        · exact .inl ⟨_, _, hu.retries hm hends⟩
    · exact .inr (ho.later (Nat.le_succ i) hs)

/-- Where nobody is passed over for ever, an attempt that is under way ends. -/
theorem UnderWay.ends (hf : c.Fair) (h : c.UnderWay n id results job p i) :
    ∃ e failure, c.UnderWay n id results job .running e ∧ c.move e = some (.finish job failure) := by
  have hex := hf.ends (mem_live_iff.2 ⟨p, h.place⟩)
  classical
  obtain ⟨hle, failure, hm⟩ := Nat.find_spec hex
  have hrest : ∀ e, i ≤ e → e ≤ Nat.find hex → ∃ p', c.UnderWay n id results job p' e := by
    intro e he
    induction e, he using Nat.le_induction with
    | base => exact fun _ => ⟨p, h⟩
    | succ e he ih =>
      intro hlt
      obtain ⟨p', hu⟩ := ih (Nat.le_of_succ_le hlt)
      exact hu.step.resolve_right fun ⟨failure, hm⟩ => Nat.find_min hex hlt ⟨he, failure, hm⟩
  obtain ⟨p', hu⟩ := hrest _ hle (Nat.le_refl _)
  obtain ⟨-, rfl⟩ := hu.unique (l := .running) (mem_running_of_finish hm) h.transaction
  exact ⟨_, failure, hu, hm⟩

/-- Where nobody is passed over for ever, the first attempt is made, however few are allowed. -/
theorem Fair.first_attempt (hf : c.Fair) (h : c.move n = some (.claim id true)) :
    ∃ b e failure, n < b ∧ b < e ∧ c.move b = some (.take (firstJob id)) ∧
      c.move e = some (.finish (firstJob id) failure) := by
  have hclaimed : c.UnderWay n id (fun _ => none) (firstJob id) .sending (n + 1) := underWay_of_claim h
  obtain ⟨e, failure, hu, hm⟩ := hclaimed.ends hf
  obtain ⟨b, hn, hb, htake⟩ := hu.started rfl
  exact ⟨b, e, failure, hn, hb, htake, hm⟩

/-- By induction on the number of the attempt, which is due as long as none before it was the last. -/
theorem exists_underWay (hf : c.Fair) (h : c.move n = some (.claim id true)) (hr : c.Told n id results) {j : Nat}
    (hj : 1 ≤ j) (hends : ∀ j', 1 ≤ j' → j' < j → ¬ s.Ends j' (results j')) :
    ∃ i p, c.UnderWay n id results ⟨id, j⟩ p i := by
  induction j, hj using Nat.le_induction with
  | base => exact ⟨_, _, underWay_of_claim h⟩
  | succ j hj ih =>
    obtain ⟨i, p, hu⟩ := ih fun j' hj' hlt => hends j' hj' (Nat.lt_succ_of_lt hlt)
    obtain ⟨e, failure, hu, hm⟩ := hu.ends hf
    obtain rfl := hu.result hr hm
    exact ⟨_, _, hu.retries hm (hends j hj (Nat.lt_succ_self j))⟩

/-- After a claim that was accepted there is a last attempt, the first one that ends for good; one with the number of
the attempts allowed does. Whatever else callers, workers and timers do, an attempt at the transaction, up to the next
accepted claim of it, is one of those up to the last; it is made once, and after the one before it has ended and its
delay has passed. From the end of the last one on the transaction is not in flight, would be enqueued again, and is not
attempted. And where nobody is passed over for ever, each of these attempts is made and ends. -/
theorem accepted_job_ends_once (h : c.move n = some (.claim id true)) (hr : c.Told n id results) :
    ∃ k, 1 ≤ k ∧ k ≤ max 1 s.maxAttempts ∧ s.Ends k (results k) ∧
      (∀ j, 1 ≤ j → j < k → ¬ s.Ends j (results j)) ∧
      (∀ i job, c.Since n id i → c.move i = some (.take job) → job.transaction = id →
        1 ≤ job.attempt ∧ job.attempt ≤ k ∧ (∀ b, n < b → b < i → c.move b ≠ some (.take job)) ∧
        ∀ j, 1 ≤ j → j + 1 = job.attempt → ∃ b e, n < b ∧ b < e ∧ e < i ∧ c.move b = some (.take ⟨id, j⟩) ∧
          c.move e = some (.finish ⟨id, j⟩ (results j)) ∧ c.now e + (s.backoff j).nanos ≤ c.now i) ∧
      (∀ e failure, c.Since n id e → c.move e = some (.finish ⟨id, k⟩ failure) → ∀ i, e < i → c.Since n id i →
        id ∉ (c.queue i).inFlight ∧ ((c.queue i).enqueue id).1 = true ∧
        ∀ job, c.move i = some (.take job) → job.transaction ≠ id) ∧
      (c.Fair → ∀ j, 1 ≤ j → j ≤ k → ∃ b e, n < b ∧ b < e ∧ c.Since n id e ∧ c.move b = some (.take ⟨id, j⟩) ∧
        c.move e = some (.finish ⟨id, j⟩ (results j))) := by
  have hex : ∃ k, 1 ≤ k ∧ s.Ends k (results k) :=
    ⟨max 1 s.maxAttempts, Nat.le_max_left 1 _, .inr (.inr (Nat.le_max_right 1 _))⟩
  classical
  obtain ⟨hpos, hends⟩ := Nat.find_spec hex
  have hearlier : ∀ j, 1 ≤ j → j < Nat.find hex → ¬ s.Ends j (results j) :=
    fun j hj hlt he => Nat.find_min hex hlt ⟨hj, he⟩
  have hmax := Nat.find_min' hex ⟨Nat.le_max_left 1 s.maxAttempts, .inr (.inr (Nat.le_max_right 1 _))⟩
  generalize Nat.find hex = k at hpos hends hearlier hmax
  refine ⟨k, hpos, hmax, hends, hearlier, fun i job hs hm hid => ?_, fun e failure hs hm i hi hsi => ?_,
    fun hf j hj hle => ?_⟩
  · have hin := mem_channel_of_take hm
    rcases underWay_or_over h hr hs with ⟨job', p, hu⟩ | ho
    · obtain ⟨rfl, rfl⟩ := hu.unique (l := .channel) hin hid
      refine ⟨hu.attempt, ?_, fun b hn hb hb' => ?_, fun j hj hl => ?_⟩
      · by_contra hlt
        exact (hu.earlier k hpos (Nat.lt_of_not_le hlt)).1 hends
      · cases (hu.begun b job hn hb hb' hid).2 rfl
      · obtain ⟨-, b, e, hb, hbe, he, htake, hfinish, hdelay⟩ := hu.earlier j hj (by omega)
        exact ⟨b, e, hb, hbe, he, htake, hfinish, hdelay hl⟩
    · exact absurd hid (ho.not_live (mem_live_iff.2 ⟨.channel, hin⟩))
  · have hin := mem_running_of_finish hm
    rcases underWay_or_over h hr hs with ⟨job, p, hu⟩ | ho
    · obtain ⟨rfl, rfl⟩ := hu.unique (l := .running) hin rfl
      obtain rfl := hu.result hr hm
      have ho := (hu.isOver hm hends).later hi hsi
      refine ⟨ho.out, by simp [enqueue_fst, ho.out], fun job htake => ?_⟩
      exact ho.not_live (mem_live_iff.2 ⟨.channel, mem_channel_of_take htake⟩)
    · exact absurd rfl (ho.not_live (mem_live_iff.2 ⟨.running, hin⟩))
  · obtain ⟨i, p, hu⟩ := exists_underWay hf h hr hj fun j' hj' hlt => hearlier j' hj' (Nat.lt_of_lt_of_le hlt hle)
    obtain ⟨e, failure, hu, hm⟩ := hu.ends hf
    obtain rfl := hu.result hr hm
    obtain ⟨b, hn, hb, htake⟩ := hu.started rfl
    exact ⟨b, e, hn, hb, hu.since, htake, hm⟩

/-! ## Two transactions and one worker -/

/-- One worker and two attempts. -/
def single : QueueSettings := ⟨1, 2, .ofSeconds 2, .ofSeconds 300⟩

def unmined : Id := .issued .transaction 1

def mined : Id := .issued .transaction 2

/-- The second transaction gets into the channel first and is settled, the first one is attempted twice; a caller who
enqueues it between its attempts is turned away. -/
def sharedMoves : List Move :=
  [.claim unmined true, .claim mined true, .send ⟨mined, 1⟩, .send ⟨unmined, 1⟩, .take ⟨mined, 1⟩,
    .finish ⟨mined, 1⟩ none, .take ⟨unmined, 1⟩, .finish ⟨unmined, 1⟩ (some (.settlement (.notMined ""))),
    .claim unmined false, .resend ⟨unmined, 2⟩, .take ⟨unmined, 2⟩,
    .finish ⟨unmined, 2⟩ (some (.settlement (.notMined "")))]

def sharedQueues : List Queue :=
  [empty, ⟨[unmined], [⟨unmined, 1⟩], [], [], []⟩, ⟨[unmined, mined], [⟨unmined, 1⟩, ⟨mined, 1⟩], [], [], []⟩,
    ⟨[unmined, mined], [⟨unmined, 1⟩], [⟨mined, 1⟩], [], []⟩,
    ⟨[unmined, mined], [], [⟨mined, 1⟩, ⟨unmined, 1⟩], [], []⟩,
    ⟨[unmined, mined], [], [⟨unmined, 1⟩], [⟨mined, 1⟩], []⟩, ⟨[unmined], [], [⟨unmined, 1⟩], [], []⟩,
    ⟨[unmined], [], [], [⟨unmined, 1⟩], []⟩, ⟨[unmined], [], [], [], [⟨unmined, 2⟩]⟩,
    ⟨[unmined], [], [], [], [⟨unmined, 2⟩]⟩, ⟨[unmined], [], [⟨unmined, 2⟩], [], []⟩,
    ⟨[unmined], [], [], [⟨unmined, 2⟩], []⟩]

/-- The second attempt is due two seconds after the first one failed. -/
def shared : Course single where
  queue n := sharedQueues.getD n empty
  now n := if n < 9 then 0 else 2 * Duration.perSecond
  due n := if n < 8 then fun _ => 0 else Function.update (fun _ => 0) ⟨unmined, 2⟩ (2 * Duration.perSecond)
  move n := sharedMoves[n]?
  start := rfl
  now_le n := by split <;> split <;> omega
  idles
    | n + 12, _ => ⟨rfl, rfl⟩
  moves n m h := by
    obtain ⟨hn, rfl⟩ := List.getElem?_eq_some_iff.1 h
    have hn : n < 12 := hn
    clear h
    interval_cases n
    exacts [⟨.claim unmined, rfl⟩, ⟨.claim mined, rfl⟩, ⟨.send (by decide), rfl⟩, ⟨.send (by decide), rfl⟩,
      ⟨.take rfl, rfl⟩, ⟨.finish (by decide) none, rfl⟩, ⟨.take rfl, rfl⟩, ⟨.finish (by decide) _, rfl⟩,
      ⟨.claim unmined, rfl⟩, ⟨.resend (by decide), rfl⟩, ⟨.take rfl, rfl⟩, ⟨.finish (by decide) _, rfl⟩]
  ripe n job h := by
    obtain ⟨hn, h⟩ := List.getElem?_eq_some_iff.1 h
    have hn : n < 12 := hn
    interval_cases n <;> cases h
    decide

theorem shared_fair : shared.Fair where
  sends
    | 1, _, .head _ => ⟨3, by decide, rfl⟩
    | 2, _, .head _ => ⟨3, by decide, rfl⟩
    | 2, _, .tail _ (.head _) => ⟨2, by decide, rfl⟩
    | 3, _, .head _ => ⟨3, by decide, rfl⟩
    | 4, _, h | 5, _, h | 6, _, h | 7, _, h | 8, _, h | 9, _, h | 10, _, h | 11, _, h | _ + 12, _, h => nomatch h
  settles
    | 5, _, .head _ => ⟨5, by decide, _, rfl⟩
    | 7, _, .head _ => ⟨7, by decide, _, rfl⟩
    | 11, _, .head _ => ⟨11, by decide, _, rfl⟩
  wakes
    | 8, _, .head _ => ⟨9, by decide, rfl⟩
    | 9, _, .head _ => ⟨9, by decide, rfl⟩
    | 10, _, h | 11, _, h | _ + 12, _, h => nomatch h
  takes n h := nomatch h (n + 12) (by omega)

/-- The transaction that is not mined is attempted twice, and the second attempt comes two seconds after the first. -/
theorem unmined_ends_once : shared.move 0 = some (.claim unmined true) ∧
    shared.Told 0 unmined (fun _ => some (.settlement (.notMined ""))) ∧ shared.Fair ∧
    (∃ b e, 0 < b ∧ b < e ∧ shared.move b = some (.take ⟨unmined, 2⟩) ∧
      shared.move e = some (.finish ⟨unmined, 2⟩ (some (.settlement (.notMined ""))))) ∧
    (∃ e, e < 10 ∧ shared.move e = some (.finish ⟨unmined, 1⟩ (some (.settlement (.notMined "")))) ∧
      shared.now e + 2 * Duration.perSecond ≤ shared.now 10) ∧
    ((shared.queue 12).enqueue unmined).1 = true := by
  have htold : shared.Told 0 unmined fun _ => some (.settlement (.notMined "")) := by
    intro i attempt failure _ hm
    have hmem : .finish ⟨unmined, attempt⟩ failure ∈ sharedMoves := List.mem_of_getElem? hm
    simp only [sharedMoves, unmined, mined, List.mem_cons, List.not_mem_nil, Move.finish.injEq, Job.mk.injEq,
      Id.issued.injEq, reduceCtorEq] at hmem
    grind
  have hsince : ∀ i, 0 < i → shared.Since 0 unmined i := by
    refine fun i hpos => ⟨hpos, fun i' hi' _ hm => ?_⟩
    obtain ⟨k, rfl⟩ := Nat.exists_eq_add_of_lt hi'
    rw [Nat.zero_add] at hm
    have hmem : .claim unmined true ∈ sharedMoves.tail := List.mem_of_getElem? (i := k) hm
    simp [sharedMoves, unmined, mined] at hmem
  obtain ⟨k, hk, hmax, hends, hfirst, hattempt, hover, hmade⟩ := accepted_job_ends_once (c := shared) (n := 0) rfl htold
  have hk2 : k = 2 := by
    have hk1 : k ≠ 1 := by
      rintro rfl
      rcases hends with h | ⟨e, h, he⟩ | h
      · cases h
      · cases h
        cases he
      · exact absurd h (by decide)
    have : max 1 single.maxAttempts = 2 := rfl
    omega
  subst hk2
  obtain ⟨b, e, hb, hbe, -, htake, hfinish⟩ := hmade shared_fair 2 (by decide) (Nat.le_refl 2)
  obtain ⟨-, -, -, hbefore⟩ := hattempt 10 ⟨unmined, 2⟩ (hsince 10 (by decide)) rfl rfl
  obtain ⟨-, e', -, -, he', -, hfinish', hdelay⟩ := hbefore 1 (Nat.le_refl 1) rfl
  exact ⟨rfl, htold, shared_fair, ⟨b, e, hb, hbe, htake, hfinish⟩, ⟨e', he', hfinish', hdelay⟩,
    (hover 11 _ (hsince 11 (by decide)) rfl 12 (by decide) (hsince 12 (by decide))).2.1⟩

end Course

end Queue

end DonationLedger
