import DonationLedger.Proofs.Queue.Flight
import Mathlib.Data.List.Nodup
import Mathlib.Data.Nat.Find

/-!
# Courses of the queue

The moves of callers, workers and timers against a clock, without an end. A job is in one place at a time, and the next
move that concerns its transaction is the one that takes it from there (`Flying.fate`). Where no party is passed over
for ever (`Course.Fair`), a job gets from each place to the next, whatever other jobs share the channel and the workers:
the jobs before it in the channel only become fewer, and a worker gets free for the first of them. So every attempt
comes to its end (`Course.Fair.ends`).
-/

namespace DonationLedger

namespace Queue

variable {s : QueueSettings} {q q' : Queue} {id : Id} {job : Job} {m : Move}

/-! ## Where a job is -/

inductive Place
  | sending
  | channel
  | running
  | waiting

/-- The jobs in a place. -/
def jobs (q : Queue) : Place → List Job
  | .sending => q.sending
  | .channel => q.channel
  | .running => q.running
  | .waiting => q.waiting

theorem mem_live_iff : job ∈ q.live ↔ ∃ p, job ∈ q.jobs p := by
  constructor
  · intro h
    simp only [live, List.mem_append] at h
    rcases h with ((h | h) | h) | h
    exacts [⟨.sending, h⟩, ⟨.channel, h⟩, ⟨.running, h⟩, ⟨.waiting, h⟩]
  · rintro ⟨p, h⟩
    cases p <;> simp only [jobs] at h <;> simp [live, h]

/-- A transaction has one live job, in one place. -/
theorem Flying.unique (hq : q.Flying s) {j k : Job} {p p' : Place} (hj : j ∈ q.jobs p) (hk : k ∈ q.jobs p')
    (h : j.transaction = k.transaction) : j = k ∧ p = p' := by
  have hjk : j = k :=
    List.inj_on_of_nodup_map hq.nodup (mem_live_iff.2 ⟨p, hj⟩) (mem_live_iff.2 ⟨p', hk⟩) h
  subst hjk
  have hlive := hq.nodup.of_map
  simp only [live, List.nodup_append, List.mem_append] at hlive
  refine ⟨rfl, ?_⟩
  cases p <;> cases p' <;> simp only [jobs] at hj hk <;> grind

/-- The transaction whose job a move changes. A caller who is turned away changes none. -/
def Move.transaction? : Move → Option Id
  | .claim id accepted => if accepted then some id else none
  | .send job | .take job | .finish job _ | .resend job => some job.transaction

/-- A move that concerns other transactions leaves a job where it is. -/
theorem Step.mem_jobs (h : Step s q m q') (hm : m.transaction? ≠ some job.transaction) {p : Place}
    (hj : job ∈ q.jobs p) : job ∈ q'.jobs p := by
  have hne : ∀ {other : Job}, some other.transaction ≠ some job.transaction → job ≠ other := by
    rintro _ ho rfl
    exact ho rfl
  cases h with
  | claim id =>
    unfold Queue.claim
    split
    · exact hj
    · cases p
      case sending => exact List.mem_append_left _ hj
      all_goals exact hj
  | send _ =>
    cases p
    case sending => exact (List.mem_erase_of_ne (hne hm)).2 hj
    case channel => exact List.mem_append_left _ hj
    all_goals exact hj
  | take ht =>
    obtain ⟨rest, hc, rfl⟩ := take_cases ht
    cases p
    case channel =>
      have hmem : job ∈ q.channel := hj
      rw [hc] at hmem
      exact (List.mem_cons.1 hmem).resolve_left (hne hm)
    case running => exact List.mem_append_left _ hj
    all_goals exact hj
  | @finish other _ failure =>
    unfold Queue.finish
    cases p
    case running =>
      have hmem : job ∈ q.running.erase other := (List.mem_erase_of_ne (hne hm)).2 hj
      split <;> exact hmem
    case waiting =>
      split
      case h_3 => exact List.mem_append_left _ hj
      all_goals exact hj
    all_goals split <;> exact hj
  | resend _ =>
    cases p
    case channel => exact List.mem_append_left _ hj
    case waiting => exact (List.mem_erase_of_ne (hne hm)).2 hj
    all_goals exact hj

/-- What a move does with a live job, which was in a place before it. -/
inductive Fate (q' : Queue) (job : Job) : Place → Move → Prop
  | stays {p : Place} {m : Move} (h : job ∈ q'.jobs p) (hm : m.transaction? ≠ some job.transaction) : Fate q' job p m
  | sent (h : job ∈ q'.channel) : Fate q' job .sending (.send job)
  | taken (h : job ∈ q'.running) : Fate q' job .channel (.take job)
  | ended (failure : Option Failure) : Fate q' job .running (.finish job failure)
  | resent (h : job ∈ q'.channel) : Fate q' job .waiting (.resend job)

theorem Flying.fate (hq : q.Flying s) (h : Step s q m q') {p : Place} (hj : job ∈ q.jobs p) : Fate q' job p m := by
  by_cases hm : m.transaction? = some job.transaction
  · cases h with
    | claim id =>
      have hin : job.transaction ∈ q.inFlight := (hq.mem_inFlight_iff _).2 ⟨job, mem_live_iff.2 ⟨p, hj⟩, rfl⟩
      simp only [Move.transaction?, claim_fst, List.contains_eq_mem, Bool.not_eq_true', decide_eq_false_iff_not] at hm
      split at hm
      · rename_i hout
        exact absurd (Option.some.inj hm ▸ hin) hout
      · cases hm
    | @send other ho =>
      obtain ⟨rfl, rfl⟩ := hq.unique (p := .sending) ho hj (Option.some.inj hm)
      exact .sent (List.mem_append_right _ (List.mem_singleton_self _))
    | @take other _ ht =>
      obtain ⟨rest, hc, rfl⟩ := take_cases ht
      have ho : other ∈ q.jobs .channel := by
        rw [jobs, hc]
        exact List.mem_cons_self
      obtain ⟨rfl, rfl⟩ := hq.unique ho hj (Option.some.inj hm)
      exact .taken (List.mem_append_right _ (List.mem_singleton_self _))
    | @finish other ho failure =>
      obtain ⟨rfl, rfl⟩ := hq.unique (p := .running) ho hj (Option.some.inj hm)
      exact .ended failure
    | @resend other ho =>
      obtain ⟨rfl, rfl⟩ := hq.unique (p := .waiting) ho hj (Option.some.inj hm)
      exact .resent (List.mem_append_right _ (List.mem_singleton_self _))
  · exact .stays (h.mem_jobs hm hj) hm

/-! ## The workers -/

/-- No more attempts are in progress than there are workers. -/
theorem Step.running_le (h : Step s q m q') (hq : q.running.length ≤ s.pool) : q'.running.length ≤ s.pool := by
  cases h with
  | claim id =>
    unfold Queue.claim
    split <;> exact hq
  | take ht =>
    obtain ⟨rest, hc, rfl⟩ := take_cases ht
    have hfree : q.running.length < s.pool := by
      by_contra hfull
      rw [Queue.take, hc] at ht
      simp [hfull] at ht
    simp only [List.length_append, List.length_singleton]
    exact hfree
  | @finish other _ failure =>
    have := List.length_erase_le (l := q.running) (a := other)
    unfold Queue.finish
    split <;> exact Nat.le_trans this hq
  | send _ | resend _ => exact hq

/-- Where no worker takes a job, the channel only grows, at its end, and no more attempts than before are in
progress. -/
theorem Step.untaken (h : Step s q m q') (hm : ∀ j, m ≠ .take j) :
    (∃ rest, q'.channel = q.channel ++ rest) ∧ q'.running.length ≤ q.running.length := by
  cases h with
  | claim id =>
    unfold Queue.claim
    split <;> exact ⟨⟨[], (List.append_nil _).symm⟩, Nat.le_refl _⟩
  | send _ => exact ⟨⟨_, rfl⟩, Nat.le_refl _⟩
  | @take other _ _ => exact absurd rfl (hm other)
  | @finish other _ failure =>
    have := List.length_erase_le (l := q.running) (a := other)
    unfold Queue.finish
    split <;> exact ⟨⟨[], (List.append_nil _).symm⟩, this⟩
  | resend _ => exact ⟨⟨_, rfl⟩, Nat.le_refl _⟩

theorem length_running_finish (h : job ∈ q.running) (e : Ending) :
    (q.finish job e).running.length + 1 = q.running.length := by
  have := (List.length_erase_add_one h)
  unfold Queue.finish
  split <;> exact this

/-! ## Courses -/

/-- The timers after a move: an attempt that is to be repeated sets one. -/
def timers (s : QueueSettings) (now : Nat) (due : Job → Nat) : Move → Job → Nat
  | .finish job failure =>
    match ending s job failure with
    | .retry next delay => Function.update due next (now + delay.nanos)
    | .settled | .abandoned => due
  | _ => due

theorem ending_transaction {failure : Option Failure} {next : Job} {delay : Duration}
    (h : ending s job failure = .retry next delay) : next.transaction = job.transaction := by
  unfold ending at h
  split at h
  · cases h
  · split at h <;> cases h
    rfl

/-- A timer is set by its own transaction alone. -/
theorem timers_of_ne {now : Nat} {due : Job → Nat} (h : m.transaction? ≠ some job.transaction) :
    timers s now due m job = due job := by
  cases m with
  | finish other failure =>
    cases hnext : ending s other failure with
    | retry next delay =>
      have hne : job ≠ next := by
        rintro rfl
        exact h (congrArg some (ending_transaction hnext).symm)
      simp only [timers, hnext]
      exact Function.update_of_ne hne _ _
    | settled | abandoned => simp only [timers, hnext]
  | claim _ _ | send _ | take _ | resend _ => rfl

/-- What becomes of a queue that starts empty. At each moment there is one move or none. A moment has a time, in
nanoseconds, and so has the end of a waiting job's timer, which never goes off before. -/
structure Course (s : QueueSettings) where
  queue : Nat → Queue
  now : Nat → Nat
  due : Nat → Job → Nat
  move : Nat → Option Move
  start : queue 0 = empty
  now_le : ∀ n, now n ≤ now (n + 1)
  idles : ∀ n, move n = none → queue (n + 1) = queue n ∧ due (n + 1) = due n
  moves : ∀ n m, move n = some m →
    Step s (queue n) m (queue (n + 1)) ∧ due (n + 1) = timers s (now n) (due n) m
  ripe : ∀ n job, move n = some (.resend job) → due n job ≤ now n

namespace Course

/-- Nobody is passed over for ever: a caller sends the job that it put in flight, a settlement that was begun ends in
one way or another, a timer goes off, and a worker takes a job where one may do so from some moment on. -/
structure Fair (c : Course s) : Prop where
  sends : ∀ n job, job ∈ (c.queue n).sending → ∃ i, n ≤ i ∧ c.move i = some (.send job)
  settles : ∀ n job, job ∈ (c.queue n).running → ∃ i, n ≤ i ∧ ∃ failure, c.move i = some (.finish job failure)
  wakes : ∀ n job, job ∈ (c.queue n).waiting → ∃ i, n ≤ i ∧ c.move i = some (.resend job)
  takes : ∀ n, (∀ i, n ≤ i → ((c.queue i).take s).isSome) → ∃ i, n ≤ i ∧ ∃ job, c.move i = some (.take job)

variable (c : Course s)

theorem flying (n : Nat) : (c.queue n).Flying s := by
  induction n with
  | zero => exact c.start ▸ flying_empty
  | succ n ih =>
    cases hm : c.move n with
    | none => exact (c.idles n hm).1 ▸ ih
    | some m => exact ih.step (c.moves n m hm).1

theorem running_le (n : Nat) : (c.queue n).running.length ≤ s.pool := by
  induction n with
  | zero => exact c.start ▸ Nat.zero_le _
  | succ n ih =>
    cases hm : c.move n with
    | none => exact (c.idles n hm).1 ▸ ih
    | some m => exact (c.moves n m hm).1.running_le ih

variable {c} {n : Nat}

theorem untaken {d : Nat} (h : ∀ i, n ≤ i → i < n + d → ∀ j, c.move i ≠ some (.take j)) :
    (∃ rest, (c.queue (n + d)).channel = (c.queue n).channel ++ rest) ∧
      (c.queue (n + d)).running.length ≤ (c.queue n).running.length := by
  induction d with
  | zero => exact ⟨⟨[], (List.append_nil _).symm⟩, Nat.le_refl _⟩
  | succ d ih =>
    obtain ⟨⟨rest, hc⟩, hr⟩ := ih fun i hi hlt => h i hi (by omega)
    rw [← Nat.add_assoc]
    cases hm : c.move (n + d) with
    | none =>
      rw [(c.idles _ hm).1]
      exact ⟨⟨rest, hc⟩, hr⟩
    | some m =>
      obtain ⟨⟨more, hc'⟩, hr'⟩ := (c.moves _ m hm).1.untaken fun j hj => h (n + d) (by omega) (by omega) j (hj ▸ hm)
      exact ⟨⟨rest ++ more, by rw [hc', hc, List.append_assoc]⟩, Nat.le_trans hr' hr⟩

namespace Fair

variable (hf : c.Fair)
include hf

/-- A job in the channel does not stay there for want of a worker. -/
theorem exists_take (h : (c.queue n).channel ≠ []) : ∃ i, n ≤ i ∧ ∃ job, c.move i = some (.take job) := by
  by_contra hnone
  push Not at hnone
  have quiet : ∀ a, n ≤ a → ∀ d, (∃ rest, (c.queue (a + d)).channel = (c.queue a).channel ++ rest) ∧
      (c.queue (a + d)).running.length ≤ (c.queue a).running.length :=
    fun a ha d => untaken fun i hi _ j => hnone i (Nat.le_trans ha hi) j
  -- a worker gets free, since an attempt in progress ends
  have hfree : ∃ a, n ≤ a ∧ (c.queue a).running.length < s.pool := by
    rcases Nat.lt_or_eq_of_le (c.running_le n) with hlt | hfull
    · exact ⟨n, Nat.le_refl n, hlt⟩
    · obtain ⟨job, hjob⟩ := List.exists_mem_of_length_pos (hfull ▸ s.pool_pos)
      obtain ⟨i, hi, failure, hm⟩ := hf.settles n job hjob
      have hstep := (c.moves i _ hm).1
      obtain ⟨d, rfl⟩ := Nat.exists_eq_add_of_le hi
      refine ⟨n + d + 1, by omega, ?_⟩
      generalize hq : c.queue (n + d + 1) = q' at hstep
      cases hstep with
      | finish hr =>
        have := length_running_finish hr (ending s job failure)
        have := (quiet n (Nat.le_refl n) d).2
        omega
  obtain ⟨a, ha, hfree⟩ := hfree
  have hready : ∀ i, a ≤ i → ((c.queue i).take s).isSome := by
    intro i hi
    obtain ⟨d, rfl⟩ := Nat.exists_eq_add_of_le hi
    obtain ⟨e, rfl⟩ := Nat.exists_eq_add_of_le ha
    obtain ⟨⟨rest, hc⟩, -⟩ := quiet n (Nat.le_refl n) e
    obtain ⟨⟨rest', hc'⟩, hr⟩ := quiet (n + e) ha d
    cases hch : (c.queue (n + e + d)).channel with
    | nil => simp [hc', hc, h] at hch
    | cons job rest => simp [take, hch, Nat.lt_of_le_of_lt hr hfree]
  obtain ⟨i, hi, job, hm⟩ := hf.takes a hready
  exact hnone i (Nat.le_trans ha hi) job hm

/-- The first of the channel is taken, and what was behind it has moved up. -/
theorem first_taken {rest : List Job} (h : (c.queue n).channel = job :: rest) :
    ∃ i, n < i ∧ job ∈ (c.queue i).running ∧ ∃ more, (c.queue i).channel = rest ++ more := by
  have hex := hf.exists_take (n := n) (by simp [h])
  classical
  obtain ⟨hle, head, hm⟩ := Nat.find_spec hex
  have hfirst : ∀ i, n ≤ i → i < Nat.find hex → ∀ j, c.move i ≠ some (.take j) :=
    fun i hi hlt j hj => Nat.find_min hex hlt ⟨hi, j, hj⟩
  generalize Nat.find hex = i at hle hm hfirst
  obtain ⟨d, rfl⟩ := Nat.exists_eq_add_of_le hle
  obtain ⟨⟨more, hc⟩, -⟩ := untaken hfirst
  have hstep := (c.moves _ _ hm).1
  generalize hq : c.queue (n + d + 1) = q' at hstep
  cases hstep with
  | take ht =>
    obtain ⟨rest', hc', rfl⟩ := take_cases ht
    obtain ⟨rfl, rfl⟩ := List.cons.inj (hc'.symm.trans (h ▸ hc))
    refine ⟨n + d + 1, by omega, ?_, more, ?_⟩ <;> rw [hq]
    · exact List.mem_append_right _ (List.mem_singleton_self _)
    · rfl

/-- By induction on the jobs that are before it in the channel. -/
theorem taken {before after : List Job} (h : (c.queue n).channel = before ++ job :: after) :
    ∃ i, n ≤ i ∧ job ∈ (c.queue i).running := by
  induction before generalizing n after with
  | nil =>
    obtain ⟨i, hi, hr, -⟩ := hf.first_taken h
    exact ⟨i, Nat.le_of_lt hi, hr⟩
  | cons first before ih =>
    obtain ⟨i, hi, -, more, hc⟩ := hf.first_taken h
    obtain ⟨i', hi', hr⟩ := ih (hc.trans (List.append_assoc before (job :: after) more))
    exact ⟨i', by omega, hr⟩

/-- Every attempt comes to its end, from wherever its job is. -/
theorem ends (h : job ∈ (c.queue n).live) : ∃ i, n ≤ i ∧ ∃ failure, c.move i = some (.finish job failure) := by
  have of_running : ∀ {n}, (∃ i, n ≤ i ∧ job ∈ (c.queue i).running) →
      ∃ i, n ≤ i ∧ ∃ failure, c.move i = some (.finish job failure) := by
    rintro n ⟨i, hi, hr⟩
    obtain ⟨i', hi', hm⟩ := hf.settles i job hr
    exact ⟨i', Nat.le_trans hi hi', hm⟩
  have of_channel : ∀ {n}, (∃ i, n ≤ i ∧ job ∈ (c.queue i).channel) →
      ∃ i, n ≤ i ∧ ∃ failure, c.move i = some (.finish job failure) := by
    rintro n ⟨i, hi, hc⟩
    obtain ⟨before, after, hc⟩ := List.append_of_mem hc
    obtain ⟨i', hi', hr⟩ := hf.taken hc
    exact of_running ⟨i', Nat.le_trans hi hi', hr⟩
  -- a job that is sent, or sent back, is in the channel then
  have of_sent : ∀ {m : Move} {i}, n ≤ i → c.move i = some m → (Step s (c.queue i) m (c.queue (i + 1)) →
      job ∈ (c.queue (i + 1)).channel) → ∃ i, n ≤ i ∧ ∃ failure, c.move i = some (.finish job failure) :=
    fun hi hm hc => of_channel ⟨_, Nat.le_succ_of_le hi, hc (c.moves _ _ hm).1⟩
  obtain ⟨p, hp⟩ := mem_live_iff.1 h
  cases p with
  | sending =>
    obtain ⟨i, hi, hm⟩ := hf.sends n job hp
    refine of_sent hi hm fun hstep => ?_
    generalize c.queue (i + 1) = q' at hstep
    cases hstep
    exact List.mem_append_right _ (List.mem_singleton_self _)
  | channel => exact of_channel ⟨n, Nat.le_refl n, hp⟩
  | running => exact of_running ⟨n, Nat.le_refl n, hp⟩
  | waiting =>
    obtain ⟨i, hi, hm⟩ := hf.wakes n job hp
    refine of_sent hi hm fun hstep => ?_
    generalize c.queue (i + 1) = q' at hstep
    cases hstep
    exact List.mem_append_right _ (List.mem_singleton_self _)

end Fair

end Course

end Queue

end DonationLedger
