import DonationLedger.Queue
import Mathlib.Data.List.Perm.Basic

/-!
# One job at a time

Callers, workers and timers share the queue, and each of them does one thing at a time (`Move`). Whatever their order,
a transaction in flight has one live job and a transaction that is not in flight has none (`Flying`): every move keeps
this (`Flying.step`), so it holds after any number of moves. Hence no transaction is being settled twice at a time, and
the answer to a caller tells whether there was a job.
-/

namespace DonationLedger

namespace Queue

/-- What a caller, a worker or a timer does. A caller puts an id in flight and is answered, and a job that is on its way
gets into the channel; a worker takes a job, begins to settle its transaction and is told how that ended; a timer that
expired sends a job back. -/
inductive Move
  | claim (id : Id) (accepted : Bool)
  | send (job : Job)
  | take (job : Job)
  | finish (job : Job) (failure : Option Failure)
  | resend (job : Job)

/-- A move that is possible, and the queue after it. -/
inductive Step (s : QueueSettings) (q : Queue) : Move → Queue → Prop
  | claim (id : Id) : Step s q (.claim id (q.claim id).1) (q.claim id).2
  | send {job : Job} (h : job ∈ q.sending) : Step s q (.send job) (q.send job)
  | take {job : Job} {q' : Queue} (h : q.take s = some (job, q')) : Step s q (.take job) q'
  | finish {job : Job} (h : job ∈ q.running) (failure : Option Failure) :
    Step s q (.finish job failure) (q.finish job (ending s job failure))
  | resend {job : Job} (h : job ∈ q.waiting) : Step s q (.resend job) (q.resend job)

/-- Any number of moves, the first of them first. -/
inductive Runs (s : QueueSettings) : Queue → List Move → Queue → Prop
  | nil (q : Queue) : Runs s q [] q
  | cons {q q' q'' : Queue} {m : Move} {ms : List Move} (h : Step s q m q') (hs : Runs s q' ms q'') :
    Runs s q (m :: ms) q''

variable {s : QueueSettings} {q q' q'' : Queue} {id : Id} {job : Job}

theorem runs_append {ms ns : List Move} :
    Runs s q (ms ++ ns) q'' ↔ ∃ q', Runs s q ms q' ∧ Runs s q' ns q'' := by
  induction ms generalizing q with
  | nil =>
    refine ⟨fun h => ⟨q, .nil q, h⟩, ?_⟩
    rintro ⟨_, ⟨⟩, h⟩
    exact h
  | cons m ms ih =>
    constructor
    · rintro (_ | ⟨h, hs⟩)
      obtain ⟨q', hm, hn⟩ := ih.1 hs
      exact ⟨q', .cons h hm, hn⟩
    · rintro ⟨q', _ | ⟨h, hm⟩, hn⟩
      exact .cons h (ih.2 ⟨q', hm, hn⟩)

/-! ## Live jobs -/

/-- The queue without a job that a worker had. -/
def released (q : Queue) (job : Job) : Queue := { q with running := q.running.erase job }

theorem live_claim (h : id ∉ q.inFlight) : (q.claim id).2.live.Perm (firstJob id :: q.live) := by
  refine List.perm_iff_count.2 fun j => ?_
  simp only [claim, List.contains_eq_mem, h, decide_false, Bool.false_eq_true, if_false, live, List.count_append,
    List.count_cons, List.count_nil]
  omega

theorem live_send (h : job ∈ q.sending) : (q.send job).live.Perm q.live := by
  refine List.perm_iff_count.2 fun j => ?_
  have := (List.perm_cons_erase h).count_eq j
  simp only [send, live, List.count_append, List.count_cons, List.count_nil] at this ⊢
  omega

theorem take_cases (h : q.take s = some (job, q')) : ∃ rest, q.channel = job :: rest ∧
    q' = { q with channel := rest, running := q.running ++ [job] } := by
  unfold take at h
  split at h
  · cases h
  · rename_i rest hc
    split at h
    · cases h
      exact ⟨rest, hc, rfl⟩
    · cases h

theorem live_take (h : q.take s = some (job, q')) : q'.live.Perm q.live := by
  obtain ⟨rest, hc, rfl⟩ := take_cases h
  refine List.perm_iff_count.2 fun j => ?_
  simp only [live, hc, List.count_append, List.count_cons, List.count_nil]
  omega

theorem live_released (h : job ∈ q.running) : q.live.Perm (job :: (q.released job).live) := by
  refine List.perm_iff_count.2 fun j => ?_
  have := (List.perm_cons_erase h).count_eq j
  simp only [released, live, List.count_append, List.count_cons] at this ⊢
  omega

theorem live_finish_retry (q : Queue) (job next : Job) (delay : Duration) :
    (q.finish job (.retry next delay)).live.Perm (next :: (q.released job).live) := by
  refine List.perm_iff_count.2 fun j => ?_
  simp only [finish, released, live, List.count_append, List.count_cons, List.count_nil]
  omega

theorem live_resend (h : job ∈ q.waiting) : (q.resend job).live.Perm q.live := by
  refine List.perm_iff_count.2 fun j => ?_
  have := (List.perm_cons_erase h).count_eq j
  simp only [resend, live, List.count_append, List.count_cons, List.count_nil] at this ⊢
  omega

/-! ## What every move keeps -/

/-- The ids in flight are those of the live jobs, each once, and every live job is one of the attempts allowed. -/
structure Flying (s : QueueSettings) (q : Queue) : Prop where
  inFlight : q.inFlight.Perm (q.live.map Job.transaction)
  single : q.inFlight.Nodup
  attempts : ∀ j ∈ q.live, 1 ≤ j.attempt ∧ j.attempt ≤ max 1 s.maxAttempts

theorem flying_empty : empty.Flying s := ⟨.nil, .nil, nofun⟩

namespace Flying

/-- Where a job goes does not matter. -/
theorem of_perm (hq : q.Flying s) (hl : q'.live.Perm q.live) (hi : q'.inFlight = q.inFlight) : q'.Flying s where
  inFlight := hi ▸ hq.inFlight.trans (hl.map _).symm
  single := hi ▸ hq.single
  attempts j hj := hq.attempts j (hl.mem_iff.1 hj)

theorem claim (hq : q.Flying s) (id : Id) : (q.claim id).2.Flying s := by
  by_cases h : id ∈ q.inFlight
  · have : (q.claim id).2 = q := by simp [Queue.claim, h]
    rwa [this]
  · have hl := live_claim h
    have hi : (q.claim id).2.inFlight = q.inFlight ++ [id] := by simp [Queue.claim, h]
    refine ⟨?_, ?_, fun j hj => ?_⟩
    · rw [hi]
      exact List.perm_append_singleton _ _ |>.trans ((hq.inFlight.cons id).trans (hl.map Job.transaction).symm)
    · rw [hi]
      exact (List.perm_append_singleton id q.inFlight).nodup_iff.2 (List.nodup_cons.2 ⟨h, hq.single⟩)
    · rcases List.mem_cons.1 (hl.mem_iff.1 hj) with rfl | hj
      · exact ⟨Nat.le_refl 1, Nat.le_max_left 1 _⟩
      · exact hq.attempts j hj

/-- An attempt that ends for good takes its id with it. -/
theorem released (hq : q.Flying s) (h : job ∈ q.running) :
    { q.released job with inFlight := q.inFlight.erase job.transaction }.Flying s where
  inFlight := ((hq.inFlight.trans ((live_released h).map _)).erase job.transaction).trans
    (by rw [List.map_cons, List.erase_cons_head]; exact .refl _)
  single := hq.single.erase _
  attempts j hj := hq.attempts j ((live_released h).mem_iff.2 (List.mem_cons_of_mem _ hj))

theorem retry (hq : q.Flying s) (h : job ∈ q.running) (ha : job.attempt < s.maxAttempts) (delay : Duration) :
    (q.finish job (.retry ⟨job.transaction, job.attempt + 1⟩ delay)).Flying s where
  inFlight := hq.inFlight.trans (((live_released h).map Job.transaction).trans
    ((live_finish_retry q job ⟨job.transaction, job.attempt + 1⟩ delay).map Job.transaction).symm)
  single := hq.single
  attempts j hj := by
    rcases List.mem_cons.1 ((live_finish_retry q job _ delay).mem_iff.1 hj) with rfl | hj
    · exact ⟨Nat.le_add_left 1 _, Nat.le_trans ha (Nat.le_max_right 1 _)⟩
    · exact hq.attempts j ((live_released h).mem_iff.2 (List.mem_cons_of_mem _ hj))

theorem finish (hq : q.Flying s) (h : job ∈ q.running) (failure : Option Failure) :
    (q.finish job (ending s job failure)).Flying s := by
  unfold ending
  split
  · exact hq.released h
  · split
    · rename_i ha
      exact hq.retry h (by simpa using (Bool.and_eq_true_iff.1 ha).2) _
    · exact hq.released h

theorem step {m : Move} (hq : q.Flying s) (h : Step s q m q') : q'.Flying s := by
  cases h with
  | claim id => exact hq.claim id
  | send h => exact hq.of_perm (live_send h) rfl
  | take h =>
    refine hq.of_perm (live_take h) ?_
    obtain ⟨rest, -, rfl⟩ := take_cases h
    rfl
  | finish h failure => exact hq.finish h failure
  | resend h => exact hq.of_perm (live_resend h) rfl

theorem runs {ms : List Move} (hq : q.Flying s) (h : Runs s q ms q') : q'.Flying s := by
  induction h with
  | nil q => exact hq
  | cons h _ ih => exact ih (hq.step h)

theorem nodup (hq : q.Flying s) : (q.live.map Job.transaction).Nodup := hq.inFlight.nodup_iff.1 hq.single

theorem mem_inFlight_iff (hq : q.Flying s) (id : Id) : id ∈ q.inFlight ↔ ∃ j ∈ q.live, j.transaction = id := by
  rw [hq.inFlight.mem_iff, List.mem_map]

end Flying

/-! ## Attempts in progress -/

/-- A worker has its job until it is told how the attempt ended. -/
theorem Runs.mem_running {ms : List Move} (h : Runs s q ms q') (hj : job ∈ q.running)
    (hn : ∀ failure, .finish job failure ∉ ms) : job ∈ q'.running := by
  induction h with
  | nil q => exact hj
  | cons h _ ih =>
    refine ih ?_ fun failure hm => hn failure (List.mem_cons_of_mem _ hm)
    cases h with
    | claim id =>
      unfold Queue.claim
      split <;> exact hj
    | send _ => exact hj
    | take ht =>
      obtain ⟨rest, -, rfl⟩ := take_cases ht
      exact List.mem_append_left _ hj
    | resend _ => exact hj
    | @finish other _ failure =>
      have hne : job ≠ other := fun he => hn failure (he ▸ List.mem_cons_self)
      have hrest : job ∈ _ := (List.mem_erase_of_ne hne).2 hj
      unfold Queue.finish
      split <;> exact hrest

/-- An attempt at a transaction begins after the earlier ones at it have ended. -/
theorem Runs.not_overlapping {before between : List Move} {j : Job}
    (h : Runs s empty (before ++ .take job :: (between ++ [.take j])) q) (hj : j.transaction = job.transaction) :
    ∃ failure, .finish job failure ∈ between := by
  obtain ⟨q₁, h₁, _ | ⟨⟨⟩, h⟩⟩ := runs_append.1 h
  rename_i q₂ ht
  obtain ⟨q₃, h₃, _ | ⟨⟨⟩, -⟩⟩ := runs_append.1 h
  rename_i ht'
  by_contra hn
  have hq₃ : q₃.Flying s := ((flying_empty.runs h₁).step (.take ht)).runs h₃
  have hrunning : job ∈ q₃.running := by
    refine h₃.mem_running ?_ fun failure hm => hn ⟨failure, hm⟩
    obtain ⟨rest, -, rfl⟩ := take_cases ht
    exact List.mem_append_right _ (List.mem_singleton_self job)
  obtain ⟨rest, hc, -⟩ := take_cases ht'
  have hnodup := hq₃.nodup
  simp only [live, List.map_append, List.nodup_append] at hnodup
  refine hnodup.1.2.2 j.transaction ?_ job.transaction (List.mem_map_of_mem hrunning) hj
  rw [hc]
  exact List.mem_append_right _ (List.mem_map_of_mem List.mem_cons_self)

/-- However callers, workers and timers take turns: a transaction has at most one live job, and has one if and only if
it is in flight. A caller is answered that it enqueued a transaction if and only if there was no live job of it. Every
live job is one of the attempts allowed, so its number fits 32 bits where the limit does. And no attempt at a
transaction begins while another one at it is in progress. -/
theorem single_flight {moves : List Move} (h : Runs s empty moves q) :
    (q.live.map Job.transaction).Nodup ∧
    (∀ id, id ∈ q.inFlight ↔ ∃ j ∈ q.live, j.transaction = id) ∧ q.inFlight.Nodup ∧
    (∀ id, ((q.claim id).1 = true ↔ ∀ j ∈ q.live, j.transaction ≠ id) ∧ (q.enqueue id).1 = (q.claim id).1) ∧
    (∀ j ∈ q.live, 1 ≤ j.attempt ∧ j.attempt ≤ max 1 s.maxAttempts ∧
      (s.maxAttempts ≤ Text.maxWord32 → j.attempt ≤ Text.maxWord32)) ∧
    ∀ before between after j k, moves = before ++ .take j :: (between ++ .take k :: after) →
      k.transaction = j.transaction → ∃ failure, .finish j failure ∈ between := by
  have hq := flying_empty.runs h
  refine ⟨hq.nodup, hq.mem_inFlight_iff, hq.single, fun id => ⟨?_, ?_⟩, fun j hj => ?_, ?_⟩
  · rw [claim_fst, Bool.not_eq_true', List.contains_eq_mem, decide_eq_false_iff_not, hq.mem_inFlight_iff]
    exact ⟨fun hn j hj he => hn ⟨j, hj, he⟩, fun hn ⟨j, hj, he⟩ => hn j hj he⟩
  · rw [claim_fst, enqueue_fst]
  · obtain ⟨hpos, hle⟩ := hq.attempts j hj
    refine ⟨hpos, hle, fun hw => Nat.le_trans hle (Nat.max_le.2 ⟨?_, hw⟩)⟩
    decide
  · rintro before between after j k rfl hk
    have hsplit : before ++ .take j :: (between ++ .take k :: after) =
        (before ++ .take j :: (between ++ [.take k])) ++ after := by simp
    obtain ⟨q', h', -⟩ := runs_append.1 (hsplit ▸ h)
    exact h'.not_overlapping hk

/-- A transaction is enqueued twice, its first attempt comes too early, and its second attempt is under way. -/
theorem second_attempt : ∃ q, Runs .standard empty
      [.claim default true, .claim default false, .send ⟨default, 1⟩, .take ⟨default, 1⟩,
        .finish ⟨default, 1⟩ (some (.settlement (.notMined ""))), .resend ⟨default, 2⟩, .take ⟨default, 2⟩] q ∧
    (⟨default, 2⟩ : Job) ∈ q.live ∧ (q.live.map Job.transaction).Nodup ∧ (q.claim default).1 ≠ true := by
  have hmoves : Runs .standard empty
      [.claim default true, .claim default false, .send ⟨default, 1⟩, .take ⟨default, 1⟩,
        .finish ⟨default, 1⟩ (some (.settlement (.notMined ""))), .resend ⟨default, 2⟩, .take ⟨default, 2⟩]
      ⟨[default], [], [], [⟨default, 2⟩], []⟩ :=
    .cons (.claim default) <| .cons (.claim default) <| .cons (.send (by decide)) <| .cons (.take rfl) <|
      .cons (.finish (by decide) _) <| .cons (.resend (by decide)) <| .cons (.take rfl) <| .nil _
  obtain ⟨hlive, -, -, hclaim, -⟩ := single_flight hmoves
  exact ⟨_, hmoves, by decide, hlive, fun h => (hclaim default).1.1 h ⟨default, 2⟩ (by decide) rfl⟩

end Queue

end DonationLedger
