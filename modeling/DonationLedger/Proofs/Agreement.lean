import DonationLedger.Proofs.Follow.Walk
import DonationLedger.Proofs.Resolution.Walk
import DonationLedger.Proofs.System.Ends

/-!
# Observers of a settlement agree

Several operations may try to settle one transaction at once, each with a receipt of its own. None of them
asks the node within a ledger transaction, so all that a receipt decided is looked at again against what is
stored. Whoever comes later takes over the end that is there, and so every operation tells the same of it.
Nothing but keys is asked of the rows.
-/

namespace DonationLedger

/-- The operation returned, and what it returned tells in which states the transaction of an id can be. A job
tells it of the transaction that it was asked for and of the one that it names. -/
inductive Task.Tells : Task → Id → List TransactionState → Prop
  | resolve {d : Deployment} {b t : Id} {o : Outcome} {heard : List Told} :
    Tells ⟨.resolve d b t, .finish (.ok o), heard⟩ t [o.state]
  | settle {t : Id} {x : Settled} {heard : List Told} :
    Tells ⟨.settle t, .finish (.ok x), heard⟩ t [x.outcome.state]
  | settled {t : Id} {x : Settled} {heard : List Told} :
    Tells ⟨.settle t, .finish (.ok x), heard⟩ x.transaction [x.outcome.state]
  | linked {d : Deployment} {log : Log} {t : Id} {heard : List Told} :
    Tells ⟨.apply d log, .finish (.ok (.linked t)), heard⟩ t [.succeeded]
  | created {d : Deployment} {log : Log} {t : Id} {heard : List Told} :
    Tells ⟨.apply d log, .finish (.ok (.created t)), heard⟩ t [.succeeded]
  | rejected {d : Deployment} {log : Log} {t : Id} {heard : List Told} :
    Tells ⟨.apply d log, .finish (.ok (.rejected t)), heard⟩ t [.failed, .canceled]
  | alreadySettled {d : Deployment} {log : Log} {t : Id} {heard : List Told} :
    Tells ⟨.apply d log, .finish (.ok (.alreadySettled t)), heard⟩ t [.succeeded, .failed, .canceled]

/-- The transaction of `t` ended in one of the states. -/
def Ledger.EndedIn (l : Ledger) (t : Id) (states : List TransactionState) : Prop :=
  ∃ u, l.transaction? t = some u ∧ u.state ∈ states ∧ u.state ≠ .pending

/-- The transaction of `t` is pending in the one system and has ended in the other. -/
def System.Leaves (t : Id) (w w' : System) : Prop :=
  (∃ u ∈ w.session.ledger.transactions, u.id = t ∧ u.state = .pending) ∧
  ∃ u ∈ w'.session.ledger.transactions, u.id = t ∧ u.state ≠ .pending

namespace Ledger.EndedIn

variable {l l' : Ledger} {t : Id} {states states' : List TransactionState}

theorem follows (h : l.EndedIn t states) (hl : l.Follows l') : l'.EndedIn t states := by
  obtain ⟨u, hu, hs, hp⟩ := h
  obtain ⟨v, hv, huv⟩ := hl.transactions t u hu
  have he := (huv.ended (by simpa [Transaction.isPending] using hp)).1
  exact ⟨v, hv, he ▸ hs, he ▸ hp⟩

theorem mono (h : l.EndedIn t states) (hs : states ⊆ states') : l.EndedIn t states' := by
  obtain ⟨u, hu, hm, hp⟩ := h
  exact ⟨u, hu, hs hm, hp⟩

theorem of_ended {b : Id} {o : Outcome} (h : l.Ended b t o) : l.EndedIn t [o.state] := by
  obtain ⟨c, u, -, -, hu, ho⟩ := h
  exact ⟨u, hu, by simp [ho], ho ▸ o.state_ne_pending⟩

end Ledger.EndedIn

/-! ## What the ledger transactions return -/

section
variable {s s' : Session} {t : Id}

/-- The transaction that is found for a blockchain transaction is stored. -/
theorem Session.Keyed.transaction?_linked (hk : s.Keyed) {c : BlockchainTransaction} {u : Transaction}
    (h : s.ledger.linked? c = some u) : s.ledger.transaction? u.id = some u := by
  unfold Ledger.linked? at h
  split at h
  · rw [(Ledger.transaction?_mem h).2, h]
  · exact Ledger.transaction?_of_mem hk.transactions (Ledger.expecting?_some h).1

theorem endedIn_applyEvent {d : Deployment} {log : Log} {chain : Chain} {hash : String} {block index : Int}
    {e : Event} {verdict : Except InvalidReason Payment} {a : Applied} {states : List TransactionState}
    {h : List Told} (hk : s.Keyed)
    (hy : (Work.applyEvent chain hash block index e verdict).Yields s (.applied a) s')
    (ht : Task.Tells ⟨.apply d log, .finish (.ok a), h⟩ t states) : s'.ledger.EndedIn t states := by
  obtain ⟨c, s₁, s₂, -, hk₂, -, -, -, hcr⟩ := Work.applyEvent_credited hk hy
  cases hcr with
  | @settled u hu hp =>
    cases ht
    refine ⟨u, hk₂.transaction?_linked hu, ?_⟩
    revert hp
    unfold Transaction.isPending
    cases u.state <;> decide
  | invalid => cases ht
  | unknown => cases ht
  | matched _ _ _ _ _ hl =>
    cases ht
    exact ⟨_, hl.transaction_self, by simp, by simp⟩
  | @created _ _ u _ _ _ _ _ _ hu hl =>
    cases ht
    have hs : u.state = .succeeded := by rw [hu]; rfl
    exact ⟨u, hl.transaction_self, by simp [hs], by simp [hs]⟩

end

/-! ## Operations -/

/-- What an operation tells of a transaction is so when it returns. -/
def agreeing (o : Outside) : Regime o where
  others := Session.Later
  own _ _ := Session.Later
  post op h r s := ∀ t states, Task.Tells ⟨op, .finish r, h⟩ t states → s.ledger.EndedIn t states
  refl := .refl
  trans := .trans
  expected := id

section
variable {o : Outside} {op : Operation} {s : Session} {h : List Told} {d : Deployment}

theorem agreeing_idles : ((agreeing o).terms op).Idles := fun _ _ _ hl hs => .of_ledger_eq hl hs

theorem agreeing_lenient (op : Operation) : Process.Lenient ((agreeing o).post op) := fun _ _ _ _ _ ht => nomatch ht

theorem agreeing_resolveReceipt {b t : Id} : (resolveReceipt d b t).Meets ((agreeing o).terms op)
    (fun _ r s => ∀ x, r = .ok x → s.ledger.EndedIn t [x.state]) h s := by
  refine Process.meets_resolveReceipt_end (fun _ _ => True) (fun _ _ _ => nofun) agreeing_idles ?_ ?_
  · intro s₁ p s₂ _ hy
    refine ⟨(Work.lasting_openPair b t).later hy, fun x s₃ hx hs₃ _ he => ?_, fun _ => trivial⟩
    obtain rfl := Except.ok.inj he
    exact (Ledger.EndedIn.of_ended (Work.ended_openPair hy hx)).follows hs₃.follows
  · intro s₁ c hash receipt block os h' s₂ x s₃ _ _ _ _ _ _ _ hy
    refine ⟨(Work.lasting_closePair _ _ _ _ _).later hy, fun s₄ hs₄ _ he => ?_⟩
    obtain rfl := Except.ok.inj he
    exact (Ledger.EndedIn.of_ended (Work.ended_closePair hy)).follows hs₄.follows

theorem agreeing_applyLog {log : Log} (hk : s.Keyed) :
    (applyLog d log).Meets ((agreeing o).terms (.apply d log)) ((agreeing o).post (.apply d log)) h s := by
  refine Process.meets_applyLog_end (agreeing_lenient _) agreeing_idles (fun _ s₁ _ t states ht => ?_) ?_
  · split at ht <;> cases ht
  · intro s₁ block index e verdict h' r s₂ _ _ _ hs₁ hy
    refine ⟨(Work.lasting_applyEvent _ _ _ _ _ _).later hy, ?_⟩
    cases r with
    | applied a => exact fun s₃ hs₃ t states ht => (endedIn_applyEvent (hs₁.keyed hk) hy ht).follows hs₃.follows
    | needsReceipt b t =>
      refine Process.meets_bind (agreeing_resolveReceipt.stays.imp fun h₂ x s₃ hx => ?_)
      cases x with
      | error e => exact fun s₄ _ => agreeing_lenient _ _ _ s₄
      | ok x =>
        intro s₄ hs₄ t' states ht
        have he := hx s₄ hs₄ x rfl
        cases x <;> cases ht <;> exact he.mono (by simp [Outcome.state])

theorem agreeing_process (hk : s.Keyed) :
    (op.process o.registry).Meets ((agreeing o).terms op) ((agreeing o).post op) h s := by
  cases op with
  | resolve d b t =>
    refine agreeing_resolveReceipt.imp fun _ r s hr t states ht => ?_
    cases ht
    exact hr _ rfl
  | settle t =>
    refine Process.meets_settle_end (agreeing_lenient _) agreeing_idles fun d c s₁ _ _ _ =>
      agreeing_resolveReceipt.imp fun _ r s hr x hx t states ht => ?_
    cases ht <;> exact hr x hx
  | apply d log => exact agreeing_applyLog hk
  | follow chain =>
    have hfollow : (follow o.registry chain).Meets ((agreeing o).terms (.follow chain)) Process.anyEnd h s := by
      refine Process.meets_follow agreeing_idles id ?_ fun _ _ _ _ _ hy =>
        (Work.lasting_raiseCheckpoint _ _).later hy
      refine fun d _ _ _ log _ s' _ _ _ hs' => Process.meets_applyLog agreeing_idles ?_
      intro _ _ _ _ _ _ _ _ _ _ _ _ _ _ _ _ hy
      exact ⟨(Work.lasting_applyEvent _ _ _ _ _ _).later hy, fun b t _ =>
        agreeing_resolveReceipt.imp fun _ _ _ _ => trivial⟩
    exact hfollow.imp fun _ _ _ _ _ _ ht => nomatch ht

theorem agreeing_callers : (agreeing o).Callers := Regime.callers_of_later fun _ _ => id

end

namespace System

variable {o : Outside} {w w' : System}

theorem later_of_kept (hw : (agreeing o).Kept w) (hk : w.session.Keyed) (h : w.Reaches o w') :
    (agreeing o).Kept w' ∧ w.session.Later w'.session :=
  Regime.kept_reaches (m := agreeing o) Session.Keyed agreeing_callers (fun hk hs => hs.keyed hk)
    (fun _ _ _ hk => agreeing_process hk) hw hk h

/-- What was told of a transaction is so ever after. -/
theorem endedIn_of_tells (hw : (agreeing o).Kept w) (hl : w.session.Later w'.session) {task : Task} {t : Id}
    {states : List TransactionState} (hm : task ∈ w.tasks) (ht : task.Tells t states) :
    w'.session.ledger.EndedIn t states := by
  have hmeets := hw task hm
  have ht' := ht
  cases ht <;> exact hmeets _ hl _ _ ht'

/-- A transaction that has ended never ends again. -/
theorem not_leaves_of_leaves (hw : (agreeing o).Kept w) (hk : w.session.Keyed) {t : Id} {w₁ w₂ w₃ : System}
    (h₁ : w.Step o w₁) (h₂ : w₁.Reaches o w₂) (h : Leaves t w w₁) : ¬ Leaves t w₂ w₃ := by
  rintro ⟨⟨v, hv, hid, hpend⟩, -⟩
  obtain ⟨-, u, hu, rfl, hp⟩ := h
  obtain ⟨hw₁, hl₁⟩ := later_of_kept hw hk (.single h₁)
  have hk₁ := hl₁.keyed hk
  have hl₂ := (later_of_kept hw₁ hk₁ h₂).2
  obtain ⟨v', hv', huv⟩ := hl₂.follows.transactions u.id u (Ledger.transaction?_of_mem hk₁.transactions hu)
  have hvv := Ledger.transaction?_of_mem (hl₂.keyed hk₁).transactions hv
  rw [hid, hv'] at hvv
  obtain rfl := Option.some.inj hvv
  exact hp ((huv.ended (by simpa [Transaction.isPending] using hp)).1 ▸ hpend)

/-- Begin with any rows under ids that are keys. Whatever is asked for and answered, in whatever order: a
transaction ends in one step and never in another, an operation that returned has told in which states it is
from then on, which is never pending, and all that told an outcome of it told the same one. -/
theorem observers_agree (o : Outside) {w₀ w : System} (hk : w₀.session.Keyed) (ht : w₀.tasks = [])
    (hr : w₀.Reaches o w) :
    (∀ t w₁ w₂ w₃, w.Step o w₁ → w₁.Reaches o w₂ → w₂.Step o w₃ → Leaves t w w₁ → ¬ Leaves t w₂ w₃) ∧
    (∀ task ∈ w.tasks, ∀ t states, task.Tells t states → ∀ w', w.Reaches o w' →
      (∃ u ∈ w'.session.ledger.transactions, u.id = t) ∧
      ∀ u ∈ w'.session.ledger.transactions, u.id = t → u.state ≠ .pending ∧ u.state ∈ states) ∧
    ∀ task ∈ w.tasks, ∀ task' ∈ w.tasks, ∀ t (x x' : Outcome), task.Tells t [x.state] →
      task'.Tells t [x'.state] → x = x' := by
  obtain ⟨hw, hl⟩ := later_of_kept (fun x hx => by simp [ht] at hx) hk hr
  have hkw := hl.keyed hk
  refine ⟨fun t w₁ w₂ w₃ h₁ h₂ _ h => not_leaves_of_leaves hw hkw h₁ h₂ h, ?_, ?_⟩
  · intro task hm t states htell w' hr'
    have hl' := (later_of_kept hw hkw hr').2
    obtain ⟨u, hu, hs, hp⟩ := endedIn_of_tells hw hl' hm htell
    refine ⟨⟨u, Ledger.transaction?_mem hu⟩, fun v hv hid => ?_⟩
    have hvv := Ledger.transaction?_of_mem (hl'.keyed hkw).transactions hv
    rw [hid, hu] at hvv
    obtain rfl := Option.some.inj hvv
    exact ⟨hp, hs⟩
  · intro task hm task' hm' t x x' htell htell'
    obtain ⟨u, hu, hs, -⟩ := endedIn_of_tells hw (.refl _) hm htell
    obtain ⟨v, hv, hs', -⟩ := endedIn_of_tells hw (.refl _) hm' htell'
    obtain rfl := Option.some.inj (hu.symm.trans hv)
    exact Outcome.eq_of_state_eq ((List.mem_singleton.1 hs).symm.trans (List.mem_singleton.1 hs'))

end System

/-! ## Two observers -/

/-- Of which transaction a job or a log told the outcome, and which. -/
def Task.outcome? : Task → Option (Id × Outcome)
  | ⟨.settle _, .finish (.ok x), _⟩ => some (x.transaction, x.outcome)
  | ⟨.apply _ _, .finish (.ok (.linked t)), _⟩ => some (t, .succeeded)
  | ⟨.apply _ _, .finish (.ok (.created t)), _⟩ => some (t, .succeeded)
  | _ => none

theorem Task.tells_of_outcome? {task : Task} {t : Id} {x : Outcome} (h : task.outcome? = some (t, x)) :
    task.Tells t [x.state] := by
  unfold outcome? at h
  split at h <;> cases h
  · exact .settled
  · exact .linked
  · exact .created

namespace Donation

/-- The id of the donation that is waited for. -/
def expectedId : Id := .issued .transaction 1

/-- A job and a log of the donation are begun. -/
def contested : System :=
  ⟨awaited.session, [], [(Operation.settle expectedId).task [deployment], (Operation.apply deployment log).task
    [deployment]]⟩

/-- The log came to its end between two requests of the job. -/
def observed : System := contested.turns node [0, 1, 1, 1, 1, 1, 1, 0]

theorem observed_operations : observed.tasks.map Task.operation = [.settle expectedId, .apply deployment log] :=
  System.operations_of_advances
    (System.turns_advances (o := .any [deployment]) (fun _ _ => trivial) (fun _ _ => trivial) contested _)

theorem observed_reachable : observed.Reachable [deployment] := by
  have hjob : awaited.Step (.any [deployment])
      ⟨awaited.session, [], [(Operation.settle expectedId).task [deployment]]⟩ := .start trivial
  have hlog : System.Step (.any [deployment])
      ⟨awaited.session, [], [(Operation.settle expectedId).task [deployment]]⟩ contested := .start trivial
  have hboth : System.Reachable [deployment] contested := ((awaited_reachable [deployment]).tail hjob).tail hlog
  exact hboth.trans (System.turns_reaches (fun _ _ => trivial) (fun _ _ => trivial) contested _)

end Donation

/-- The job and the log told the same outcome of the donation, which is so whatever comes after. -/
theorem System.donation_observed : Donation.observed.Reachable [Donation.deployment] ∧
    ∃ job log : Task, Donation.observed.tasks = [job, log] ∧ job.operation = .settle Donation.expectedId ∧
      log.operation = .apply Donation.deployment Donation.log ∧ ∃ x x' : Outcome,
        job.Tells Donation.expectedId [x.state] ∧ log.Tells Donation.expectedId [x'.state] ∧ x = x' ∧
        ∀ w', Donation.observed.Reaches (.any [Donation.deployment]) w' →
          ∀ u ∈ w'.session.ledger.transactions, u.id = Donation.expectedId → u.state = x.state := by
  have hk : System.empty.session.Keyed := ⟨List.nodup_nil, List.nodup_nil, nofun, nofun⟩
  have hr := Donation.observed_reachable
  obtain ⟨-, hafter, hsame⟩ := observers_agree (.any [Donation.deployment]) hk rfl hr
  have houtcomes : Donation.observed.tasks.map Task.outcome? =
      [some (Donation.expectedId, .succeeded), some (Donation.expectedId, .succeeded)] := by decide +kernel
  obtain ⟨job, tasks, htasks, hjob, hrest⟩ := List.map_eq_cons_iff.1 houtcomes
  obtain ⟨log, tasks, rfl, hlog, hrest⟩ := List.map_eq_cons_iff.1 hrest
  obtain rfl := List.map_eq_nil_iff.1 hrest
  have hoperations := Donation.observed_operations
  rw [htasks] at hafter hsame hoperations
  obtain ⟨hsettle, hoperations⟩ := List.cons.inj hoperations
  obtain ⟨happly, -⟩ := List.cons.inj hoperations
  have htells := Task.tells_of_outcome? hjob
  have htells' := Task.tells_of_outcome? hlog
  refine ⟨hr, job, log, htasks, hsettle, happly, .succeeded, .succeeded, htells, htells', ?_, fun w' h u hu hid => ?_⟩
  · exact hsame _ (.head _) _ (.tail _ (.head _)) _ _ _ htells htells'
  · exact List.mem_singleton.1 ((hafter _ (.head _) _ _ htells w' h).2 u hu hid).2

end DonationLedger
