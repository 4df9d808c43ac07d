import DonationLedger.Proofs.Follow.Walk
import DonationLedger.Proofs.Resolution.Seen

/-!
# Who leaves a checkpoint alone

Only a cycle on a chain moves the checkpoint of that chain. All other operations, and all that callers do, leave it
where it is, whatever happens in between.
-/

namespace DonationLedger

/-- `s'` is a later session than `s`, and the checkpoint of the chain is where it was. -/
structure Session.Spares (s : Session) (chain : Chain) (s' : Session) : Prop where
  later : s.Later s'
  checkpoint : s'.ledger.checkpoint? chain = s.ledger.checkpoint? chain

namespace Session

variable {s s' s'' : Session} {chain : Chain}

theorem Spares.refl (s : Session) (chain : Chain) : s.Spares chain s := ⟨.refl s, rfl⟩

theorem Spares.trans (h : s.Spares chain s') (k : s'.Spares chain s'') : s.Spares chain s'' :=
  ⟨h.later.trans k.later, k.checkpoint.trans h.checkpoint⟩

theorem Spares.of_ledger_eq (hl : s'.ledger = s.ledger) (hs : ∀ kind, s.supply.count kind ≤ s'.supply.count kind) :
    s.Spares chain s' := ⟨.of_ledger_eq hl hs, by rw [hl]⟩

theorem Spares.of_beside (hl : s.Later s') (hb : s.ledger.Beside s'.ledger) : s.Spares chain s' :=
  ⟨hl, hb.checkpoint? chain⟩

theorem spares_commit {α : Type} {w : Work α} (hw : w.Lasting)
    (hy : ∀ a s', w.Yields s a s' → s.ledger.Beside s'.ledger) : s.Spares chain (s.commit w).2 := by
  refine .of_beside (hw.commit s) ?_
  rcases Work.commit_cases s w with ⟨a, s', hya, hc⟩ | ⟨e, -, hc⟩
  · rw [hc]
    exact hy a s' hya
  · rw [hc]
    exact .refl _

end Session

/-! ## Callers -/

/-- A step answers a request of an operation, begins an operation, or is of a caller, who leaves all checkpoints
alone. -/
theorem System.Step.cases {o : Outside} {w w' : System} (h : w.Step o w') :
    (∃ k, w.Advance o k w') ∨
      (∃ op, o.starts op ∧ w' = { w with tasks := w.tasks ++ [op.task o.registry] }) ∨
      ∃ s, (∀ chain, w.session.Spares chain s) ∧ w' = { w with session := s } := by
  cases h with
  | @advance k _ h => exact .inl ⟨k, h⟩
  | @start op h => exact .inr (.inl ⟨op, h, rfl⟩)
  | faults f => exact .inr (.inr ⟨_, fun _ => ⟨w.session.later_faults f, rfl⟩, rfl⟩)
  | addUser a => exact .inr (.inr ⟨_, fun _ => ⟨w.session.later_addUser a, rfl⟩, rfl⟩)
  | addContent ref => exact .inr (.inr ⟨_, fun _ => ⟨w.session.later_addContent ref, rfl⟩, rfl⟩)
  | seed chain hash p hp =>
    exact .inr (.inr ⟨_, fun _ => Session.spares_commit (Work.lasting_seedPayment chain hash p)
      fun _ _ => Work.beside_seedPayment, rfl⟩)
  | create p hp =>
    exact .inr (.inr ⟨_, fun _ => Session.spares_commit (Work.lasting_createTransaction p)
      fun _ _ => Work.beside_createTransaction, rfl⟩)

/-- Callers leave checkpoints alone, so a regime that expects what does is one for callers. -/
theorem Regime.callers_of_spares {o : Outside} {m : Regime o}
    (hi : ∀ s s', (∀ chain, s.Spares chain s') → m.others s s') : m.Callers where
  faults s f := hi _ _ fun _ => ⟨s.later_faults f, rfl⟩
  addUser s a := hi _ _ fun _ => ⟨s.later_addUser a, rfl⟩
  addContent s ref := hi _ _ fun _ => ⟨s.later_addContent ref, rfl⟩
  seed _ chain hash p _ := hi _ _ fun _ => Session.spares_commit (Work.lasting_seedPayment chain hash p)
    fun _ _ => Work.beside_seedPayment
  create _ p _ := hi _ _ fun _ => Session.spares_commit (Work.lasting_createTransaction p)
    fun _ _ => Work.beside_createTransaction

/-! ## Operations -/

/-- Others may do anything, and the operation leaves the checkpoint of the chain alone. -/
def sparing (o : Outside) (chain : Chain) : Terms := ⟨o, Session.Later, fun _ s s' => s.Spares chain s'⟩

instance (o : Outside) (chain : Chain) : IsPreorder Session (sparing o chain).others where
  refl := .refl
  trans _ _ _ := .trans

/-- All leave the checkpoint of the chain alone. -/
def spared (o : Outside) (chain : Chain) : Terms :=
  ⟨o, fun s s' => s.Spares chain s', fun _ s s' => s.Spares chain s'⟩

instance (o : Outside) (chain : Chain) : IsPreorder Session (spared o chain).others where
  refl s := .refl s chain
  trans _ _ _ := .trans

section
variable {o : Outside} {chain : Chain} {d : Deployment} {h : List Told} {s : Session}

theorem sparing_idles : (sparing o chain).Idles := fun _ _ _ hl hs => .of_ledger_eq hl hs

theorem sparing_resolveReceipt {b t : Id} :
    (resolveReceipt d b t).Meets (sparing o chain) Process.anyEnd h s := by
  refine Process.meets_resolveReceipt (fun _ _ => True) sparing_idles ?_ ?_
  · exact fun s₁ p s₂ _ hy => ⟨.of_beside ((Work.lasting_openPair b t).later hy) (Work.beside_openPair hy),
      fun _ => trivial⟩
  · exact fun _ _ _ _ _ _ _ _ _ _ _ _ _ _ _ _ _ hy =>
      .of_beside ((Work.lasting_closePair _ _ _ _ _).later hy) (Work.beside_closePair hy)

theorem sparing_settle {r : Registry} {t : Id} : (settle r t).Meets (sparing o chain) Process.anyEnd h s :=
  Process.meets_settle sparing_idles fun _ _ _ _ _ _ => sparing_resolveReceipt

theorem sparing_applyLog {log : Log} (hk : s.Keyed) :
    (applyLog d log).Meets (sparing o chain) Process.anyEnd h s := by
  refine Process.meets_applyLog sparing_idles fun s₁ block index e verdict h' r s₂ _ _ _ _ _ _ _ hs₁ hy => ?_
  have hk₁ : s₁.Keyed := Session.Later.keyed hs₁ hk
  exact ⟨.of_beside ((Work.lasting_applyEvent _ _ _ _ _ _).later hy) (Work.beside_applyEvent hk₁ hy),
    fun _ _ _ => sparing_resolveReceipt⟩

theorem sparing_applyLogs {tally : Tally} {logs : List Log} (hk : s.Keyed) :
    (d.applyLogs tally logs).Meets (sparing o chain) Process.anyEnd h s := by
  induction logs generalizing tally h s with
  | nil => exact Process.meets_anyEnd_finish _
  | cons log logs ih =>
    refine Process.meets_bind (((sparing_applyLog hk).tracked Session.Spares.later).imp fun h' r s' hr => ?_)
    cases r with
    | error e => exact fun _ _ => trivial
    | ok a => exact ih (Session.Later.keyed hr.2.2 hk)

/-- A cycle on another chain leaves the checkpoint alone. -/
theorem sparing_follow {r : Registry} {c : Chain} (hk : s.Keyed) (hc : c ≠ chain) :
    (follow r c).Meets (sparing o chain) Process.anyEnd h s := by
  refine Process.meets_follow sparing_idles Session.Spares.later ?_ ?_
  · exact fun e first last logs log h' s' _ _ _ hs' => sparing_applyLog (Session.Later.keyed hs' hk)
  · intro block h' s₁ s₂ _ hy
    refine ⟨(Work.lasting_raiseCheckpoint c block).later hy, ?_⟩
    rw [(Work.yields_raiseCheckpoint.1 hy).2]
    exact Ledger.checkpoint?_setCheckpoint_of_ne _ _ hc.symm

/-- Where others spare the checkpoint too, it is in the end where it was. -/
theorem Process.Meets.spares {α : Type} {p : Process α} (hp : p.Meets (sparing o chain) Process.anyEnd h s) :
    p.Meets (spared o chain) (fun _ _ s' => s.Spares chain s') h s := by
  have hp : p.Meets (spared o chain) Process.anyEnd h s := hp.mono rfl Session.Spares.later id
  exact (hp.tracked id).imp fun _ _ _ hr => hr.2.2

end

end DonationLedger
