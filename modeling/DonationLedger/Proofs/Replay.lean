import DonationLedger.Proofs.Follow.Mirrored
import DonationLedger.Proofs.Follow.Resume

/-!
# Aborted cycles are replayed

A cycle that goes wrong, or is dropped, leaves behind the rows of a session that a cycle passes when all goes well
(`Process.Along`), and perhaps some ids that nobody goes by. From those rows the next cycle comes to where the first
would have come (`Process.resume_cycle`), with other names for the ids that are new (`Renaming.onto`). So however many
cycles are aborted, the one that ends comes to the same ledger.
-/

namespace DonationLedger

/-- A cycle began with `s`, and was left without a result at `s'`. -/
def Session.Aborted (r : Registry) (reader : Reader) (chain : Chain) (s s' : Session) : Prop :=
  ∃ held p, (follow r chain).Goes (.flaky r reader) s [] s' held p ∧ p.Unfinished

namespace Process

variable {r : Registry} {reader : Reader} {chain : Chain} {d : Deployment} {s s' x : Session}

theorem passes_guardedCycle (h : (guardedCycle d chain).Passes reader s x) : (cycle d).Passes reader s x :=
  ((passes_andThen reader _ _ s x).1 h).elim id False.elim

/-- Until its first request is answered, a cycle on a free chain has done nothing. -/
theorem Goes.of_follow {held : List Chain} {q : Process CycleReport} (hd : r.find? chain = some d)
    (h : (follow r chain).Goes (.flaky r reader) s [] s' held q) :
    (q = follow r chain ∧ s'.calm = s.calm) ∨
      Along reader .keep id (guardedCycle d chain) s.calm q s' := by
  rw [follow_eq hd] at h
  rcases h.of_acquire (List.not_mem_nil) with ⟨hq, -, hs⟩ | ⟨s₀, hs, hg⟩
  · exact .inl ⟨hq.trans (follow_eq hd).symm, hs⟩
  · have := along_goes (mirrored_guardedCycle .keep) trivial hg
    rw [Renaming.session_keep, hs] at this
    exact .inr this

/-- What an aborted cycle leaves behind are the rows of a session that a cycle passes. -/
theorem passes_of_aborted {report : CycleReport} (hd : r.find? chain = some d)
    (hc : (cycle d).alone reader s.calm = (.ok report, x)) (h : s.Aborted r reader chain s') :
    ∃ y, (cycle d).Passes reader s.calm y ∧ s'.ledger = y.ledger ∧
      ∀ kind, y.supply.count kind ≤ s'.supply.count kind := by
  obtain ⟨held, q, hg, hu⟩ := h
  rcases hg.of_follow hd with ⟨-, hs⟩ | hl
  · exact ⟨s'.calm, hs ▸ .inl rfl, rfl, fun _ => Nat.le_refl _⟩
  · cases hl with
    | course hq _ ha hp =>
      have hself := hq.passes_self hu (ha.trans ((alone_guardedCycle _).trans hc))
      refine ⟨s'.calm, passes_guardedCycle (hp _ ?_), rfl, fun _ => Nat.le_refl _⟩
      rwa [← Renaming.session_keep]
    | @failed _ y _ hl hsup hp =>
      rw [Renaming.session_keep] at hp
      exact ⟨y.calm, passes_guardedCycle hp, hl, hsup⟩

/-- A cycle that has a result came to where a cycle comes when all goes well. -/
theorem calm_of_finished {report report' : CycleReport} {held : List Chain} (hd : r.find? chain = some d)
    (hc : (cycle d).alone reader s.calm = (.ok report, x))
    (h : (follow r chain).Goes (.flaky r reader) s [] s' held (.finish (.ok report'))) : s'.calm = x := by
  rcases h.of_follow hd with ⟨hq, -⟩ | hl
  · rw [follow_eq hd] at hq
    cases hq
  · cases hl with
    | course hq _ ha _ =>
      have hself : (finish (.ok report')).alone reader s' = (.ok report', s') := rfl
      have hend := hq.alone trivial hself
      rw [ha, alone_guardedCycle, hc, Renaming.session_keep] at hend
      exact (Prod.mk.inj hend).2.symm
    | failed hq => exact hq.elim

/-- Where writes fail, or are allowed for a while only, a cycle that fails is aborted. -/
theorem aborted_of_faults {s : Session} {f : Faults} (hd : r.find? chain = some d)
    (h : ((cycle d).alone reader { s with faults := f }).1.toOption = none) :
    s.Aborted r reader chain ((cycle d).alone reader { s with faults := f }).2 := by
  have hbegun : (follow r chain).Goes (.flaky r reader) s [] { s with faults := f } [] (follow r chain) :=
    .faults .start f
  obtain ⟨held, hg⟩ := hbegun.follow_alone reader (fun _ _ => .inl rfl) (fun _ _ => .inl rfl) hd
  rw [alone_follow hd] at hg
  rcases hc : (cycle d).alone reader { s with faults := f } with ⟨e | report, s'⟩
  · rw [hc] at hg
    exact ⟨held, _, hg, trivial⟩
  · rw [hc] at h
    cases h

end Process

/-- The same rows, and perhaps some ids that nobody goes by. -/
theorem Session.Ready.of_ledger {s s' : Session} (h : s.Ready) (hl : s'.ledger = s.ledger)
    (hs : ∀ kind, s.supply.count kind ≤ s'.supply.count kind) (hf : s'.faults = .none) : s'.Ready := by
  have hlater : s.Later s' := .of_ledger_eq hl hs
  exact ⟨⟨hlater.keyed h.keyed, hl ▸ h.sound⟩, hlater.hashed h.hashed, h.recorded.of_records hs (by rw [hl]), hf⟩

/-- From `s`, where the checkpoint is that of `s₀`, a cycle comes to the ledger `l`, with other names for ids that
`s₀` did not know. -/
structure Session.Replays (s : Session) (d : Deployment) (reader : Reader) (s₀ : Session) (l : Ledger) : Prop where
  ready : s.calm.Ready
  supply : ∀ kind, s₀.supply.count kind ≤ s.supply.count kind
  checkpoint : s.ledger.checkpoint? d.chain = s₀.ledger.checkpoint? d.chain
  comes : ∃ report s' f, (cycle d).alone reader s.calm = (.ok report, s') ∧ Function.Injective f ∧
    (∀ i, s₀.supply.knows i = true → f i = i) ∧ s'.ledger = l.rename f

section
variable {r : Registry} {reader : Reader} {chain : Chain} {d : Deployment} {s₀ s s' : Session} {l : Ledger}

theorem Session.Replays.aborted (hd : r.find? chain = some d) (hs : s.Replays d reader s₀ l)
    (h : s.Aborted r reader chain s') : s'.Replays d reader s₀ l := by
  obtain ⟨report, s₁, f, hc, hf, hfix, hl⟩ := hs.comes
  obtain ⟨x, hp, hx, hsup⟩ := Process.passes_of_aborted hd hc h
  obtain ⟨hadv, hready, report', hc'⟩ := Process.resume_cycle hs.ready hc hp
  have hsup₀ (kind : RowKind) : s₀.supply.count kind ≤ x.supply.count kind :=
    Nat.le_trans (hs.supply kind) (hadv.upholds.later.supply kind)
  -- what is left behind is the session that was passed, with some ids skipped
  have hrows : x.ledger.rename (Renaming.onto x.supply s'.supply).id = s'.ledger := by
    rw [hx]
    exact Session.rename_of_knows hready.toProper hready.recorded fun _ => Renaming.shift_of_knows
  have hcalm : (Renaming.onto x.supply s'.supply).session x = s'.calm := by
    unfold Renaming.session Session.calm
    rw [hrows]
    exact congrArg (fun p => Session.mk s'.ledger p .none) (IdSupply.ahead_lead hsup)
  refine ⟨hready.of_ledger hx hsup rfl, fun kind => Nat.le_trans (hsup₀ kind) (hsup kind), ?_, report',
    (Renaming.onto x.supply s'.supply).session s₁, (Renaming.onto x.supply s'.supply).id ∘ f, ?_,
    (Renaming.injective _).comp hf, fun i hi => ?_, ?_⟩
  · rw [hx, hadv.beside.checkpoint?]
    exact hs.checkpoint
  · rw [← hcalm]
    exact (Process.mirrored_cycle d).alone (fun _ => Nat.le_refl _) hc'
  · exact (congrArg _ (hfix i hi)).trans (Renaming.shift_of_knows (IdSupply.knows_of_le hsup₀ hi))
  · rw [Renaming.ledger_session, hl, Ledger.rename_rename]

end

namespace System

variable {r : Registry} {w : System} {reader : Reader} {chain : Chain} {report : CycleReport} {s sL : Session}

theorem Reachable.ready (hw : w.Reachable r) : w.session.calm.Ready where
  keyed := (w.session.later_faults .none).keyed hw.kept.2.keyed
  sound := hw.kept.2.sound
  hashed := (w.session.later_faults .none).hashed hw.hashed
  recorded := hw.recorded
  faults := rfl

/-- Let nobody else be about, and let a cycle that is not disturbed end well. Then after any number of cycles that
failed or were dropped, wherever that was, the checkpoint is where it was, an undisturbed cycle ends well, and whichever
cycle has a result next ends with the same ledger, but for the names of ids that were given out since. -/
theorem aborted_cycles_replayed (hw : w.Reachable r)
    (hc : (follow r chain).alone reader w.session.calm = (.ok report, sL))
    (ha : Relation.ReflTransGen (Session.Aborted r reader chain) w.session s) :
    s.ledger.checkpoint? chain = w.session.ledger.checkpoint? chain ∧
    (∃ report' s', (follow r chain).alone reader s.calm = (.ok report', s')) ∧
    ∀ report' s' held, (follow r chain).Goes (.flaky r reader) s [] s' held (.finish (.ok report')) →
      ∃ f, Function.Injective f ∧ (∀ i, w.session.supply.knows i = true → f i = i) ∧
        s'.ledger = sL.ledger.rename f := by
  obtain ⟨d, hd⟩ : ∃ d, r.find? chain = some d := by
    rcases hn : r.find? chain with _ | d
    · unfold follow Registry.require at hc
      rw [hn] at hc
      cases hc
    · exact ⟨d, rfl⟩
  obtain rfl := Registry.chain_of_find? hd
  rw [Process.alone_follow hd] at hc
  have hs : s.Replays d reader w.session sL.ledger := by
    induction ha with
    | refl =>
      exact ⟨hw.ready, fun _ => Nat.le_refl _, rfl, report, sL, id, hc, Function.injective_id, fun _ _ => rfl,
        sL.ledger.rename_id.symm⟩
    | tail _ h ih => exact ih.aborted hd h
  obtain ⟨report', s', f, hc', hf, hfix, hl⟩ := hs.comes
  refine ⟨hs.checkpoint, ⟨report', s', (Process.alone_follow hd _).trans hc'⟩, fun report'' s'' held hg => ?_⟩
  refine ⟨f, hf, hfix, ?_⟩
  rw [← hl, ← Process.calm_of_finished hd hc' hg]
  rfl

/-- The donation was credited, but the checkpoint could not be written. It stays where it was, and the next cycle ends
well. -/
theorem donation_replayed : ∃ s : Session,
    Donation.filed.session.Aborted [Donation.deployment] Donation.ahead .optimism s ∧
    s.ledger.transactions = [Donation.transaction] ∧ s.ledger.checkpoint? .optimism = none ∧
    ∃ report s', (follow [Donation.deployment] .optimism).alone Donation.ahead s.calm = (.ok report, s') := by
  have hok : ((follow [Donation.deployment] .optimism).alone Donation.ahead
      Donation.filed.session.calm).1.toOption.isSome = true := by decide +kernel
  rcases hc : (follow [Donation.deployment] .optimism).alone Donation.ahead Donation.filed.session.calm with
    ⟨e | report, sL⟩
  · rw [hc] at hok
    cases hok
  · have hfail : ((cycle Donation.deployment).alone Donation.ahead
        { Donation.filed.session with faults := ⟨false, some 6, 0⟩ }).1.toOption = none := by decide +kernel
    have ha : Donation.filed.session.Aborted [Donation.deployment] Donation.ahead .optimism _ :=
      Process.aborted_of_faults rfl hfail
    obtain ⟨hcheckpoint, hnext, -⟩ :=
      aborted_cycles_replayed (Donation.filed_reachable [Donation.deployment]) hc (.single ha)
    exact ⟨_, ha, by decide +kernel, hcheckpoint, hnext⟩

end System

end DonationLedger
