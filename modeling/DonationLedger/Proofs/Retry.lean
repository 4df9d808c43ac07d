import DonationLedger.Proofs.Follow.Mirrored
import DonationLedger.Proofs.Resolution.Failing
import DonationLedger.Proofs.Resolution.Halting

/-!
# Trying again after a failure

A write may be refused, a node or the contents may fail, and at any point. A receipt that is not settled then has at
most linked its pair (`Ledger.Unsettled`); a log that is not applied to its end has at most been noted, and left the
receipt that it waits for so (`Ledger.Interrupted`). None of this decides anything, and who calls again when nothing
goes wrong any more comes to the end that a single call would have come to (`Session.Retells`).
-/

namespace DonationLedger

/-- What becomes of the rows where a receipt is not settled: nothing, or a pair that waits for it is linked. -/
inductive Ledger.Unsettled (l : Ledger) (b t : Id) : Ledger → Prop
  | unchanged : Unsettled l b t l
  | linked {c : BlockchainTransaction} {u : Transaction} (hp : l.Pair b t c u) (hc : c.transaction = none)
    (hu : u.isPending = true) : Unsettled l b t (l.link b t)

/-- What becomes of the rows where a log is not applied to its end: nothing, or its blockchain transaction, which a
pending transaction expects, is noted, and the receipt is not settled. -/
inductive Ledger.Interrupted (l : Ledger) (d : Deployment) (log : Log) : Ledger → Prop
  | unchanged : Interrupted l d log l
  | waiting {block index : Int} {e : Event} {c : BlockchainTransaction} {u : Transaction} {l' : Ledger}
    (ha : d.applicable? log = some (block, index, e)) (hc : l.byHash? d.chain log.hash.spelling = some c)
    (hu : l.linked? c = some u) (hp : u.isPending = true)
    (hl : (l.noted c block index e).Unsettled c.id u.id l') : Interrupted l d log l'

/-- How far the transaction is settled. -/
def Transaction.settlement (u : Transaction) : Id × TransactionState × Option String × Option Id :=
  (u.id, u.state, u.remark, u.sender)

/-- The second end is the first, but for ids that were not given out yet. -/
def Session.Retells (s : Session) (x y : Except Failure Applied × Session) : Prop :=
  ∃ f : Id → Id, Function.Injective f ∧ (∀ i, s.supply.knows i = true → f i = i) ∧
    y.1 = x.1.map (Applied.rename f) ∧ y.2.ledger = x.2.ledger.rename f

/-! ## What is left -/

namespace Ledger

variable {l l' : Ledger} {b t : Id} {chain : Chain} {hash : String} {index : Int} {d : Deployment} {log : Log}

/-- Nothing is settled. -/
theorem Unsettled.settlements (h : l.Unsettled b t l') :
    l'.transactions.map Transaction.settlement = l.transactions.map Transaction.settlement := by
  cases h with
  | unchanged => rfl
  | linked =>
    exact map_ite_of_same Transaction.settlement (f := fun u => { u with blockchainTransaction := some b })
      (fun _ => rfl) (fun u => u.id = t) _

/-- No transaction is created, and none is settled. -/
theorem Interrupted.settlements (h : l.Interrupted d log l') :
    l'.transactions.map Transaction.settlement = l.transactions.map Transaction.settlement := by
  cases h with
  | unchanged => rfl
  | waiting _ _ _ _ hl => rw [hl.settlements, transactions_noted]

/-- A log that waits for its receipt waits for it still. -/
theorem Unsettled.pends (h : l.Unsettled b t l') (hw : l.Pends chain hash index b t) :
    l'.Pends chain hash index b t := by
  cases h with
  | unchanged => exact hw
  | @linked c₀ u hp _ hu =>
    obtain ⟨c, -, hc, -, -, rfl, -⟩ := hw
    obtain ⟨-, rfl⟩ := transaction?_mem hp.transaction
    have hrow := (Rewrites.start hp.transaction hp.blockchainTransaction).link.transaction_self
    rw [(blockchainTransaction?_mem hp.blockchainTransaction).2] at hrow
    exact ⟨c.linkedTo u.id, _, hc.link u.id, hrow, hu, rfl, rfl⟩

end Ledger

section
variable {s s' x z : Session} {b t : Id} {chain : Chain} {hash : String} {block index : Int} {e : Event}
  {verdict : Except InvalidReason Payment} {reader : Reader} {d : Deployment} {log : Log} {q : IdSupply}

theorem Session.Retells.of_eq {x y : Except Failure Applied × Session} (h : y.1 = x.1)
    (hl : y.2.ledger = x.2.ledger) : s.Retells x y := by
  refine ⟨id, Function.injective_id, fun _ _ => rfl, ?_, ?_⟩
  · rw [h]
    rcases x.1 with err | a
    · rfl
    · cases a <;> rfl
  · rw [hl, Ledger.rename_id]

theorem Session.calm_eq_supplied (hl : z.ledger = x.ledger) (hf : x.faults = .none) :
    z.calm = x.supplied z.supply := by
  unfold calm supplied
  rw [hl, hf]

/-! ## Receipts -/

namespace Process

theorem alone_bind_congr {α β : Type} {p : Process α} {k : α → Process β}
    (h : p.alone reader z = p.alone reader s) : (p >>= k).alone reader z = (p >>= k).alone reader s := by
  have hbind (s : Session) : (p >>= k).alone reader s = _ := alone_andThen reader p _ s
  rw [hbind, hbind, h]

/-- A receipt that is cut short leaves a session from where it comes to the same end. -/
theorem halts_resolveReceipt_again (hf : s.faults = .none) (h : (resolveReceipt d b t).Halts reader s x) :
    s.ledger.Unsettled b t x.ledger ∧ ∃ y : Session, y.ledger = x.ledger ∧ y.faults = .none ∧
      (resolveReceipt d b t).alone reader y = (resolveReceipt d b t).alone reader s := by
  rcases halts_resolveReceipt h with hx | ⟨p, s₁, hy, hp, hx⟩
  · rw [hx]
    exact ⟨.unchanged, s, rfl, hf, rfl⟩
  · have hagain : (resolveReceipt d b t).alone reader s₁ = (resolveReceipt d b t).alone reader s := by
      rw [resolveReceipt_eq, alone_bind (alone_commit hy), alone_bind (alone_commit (Work.openPair_again hy hp).1)]
    rw [hx]
    obtain ⟨c, u, hpair, hu, ⟨-, rfl⟩ | ⟨hc, rfl⟩⟩ := Work.openPair_waits hy hp
    · exact ⟨.unchanged, s₁, rfl, hf, rfl⟩
    · refine ⟨.linked hpair hc hu, _, rfl, ?_, hagain⟩
      rw [Session.faults_write, hf]
      rfl

end Process

/-! ## Logs -/

/-- A log that is noted names no transaction that is not there. -/
theorem Work.not_dangling {step : LogStep} {err : Failure} (hk : s.Keyed)
    (hy : (applyEvent chain hash block index e verdict).Yields s step s') : ¬ s.ledger.Dangling chain hash err := by
  rintro @⟨c, t, hc, ht, hn⟩
  obtain ⟨c', s₁, s₂, ho, -, -, hrows, -, hcr⟩ := applyEvent_credited hk hy
  obtain rfl : c = c' := by
    cases ho with
    | found hc' => exact Option.some.inj (hc.symm.trans hc')
    | stored hno => cases hno.symm.trans hc
  have hnone : s₂.ledger.linked? (c.seen block) = none := by
    rw [Ledger.linked?_seen (hrows.trans ho.transactions), Ledger.linked?, ht]
    exact hn
  cases hcr with
  | expected hu | settled hu => cases hnone.symm.trans hu
  | invalid hct | unknown hct | matched hct | created hct => cases ht.symm.trans hct

/-- Such a log is refused with whatever ids are given out next. -/
theorem Ledger.Dangling.result {err : Failure} (h : s.ledger.Dangling chain hash err) (hk : s.Keyed)
    (hf : s.faults = .none) : ((Work.applyEvent chain hash block index e verdict).result s).1 = .error err := by
  rcases hr : (Work.applyEvent chain hash block index e verdict).result s with ⟨err' | step, s'⟩
  · rcases (Work.failsBy_applyEvent hk).cause err' (by rw [hr]) with hcause | h'
    · rw [hf] at hcause
      exact absurd hcause (Faults.not_causes_none err')
    · obtain ⟨hc, ht, -⟩ := h
      obtain ⟨hc', ht', -⟩ := h'
      obtain rfl := Option.some.inj (hc.symm.trans hc')
      obtain rfl := Option.some.inj (ht.symm.trans ht')
      rfl
  · exact absurd h (Work.not_dangling hk hr)

namespace Process

theorem alone_applyLog_of_refused (reader : Reader) {err : Failure} (ha : d.applicable? log = some (block, index, e))
    (hr : ((Work.applyEvent d.chain log.hash.spelling block index e
      (Payment.screen d.settings s.ledger.content? e)).result s).1 = .error err) :
    ((applyLog d log).alone reader s).1 = .error err ∧ ((applyLog d log).alone reader s).2.ledger = s.ledger := by
  rw [applyLog_of_some ha, alone_bind (alone_screen d e s)]
  show (((commit _).andThen _).alone reader s).1 = _ ∧ (((commit _).andThen _).alone reader s).2.ledger = _
  rw [alone_andThen]
  have hc : (commit (Work.applyEvent d.chain log.hash.spelling block index e
      (Payment.screen d.settings s.ledger.content? e))).alone reader s = _ :=
    Work.commit_of_error (Prod.ext hr rfl)
  rw [hc]
  exact ⟨rfl, rfl⟩

/-- A log that is refused is refused wherever more ids were given out before. -/
theorem retells_of_dangling {err : Failure} (hk : s.Keyed) (hf : s.faults = .none)
    (hq : ∀ kind, s.supply.count kind ≤ q.count kind) (ha : d.applicable? log = some (block, index, e))
    (h : s.ledger.Dangling d.chain log.hash.spelling err) :
    s.Retells ((applyLog d log).alone reader s) ((applyLog d log).alone reader (s.supplied q)) := by
  have hlater : s.Later (s.supplied q) := .of_ledger_eq rfl hq
  have h' : (s.supplied q).ledger.Dangling d.chain log.hash.spelling err := h
  obtain ⟨h₁, hl₁⟩ := alone_applyLog_of_refused reader ha (h.result hk hf)
  obtain ⟨h₂, hl₂⟩ := alone_applyLog_of_refused reader ha (h'.result (hlater.keyed hk) hf)
  exact .of_eq (h₂.trans h₁.symm) (hl₂.trans hl₁.symm)

/-- A log that is noted is noted wherever more ids were given out before, with the ids that are given out then. -/
theorem retells_of_noted {step : LogStep} (hs : s.Named) (hf : s.faults = .none)
    (hq : ∀ kind, s.supply.count kind ≤ q.count kind) (ha : d.applicable? log = some (block, index, e))
    (hy : (Work.applyEvent d.chain log.hash.spelling block index e
      (Payment.screen d.settings s.ledger.content? e)).Yields s step s') :
    s.Retells ((applyLog d log).alone reader s) ((applyLog d log).alone reader (s.supplied q)) := by
  have hs' : (s.supplied q).Named := hs.of_ledger_eq rfl hq
  have hσ : (Renaming.onto s.supply q).session s = s.supplied q := by
    unfold Renaming.session Session.supplied
    rw [hf, hs.rename (f := (Renaming.onto s.supply q).id) fun i => Renaming.shift_of_knows]
    exact congrArg (Session.mk s.ledger · Faults.none) (IdSupply.ahead_lead hq)
  obtain ⟨-, hy'⟩ := Work.mirrored_applyEvent (σ := Renaming.onto s.supply q) d.chain log.hash.spelling block index e
    (Payment.screen d.settings s.ledger.content? e) (fun _ => Nat.le_refl _) hy
  rw [hσ] at hy'
  rw [alone_applyLog_of_noted ha hy, alone_applyLog_of_noted (s := s.supplied q) ha hy']
  cases step with
  | applied a => exact ⟨_, (Renaming.onto s.supply q).injective, fun i => Renaming.shift_of_knows, rfl, rfl⟩
  | needsReceipt b t =>
    -- both wait for the receipt of what was stored before
    obtain ⟨c, u, hc, hu, -, rfl, rfl, hl⟩ := Work.applyEvent_waits hs hy
    obtain ⟨c', u', hc', hu', -, hcb, hut, hl'⟩ := Work.applyEvent_waits hs' hy'
    obtain rfl := Option.some.inj (hc.symm.trans hc')
    obtain rfl := Option.some.inj (hu.symm.trans hu')
    have hf' := (Work.mirrored_applyEvent _ _ _ _ _ _).faults hf hy
    have hz : (Renaming.onto s.supply q).session s' =
        s'.supplied ((Renaming.onto s.supply q).session s').supply :=
      (Session.calm_of_faults rfl).symm.trans (Session.calm_eq_supplied (hl'.trans hl.symm) hf')
    have hstep : LogStep.rename (Renaming.onto s.supply q).id (.needsReceipt c.id u.id) =
        .needsReceipt c.id u.id := congrArg₂ LogStep.needsReceipt hcb.symm hut.symm
    rw [hstep, hz, frugal_closeNoted]
    exact .of_eq rfl rfl

/-- Applied where more ids were given out before, a log comes to the same end but for the ids that are new. -/
theorem retells_applyLog (reader : Reader) (d : Deployment) (log : Log) (hs : s.Named) (hf : s.faults = .none)
    (hq : ∀ kind, s.supply.count kind ≤ q.count kind) :
    s.Retells ((applyLog d log).alone reader s) ((applyLog d log).alone reader (s.supplied q)) := by
  rcases ha : d.applicable? log with _ | ⟨block, index, e⟩
  · rw [applyLog_of_none ha]
    exact .of_eq rfl rfl
  · rcases hr : (Work.applyEvent d.chain log.hash.spelling block index e
      (Payment.screen d.settings s.ledger.content? e)).result s with ⟨err | step, s'⟩
    · rcases (Work.failsBy_applyEvent hs.toKeyed).cause err (by rw [hr]) with hcause | hdangling
      · rw [hf] at hcause
        exact absurd hcause (Faults.not_causes_none err)
      · exact retells_of_dangling hs.toKeyed hf hq ha hdangling
    · exact retells_of_noted hs hf hq ha hr

/-! ## Calls that fail -/

/-- Called again, a receipt that was not settled comes to the end of a single call. -/
theorem Goes.retry_resolveReceipt {r : Registry} {held held' : List Chain} {err : Failure}
    (h : (resolveReceipt d b t).Goes (.flaky r reader) s held s' held' (finish (.error err))) :
    s.ledger.Unsettled b t s'.ledger ∧
    ((resolveReceipt d b t).alone reader s'.calm).1 = ((resolveReceipt d b t).alone reader s.calm).1 ∧
    ((resolveReceipt d b t).alone reader s'.calm).2.ledger =
      ((resolveReceipt d b t).alone reader s.calm).2.ledger := by
  obtain ⟨x, hx, hl⟩ := h.halts (mirrored_resolveReceipt d b t)
  obtain ⟨hu, y, hyl, hyf, hy⟩ := halts_resolveReceipt_again rfl hx
  rw [Session.calm_eq_supplied (hl.trans hyl.symm) hyf, frugal_resolveReceipt, hy]
  exact ⟨hl ▸ hu, rfl, rfl⟩

/-- Called again, a log that was not applied to its end comes to the end of a single call. -/
theorem Goes.retry_applyLog {r : Registry} {held held' : List Chain} {err : Failure} (hs : s.Named)
    (h : (applyLog d log).Goes (.flaky r reader) s held s' held' (finish (.error err))) :
    s.ledger.Interrupted d log s'.ledger ∧
      s.Retells ((applyLog d log).alone reader s.calm) ((applyLog d log).alone reader s'.calm) := by
  have hlater := (h.later (mirrored_applyLog (σ := .keep) d log).lasting).1
  have hcalm : s.calm.Named := hs.of_ledger_eq rfl fun _ => Nat.le_refl _
  obtain ⟨x, hx, hl⟩ := h.halts (mirrored_applyLog d log)
  rcases halts_applyLog hx with hx | ⟨block, index, e, b, t, s₁, ha, hy, hx⟩
  · have hl : s'.ledger = s.calm.ledger := hl.trans hx
    rw [Session.calm_eq_supplied (x := s.calm) hl rfl, hl]
    exact ⟨.unchanged, retells_applyLog reader d log hcalm rfl hlater.supply⟩
  · have hf₁ := (Work.mirrored_applyEvent _ _ _ _ _ _).faults rfl hy
    obtain ⟨c, u, hc, hu, hp, rfl, rfl, hnoted⟩ := Work.applyEvent_waits hcalm hy
    obtain ⟨hunsettled, y, hyl, hyf, hyr⟩ := halts_resolveReceipt_again hf₁ hx
    have hyl : s'.ledger = y.ledger := hl.trans hyl.symm
    rw [← hl] at hunsettled
    -- the log waits for its receipt, before and after it was cut short
    have hpends : s₁.ledger.Pends d.chain log.hash.spelling index c.id u.id := by
      rw [hnoted]
      refine ⟨c.seen block, u, Ledger.seen_noted hc block index e, ?_, hp, rfl, rfl⟩
      exact (Ledger.linked?_seen (Ledger.transactions_noted _ _ _ _ _) c block).trans hu
    have hk : s'.calm.Keyed := (s'.later_faults .none).keyed (hlater.keyed hs.toKeyed)
    have hretry : (applyLog d log).alone reader s'.calm = _ :=
      alone_applyLog_of_pends hk rfl ha (hunsettled.pends hpends)
    have hend : (closeNoted d (.needsReceipt c.id u.id)).alone reader y =
        (closeNoted d (.needsReceipt c.id u.id)).alone reader s₁ := alone_bind_congr hyr
    refine ⟨.waiting ha hc hu hp (hnoted ▸ hunsettled), ?_⟩
    rw [hretry, Session.calm_eq_supplied hyl hyf, frugal_closeNoted, hend, alone_applyLog_of_noted ha hy]
    exact .of_eq rfl rfl

end Process

end

/-- Whatever is stored, and wherever a write is refused or a node or the contents fail: where settling from a receipt
fails, at most the pair is linked; where applying a log fails, no transaction is created or settled, and at most the
log is noted and its pair linked. Called again when nothing goes wrong, each returns what a single call would have
returned, and leaves the same rows, but for ids that are new. -/
theorem failed_call_recovers (r : Registry) (reader : Reader) (d : Deployment) {s : Session} (hs : s.Named) :
    (∀ b t s' held held' err,
      (resolveReceipt d b t).Goes (.flaky r reader) s held s' held' (.finish (.error err)) →
      s.ledger.Unsettled b t s'.ledger ∧
      ((resolveReceipt d b t).alone reader s'.calm).1 = ((resolveReceipt d b t).alone reader s.calm).1 ∧
      ((resolveReceipt d b t).alone reader s'.calm).2.ledger =
        ((resolveReceipt d b t).alone reader s.calm).2.ledger) ∧
    ∀ log s' held held' err, (applyLog d log).Goes (.flaky r reader) s held s' held' (.finish (.error err)) →
      s.ledger.Interrupted d log s'.ledger ∧
      s'.ledger.transactions.map Transaction.settlement = s.ledger.transactions.map Transaction.settlement ∧
      s.Retells ((applyLog d log).alone reader s.calm) ((applyLog d log).alone reader s'.calm) := by
  refine ⟨fun b t s' held held' err h => h.retry_resolveReceipt, fun log s' held held' err h => ?_⟩
  obtain ⟨hl, hretells⟩ := h.retry_applyLog hs
  exact ⟨hl, hl.settlements, hretells⟩

namespace Donation

/-- A node that does not answer. -/
def silent : Reader := fun chain _ => .error (.node chain "no answer")

/-- What does not come to a result when no node answers fails. -/
theorem goes_silent {α : Type} {p : Process α} (hp : p.Lockless) (s : Session)
    (hs : (p.alone silent s).1.toOption = none) :
    ∃ s' held err, s' = (p.alone silent s).2 ∧ p.Goes (.flaky [] node) s [] s' held (.finish (.error err)) := by
  have hstart : p.Goes (.flaky [] node) s [] s [] p := .start
  obtain ⟨held, hgoes⟩ := hstart.alone silent (fun _ _ => .inl rfl) (fun _ q => .inr (.failure q _)) hp
  rcases hend : (p.alone silent s).1 with err | a
  · exact ⟨_, held, err, rfl, hend ▸ hgoes⟩
  · rw [hend] at hs
    cases hs

end Donation

/-- The node is silent while the donation is settled from its receipt, or while the log of the donation is applied. The
log is noted all the same. Called again when the node answers, both settle the donation. -/
theorem silent_donation_recovers :
    (∃ s' held err, (resolveReceipt Donation.deployment (.issued .blockchainTransaction 1) (.issued .transaction 1)).Goes
        (.flaky [] Donation.node) Donation.awaited.session [] s' held (.finish (.error err)) ∧
      ((resolveReceipt Donation.deployment (.issued .blockchainTransaction 1) (.issued .transaction 1)).alone
        Donation.node s'.calm).1.toOption = some .succeeded) ∧
    ∃ s' held err, (applyLog Donation.deployment Donation.log).Goes (.flaky [] Donation.node) Donation.awaited.session
        [] s' held (.finish (.error err)) ∧ s'.ledger ≠ Donation.awaited.session.ledger ∧
      ((applyLog Donation.deployment Donation.log).alone Donation.node s'.calm).1 =
        .ok (.linked (.issued .transaction 1)) := by
  obtain ⟨hreceipt, hlog⟩ := failed_call_recovers [] Donation.node Donation.deployment
    (Donation.awaited_reachable []).named
  constructor
  · obtain ⟨s', held, err, -, hgoes⟩ := Donation.goes_silent
      (Process.mirrored_resolveReceipt (σ := .keep) Donation.deployment (.issued .blockchainTransaction 1)
        (.issued .transaction 1)).lockless Donation.awaited.session (by decide +kernel)
    refine ⟨s', held, err, hgoes, ?_⟩
    rw [(hreceipt _ _ _ _ _ _ hgoes).2.1]
    decide +kernel
  · obtain ⟨s', held, err, hs', hgoes⟩ := Donation.goes_silent
      (Process.mirrored_applyLog (σ := .keep) Donation.deployment Donation.log).lockless Donation.awaited.session
      (by decide +kernel)
    obtain ⟨-, -, f, -, hf, hresult, -⟩ := hlog _ _ _ _ _ hgoes
    have hsingle : ((applyLog Donation.deployment Donation.log).alone Donation.node
        Donation.awaited.session.calm).1.toOption = some (.linked (.issued .transaction 1)) := by decide +kernel
    refine ⟨s', held, err, hgoes, by rw [hs']; decide +kernel, ?_⟩
    rw [hresult]
    rcases hnode : ((applyLog Donation.deployment Donation.log).alone Donation.node Donation.awaited.session.calm).1
      with err' | a
    · rw [hnode] at hsingle
      cases hsingle
    · rw [hnode] at hsingle
      obtain rfl := Option.some.inj hsingle
      exact congrArg (fun t => Except.ok (Applied.linked t)) (hf _ (by decide +kernel))

end DonationLedger
