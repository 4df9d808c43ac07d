import DonationLedger.Proofs.Resolution.Seen
import DonationLedger.Proofs.Resolution.Sound
import DonationLedger.Proofs.Resolution.Walk
import DonationLedger.Proofs.System.Alone

/-!
# Applying a log again

After a log was applied the rows tell how that ended: its blockchain transaction settles a transaction that
ended, or settles none and the log is refused for a reason that stands on file (`Ledger.Again`). Applying the
log again then writes nothing new and asks no node, and ends as the rows tell.
-/

namespace DonationLedger

/-- Why a payment that nobody waits for is not credited. -/
def Ledger.Refuses (l : Ledger) (e : Event) (verdict : Except InvalidReason Payment) (reason : InvalidReason) :
    Prop :=
  verdict = .error reason ∨
    (∃ p, verdict = .ok p) ∧ l.user? (Text.lowercase e.creator.spelling) = none ∧ reason = .unknownCreator

/-- How the rows stand after the ledger transaction of a log of `c`. -/
inductive Ledger.After (l : Ledger) (c : BlockchainTransaction) (e : Event)
    (verdict : Except InvalidReason Payment) : LogStep → Prop
  | waiting {u : Transaction} (hl : l.linked? c = some u) (hp : u.isPending = true) :
    After l c e verdict (.needsReceipt c.id u.id)
  | settled {u : Transaction} {a : Applied} (hl : c.transaction = some u.id) (hu : l.transaction? u.id = some u)
    (hp : u.isPending = false) (ha : a.transaction? = some u.id) : After l c e verdict (.applied a)
  | refused {reason : InvalidReason} (hn : c.transaction = none) (he : l.expecting? c.id = none)
    (hr : l.Refuses e verdict reason) : After l c e verdict (.applied (.invalid reason))

/-- How applying the log again ends. -/
inductive Ledger.Again (l : Ledger) (d : Deployment) (log : Log) : Applied → Prop
  | removed (ha : d.applicable? log = none) (hr : log.removed = true) : Again l d log .removed
  | malformed (ha : d.applicable? log = none) (hr : log.removed = false) : Again l d log .malformed
  | settled {block index : Int} {e : Event} {c : BlockchainTransaction} {u : Transaction}
    (ha : d.applicable? log = some (block, index, e)) (hc : l.Seen d.chain log.hash.spelling index c)
    (hl : c.transaction = some u.id) (hu : l.transaction? u.id = some u) (hp : u.isPending = false) :
    Again l d log (.alreadySettled u.id)
  | refused {block index : Int} {e : Event} {c : BlockchainTransaction} {reason : InvalidReason}
    (ha : d.applicable? log = some (block, index, e)) (hc : l.Seen d.chain log.hash.spelling index c)
    (hn : c.transaction = none) (he : l.expecting? c.id = none)
    (hr : l.Refuses e (Payment.screen d.settings l.content? e) reason) : Again l d log (.invalid reason)

section
variable {s s' : Session} {chain : Chain} {hash : String} {block index : Int} {c : BlockchainTransaction}
  {u : Transaction} {e : Event} {verdict : Except InvalidReason Payment} {r : LogStep}

/-- A transaction that ended is linked to where it is found from. -/
theorem Ledger.Sound.transaction_of_ended (h : s.ledger.Sound) (hk : s.Keyed)
    (hc : s.ledger.blockchainTransaction? c.id = some c) (hu : s.ledger.linked? c = some u)
    (hp : u.isPending = false) : c.transaction = some u.id ∧ s.ledger.transaction? u.id = some u := by
  unfold Ledger.linked? at hu
  split at hu
  · rename_i t ht
    obtain ⟨-, rfl⟩ := Ledger.transaction?_mem hu
    exact ⟨ht, hu⟩
  · obtain ⟨hm, -, hb⟩ := Ledger.expecting?_some hu
    have hu := Ledger.transaction?_of_mem hk.transactions hm
    obtain ⟨b, d, hub, hd, hdt⟩ := h.ended u.id u hu (by simpa [Transaction.isPending] using hp)
    obtain rfl : c.id = b := Option.some.inj (hb.symm.trans hub)
    obtain rfl : c = d := Option.some.inj (hc.symm.trans hd)
    exact ⟨hdt, hu⟩

/-! ## After the ledger transaction of a log -/

theorem Work.after_applyEvent (hk : s.Keyed) (hh : s.Hashed) (hs : s.ledger.Sound)
    (hy : Yields (applyEvent chain hash block index e verdict) s r s') :
    ∃ c, s'.ledger.Seen chain hash index c ∧ s'.ledger.After c e verdict r := by
  have hs' := (sound_applyEvent hk hs hy).1
  obtain ⟨c, s₂, hk₂, hc, hcr, hseen⟩ := credited_seen hk hh hy
  cases hcr with
  | expected hu hp => exact ⟨c, hseen c hc, .waiting hu hp⟩
  | settled hu hp =>
    obtain ⟨hl, hu⟩ := hs'.transaction_of_ended hk₂ hc hu hp
    exact ⟨c, hseen c hc, .settled hl hu hp rfl⟩
  | invalid hn he hv => exact ⟨c, hseen c hc, .refused hn he (.inl hv)⟩
  | unknown hn he hv hr => exact ⟨c, hseen c hc, .refused hn he (.inr ⟨⟨_, hv⟩, hr, rfl⟩)⟩
  | matched _ _ _ _ _ hl =>
    exact ⟨_, hseen _ hl.blockchainTransaction_self, .settled (by rfl) hl.transaction_self rfl rfl⟩
  | created _ _ _ _ _ hu hl =>
    exact ⟨_, hseen _ hl.blockchainTransaction_self, .settled (by rfl) hl.transaction_self (by rw [hu]; rfl) rfl⟩

/-! ## The ledger transaction of a log that was seen -/

theorem Session.write_eq_self {f : Ledger → Ledger} (hf : s.faults = .none) (hl : f s.ledger = s.ledger) :
    s.write f = s := by
  have hsp : s.faults.spend = s.faults := by rw [hf]; rfl
  unfold Session.write
  rw [hl, hsp]

namespace Ledger.Seen

/-- The block is known already. -/
theorem filled_eq (h : s.ledger.Seen chain hash index c) (block : Int) :
    Work.filled none none (some block) c = c := by
  obtain ⟨n, hn⟩ := Option.isSome_iff_exists.1 h.block
  obtain ⟨i, t, ch, ha, st, se, re, bl⟩ := c
  obtain rfl : bl = some n := hn
  cases se <;> cases re <;> rfl

theorem mapBlockchainTransaction_eq (h : s.ledger.Seen chain hash index c) (hk : s.Keyed) (block : Int) :
    s.ledger.mapBlockchainTransaction c.id (Work.filled none none (some block)) = s.ledger := by
  refine congrArg (fun bs => { s.ledger with blockchainTransactions := bs }) ?_
  refine (List.map_congr_left fun b hb => ?_).trans (List.map_id _)
  split
  · rename_i hi
    have hbc := Ledger.blockchainTransaction?_of_mem hk.blockchainTransactions hb
    rw [hi, h.blockchainTransaction? hk] at hbc
    rw [← Option.some.inj hbc]
    exact h.filled_eq block
  · rfl

theorem addRecord_eq (h : s.ledger.Seen chain hash index c) (e : Event) :
    s.ledger.addRecord (e.record c.id index) = s.ledger := by
  obtain ⟨q, hq, hp⟩ := h.recorded
  obtain ⟨hb, hi⟩ := Prod.mk.inj hp
  unfold Ledger.addRecord
  rw [if_pos (List.any_eq_true.2 ⟨q, hq, ?_⟩)]
  simp [hb, hi, Event.record]

end Ledger.Seen

namespace Work

/-- Nothing is written that is not there, and what the rows tell decides. -/
theorem yields_applyEvent_of_seen {x : Option Transaction} (hk : s.Keyed) (hf : s.faults = .none)
    (hc : s.ledger.Seen chain hash index c) (hx : x = s.ledger.linked? c)
    (hl : c.transaction.isSome → x.isSome)
    (hr : Yields (match x with
      | some t =>
        if t.isPending then pure (.needsReceipt c.id t.id)
        else pure (.applied (.alreadySettled t.id))
      | none => match verdict with
        | .error reason => pure (.applied (.invalid reason))
        | .ok payment => do
          let result ← credit c.id e payment
          pure (.applied result)) s r s') : Yields (applyEvent chain hash block index e verdict) s r s' := by
  have hallow : s.faults.allows = true := by rw [hf]; rfl
  have hobtain : Yields (obtainBlockchainTransaction chain hash block) s c s :=
    yields_bind.2
      ⟨some c, s, yields_findByHash.2 (.inl ⟨by rw [hf]; rfl, hc.stored.symm, rfl⟩), yields_pure.2 ⟨rfl, rfl⟩⟩
  have hadvance : Yields (if c.state = .reverted then pure () else advanceBlockchain c .succeeded) s () s := by
    split
    · exact yields_pure.2 ⟨rfl, rfl⟩
    · rename_i hrev
      refine yields_advanceBlockchain.2 (.inl ⟨?_, rfl⟩)
      have := hc.state
      revert this hrev
      cases c.state <;> simp
  have hfacts : Yields (recordFacts c.id none none (some block)) s () s :=
    yields_recordFacts.2 ⟨hallow, (s.write_eq_self hf (hc.mapBlockchainTransaction_eq hk block)).symm⟩
  have hrecord : Yields (insertRecord (e.record c.id index)) s () s :=
    yields_insertRecord.2 ⟨hallow, (s.write_eq_self hf (hc.addRecord_eq e)).symm⟩
  rw [applyEvent_eq]
  simp only [noteEvent, yields_bind]
  exact ⟨c, s, hobtain, (), s, hadvance, (), s, hfacts, (), s, hrecord, x, s, yields_findLinked.2 ⟨hl, hx, rfl⟩, hr⟩

theorem yields_applyEvent_of_pending (hk : s.Keyed) (hf : s.faults = .none)
    (hc : s.ledger.Seen chain hash index c) (hl : s.ledger.linked? c = some u) (hp : u.isPending = true) :
    Yields (applyEvent chain hash block index e verdict) s (.needsReceipt c.id u.id) s := by
  refine yields_applyEvent_of_seen hk hf hc hl.symm (fun _ => rfl) ?_
  simp only [hp, if_true]
  exact yields_pure.2 ⟨rfl, rfl⟩

theorem yields_applyEvent_of_ended (hk : s.Keyed) (hf : s.faults = .none)
    (hc : s.ledger.Seen chain hash index c) (hl : s.ledger.linked? c = some u) (hp : u.isPending = false) :
    Yields (applyEvent chain hash block index e verdict) s (.applied (.alreadySettled u.id)) s := by
  refine yields_applyEvent_of_seen hk hf hc hl.symm (fun _ => rfl) ?_
  simp only [hp, Bool.false_eq_true, if_false]
  exact yields_pure.2 ⟨rfl, rfl⟩

theorem yields_applyEvent_of_refused {reason : InvalidReason} (hk : s.Keyed) (hf : s.faults = .none)
    (hc : s.ledger.Seen chain hash index c) (hn : c.transaction = none) (he : s.ledger.expecting? c.id = none)
    (hr : s.ledger.Refuses e verdict reason) :
    Yields (applyEvent chain hash block index e verdict) s (.applied (.invalid reason)) s := by
  have hl : s.ledger.linked? c = none := by unfold Ledger.linked?; rw [hn, he]
  refine yields_applyEvent_of_seen hk hf hc hl.symm (by rw [hn]; nofun) ?_
  rcases hr with rfl | ⟨⟨p, rfl⟩, hu, rfl⟩
  · exact yields_pure.2 ⟨rfl, rfl⟩
  · refine yields_bind.2 ⟨_, s, yields_bind.2 ⟨none, s, yields_findUser.2 ⟨hu.symm, rfl⟩, ?_⟩,
      yields_pure.2 ⟨rfl, rfl⟩⟩
    exact yields_pure.2 ⟨rfl, rfl⟩

end Work

/-! ## The whole log -/

namespace Process

variable {reader : Reader} {d : Deployment} {log : Log} {a : Applied}

theorem alone_screen (d : Deployment) (e : Event) (s : Session) :
    (screen d e).alone reader s = (.ok (Payment.screen d.settings s.ledger.content? e), s) := by
  unfold screen Payment.screen
  cases Payment.reference e <;> rfl

theorem asked_screen (d : Deployment) (e : Event) (s : Session) : (screen d e).asked reader s = [] := by
  unfold screen
  cases Payment.reference e <;> rfl

/-- Once the log is noted, what is left is its receipt, if it waits for one. -/
theorem alone_applyLog_of_noted {step : LogStep} (ha : d.applicable? log = some (block, index, e))
    (hy : (Work.applyEvent d.chain log.hash.spelling block index e
      (Payment.screen d.settings s.ledger.content? e)).Yields s step s') :
    (applyLog d log).alone reader s = (closeNoted d step).alone reader s' := by
  rw [applyLog_of_some ha, alone_bind (alone_screen d e s), alone_bind (alone_commit hy)]

theorem alone_applyLog_of_applied (ha : d.applicable? log = some (block, index, e))
    (hy : (Work.applyEvent d.chain log.hash.spelling block index e
      (Payment.screen d.settings s.ledger.content? e)).Yields s (.applied a) s') :
    (applyLog d log).alone reader s = (.ok a, s') ∧ (applyLog d log).asked reader s = [] := by
  refine ⟨alone_applyLog_of_noted ha hy, ?_⟩
  rw [applyLog_of_some ha, asked_bind (alone_screen d e s), asked_screen, asked_bind (alone_commit hy)]
  rfl

/-- Applying a log again changes nothing and asks nothing. -/
theorem alone_applyLog_again (hk : s.Keyed) (hf : s.faults = .none) (h : s.ledger.Again d log a) :
    (applyLog d log).alone reader s = (.ok a, s) ∧ (applyLog d log).asked reader s = [] := by
  cases h with
  | removed ha hr =>
    rw [applyLog_of_none ha, hr]
    exact ⟨rfl, rfl⟩
  | malformed ha hr =>
    rw [applyLog_of_none ha, hr]
    exact ⟨rfl, rfl⟩
  | @settled _ _ _ c u ha hc hl hu hp =>
    have hlinked : s.ledger.linked? c = some u := by
      unfold Ledger.linked?
      rw [hl]
      exact hu
    exact alone_applyLog_of_applied ha (Work.yields_applyEvent_of_ended hk hf hc hlinked hp)
  | refused ha hc hn he hr =>
    exact alone_applyLog_of_applied ha (Work.yields_applyEvent_of_refused hk hf hc hn he hr)

/-- What a log that was applied went through. -/
theorem alone_applyLog_ok (h : (applyLog d log).alone reader s = (.ok a, s')) :
    (d.applicable? log = none ∧ a = (if log.removed then .removed else .malformed) ∧ s' = s) ∨
    ∃ block index e step s₁, d.applicable? log = some (block, index, e) ∧
      (Work.applyEvent d.chain log.hash.spelling block index e
        (Payment.screen d.settings s.ledger.content? e)).Yields s step s₁ ∧
      (closeNoted d step).alone reader s₁ = (.ok a, s') := by
  rcases ha : d.applicable? log with _ | ⟨block, index, e⟩
  · rw [applyLog_of_none ha] at h
    cases h
    exact .inl ⟨rfl, rfl, rfl⟩
  · rw [applyLog_of_some ha, alone_bind (alone_screen d e s)] at h
    obtain ⟨step, s₁, hy, hc⟩ := alone_bind_ok h
    exact .inr ⟨block, index, e, step, s₁, rfl, alone_commit_ok hy, hc⟩

theorem alone_closeNoted_waiting {b t : Id} (h : (closeNoted d (.needsReceipt b t)).alone reader s = (.ok a, s')) :
    ∃ o, (resolveReceipt d b t).alone reader s = (.ok o, s') ∧ a = .ofOutcome t o := by
  obtain ⟨o, s₁, ho, hp⟩ := alone_bind_ok h
  cases hp
  exact ⟨o, ho, rfl⟩

end Process

end

end DonationLedger
