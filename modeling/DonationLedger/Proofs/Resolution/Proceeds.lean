import DonationLedger.Proofs.Links
import DonationLedger.Proofs.Resolution.Failing
import DonationLedger.Proofs.Resolution.Seen

/-!
# Ledger transactions that nobody disturbs

An operation that runs on its own only brings transactions to their end: who is pending after one of its ledger
transactions was pending before, and waited for the same (`Session.Proceeds`). So whenever the operation asks for a
receipt, a transaction has waited for it from the beginning (`Session.Proceeds.waitsFor`).
-/

namespace DonationLedger

/-- What one operation makes of a session. Who is pending then was pending before, and is as it was. -/
structure Session.Proceeds (s s' : Session) : Prop where
  upholds : s.Upholds s'
  eases : s.faults.Eases s'.faults
  beside : s.ledger.Beside s'.ledger
  pending : ∀ i u, s'.ledger.transaction? i = some u → u.state = .pending → s.ledger.transaction? i = some u

namespace Ledger

/-- A pending transaction waits for the blockchain transaction of a hash. -/
def WaitsFor (l : Ledger) (chain : Chain) (hash : Hash) : Prop :=
  ∃ t ∈ l.transactions, ∃ b ∈ l.blockchainTransactions,
    t.state = .pending ∧ t.blockchainTransaction = some b.id ∧ b.place = (chain, hash.spelling)

/-- The blockchain transaction of a hash, and a pending transaction that it is to settle. -/
structure Open (l : Ledger) (chain : Chain) (hash : Hash) (b t : Id) (c : BlockchainTransaction) (u : Transaction) :
    Prop extends l.Pair b t c u where
  pending : u.state = .pending
  expects : u.blockchainTransaction = some b
  place : c.place = (chain, hash.spelling)

end Ledger

namespace Session.Proceeds

variable {s s' s'' : Session}

theorem refl (s : Session) : s.Proceeds s := ⟨.refl s, .refl _, .refl _, fun _ _ h _ => h⟩

theorem trans (h : s.Proceeds s') (k : s'.Proceeds s'') : s.Proceeds s'' :=
  ⟨h.upholds.trans k.upholds, h.eases.trans k.eases, h.beside.trans k.beside,
    fun i u hu hp => h.pending i u (k.pending i u hu hp) hp⟩

/-- Who waits for a hash now has waited for it from the beginning. -/
theorem waitsFor {chain : Chain} {hash : Hash} {b t : Id} {c : BlockchainTransaction} {u : Transaction}
    (h : s.Proceeds s') (hs : s.Proper) (ho : s'.ledger.Open chain hash b t c u) : s.ledger.WaitsFor chain hash := by
  have hu := h.pending t u ho.transaction ho.pending
  obtain ⟨d, hd⟩ := Option.isSome_iff_exists.1 (hs.sound.expected t u b hu ho.expects)
  obtain ⟨c', hc', hf⟩ := h.upholds.later.follows.blockchainTransactions b d hd
  obtain rfl := Option.some.inj (hc'.symm.trans ho.blockchainTransaction)
  obtain ⟨hm, hid⟩ := Ledger.blockchainTransaction?_mem hd
  refine ⟨u, (Ledger.transaction?_mem hu).1, d, hm, ho.pending, ?_, ?_⟩
  · rw [ho.expects, hid]
  · rw [← hf.place, ho.place]

end Session.Proceeds

section
variable {s s' : Session} {chain : Chain} {hash : Hash} {b t : Id} {c : BlockchainTransaction} {u : Transaction}

/-- Where a pair is rewritten, who is pending in the end was not among it, or is as before. -/
theorem Ledger.Rewrites.pending {l l' : Ledger} {v : Transaction} {d : BlockchainTransaction} {rs : List AuditRecord}
    (h : l.Rewrites v d rs l') (hv : v.state = .pending → l.transaction? v.id = some v) (i : Id) (w : Transaction)
    (hw : l'.transaction? i = some w) (hp : w.state = .pending) : l.transaction? i = some w := by
  rw [h.transaction] at hw
  split at hw
  · rename_i hi
    obtain rfl := Option.some.inj hw
    rw [hi]
    exact hv hp
  · exact hw

namespace Ledger.Open

/-- The link that a pair gets is there already. -/
theorem joined {l : Ledger} (h : l.Open chain hash b t c u) : u.joined c = u := by
  unfold Transaction.joined
  split
  · obtain ⟨-, hid⟩ := Ledger.blockchainTransaction?_mem h.blockchainTransaction
    rw [hid, ← h.expects]
  · rfl

theorem expected {l : Ledger} (h : l.Open chain hash b t c u) : l.Expects b t := ⟨u, h.transaction, h.expects⟩

theorem openPair {p : BlockchainTransaction × Option Outcome} (h : s.ledger.Open chain hash b t c u)
    (hy : (Work.openPair b t).Yields s p s') :
    s.Proceeds s' ∧ (p.2 = none → s'.ledger.Open chain hash b t p.1 u) := by
  have heases := (Work.failsBy_openPair b t).eases_of_yields hy
  have hbeside := Work.beside_openPair hy
  have hupholds : s.Upholds s' := .openPair h.expected hy
  obtain ⟨c', u', v, hp, hp₁, hv, hl⟩ := Work.openPair_rewrites hy
  obtain rfl := Option.some.inj (hp.blockchainTransaction.symm.trans h.blockchainTransaction)
  obtain rfl := Option.some.inj (hp.transaction.symm.trans h.transaction)
  obtain ⟨-, hti⟩ := Ledger.transaction?_mem h.transaction
  obtain ⟨-, hbi⟩ := Ledger.blockchainTransaction?_mem h.blockchainTransaction
  have hsame (hn : p.2 = none) : v = u' := by
    rw [hn] at hv
    cases hv with
    | undecided => exact h.joined
  refine ⟨⟨hupholds, heases, hbeside, hl.pending fun hpend => ?_⟩, fun hn => ?_⟩
  · have hn : p.2 = none := by
      cases hp₂ : p.2 with
      | none => rfl
      | some o =>
        rw [hp₂] at hv
        exact absurd (hv.state.symm.trans hpend) o.state_ne_pending
    rw [hsame hn, hti]
    exact h.transaction
  · have hself := hl.transaction_self
    have hself' := hl.blockchainTransaction_self
    rw [hsame hn, hti] at hself
    rw [hp₁]
    exact {
      blockchainTransaction := hbi ▸ hself'
      transaction := hself
      free := .inr rfl
      pending := h.pending
      expects := h.expects
      place := h.place }

theorem closePair {r : Receipt} {block : Int} {os : List Observed} {o : Outcome}
    (h : s.ledger.Open chain hash b t c u) (hy : (Work.closePair b t r block os).Yields s o s') : s.Proceeds s' := by
  have heases := (Work.failsBy_closePair b t r block os).eases_of_yields hy
  have hbeside := Work.beside_closePair hy
  have hupholds : s.Upholds s' := .closePair h.expected hy
  obtain ⟨c', u', v, d, rs, -, hc, hl⟩ := Work.closePair_rewrites hy
  refine ⟨hupholds, heases, hbeside, hl.pending fun hpend => ?_⟩
  exact absurd (hc.state.symm.trans hpend) o.state_ne_pending

end Ledger.Open

namespace Work

variable {block index : Int} {e : Event} {verdict : Except InvalidReason Payment} {r : LogStep}

theorem pending_credited (hcr : Credited s c e verdict r s') (hk : s.Keyed) (i : Id) (w : Transaction)
    (hw : s'.ledger.transaction? i = some w) (hp : w.state = .pending) : s.ledger.transaction? i = some w := by
  cases hcr with
  | expected => exact hw
  | settled => exact hw
  | invalid => exact hw
  | unknown => exact hw
  | matched _ _ _ _ _ hl => exact hl.pending (fun hpend => nomatch hpend) i w hw hp
  | @created p recipient u _ _ _ _ _ _ hu hl =>
    have hpend : u.state ≠ .pending := by
      rw [hu]
      exact nofun
    have hnone : s.ledger.transaction? u.id = none := by
      rw [hu]
      exact hk.transaction?_next _
    have hw := hl.pending (fun h => absurd h hpend) i w hw hp
    rw [Ledger.transaction?_addTransaction _ _ _ hnone] at hw
    split at hw
    · obtain rfl := Option.some.inj hw
      exact absurd hp hpend
    · exact hw

theorem proceeds_applyEvent (hk : s.Keyed) (hy : (applyEvent chain hash.spelling block index e verdict).Yields s r s') :
    s.Proceeds s' := by
  refine ⟨.applyEvent hy, (failsBy_applyEvent hk).eases_of_yields hy, beside_applyEvent hk hy, fun i w hw hp => ?_⟩
  obtain ⟨c, s₁, s₂, ho, hk₂, -, ht, hn, hcr⟩ := applyEvent_credited hk hy
  have hw := pending_credited hcr hk₂ i w hw hp
  rw [Ledger.transaction?, ht, ho.transactions] at hw
  exact hw

/-- Where a log asks for the receipt, a pending transaction waits for it. -/
theorem open_applyEvent (hk : s.Keyed) (hs : s.ledger.Sound)
    (hy : (applyEvent chain hash.spelling block index e verdict).Yields s (.needsReceipt b t) s') :
    ∃ c u, s'.ledger.Open chain hash b t c u := by
  obtain ⟨c, s₁, s₂, ho, hk₂, -, ht, hn, hcr⟩ := applyEvent_credited hk hy
  obtain ⟨h₂, -⟩ := sound_seen hk hs ho ht hn
  have hc : s₂.ledger.blockchainTransaction? (c.seen block).id = some (c.seen block) := by
    rw [hn.blockchainTransaction, if_pos rfl]
  cases hcr with
  | @expected u hu hp =>
    obtain ⟨v, hv, hvb⟩ := h₂.expects_linked hk₂ hc hu
    have huv : v = u := by
      unfold Ledger.linked? at hu
      split at hu
      · rw [← (Ledger.transaction?_mem hu).2] at hu
        exact Option.some.inj (hv.symm.trans hu)
      · have hm := (Ledger.expecting?_some hu).1
        exact Option.some.inj (hv.symm.trans (Ledger.transaction?_of_mem hk₂.transactions hm))
    subst huv
    refine ⟨_, v, ⟨hc, hv, ?_⟩, by simpa [Transaction.isPending] using hp, hvb, ho.place⟩
    cases hct : (c.seen block).transaction with
    | none => exact .inl rfl
    | some i =>
      rw [Ledger.linked?, hct] at hu
      exact .inr (congrArg some (Ledger.transaction?_mem hu).2.symm)

end Work

/-- A log whose blockchain transaction names a transaction finds it. -/
theorem Session.Proper.not_dangling {hash : String} {e : Failure} (hs : s.Proper) :
    ¬ s.ledger.Dangling chain hash e := by
  rintro ⟨hc, ht, hn⟩
  obtain ⟨hm, -⟩ := Ledger.byHash?_some hc
  have hc := Ledger.blockchainTransaction?_of_mem hs.keyed.blockchainTransactions hm
  obtain ⟨u, hu, -⟩ := hs.sound.linked _ _ _ hc ht
  exact nomatch hn.symm.trans hu

end

end DonationLedger
