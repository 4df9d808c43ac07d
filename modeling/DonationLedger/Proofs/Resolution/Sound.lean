import DonationLedger.Proofs.Ledger.Sound
import DonationLedger.Proofs.Resolution.Log

/-!
# Ledger transactions keep a ledger sound

Each ledger transaction of a resolution leaves a sound ledger sound and changes no link that is set. For
a receipt this needs that the transaction expects the blockchain transaction already; whoever asks for a
resolution has seen that it does, and no one changes it (`Ledger.Expects`).
-/

namespace DonationLedger

namespace Ledger

/-- The transaction of `t` is stored and waits, or waited, for the blockchain transaction of `b`. -/
def Expects (l : Ledger) (b t : Id) : Prop :=
  ∃ u, l.transaction? t = some u ∧ u.blockchainTransaction = some b

theorem Expects.pair {l : Ledger} {b t : Id} {c : BlockchainTransaction} {u : Transaction}
    (h : l.Expects b t) (hp : l.Pair b t c u) : u.blockchainTransaction = some b := by
  obtain ⟨v, hv, hb⟩ := h
  rwa [Option.some.inj (hp.transaction.symm.trans hv)]

theorem KeepsLinks.expects {l l' : Ledger} {b t : Id} (h : l.KeepsLinks l') (he : l.Expects b t) :
    l'.Expects b t := by
  obtain ⟨u, hu, hb⟩ := he
  exact h.transaction t u b hu hb

namespace Sound

variable {l l' : Ledger} {b t : Id} {c : BlockchainTransaction} {u : Transaction}

/-- A blockchain transaction that is not linked can only be expected by pending transactions. -/
theorem agreed (h : l.Sound) (hp : l.Pair b t c u) (hu : u.blockchainTransaction = some b) :
    (u.state, c.state) ∈ agreedStates := by
  rcases hp.free with hn | ht
  · have hc := h.unlinked b c hp.blockchainTransaction hn
    have hs : u.state = .pending := by
      refine Decidable.byContradiction fun hs => ?_
      obtain ⟨b', c', hb', hc', ht'⟩ := h.ended t u hp.transaction hs
      obtain rfl : b = b' := Option.some.inj (hu.symm.trans hb')
      obtain rfl : c = c' := Option.some.inj (hp.blockchainTransaction.symm.trans hc')
      rw [hn] at ht'
      cases ht'
    rw [hs]
    revert hc
    cases c.state <;> decide
  · obtain ⟨v, hv, -, hs⟩ := h.linked b c t hp.blockchainTransaction ht
    obtain rfl : u = v := Option.some.inj (hp.transaction.symm.trans hv)
    exact hs

/-- The transaction that is found for a blockchain transaction expects it. -/
theorem expects_linked {s : Session} (h : s.ledger.Sound) (hk : s.Keyed)
    (hc : s.ledger.blockchainTransaction? c.id = some c) (hu : s.ledger.linked? c = some u) :
    s.ledger.Expects c.id u.id := by
  unfold linked? at hu
  split at hu
  · rename_i t ht
    obtain ⟨v, hv, hb, -⟩ := h.linked c.id c t hc ht
    obtain rfl : u = v := Option.some.inj (hu.symm.trans hv)
    exact ⟨u, by rw [(transaction?_mem hu).2, hu], hb⟩
  · obtain ⟨hm, -, hb⟩ := expecting?_some hu
    exact ⟨u, transaction?_of_mem hk.transactions hm, hb⟩

theorem remark_of_pending (h : l.Sound) (hu : l.transaction? t = some u) (hp : u.state = .pending) :
    u.remark = none := by
  have := h.remarked t u hu
  rw [Transaction.Remarked, hp] at this
  exact this

/-- A pair is rewritten so that its rows still name each other. -/
theorem rewrites (h : l.Sound) (he : l.Expects b t) (hp : l.Pair b t c u) {v : Transaction}
    {d : BlockchainTransaction} {rs : List AuditRecord} (hl : l.Rewrites v d rs l')
    (hv : v.id = u.id) (hvb : v.blockchainTransaction = (u.joined c).blockchainTransaction)
    (hd : d.id = c.id) (hdt : d.transaction = some t) (hs : (v.state, d.state) ∈ agreedStates)
    (hr : v.Remarked) : l'.Sound ∧ l.KeepsLinks l' := by
  have hbi := (blockchainTransaction?_mem hp.blockchainTransaction).2
  have hti := (transaction?_mem hp.transaction).2
  have hb := he.pair hp
  refine h.pair hl.transaction hl.blockchainTransaction ?_ ?_ hs hr ?_ ?_
  · rw [hvb, hd]
    unfold Transaction.joined
    split
    · rfl
    · rw [hb, hbi]
  · rw [hdt, hv, hti]
  · intro w hw
    rw [hv, hti, hp.transaction] at hw
    obtain rfl := Option.some.inj hw
    exact .inr (by rw [hb, hd, hbi])
  · intro e he
    rw [hd, hbi, hp.blockchainTransaction] at he
    obtain rfl := Option.some.inj he
    rw [hv, hti]
    exact hp.free

end Sound

end Ledger

theorem PaymentCriteria.admits_open {c : PaymentCriteria Id} {t : Transaction} (h : c.admits t = true) :
    t.state = .pending ∧ t.blockchainTransaction = none := by
  simp only [admits, Transaction.isPending, Bool.and_eq_true, beq_iff_eq, Option.isNone_iff_eq_none] at h
  exact ⟨h.1.1.1.1.1.2, h.2⟩

/-! ## Receipts -/

namespace Stored

variable {c : BlockchainTransaction} {u v : Transaction} {o : Option Outcome}

theorem agreed (h : Stored c u o v) (hs : (u.state, c.state) ∈ agreedStates) :
    (v.state, c.state) ∈ agreedStates := by
  cases h with
  | ended _ => simpa using hs
  | reverted _ hc =>
    rw [hc]
    simp [agreedStates]
  | undecided _ _ => simpa using hs

theorem remarked (h : Stored c u o v) (hr : u.Remarked) : v.Remarked := by
  unfold Transaction.Remarked at *
  cases h with
  | ended _ => simpa using hr
  | reverted hu _ => simpa [hu] using hr
  | undecided _ _ => simpa using hr

end Stored

namespace Closed

variable {l : Ledger} {t : Id} {r : Receipt} {block : Int} {os : List Observed}
  {c d : BlockchainTransaction} {u v : Transaction} {o : Outcome} {rs : List AuditRecord}

theorem agreed (h : Closed l t r block os c u o v d rs) (hs : (u.state, c.state) ∈ agreedStates) :
    (v.state, d.state) ∈ agreedStates := by
  cases h with
  | stored hv => exact hv.agreed hs
  | reverted => simp [agreedStates]
  | paid => simp [agreedStates]
  | unpaid => simp [agreedStates]

theorem remarked (h : Closed l t r block os c u o v d rs) (hr : u.Remarked) : v.Remarked := by
  cases h with
  | stored hv => exact hv.remarked hr
  | reverted hu => simpa [Transaction.Remarked, hu] using hr
  | paid hu => simpa [Transaction.Remarked, hu] using hr
  | unpaid => rfl

end Closed

theorem BlockchainTransaction.seen_not_pending (c : BlockchainTransaction) (block : Int) :
    (c.seen block).state ≠ .pending := by
  unfold seen
  simp only
  split <;> simp

namespace Work

variable {s s' : Session} {b t : Id}

theorem sound_openPair {p : BlockchainTransaction × Option Outcome} (h : s.ledger.Sound)
    (he : s.ledger.Expects b t) (hy : Yields (openPair b t) s p s') :
    s'.ledger.Sound ∧ s.ledger.KeepsLinks s'.ledger := by
  obtain ⟨c, u, v, hp, -, hv, hl⟩ := openPair_rewrites hy
  have hs := hv.agreed (h.agreed hp (he.pair hp))
  exact h.rewrites he hp hl hv.id hv.blockchainTransaction rfl rfl hs
    (hv.remarked (h.remarked t u hp.transaction))

theorem sound_closePair {r : Receipt} {block : Int} {os : List Observed} {o : Outcome}
    (h : s.ledger.Sound) (he : s.ledger.Expects b t) (hy : Yields (closePair b t r block os) s o s') :
    s'.ledger.Sound ∧ s.ledger.KeepsLinks s'.ledger := by
  obtain ⟨c, u, v, d, rs, hp, hc, hl⟩ := closePair_rewrites hy
  have hs := hc.agreed (h.agreed hp (he.pair hp))
  exact h.rewrites he hp hl hc.id hc.blockchainTransaction hc.id' hc.transaction hs
    (hc.remarked (h.remarked t u hp.transaction))

/-! ## Logs -/

theorem sound_obtained {chain : Chain} {hash : String} {block : Int} {c : BlockchainTransaction}
    (hk : s.Keyed) (h : s.ledger.Sound) (ho : Obtained s chain hash block c s') :
    s'.ledger.Sound ∧ s.ledger.KeepsLinks s'.ledger := by
  cases ho with
  | found hc hl hs => rw [hl]; exact ⟨h, .refl _⟩
  | stored hn hc hl hs =>
    have hi : c.id = s.supply.next .blockchainTransaction := by rw [hc]
    have hnone : s.ledger.blockchainTransaction? c.id = none := hi ▸ hk.blockchainTransaction?_next _
    rw [hl]
    refine h.onChain (c := c) (fun i => by simp)
      (fun i => Ledger.blockchainTransaction?_addBlockchainTransaction _ _ _ hnone) ?_ ?_ ?_
    · rw [hc]
      simp
    · rw [hc]
      simp
    · intro d hd
      rw [hnone] at hd
      cases hd

theorem sound_notes {l l' : Ledger} {c : BlockchainTransaction} {block : Int} {rs : List AuditRecord}
    (h : l.Sound) (hc : l.blockchainTransaction? c.id = some c) (ht : l'.transactions = l.transactions)
    (hn : l.Notes (c.seen block) rs l') : l'.Sound ∧ l.KeepsLinks l' := by
  refine h.onChain (fun i => by unfold Ledger.transaction?; rw [ht]) hn.blockchainTransaction ?_ ?_ ?_
  · intro hnone
    have := h.unlinked c.id c hc hnone
    simp [BlockchainTransaction.seen, this]
  · intro t htr
    obtain ⟨u, hu, hub, hs⟩ := h.linked c.id c t hc htr
    refine ⟨u, hu, hub, ?_⟩
    show (u.state, if c.state = .reverted then BlockchainState.reverted else .succeeded) ∈ agreedStates
    revert hs
    cases u.state <;> cases c.state <;> decide
  · intro d hd
    obtain rfl : c = d := Option.some.inj (hc.symm.trans hd)
    rfl

theorem sound_credited {c : BlockchainTransaction} {e : Event} {verdict : Except InvalidReason Payment}
    {r : LogStep} (hk : s.Keyed) (h : s.ledger.Sound) (hc : s.ledger.blockchainTransaction? c.id = some c)
    (hs : c.state ≠ .pending) (hcr : Credited s c e verdict r s') :
    s'.ledger.Sound ∧ s.ledger.KeepsLinks s'.ledger := by
  have hsucc (hn : c.transaction = none) : (TransactionState.succeeded, c.state) ∈ agreedStates := by
    have hr := h.unlinked c.id c hc hn
    revert hs hr
    cases c.state <;> simp [agreedStates]
  cases hcr with
  | expected => exact ⟨h, .refl _⟩
  | settled => exact ⟨h, .refl _⟩
  | invalid => exact ⟨h, .refl _⟩
  | unknown => exact ⟨h, .refl _⟩
  | @matched p recipient u _ hn he hv hr hm hl =>
    obtain ⟨hu, ha⟩ := Ledger.pendingMatch?_some hm
    obtain ⟨hp, hub⟩ := PaymentCriteria.admits_open ha
    have hu := Ledger.transaction?_of_mem hk.transactions hu
    refine h.pair hl.transaction hl.blockchainTransaction rfl rfl ?_ ?_ ?_ ?_
    · exact hsucc hn
    · have := h.remark_of_pending hu hp
      simpa [Transaction.Remarked] using this
    · intro v hv
      obtain rfl : u = v := Option.some.inj (hu.symm.trans hv)
      exact .inl hub
    · intro d hd
      obtain rfl : c = d := Option.some.inj (hc.symm.trans hd)
      exact .inl hn
  | @created p recipient u _ hn he hv hr hm hu hl =>
    have hi : u.id = s.supply.next .transaction := by rw [hu]; rfl
    have hnone : s.ledger.transaction? u.id = none := hi ▸ hk.transaction?_next _
    refine h.pair (fun i => ?_) hl.blockchainTransaction ?_ rfl ?_ ?_ ?_ ?_
    · rw [hl.transaction, Ledger.transaction?_addTransaction _ _ _ hnone]
      split <;> rfl
    · rw [hu]
      rfl
    · rw [show u.state = .succeeded by rw [hu]; rfl]
      exact hsucc hn
    · rw [Transaction.Remarked, hu]
      rfl
    · intro v hv
      rw [hnone] at hv
      cases hv
    · intro d hd
      obtain rfl : c = d := Option.some.inj (hc.symm.trans hd)
      exact .inl hn

/-- The session in which a log is credited is sound. -/
theorem sound_seen {s₁ s₂ : Session} {chain : Chain} {hash : String} {block index : Int} {e : Event}
    {c : BlockchainTransaction} (hk : s.Keyed) (h : s.ledger.Sound)
    (ho : Obtained s chain hash block c s₁) (ht : s₂.ledger.transactions = s₁.ledger.transactions)
    (hn : s₁.ledger.Notes (c.seen block) [e.record c.id index] s₂.ledger) :
    s₂.ledger.Sound ∧ s.ledger.KeepsLinks s₂.ledger := by
  obtain ⟨h₁, hl₁⟩ := sound_obtained hk h ho
  obtain ⟨h₂, hl₂⟩ := sound_notes h₁ (ho.blockchainTransaction? hk) ht hn
  exact ⟨h₂, hl₁.trans hl₂⟩

theorem sound_applyEvent {chain : Chain} {hash : String} {block index : Int} {e : Event}
    {verdict : Except InvalidReason Payment} {r : LogStep} (hk : s.Keyed) (h : s.ledger.Sound)
    (hy : Yields (applyEvent chain hash block index e verdict) s r s') :
    s'.ledger.Sound ∧ s.ledger.KeepsLinks s'.ledger := by
  obtain ⟨c, s₁, s₂, ho, hk₂, -, ht, hn, hcr⟩ := applyEvent_credited hk hy
  obtain ⟨h₂, hl₂⟩ := sound_seen hk h ho ht hn
  have hc : s₂.ledger.blockchainTransaction? (c.seen block).id = some (c.seen block) := by
    rw [hn.blockchainTransaction, if_pos rfl]
  obtain ⟨h', hl⟩ := sound_credited hk₂ h₂ hc (c.seen_not_pending block) hcr
  exact ⟨h', hl₂.trans hl⟩

/-- Where a log asks for the receipt, some transaction expects its blockchain transaction. -/
theorem applyEvent_expects {chain : Chain} {hash : String} {block index : Int} {e : Event}
    {verdict : Except InvalidReason Payment} (hk : s.Keyed) (h : s.ledger.Sound)
    (hy : Yields (applyEvent chain hash block index e verdict) s (.needsReceipt b t) s') :
    s'.ledger.Expects b t := by
  obtain ⟨c, s₁, s₂, ho, hk₂, -, ht, hn, hcr⟩ := applyEvent_credited hk hy
  obtain ⟨h₂, -⟩ := sound_seen hk h ho ht hn
  have hc : s₂.ledger.blockchainTransaction? (c.seen block).id = some (c.seen block) := by
    rw [hn.blockchainTransaction, if_pos rfl]
  cases hcr with
  | @expected u hu hp => exact h₂.expects_linked hk₂ hc hu

/-! ## Expected payments -/

theorem sound_createTransaction {d : TransactionDraft Id} {t : Transaction} (hk : s.Keyed)
    (h : s.ledger.Sound) (hd : d.state = .pending)
    (hb : ∀ b, d.blockchainTransaction = some b → (s.ledger.blockchainTransaction? b).isSome = true)
    (hy : Yields (createTransaction d) s t s') : s'.ledger.Sound ∧ s.ledger.KeepsLinks s'.ledger := by
  obtain ⟨-, rfl, rfl⟩ := yields_createTransaction.1 hy
  refine h.expect (u := d.row (s.supply.next .transaction)) (fun i => ?_) (fun i => rfl)
    (hk.transaction?_next _) hd rfl hb
  exact Ledger.transaction?_addTransaction _ _ _ (hk.transaction?_next _)

theorem sound_seedPayment {chain : Chain} {hash : Hash} {d : TransactionDraft Id}
    {p : Transaction × BlockchainTransaction} (hk : s.Keyed) (h : s.ledger.Sound) (hd : d.state = .pending)
    (hy : Yields (seedPayment chain hash d) s p s') : s'.ledger.Sound ∧ s.ledger.KeepsLinks s'.ledger := by
  obtain ⟨t, c, ht, hc, hs'⟩ := ledger_seedPayment hy
  have htn : s.ledger.transaction? t.id = none := by
    rw [ht]
    exact hk.transaction?_next _
  have hcn : s.ledger.blockchainTransaction? c.id = none := by
    rw [hc]
    exact hk.blockchainTransaction?_next _
  have htp : t.state = .pending := by
    rw [ht]
    exact hd
  let m := (s.ledger.addTransaction t).addBlockchainTransaction c
  have hmt (i : Id) : m.transaction? i = if i = t.id then some t else s.ledger.transaction? i :=
    Ledger.transaction?_addTransaction _ _ _ htn
  have hmc (i : Id) : m.blockchainTransaction? i =
      if i = c.id then some c else s.ledger.blockchainTransaction? i :=
    Ledger.blockchainTransaction?_addBlockchainTransaction _ _ _ hcn
  have hr := (Ledger.Rewrites.start (l := m) (u := t) (c := c) (by rw [hmt, if_pos rfl])
    (by rw [hmc, if_pos rfl])).link
  rw [show m.link c.id t.id = s'.ledger from hs'.symm] at hr
  refine h.pair (u := { t with blockchainTransaction := some c.id })
    (c := { c with transaction := some t.id }) (fun i => ?_) (fun i => ?_) rfl rfl ?_ ?_ ?_ ?_
  · rw [hr.transaction, hmt]
    split <;> rfl
  · rw [hr.blockchainTransaction, hmc]
    split <;> rfl
  · rw [show c.state = .pending by rw [hc]; rfl, htp]
    simp [agreedStates]
  · rw [Transaction.Remarked, htp, ht]
    rfl
  · intro v hv
    rw [htn] at hv
    cases hv
  · intro e he
    rw [hcn] at he
    cases he

end Work

end DonationLedger
