import DonationLedger.Proofs.Names

/-!
# Valid references

Hashes are stored as they are spelled, records and links lead to rows that are there, and checkpoints are numbers of
blocks (`Ledger.Valid`). Each ledger transaction keeps this, whatever else is wrong with the rows: payments may be
stored as settled ones or wait for blockchain transactions that are not there.
-/

namespace DonationLedger

namespace Ledger

/-- All that rows refer to is stored, and is written in the form in which it is looked for. -/
structure Valid (l : Ledger) : Prop where
  spelled : ∀ i b, l.blockchainTransaction? i = some b → ∃ hash : Hash, b.hash = hash.spelling
  linked : ∀ i b t, l.blockchainTransaction? i = some b → b.transaction = some t → (l.transaction? t).isSome = true
  recorded : ∀ r ∈ l.records, (l.blockchainTransaction? r.blockchainTransaction).isSome = true
  noted : (l.records.map AuditRecord.place).Nodup
  followed : ∀ chain c, l.checkpoint? chain = some c → 0 ≤ c.block ∧ c.block ≤ Text.maxSigned64

theorem nodup_places_addRecord {l : Ledger} (h : (l.records.map AuditRecord.place).Nodup) (r : AuditRecord) :
    ((l.addRecord r).records.map AuditRecord.place).Nodup := by
  unfold addRecord
  split
  · exact h
  · rename_i hn
    rw [List.map_append, List.nodup_append]
    refine ⟨h, by simp, fun p hp q hq he => hn ?_⟩
    obtain ⟨s, hs, rfl⟩ := List.mem_map.1 hp
    rw [List.map_singleton, List.mem_singleton] at hq
    have hplace : s.place = r.place := he.trans hq
    simp only [AuditRecord.place, Prod.mk.injEq] at hplace
    exact List.any_eq_true.2 ⟨s, hs, by simp [hplace.1, hplace.2]⟩

theorem nodup_places_addRecords {l : Ledger} (h : (l.records.map AuditRecord.place).Nodup) (rs : List AuditRecord) :
    ((l.addRecords rs).records.map AuditRecord.place).Nodup := by
  induction rs generalizing l with
  | nil => exact h
  | cons r rs ih => exact ih (nodup_places_addRecord h r)

theorem valid_empty : Ledger.empty.Valid where
  spelled _ _ hb := nomatch hb
  linked _ _ _ hb := nomatch hb
  recorded _ hr := nomatch hr
  noted := List.nodup_nil
  followed _ _ hc := nomatch hc

namespace Valid

variable {l l' : Ledger} {c d : BlockchainTransaction} {u v : Transaction} {rs : List AuditRecord}

/-! ## Kinds of writes -/

/-- A blockchain transaction that keeps its hash gets records, and a link to a transaction that is stored. -/
theorem notes (h : l.Valid) (hn : l.Notes d rs l') (hc : l.blockchainTransaction? d.id = some c)
    (hhash : d.hash = c.hash) (hlink : ∀ t, d.transaction = some t → (l'.transaction? t).isSome = true)
    (hkeep : ∀ t, (l.transaction? t).isSome = true → (l'.transaction? t).isSome = true)
    (hrs : ∀ r ∈ rs, r.blockchainTransaction = d.id) : l'.Valid where
  spelled i b hb := by
    rw [hn.blockchainTransaction] at hb
    split at hb
    · obtain rfl := Option.some.inj hb
      rw [hhash]
      exact h.spelled _ c hc
    · exact h.spelled i b hb
  linked i b t hb ht := by
    rw [hn.blockchainTransaction] at hb
    split at hb
    · obtain rfl := Option.some.inj hb
      exact hlink t ht
    · exact hkeep t (h.linked i b t hb ht)
  recorded r hr := by
    rw [hn.records] at hr
    rw [hn.blockchainTransaction]
    split
    · rfl
    · rename_i hi
      rcases of_mem_records_addRecords hr with hr | hr
      · exact h.recorded r hr
      · exact absurd (hrs r hr) hi
  noted := by
    rw [hn.records]
    exact nodup_places_addRecords h.noted rs
  followed chain x hx := by
    rw [checkpoint?, hn.checkpoints] at hx
    exact h.followed chain x hx

/-- A pair is rewritten, and its blockchain transaction settles its transaction then. -/
theorem rewrites (h : l.Valid) (hl : l.Rewrites v d rs l') (hc : l.blockchainTransaction? d.id = some c)
    (hhash : d.hash = c.hash) (hlink : d.transaction = some v.id) (hrs : ∀ r ∈ rs, r.blockchainTransaction = d.id) :
    l'.Valid := by
  refine h.notes hl.toNotes hc hhash (fun t ht => ?_) (fun t ht => ?_) hrs
  · obtain rfl := Option.some.inj (hlink.symm.trans ht)
    rw [hl.transaction_self]
    rfl
  · rw [hl.transaction]
    split
    · rfl
    · exact ht

theorem addTransaction (h : l.Valid) (u : Transaction) : (l.addTransaction u).Valid where
  spelled := h.spelled
  linked i b t hb ht := by
    obtain ⟨v, hv⟩ := Option.isSome_iff_exists.1 (h.linked i b t hb ht)
    obtain ⟨w, hw, -⟩ := (Follows.addTransaction l u).transactions t v hv
    exact Option.isSome_of_eq_some hw
  recorded := h.recorded
  noted := h.noted
  followed := h.followed

theorem addBlockchainTransaction (h : l.Valid) (hn : l.blockchainTransaction? c.id = none)
    (hhash : ∃ hash : Hash, c.hash = hash.spelling)
    (hlink : ∀ t, c.transaction = some t → (l.transaction? t).isSome = true) :
    (l.addBlockchainTransaction c).Valid where
  spelled i b hb := by
    rw [blockchainTransaction?_addBlockchainTransaction l c i hn] at hb
    split at hb
    · obtain rfl := Option.some.inj hb
      exact hhash
    · exact h.spelled i b hb
  linked i b t hb ht := by
    rw [blockchainTransaction?_addBlockchainTransaction l c i hn] at hb
    split at hb
    · obtain rfl := Option.some.inj hb
      exact hlink t ht
    · exact h.linked i b t hb ht
  recorded r hr := by
    rw [blockchainTransaction?_addBlockchainTransaction l c _ hn]
    split
    · rfl
    · exact h.recorded r hr
  noted := h.noted
  followed := h.followed

theorem setCheckpoint (h : l.Valid) {n : Nat} (hn : n ≤ Text.maxSigned64) (chain : Chain) :
    (l.setCheckpoint chain n).Valid where
  spelled := h.spelled
  linked := h.linked
  recorded := h.recorded
  noted := h.noted
  followed x c hc := by
    by_cases hx : x = chain
    · subst hx
      rw [checkpoint?_setCheckpoint] at hc
      obtain rfl := Option.some.inj hc
      split
      · rename_i b hb
        have hbounds := h.followed x b hb
        simp only
        omega
      · simp only
        omega
    · rw [checkpoint?_setCheckpoint_of_ne l n hx] at hc
      exact h.followed x c hc

end Valid

end Ledger

namespace Work

variable {s s' : Session} {b t : Id} {chain : Chain}

/-! ## Ledger transactions -/

theorem valid_openPair {p : BlockchainTransaction × Option Outcome} (h : s.ledger.Valid)
    (hy : Yields (openPair b t) s p s') : s'.ledger.Valid := by
  obtain ⟨c, u, v, hp, -, hv, hl⟩ := openPair_rewrites hy
  obtain ⟨-, hti⟩ := Ledger.transaction?_mem hp.transaction
  obtain ⟨-, hbi⟩ := Ledger.blockchainTransaction?_mem hp.blockchainTransaction
  refine h.rewrites hl (c := c) ?_ rfl ?_ nofun
  · show s.ledger.blockchainTransaction? c.id = some c
    rw [hbi]
    exact hp.blockchainTransaction
  · show some t = some v.id
    rw [hv.id, hti]

theorem valid_closePair {r : Receipt} {block : Int} {os : List Observed} {o : Outcome} (h : s.ledger.Valid)
    (hy : Yields (closePair b t r block os) s o s') : s'.ledger.Valid := by
  obtain ⟨c, u, v, d, rs, hp, hc, hl⟩ := closePair_rewrites hy
  obtain ⟨-, hti⟩ := Ledger.transaction?_mem hp.transaction
  obtain ⟨-, hbi⟩ := Ledger.blockchainTransaction?_mem hp.blockchainTransaction
  refine h.rewrites hl (c := c) ?_ ?_ ?_ fun r hr => ?_
  · rw [hc.id', hbi]
    exact hp.blockchainTransaction
  · cases hc <;> rfl
  · rw [hc.transaction, hc.id, hti]
  · rw [hc.of_mem_records hr, hc.id']

theorem valid_obtained {hash : Hash} {block : Int} {c : BlockchainTransaction} (hk : s.Keyed) (h : s.ledger.Valid)
    (ho : Obtained s chain hash.spelling block c s') : s'.ledger.Valid := by
  cases ho with
  | found _ hl _ =>
    rw [hl]
    exact h
  | stored _ hc hl _ =>
    have hi : c.id = s.supply.next .blockchainTransaction := by rw [hc]
    rw [hl]
    refine h.addBlockchainTransaction (hi ▸ hk.blockchainTransaction?_next _) ⟨hash, by rw [hc]⟩ fun t ht => ?_
    rw [hc] at ht
    cases ht

theorem valid_credited {c : BlockchainTransaction} {e : Event} {verdict : Except InvalidReason Payment} {r : LogStep}
    (h : s.ledger.Valid) (hc : s.ledger.blockchainTransaction? c.id = some c)
    (hcr : Credited s c e verdict r s') : s'.ledger.Valid := by
  cases hcr with
  | expected => exact h
  | settled => exact h
  | invalid => exact h
  | unknown => exact h
  | matched _ _ _ _ _ hl => exact h.rewrites hl hc rfl rfl nofun
  | created _ _ _ _ _ _ hl => exact (h.addTransaction _).rewrites hl hc rfl rfl nofun

theorem valid_applyEvent {hash : Hash} {block index : Int} {e : Event} {verdict : Except InvalidReason Payment}
    {r : LogStep} (hk : s.Keyed) (h : s.ledger.Valid)
    (hy : Yields (applyEvent chain hash.spelling block index e verdict) s r s') : s'.ledger.Valid := by
  obtain ⟨c, s₁, s₂, ho, -, -, ht, hn, hcr⟩ := applyEvent_credited hk hy
  have h₁ := valid_obtained hk h ho
  have hc := ho.blockchainTransaction? hk
  have hkeep (i : Id) : s₂.ledger.transaction? i = s₁.ledger.transaction? i := by
    rw [Ledger.transaction?, ht, Ledger.transaction?]
  have h₂ : s₂.ledger.Valid := by
    refine h₁.notes hn hc rfl (fun t hct => ?_) (fun t => ?_) fun r hr => ?_
    · rw [hkeep]
      exact h₁.linked c.id c t hc hct
    · rw [hkeep]
      exact id
    · rw [List.mem_singleton.1 hr]
      rfl
  refine valid_credited h₂ ?_ hcr
  rw [hn.blockchainTransaction, if_pos rfl]

theorem valid_createTransaction {d : TransactionDraft Id} {u : Transaction} (h : s.ledger.Valid)
    (hy : Yields (createTransaction d) s u s') : s'.ledger.Valid := by
  rw [(yields_createTransaction.1 hy).2.2]
  exact h.addTransaction u

/-- The payment may be drafted as a settled one. -/
theorem valid_seedPayment {hash : Hash} {d : TransactionDraft Id} {p : Transaction × BlockchainTransaction}
    (hk : s.Keyed) (h : s.ledger.Valid) (hy : Yields (seedPayment chain hash d) s p s') : s'.ledger.Valid := by
  obtain ⟨u, c, hu, hc, hs'⟩ := ledger_seedPayment hy
  have hun : s.ledger.transaction? u.id = none := by
    rw [hu]
    exact hk.transaction?_next _
  have hcn : s.ledger.blockchainTransaction? c.id = none := by
    rw [hc]
    exact hk.blockchainTransaction?_next _
  have hlast : (s.ledger.addTransaction u).transaction? u.id = some u := by
    rw [Ledger.transaction?_addTransaction _ _ _ hun, if_pos rfl]
  have h₁ : ((s.ledger.addTransaction u).addBlockchainTransaction c).Valid := by
    refine (h.addTransaction u).addBlockchainTransaction hcn ⟨hash, by rw [hc]; rfl⟩ fun t ht => ?_
    rw [hc] at ht
    obtain rfl := Option.some.inj ht
    rw [hlast]
    rfl
  have hself : ((s.ledger.addTransaction u).addBlockchainTransaction c).blockchainTransaction? c.id = some c := by
    rw [Ledger.blockchainTransaction?_addBlockchainTransaction (s.ledger.addTransaction u) c c.id hcn, if_pos rfl]
  have hl := (Ledger.Rewrites.start (l := (s.ledger.addTransaction u).addBlockchainTransaction c) hlast hself).link
  rw [← hs'] at hl
  exact h₁.rewrites hl hself rfl rfl nofun

theorem valid_raiseCheckpoint {n : Nat} {block : Int} (h : s.ledger.Valid) (hb : storedNumber? n = some block)
    (hy : Yields (raiseCheckpoint chain block) s () s') : s'.ledger.Valid := by
  obtain ⟨hn, rfl⟩ := storedNumber?_eq_some_iff.1 hb
  rw [(yields_raiseCheckpoint.1 hy).2]
  exact h.setCheckpoint hn chain

/-! ## Lost races -/

/-- A row that another writer has stored is found again, and none is stored beside it, however many look-ups miss it. -/
theorem obtainBlockchainTransaction_found {hash : String} {block : Int} {b c : BlockchainTransaction}
    (hb : s.ledger.byHash? chain hash = some b)
    (hy : Yields (obtainBlockchainTransaction chain hash block) s c s') : c = b ∧ s'.ledger = s.ledger := by
  cases obtained hy with
  | found hc hl _ => exact ⟨Option.some.inj (hc.symm.trans hb), hl⟩
  | stored hn => exact nomatch hn.symm.trans hb

/-- A look-up that misses the row once is made good by the second one. -/
theorem yields_obtain_missed {hash : String} {block : Int} {b : BlockchainTransaction}
    (hb : s.ledger.byHash? chain hash = some b) (ha : s.faults.allows = true) (hm : s.faults.hiddenLookups = 1) :
    ∃ s', Yields (obtainBlockchainTransaction chain hash block) s b s' ∧ s'.ledger = s.ledger := by
  refine ⟨(s.missing 0).spend, ?_, rfl⟩
  refine yields_bind.2 ⟨none, s.missing 0, yields_findByHash.2 (.inr ⟨0, hm, rfl, rfl⟩), ?_⟩
  have hcreate : Yields (createBlockchainTransaction ⟨chain, hash, none, .pending, some block⟩) (s.missing 0) none
      (s.missing 0).spend := by
    refine yields_createBlockchainTransaction.2 ⟨ha, .inl ⟨?_, rfl, rfl⟩⟩
    exact Option.isSome_of_eq_some hb
  refine yields_bind.2 ⟨none, _, hcreate, ?_⟩
  refine yields_bind.2 ⟨some b, _, yields_findByHash.2 (.inl ⟨rfl, hb.symm, rfl⟩), ?_⟩
  exact yields_pure.2 ⟨rfl, rfl⟩

end Work

end DonationLedger
