import DonationLedger.Proofs.Resolution.Log

/-!
# Logs that were seen

Whatever the ledger transaction of a log decides, it leaves the blockchain transaction of the log known to be in
a block, and the log on record (`Ledger.Seen`). That is so ever after, and whoever sees the log again finds it.
-/

namespace DonationLedger

/-- `c` is the blockchain transaction of a hash, some log of it was seen in a block, and the one of this index
is on record. -/
structure Ledger.Seen (l : Ledger) (chain : Chain) (hash : String) (index : Int) (c : BlockchainTransaction) :
    Prop where
  stored : l.byHash? chain hash = some c
  state : c.state ≠ .pending
  block : c.block.isSome = true
  recorded : ∃ r ∈ l.records, r.place = (c.id, index)

/-- The tables that neither logs nor receipts write to are the same. -/
structure Ledger.Beside (l l' : Ledger) : Prop where
  checkpoints : l'.checkpoints = l.checkpoints
  users : l'.users = l.users
  contents : l'.contents = l.contents

namespace Ledger

variable {l l' l'' : Ledger} {u : Transaction} {c : BlockchainTransaction} {rs : List AuditRecord}

namespace Beside

theorem refl (l : Ledger) : l.Beside l := ⟨rfl, rfl, rfl⟩

theorem trans (h : l.Beside l') (k : l'.Beside l'') : l.Beside l'' :=
  ⟨k.checkpoints.trans h.checkpoints, k.users.trans h.users, k.contents.trans h.contents⟩

theorem checkpoint? (h : l.Beside l') (chain : Chain) : l'.checkpoint? chain = l.checkpoint? chain := by
  unfold Ledger.checkpoint?
  rw [h.checkpoints]

theorem content? (h : l.Beside l') : l'.content? = l.content? := Ledger.content?_of_contents h.contents

end Beside

theorem Notes.beside (h : l.Notes c rs l') : l.Beside l' := ⟨h.checkpoints, h.users, h.contents⟩

theorem Rewrites.beside (h : l.Rewrites u c rs l') : l.Beside l' := h.toNotes.beside

/-- All blockchain transactions but the one that was noted are as they were. -/
theorem Notes.mem_iff (h : l.Notes c rs l') (hk : (l.blockchainTransactions.map BlockchainTransaction.id).Nodup)
    {d : BlockchainTransaction} (hd : d.id ≠ c.id) :
    d ∈ l'.blockchainTransactions ↔ d ∈ l.blockchainTransactions := by
  have hi : l'.blockchainTransaction? d.id = l.blockchainTransaction? d.id := by
    rw [h.blockchainTransaction, if_neg hd]
  constructor
  · intro hm
    have hm := blockchainTransaction?_of_mem (h.ids' ▸ hk) hm
    exact (blockchainTransaction?_mem (hi ▸ hm)).1
  · intro hm
    have hm := blockchainTransaction?_of_mem hk hm
    exact (blockchainTransaction?_mem (hi.symm ▸ hm)).1

end Ledger

section
variable {s s' s₁ s₂ : Session} {chain : Chain} {hash : String} {block index : Int} {c : BlockchainTransaction}
  {e : Event} {verdict : Except InvalidReason Payment} {r : LogStep}

namespace Ledger.Seen

theorem blockchainTransaction? (h : s.ledger.Seen chain hash index c) (hk : s.Keyed) :
    s.ledger.blockchainTransaction? c.id = some c :=
  Ledger.blockchainTransaction?_of_mem hk.blockchainTransactions (Ledger.byHash?_some h.stored).1

/-- The row may have come further since, but it is still the one of the hash. -/
theorem later (h : s.ledger.Seen chain hash index c) (hk : s.Keyed) (hh : s.Hashed) (hl : s.Later s') :
    ∃ c', c.Follows c' ∧ s'.ledger.Seen chain hash index c' := by
  obtain ⟨c', hc', hf⟩ := hl.follows.blockchainTransactions c.id c (h.blockchainTransaction? hk)
  obtain ⟨-, rfl, rfl⟩ := Ledger.byHash?_some h.stored
  refine ⟨c', hf, ?_, ?_, ?_, ?_⟩
  · rw [← hf.chain, ← hf.hash]
    exact (hl.hashed hh).byHash? (Ledger.blockchainTransaction?_mem hc').1
  · rw [hf.final (by simpa [BlockchainTransaction.isFinal] using h.state)]
    exact h.state
  · obtain ⟨n, hn⟩ := Option.isSome_iff_exists.1 h.block
    rw [hf.block n hn]
    rfl
  · obtain ⟨r, hr, hp⟩ := h.recorded
    exact ⟨r, hl.follows.records r hr, by rw [hp, hf.id]⟩

end Ledger.Seen

namespace Credited

theorem records (h : Credited s c e verdict r s') : s'.ledger.records = s.ledger.records := by
  cases h with
  | expected => rfl
  | settled => rfl
  | invalid => rfl
  | unknown => rfl
  | matched _ _ _ _ _ hl => exact hl.records
  | created _ _ _ _ _ _ hl => exact hl.records

/-- The blockchain transaction gets nothing but a link to what is stored, and no other one changes. -/
theorem notes (h : Credited s c e verdict r s') (hc : s.ledger.blockchainTransaction? c.id = some c) :
    ∃ t, (t = c.transaction ∨ ∃ u ∈ s'.ledger.transactions, t = some u.id) ∧
      s.ledger.Notes { c with transaction := t } [] s'.ledger := by
  cases h with
  | expected => exact ⟨_, .inl rfl, .start hc⟩
  | settled => exact ⟨_, .inl rfl, .start hc⟩
  | invalid => exact ⟨_, .inl rfl, .start hc⟩
  | unknown => exact ⟨_, .inl rfl, .start hc⟩
  | matched _ _ _ _ _ hl =>
    exact ⟨_, .inr ⟨_, (Ledger.transaction?_mem hl.transaction_self).1, rfl⟩, hl.toNotes⟩
  | created _ _ _ _ _ _ hl =>
    exact ⟨_, .inr ⟨_, (Ledger.transaction?_mem hl.transaction_self).1, rfl⟩, hl.blockchainTransaction, hl.ids',
      hl.records, hl.checkpoints, hl.users, hl.contents⟩

theorem blockchainTransaction? (h : Credited s c e verdict r s')
    (hc : s.ledger.blockchainTransaction? c.id = some c) :
    ∃ t, s'.ledger.blockchainTransaction? c.id = some { c with transaction := t } := by
  obtain ⟨t, -, hn⟩ := h.notes hc
  refine ⟨t, ?_⟩
  rw [hn.blockchainTransaction]
  exact if_pos rfl

/-- A transaction was there before, or names the blockchain transaction. -/
theorem mem_transactions (h : Credited s c e verdict r s') (hk : (s'.ledger.transactions.map Transaction.id).Nodup)
    {v : Transaction} (hv : v ∈ s'.ledger.transactions) :
    v ∈ s.ledger.transactions ∨ v.blockchainTransaction = some c.id := by
  cases h with
  | expected => exact .inl hv
  | settled => exact .inl hv
  | invalid => exact .inl hv
  | unknown => exact .inl hv
  | matched _ _ _ _ _ hl => exact (hl.mem_or_eq hk hv).imp_right fun h => by rw [h]
  | @created _ _ u _ _ _ _ _ _ hu hl =>
    have hub : u.blockchainTransaction = some c.id := by
      rw [hu]
      rfl
    rcases hl.mem_or_eq hk hv with hv | rfl
    · exact (List.mem_append.1 hv).imp_right fun hv => by rw [List.mem_singleton.1 hv, hub]
    · exact .inr hub

end Credited

namespace Obtained

theorem beside (h : Obtained s chain hash block c s') : s.ledger.Beside s'.ledger := by
  cases h with
  | found _ hl _ => rw [hl]; exact .refl _
  | stored _ _ hl _ => rw [hl]; exact ⟨rfl, rfl, rfl⟩

theorem place (h : Obtained s chain hash block c s') : c.place = (chain, hash) := by
  cases h with
  | found hc _ _ =>
    obtain ⟨-, rfl, rfl⟩ := Ledger.byHash?_some hc
    rfl
  | stored _ hc _ _ => rw [hc]; rfl

theorem mem_iff (h : Obtained s chain hash block c s') {d : BlockchainTransaction} (hd : d.place ≠ (chain, hash)) :
    d ∈ s'.ledger.blockchainTransactions ↔ d ∈ s.ledger.blockchainTransactions := by
  have hne : d ≠ c := fun he => hd (he ▸ h.place)
  cases h with
  | found _ hl _ => rw [hl]
  | stored _ _ hl _ => simp [hl, Ledger.addBlockchainTransaction, hne]

end Obtained

theorem BlockchainTransaction.seen_block (c : BlockchainTransaction) (block : Int) :
    (c.seen block).block.isSome = true := by
  unfold seen Work.filled
  cases c.block <;> rfl

namespace Work

/-- Whatever was decided, the row of the blockchain transaction is that of a log that was seen. -/
theorem credited_seen (hk : s.Keyed) (hh : s.Hashed)
    (hy : Yields (applyEvent chain hash block index e verdict) s r s') : ∃ (c : BlockchainTransaction) (s₂ : Session),
      s₂.Keyed ∧ s₂.ledger.blockchainTransaction? c.id = some c ∧ Credited s₂ c e verdict r s' ∧
      ∀ c', s'.ledger.blockchainTransaction? c.id = some c' → s'.ledger.Seen chain hash index c' := by
  obtain ⟨c, s₁, s₂, ho, hk₂, -, -, hn, hcr⟩ := applyEvent_credited hk hy
  have hc : s₂.ledger.blockchainTransaction? (c.seen block).id = some (c.seen block) := by
    rw [hn.blockchainTransaction, if_pos rfl]
  refine ⟨c.seen block, s₂, hk₂, hc, hcr, fun c' hc' => ?_⟩
  obtain ⟨t, ht⟩ := hcr.blockchainTransaction? hc
  obtain rfl := Option.some.inj (hc'.symm.trans ht)
  have hh' := ((lasting_applyEvent _ _ _ _ _ _).later hy).hashed hh
  obtain ⟨hch, hha⟩ := Prod.mk.inj ho.place
  refine ⟨?_, ?_, c.seen_block block, ?_⟩
  · rw [← hch, ← hha]
    exact hh'.byHash? (Ledger.blockchainTransaction?_mem ht).1
  · unfold BlockchainTransaction.seen
    simp only
    split <;> simp
  · obtain ⟨q, hq, hqb, hqi⟩ := s₁.ledger.exists_record_addRecord (e.record c.id index)
    refine ⟨q, ?_, Prod.ext hqb hqi⟩
    rw [hcr.records, hn.records]
    exact hq

/-- A log that was applied is seen. -/
theorem seen_applyEvent (hk : s.Keyed) (hh : s.Hashed)
    (hy : Yields (applyEvent chain hash block index e verdict) s r s') :
    ∃ c, s'.ledger.Seen chain hash index c := by
  obtain ⟨c, s₂, -, hc, hcr, hseen⟩ := credited_seen hk hh hy
  obtain ⟨t, ht⟩ := hcr.blockchainTransaction? hc
  exact ⟨_, hseen _ ht⟩

/-! ## What is not touched -/

/-- The blockchain transaction of the log is found or stored, noted and perhaps linked, and transactions that are
changed name it. Of all else only the record of the log is new. -/
theorem applyEvent_notes (hk : s.Keyed) (hy : Yields (applyEvent chain hash block index e verdict) s r s') :
    ∃ c s₁ t, Obtained s chain hash block c s₁ ∧ (t = c.transaction ∨ ∃ u ∈ s'.ledger.transactions, t = some u.id) ∧
      s₁.ledger.Notes { c.seen block with transaction := t } [e.record c.id index] s'.ledger ∧
      ∀ v ∈ s'.ledger.transactions, v ∈ s₁.ledger.transactions ∨ v.blockchainTransaction = some c.id := by
  have hk' := ((lasting_applyEvent _ _ _ _ _ _).later hy).keyed hk
  obtain ⟨c, s₁, s₂, ho, -, -, ht₂, hn, hcr⟩ := applyEvent_credited hk hy
  have hc : s₂.ledger.blockchainTransaction? (c.seen block).id = some (c.seen block) := by
    rw [hn.blockchainTransaction, if_pos rfl]
  obtain ⟨t, ht, hn'⟩ := hcr.notes hc
  exact ⟨c, s₁, t, ho, ht, hn.trans hn' rfl, fun v hv => ht₂ ▸ hcr.mem_transactions hk'.transactions hv⟩

theorem beside_applyEvent (hk : s.Keyed) (hy : Yields (applyEvent chain hash block index e verdict) s r s') :
    s.ledger.Beside s'.ledger := by
  obtain ⟨c, s₁, t, ho, -, hn, -⟩ := applyEvent_notes hk hy
  exact ho.beside.trans hn.beside

/-- No blockchain transaction but that of the log is stored or changed. -/
theorem mem_iff_applyEvent (hk : s.Keyed) (hy : Yields (applyEvent chain hash block index e verdict) s r s')
    {d : BlockchainTransaction} (hd : d.place ≠ (chain, hash)) :
    d ∈ s'.ledger.blockchainTransactions ↔ d ∈ s.ledger.blockchainTransactions := by
  obtain ⟨c, s₁, t, ho, -, hn, -⟩ := applyEvent_notes hk hy
  have hk' := ((lasting_applyEvent _ _ _ _ _ _).later hy).keyed hk
  have hk₁ : (s₁.ledger.blockchainTransactions.map BlockchainTransaction.id).Nodup :=
    hn.ids' ▸ hk'.blockchainTransactions
  refine Iff.trans ?_ (ho.mem_iff hd)
  by_cases hi : d.id = c.id
  · -- the row of this id is at the place of the log, before and after
    constructor
    · intro hm
      have hm := Ledger.blockchainTransaction?_of_mem hk'.blockchainTransactions hm
      rw [hn.blockchainTransaction] at hm
      obtain rfl := Option.some.inj ((if_pos hi).symm.trans hm)
      exact absurd ho.place hd
    · intro hm
      have hm := Ledger.blockchainTransaction?_of_mem hk₁ hm
      rw [hi, ho.blockchainTransaction? hk] at hm
      obtain rfl := Option.some.inj hm
      exact absurd ho.place hd
  · exact hn.mem_iff hk₁ hi

theorem beside_openPair {b t : Id} {p : BlockchainTransaction × Option Outcome}
    (hy : Yields (openPair b t) s p s') : s.ledger.Beside s'.ledger := by
  obtain ⟨c, u, v, -, -, -, hl⟩ := openPair_rewrites hy
  exact hl.beside

theorem beside_closePair {b t : Id} {receipt : Receipt} {os : List Observed} {o : Outcome}
    (hy : Yields (closePair b t receipt block os) s o s') : s.ledger.Beside s'.ledger := by
  obtain ⟨c, u, v, d, rs, -, -, hl⟩ := closePair_rewrites hy
  exact hl.beside

theorem beside_createTransaction {d : TransactionDraft Id} {t : Transaction}
    (hy : Yields (createTransaction d) s t s') : s.ledger.Beside s'.ledger := by
  rw [(yields_createTransaction.1 hy).2.2]
  exact ⟨rfl, rfl, rfl⟩

theorem beside_seedPayment {d : TransactionDraft Id} {h : Hash} {p : Transaction × BlockchainTransaction}
    (hy : Yields (seedPayment chain h d) s p s') : s.ledger.Beside s'.ledger := by
  obtain ⟨t, c, -, -, hl⟩ := ledger_seedPayment hy
  rw [hl]
  exact ⟨rfl, rfl, rfl⟩

end Work

end

end DonationLedger
