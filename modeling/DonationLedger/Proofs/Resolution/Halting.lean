import DonationLedger.Proofs.Resolution.Frugal

/-!
# Where receipts and logs are cut short

A receipt or a log that is cut short leaves one of a few ledgers behind. A receipt leaves all as it was, or its pair
linked and nothing else done. A log leaves all as it was unless it has to wait for a receipt: then its blockchain
transaction is noted (`Ledger.noted`), and the rest is up to the receipt.
-/

namespace DonationLedger

/-- The ledger where it is noted that a log of the blockchain transaction was seen in a block. -/
def Ledger.noted (l : Ledger) (c : BlockchainTransaction) (block index : Int) (e : Event) : Ledger :=
  (l.mapBlockchainTransaction c.id fun b => b.seen block).addRecord (e.record c.id index)

namespace Ledger

variable {l l₁ l₂ : Ledger} {c : BlockchainTransaction} {rs : List AuditRecord} {chain : Chain} {hash : String}
  {block index : Int} {e : Event}

theorem notes_noted (hc : l.blockchainTransaction? c.id = some c) (block index : Int) (e : Event) :
    l.Notes (c.seen block) [e.record c.id index] (l.noted c block index e) :=
  ((Notes.start hc).mapBlockchainTransaction (f := fun b => b.seen block) fun _ => rfl).addRecord _

theorem transactions_noted (l : Ledger) (c : BlockchainTransaction) (block index : Int) (e : Event) :
    (l.noted c block index e).transactions = l.transactions := transactions_addRecord _ _

/-- What was noted, and the transactions, are all there is to know. -/
theorem Notes.eq (h₁ : l.Notes c rs l₁) (h₂ : l.Notes c rs l₂)
    (hk : (l.blockchainTransactions.map BlockchainTransaction.id).Nodup) (ht : l₁.transactions = l₂.transactions) :
    l₁ = l₂ := by
  have hb : l₁.blockchainTransactions = l₂.blockchainTransactions :=
    eq_of_find?_key BlockchainTransaction.id (h₂.ids' ▸ hk) (h₁.ids'.trans h₂.ids'.symm) fun i =>
      (h₁.blockchainTransaction i).trans (h₂.blockchainTransaction i).symm
  have hr := h₁.records.trans h₂.records.symm
  have hc := h₁.checkpoints.trans h₂.checkpoints.symm
  have hu := h₁.users.trans h₂.users.symm
  have hx := h₁.contents.trans h₂.contents.symm
  cases l₁
  cases l₂
  simp only at ht hb hr hc hu hx
  rw [ht, hb, hr, hc, hu, hx]

/-- A row that keeps its place is found at its place. -/
theorem byHash?_mapBlockchainTransaction (l : Ledger) (id : Id) {f : BlockchainTransaction → BlockchainTransaction}
    (hf : ∀ b, (f b).place = b.place) (chain : Chain) (hash : String) :
    (l.mapBlockchainTransaction id f).byHash? chain hash =
      (l.byHash? chain hash).map fun b => if b.id = id then f b else b := by
  unfold byHash? mapBlockchainTransaction
  rw [List.find?_map]
  refine congrArg (Option.map _) (congrArg (fun p => List.find? p l.blockchainTransactions) (funext fun b => ?_))
  obtain ⟨hch, hh⟩ := Prod.mk.inj (hf b)
  simp only [Function.comp]
  split
  · rw [hch, hh]
  · rfl

/-- Once a log was noted, it was seen. -/
theorem seen_noted (hc : l.byHash? chain hash = some c) (block index : Int) (e : Event) :
    (l.noted c block index e).Seen chain hash index (c.seen block) where
  stored := by
    have hmap := l.byHash?_mapBlockchainTransaction c.id (f := fun b => b.seen block) (fun _ => rfl) chain hash
    rw [hc, Option.map_some, if_pos rfl] at hmap
    unfold byHash? noted at *
    rw [blockchainTransactions_addRecord]
    exact hmap
  state := by
    unfold BlockchainTransaction.seen
    simp only
    split <;> simp
  block := c.seen_block block
  recorded := by
    obtain ⟨q, hq, hb, hi⟩ := exists_record_addRecord
      (l.mapBlockchainTransaction c.id fun b => b.seen block) (e.record c.id index)
    exact ⟨q, hq, Prod.ext hb hi⟩

/-- A link takes nothing back. -/
theorem Seen.link (h : l.Seen chain hash index c) (t : Id) : (l.link c.id t).Seen chain hash index (c.linkedTo t) where
  stored := by
    have hmap := l.byHash?_mapBlockchainTransaction c.id (f := fun b => { b with transaction := some t })
      (fun _ => rfl) chain hash
    rw [h.stored, Option.map_some, if_pos rfl] at hmap
    exact hmap
  state := h.state
  block := h.block
  recorded := h.recorded

end Ledger

section
variable {s s' x : Session} {b t : Id} {p : BlockchainTransaction × Option Outcome} {chain : Chain} {hash : String}
  {block index : Int} {e : Event} {verdict : Except InvalidReason Payment} {reader : Reader} {d : Deployment}

namespace Work

/-- Where a pair is opened without a decision, it is linked if it was not, and nothing else is done. -/
theorem openPair_waits (hy : Yields (openPair b t) s p s') (hp : p.2 = none) : ∃ c u,
    s.ledger.Pair b t c u ∧ u.isPending = true ∧
      (c.transaction = some t ∧ s' = s ∨ c.transaction = none ∧ s' = s.write fun l => l.link b t) := by
  obtain ⟨⟨d, u⟩, s₁, hload, hy⟩ := yields_bind.1 hy
  obtain ⟨o, s₂, hsettle, hy⟩ := yields_bind.1 hy
  obtain ⟨rfl, rfl⟩ := yields_pure.1 hy
  obtain ⟨c, u', hc, hu, hd, hs⟩ := yields_loadPair.1 hload
  obtain ⟨-, rfl⟩ := Prod.mk.inj hd
  obtain ⟨hpend, rfl⟩ : u.state = .pending ∧ s' = s₁ := by
    rcases yields_settleStored.1 hsettle with ⟨hn, ho, -⟩ | ⟨-, -, ho, -⟩ | ⟨hpend, -, -, hs⟩
    · exact absurd ((Outcome.ofState?_eq_none_iff _).1 (ho.symm.trans hp)) hn
    · exact nomatch ho.symm.trans hp
    · exact ⟨hpend, hs⟩
  refine ⟨c, u, ⟨hc, hu, ?_⟩, by simp [Transaction.isPending, hpend], hs.imp id fun h => ⟨h.1, h.2.2⟩⟩
  exact hs.elim (fun h => .inr h.1) fun h => .inl h.1

/-- Where a log waits for a receipt, its blockchain transaction was stored before, and is noted. -/
theorem applyEvent_waits (hs : s.Named)
    (hy : Yields (applyEvent chain hash block index e verdict) s (.needsReceipt b t) s') : ∃ c u,
    s.ledger.byHash? chain hash = some c ∧ s.ledger.linked? c = some u ∧ u.isPending = true ∧ c.id = b ∧ u.id = t ∧
      s'.ledger = s.ledger.noted c block index e := by
  obtain ⟨c, s₁, s₂, ho, -, -, ht, hn, hcr⟩ := applyEvent_credited hs.toKeyed hy
  have ht : s₂.ledger.transactions = s.ledger.transactions := ht.trans ho.transactions
  cases hcr with
  | @expected u hu hp =>
    have hu : s.ledger.linked? c = some u := (Ledger.linked?_seen ht c block).symm.trans hu
    cases ho with
    | found hc hl =>
      refine ⟨c, u, hc, hu, hp, rfl, rfl, ?_⟩
      have hcb := Ledger.blockchainTransaction?_of_mem hs.blockchainTransactions (Ledger.byHash?_some hc).1
      rw [hl] at hn
      exact hn.eq (Ledger.notes_noted hcb block index e) hs.blockchainTransactions
        (ht.trans (s.ledger.transactions_noted c block index e).symm)
    | stored _ hc =>
      -- nobody waits for what is new
      rw [hc] at hu
      exact nomatch (hs.expecting?_next _).symm.trans hu

end Work

namespace Process

/-! ## Cut short -/

theorem halts_observeReceipt {receipt : Receipt} (h : (observeReceipt d receipt).Halts reader s x) : x = s := by
  rcases h with h | ⟨e, h⟩
  · exact passes_observeReceipt h
  · rw [alone_observeReceipt] at h
    cases h

theorem halts_closeAnswered {hash : Hash} {answer : Option Receipt}
    (h : (closeAnswered d b t hash answer).Halts reader s x) : x.ledger = s.ledger := by
  cases answer with
  | none => exact congrArg Session.ledger (halts_fail h)
  | some receipt =>
    rcases halts_bind h with h | ⟨os, s₁, ha, h⟩
    · rw [halts_observeReceipt h]
    · obtain ⟨-, rfl⟩ := Prod.mk.inj ((alone_observeReceipt reader d receipt s).symm.trans ha)
      unfold closeObserved at h
      split at h
      · rw [halts_fail h]
      · exact halts_commit h

theorem halts_closeOpened (h : (closeOpened d b t p).Halts reader s x) : p.2 = none ∧ x.ledger = s.ledger := by
  obtain ⟨c, o⟩ := p
  cases o with
  | some o =>
    rcases h with h | ⟨e, h⟩
    · exact h.elim
    · cases h
  | none =>
    refine ⟨rfl, ?_⟩
    unfold closeOpened at h
    simp only at h
    split at h
    · rw [halts_fail h]
    · rcases halts_bind h with h | ⟨answer, s₁, ha, h⟩
      · rcases h with h | ⟨e, h⟩
        · rw [h.elim id False.elim]
        · obtain ⟨-, rfl⟩ := Prod.mk.inj h
          rfl
      · obtain ⟨-, rfl⟩ := Prod.mk.inj ha
        exact halts_closeAnswered h

/-- A receipt that is cut short changed no row, or has opened its pair. -/
theorem halts_resolveReceipt (h : (resolveReceipt d b t).Halts reader s x) : x.ledger = s.ledger ∨
    ∃ p s₁, (Work.openPair b t).Yields s p s₁ ∧ p.2 = none ∧ x.ledger = s₁.ledger := by
  rw [resolveReceipt_eq] at h
  rcases halts_bind h with h | ⟨p, s₁, ha, h⟩
  · exact .inl (halts_commit h)
  · obtain ⟨hp, hx⟩ := halts_closeOpened h
    exact .inr ⟨p, s₁, alone_commit_ok ha, hp, hx⟩

/-- A log that is cut short changed no row, or it waits for a receipt that is cut short. -/
theorem halts_applyLog {log : Log} (h : (applyLog d log).Halts reader s x) : x.ledger = s.ledger ∨
    ∃ block index e b t s₁, d.applicable? log = some (block, index, e) ∧
      (Work.applyEvent d.chain log.hash.spelling block index e (Payment.screen d.settings s.ledger.content? e)).Yields s
        (.needsReceipt b t) s₁ ∧ (resolveReceipt d b t).Halts reader s₁ x := by
  rcases ha : d.applicable? log with _ | ⟨block, index, e⟩
  · rw [applyLog_of_none ha] at h
    rcases h with h | ⟨e, h⟩
    · exact h.elim
    · cases h
  · rw [applyLog_of_some ha] at h
    rcases halts_bind h with h | ⟨verdict, s₁, hv, h⟩
    · rcases h with h | ⟨err, h⟩
      · exact .inl (congrArg Session.ledger (passes_screen h))
      · rw [alone_screen] at h
        cases h
    · obtain ⟨hverdict, rfl⟩ := Prod.mk.inj ((alone_screen d e s).symm.trans hv)
      obtain rfl := Except.ok.inj hverdict
      rcases halts_bind h with h | ⟨step, s₁, hc, h⟩
      · exact .inl (halts_commit h)
      · cases step with
        | applied a =>
          rcases h with h | ⟨err, h⟩
          · exact h.elim
          · cases h
        | needsReceipt b t =>
          rcases halts_bind h with h | ⟨o, s₂, -, h⟩
          · exact .inr ⟨block, index, e, b, t, s₁, rfl, alone_commit_ok hc, h⟩
          · rcases h with h | ⟨err, h⟩
            · exact h.elim
            · cases h

end Process

end

end DonationLedger
