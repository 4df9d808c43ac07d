import DonationLedger.Proofs.Ledger.Rows

/-!
# Rewriting one row of each kind

Most ledger transactions touch one transaction and one blockchain transaction and leave all other
rows alone. `Ledger.Rewrites` says so, and follows the two rows through a series of writes.
-/

namespace DonationLedger

/-- The log that a record is of. -/
def AuditRecord.place (r : AuditRecord) : Id × Int := (r.blockchainTransaction, r.index)

namespace Ledger

/-- The same rows, with the records in any order. -/
structure Same (l l' : Ledger) : Prop where
  transactions : l.transactions = l'.transactions
  blockchainTransactions : l.blockchainTransactions = l'.blockchainTransactions
  records : ∀ r, r ∈ l.records ↔ r ∈ l'.records
  checkpoints : l.checkpoints = l'.checkpoints
  users : l.users = l'.users
  contents : l.contents = l'.contents

/-- A record is stored unless there is one for its log. -/
theorem records_addRecord_cases (l : Ledger) (r : AuditRecord) :
    ((∃ p ∈ l.records, p.place = r.place) ∧ (l.addRecord r).records = l.records) ∨
    ((∀ p ∈ l.records, p.place ≠ r.place) ∧ (l.addRecord r).records = l.records ++ [r]) := by
  unfold addRecord
  split
  · rename_i h
    obtain ⟨p, hp, he⟩ := List.any_eq_true.1 h
    simp only [Bool.and_eq_true, beq_iff_eq] at he
    exact .inl ⟨⟨p, hp, Prod.ext he.1 he.2⟩, rfl⟩
  · rename_i h
    refine .inr ⟨fun p hp he => h (List.any_eq_true.2 ⟨p, hp, ?_⟩), rfl⟩
    obtain ⟨hb, hx⟩ := Prod.mk.inj he
    simp [hb, hx]

theorem mem_records_addRecord_iff {l : Ledger} {r q : AuditRecord} : q ∈ (l.addRecord r).records ↔
    q ∈ l.records ∨ q = r ∧ ∀ p ∈ l.records, p.place ≠ r.place := by
  rcases l.records_addRecord_cases r with ⟨⟨p, hp, he⟩, hrec⟩ | ⟨hn, hrec⟩
  · rw [hrec]
    exact ⟨.inl, fun hq => hq.elim id fun ⟨_, hn⟩ => absurd he (hn p hp)⟩
  · rw [hrec, List.mem_append, List.mem_singleton]
    exact or_congr_right ⟨fun hq => ⟨hq, hn⟩, And.left⟩

/-- The ledger with all of these records, as far as there are none for their logs. -/
def addRecords (l : Ledger) (rs : List AuditRecord) : Ledger := rs.foldl addRecord l

theorem records_addRecord_congr {l m : Ledger} (h : l.records = m.records) (r : AuditRecord) :
    (l.addRecord r).records = (m.addRecord r).records := by
  simp only [addRecord, h]
  split
  · exact h
  · rfl

theorem addRecords_concat (l : Ledger) (rs : List AuditRecord) (r : AuditRecord) :
    l.addRecords (rs ++ [r]) = (l.addRecords rs).addRecord r := by
  simp only [addRecords, List.foldl_append, List.foldl_cons, List.foldl_nil]

theorem mem_records_addRecords {l : Ledger} (rs : List AuditRecord) {q : AuditRecord} (h : q ∈ l.records) :
    q ∈ (l.addRecords rs).records := by
  induction rs generalizing l with
  | nil => exact h
  | cons r rs ih => exact ih (mem_records_addRecord h)

theorem records_addRecords_congr {l m : Ledger} (h : l.records = m.records) (rs : List AuditRecord) :
    (l.addRecords rs).records = (m.addRecords rs).records := by
  induction rs generalizing l m with
  | nil => exact h
  | cons r rs ih => exact ih (records_addRecord_congr h r)

theorem addRecords_append (l : Ledger) (rs qs : List AuditRecord) :
    l.addRecords (rs ++ qs) = (l.addRecords rs).addRecords qs := List.foldl_append

/-- A record is stored if it was before, or if it is among the new ones and there was none for its log. -/
theorem mem_records_addRecords_iff {l : Ledger} {rs : List AuditRecord}
    (h : ∀ r ∈ rs, ∀ s ∈ rs, r.place = s.place → r = s) {q : AuditRecord} :
    q ∈ (l.addRecords rs).records ↔ q ∈ l.records ∨ q ∈ rs ∧ ∀ p ∈ l.records, p.place ≠ q.place := by
  induction rs generalizing l with
  | nil => simp [addRecords]
  | cons r rs ih =>
    have ih := ih (l := l.addRecord r) fun r hr s hs =>
      h r (List.mem_cons_of_mem _ hr) s (List.mem_cons_of_mem _ hs)
    rw [show l.addRecords (r :: rs) = (l.addRecord r).addRecords rs from rfl, ih]
    simp only [mem_records_addRecord_iff, List.mem_cons]
    constructor
    · rintro ((hq | ⟨rfl, hn⟩) | ⟨hq, hn⟩)
      · exact .inl hq
      · exact .inr ⟨.inl rfl, hn⟩
      · exact .inr ⟨.inr hq, fun p hp => hn p (.inl hp)⟩
    · rintro (hq | ⟨rfl | hq, hn⟩)
      · exact .inl (.inl hq)
      · exact .inl (.inr ⟨rfl, hn⟩)
      · by_cases hp : r.place = q.place
        · obtain rfl := h r List.mem_cons_self q (List.mem_cons_of_mem _ hq) hp
          exact .inl (.inr ⟨rfl, hn⟩)
        · exact .inr ⟨hq, fun p hp' => hp'.elim (hn p) fun ⟨he, _⟩ => he ▸ hp⟩

/-- `l'` is `l` with `c` in place of the row of its id and with more records. Of the transactions
nothing is said. -/
structure Notes (l : Ledger) (c : BlockchainTransaction) (rs : List AuditRecord) (l' : Ledger) : Prop where
  blockchainTransaction : ∀ i, l'.blockchainTransaction? i =
    if i = c.id then some c else l.blockchainTransaction? i
  ids' : l'.blockchainTransactions.map BlockchainTransaction.id =
    l.blockchainTransactions.map BlockchainTransaction.id
  records : l'.records = (l.addRecords rs).records
  checkpoints : l'.checkpoints = l.checkpoints
  users : l'.users = l.users
  contents : l'.contents = l.contents

/-- `l'` is `l` with `u` and `c` in place of the rows of their ids, and with more records. -/
structure Rewrites (l : Ledger) (u : Transaction) (c : BlockchainTransaction) (rs : List AuditRecord)
    (l' : Ledger) : Prop extends Notes l c rs l' where
  transaction : ∀ i, l'.transaction? i = if i = u.id then some u else l.transaction? i
  ids : l'.transactions.map Transaction.id = l.transactions.map Transaction.id

variable {l l' : Ledger} {u : Transaction} {c : BlockchainTransaction} {rs : List AuditRecord}
  {t b : Id}

namespace Notes

/-- Nothing is written yet. -/
theorem start (hc : l.blockchainTransaction? b = some c) : l.Notes c [] l := by
  refine ⟨fun i => ?_, rfl, rfl, rfl, rfl, rfl⟩
  split
  · rename_i h
    rw [h, (blockchainTransaction?_mem hc).2, hc]
  · rfl

theorem mapBlockchainTransaction (h : l.Notes c rs l')
    {f : BlockchainTransaction → BlockchainTransaction} (hf : ∀ b, (f b).id = b.id) :
    l.Notes (f c) rs (l'.mapBlockchainTransaction c.id f) where
  blockchainTransaction i := by
    rw [blockchainTransaction?_mapBlockchainTransaction l' c.id i hf, hf, h.blockchainTransaction]
    by_cases hi : i = c.id <;> simp [hi]
  ids' := (map_ite_of_same BlockchainTransaction.id hf _ l'.blockchainTransactions).trans h.ids'
  records := h.records
  checkpoints := h.checkpoints
  users := h.users
  contents := h.contents

theorem addRecord (h : l.Notes c rs l') (r : AuditRecord) : l.Notes c (rs ++ [r]) (l'.addRecord r) where
  blockchainTransaction i := by rw [blockchainTransaction?_addRecord, h.blockchainTransaction]
  ids' := by rw [blockchainTransactions_addRecord, h.ids']
  records := by rw [addRecords_concat]; exact records_addRecord_congr h.records r
  checkpoints := by rw [checkpoints_addRecord, h.checkpoints]
  users := by rw [users_addRecord, h.users]
  contents := by rw [contents_addRecord, h.contents]

/-- A note on the same blockchain transaction goes on. -/
theorem trans {l'' : Ledger} {d : BlockchainTransaction} {qs : List AuditRecord} (h : l.Notes c rs l')
    (k : l'.Notes d qs l'') (hc : d.id = c.id) : l.Notes d (rs ++ qs) l'' where
  blockchainTransaction i := by
    rw [k.blockchainTransaction, h.blockchainTransaction, hc]
    split <;> rfl
  ids' := k.ids'.trans h.ids'
  records := by rw [k.records, addRecords_append, records_addRecords_congr h.records]
  checkpoints := k.checkpoints.trans h.checkpoints
  users := k.users.trans h.users
  contents := k.contents.trans h.contents

/-- A blockchain transaction is the one that was noted, or was there before. -/
theorem mem_or_eq (h : l.Notes c rs l') (hk : (l'.blockchainTransactions.map BlockchainTransaction.id).Nodup)
    {d : BlockchainTransaction} (hd : d ∈ l'.blockchainTransactions) : d ∈ l.blockchainTransactions ∨ d = c := by
  have hd := blockchainTransaction?_of_mem hk hd
  rw [h.blockchainTransaction] at hd
  split at hd
  · exact .inr (Option.some.inj hd).symm
  · exact .inl (blockchainTransaction?_mem hd).1

end Notes

namespace Rewrites

theorem start (hu : l.transaction? t = some u) (hc : l.blockchainTransaction? b = some c) :
    l.Rewrites u c [] l where
  toNotes := .start hc
  transaction i := by
    split
    · rename_i h
      rw [h, (transaction?_mem hu).2, hu]
    · rfl
  ids := rfl

theorem transaction_self (h : l.Rewrites u c rs l') : l'.transaction? u.id = some u := by
  rw [h.transaction, if_pos rfl]

theorem blockchainTransaction_self (h : l.Rewrites u c rs l') :
    l'.blockchainTransaction? c.id = some c := by
  rw [h.blockchainTransaction, if_pos rfl]

theorem mapTransaction (h : l.Rewrites u c rs l') {f : Transaction → Transaction}
    (hf : ∀ t, (f t).id = t.id) : l.Rewrites (f u) c rs (l'.mapTransaction u.id f) where
  toNotes := ⟨h.blockchainTransaction, h.ids', h.records, h.checkpoints, h.users, h.contents⟩
  transaction i := by
    rw [transaction?_mapTransaction l' u.id i hf, hf, h.transaction]
    by_cases hi : i = u.id <;> simp [hi]
  ids := (map_ite_of_same Transaction.id hf _ l'.transactions).trans h.ids

theorem mapBlockchainTransaction (h : l.Rewrites u c rs l')
    {f : BlockchainTransaction → BlockchainTransaction} (hf : ∀ b, (f b).id = b.id) :
    l.Rewrites u (f c) rs (l'.mapBlockchainTransaction c.id f) where
  toNotes := h.toNotes.mapBlockchainTransaction hf
  transaction := h.transaction
  ids := h.ids

theorem link (h : l.Rewrites u c rs l') :
    l.Rewrites { u with blockchainTransaction := some c.id } { c with transaction := some u.id }
      rs (l'.link c.id u.id) :=
  (h.mapBlockchainTransaction (f := fun d => { d with transaction := some u.id }) fun _ => rfl).mapTransaction
    (f := fun v => { v with blockchainTransaction := some c.id }) fun _ => rfl

theorem addRecord (h : l.Rewrites u c rs l') (r : AuditRecord) :
    l.Rewrites u c (rs ++ [r]) (l'.addRecord r) where
  toNotes := h.toNotes.addRecord r
  transaction i := by rw [transaction?_addRecord, h.transaction]
  ids := by rw [transactions_addRecord, h.ids]

theorem addRecords (h : l.Rewrites u c rs l') (qs : List AuditRecord) :
    l.Rewrites u c (rs ++ qs) (l'.addRecords qs) := by
  induction qs generalizing rs l' with
  | nil => simpa [Ledger.addRecords] using h
  | cons q qs ih => simpa [Ledger.addRecords] using ih (h.addRecord q)

/-- A rewriting of the same two rows goes on. -/
theorem trans {l'' : Ledger} {v : Transaction} {d : BlockchainTransaction} {qs : List AuditRecord}
    (h : l.Rewrites u c rs l') (k : l'.Rewrites v d qs l'') (hu : v.id = u.id) (hc : d.id = c.id) :
    l.Rewrites v d (rs ++ qs) l'' where
  toNotes := h.toNotes.trans k.toNotes hc
  transaction i := by
    rw [k.transaction, h.transaction, hu]
    split <;> rfl
  ids := k.ids.trans h.ids

/-- A transaction is the one that was rewritten, or was there before. -/
theorem mem_or_eq (h : l.Rewrites u c rs l') (hk : (l'.transactions.map Transaction.id).Nodup) {v : Transaction}
    (hv : v ∈ l'.transactions) : v ∈ l.transactions ∨ v = u := by
  have hv := transaction?_of_mem hk hv
  rw [h.transaction] at hv
  split at hv
  · exact .inr (Option.some.inj hv).symm
  · exact .inl (transaction?_mem hv).1

/-- Where the same rows were written in, with the same records, whatever the order, the ledgers are the same. -/
theorem same {l₁ l₂ : Ledger} {qs : List AuditRecord} (h₁ : l.Rewrites u c rs l₁) (h₂ : l.Rewrites u c qs l₂)
    (ht : (l.transactions.map Transaction.id).Nodup)
    (hb : (l.blockchainTransactions.map BlockchainTransaction.id).Nodup) (hm : ∀ r, r ∈ rs ↔ r ∈ qs)
    (hp : ∀ r ∈ rs, ∀ s ∈ rs, r.place = s.place → r = s) : l₁.Same l₂ where
  transactions := by
    refine eq_of_find?_key Transaction.id (h₂.ids ▸ ht) (h₁.ids.trans h₂.ids.symm) fun i => ?_
    exact (h₁.transaction i).trans (h₂.transaction i).symm
  blockchainTransactions := by
    refine eq_of_find?_key BlockchainTransaction.id (h₂.ids' ▸ hb) (h₁.ids'.trans h₂.ids'.symm) fun i => ?_
    exact (h₁.blockchainTransaction i).trans (h₂.blockchainTransaction i).symm
  records r := by
    rw [h₁.records, h₂.records, mem_records_addRecords_iff hp, mem_records_addRecords_iff, hm]
    exact fun r hr s hs => hp r ((hm r).2 hr) s ((hm s).2 hs)
  checkpoints := h₁.checkpoints.trans h₂.checkpoints.symm
  users := h₁.users.trans h₂.users.symm
  contents := h₁.contents.trans h₂.contents.symm

end Rewrites

/-- A note on a blockchain transaction rewrites no transaction. -/
theorem Notes.rewrites (h : l.Notes c rs l') (ht : l'.transactions = l.transactions)
    (hu : l.transaction? t = some u) : l.Rewrites u c rs l' where
  toNotes := h
  transaction i := by
    have hi : l'.transaction? i = l.transaction? i := by rw [transaction?, ht, transaction?]
    obtain ⟨-, rfl⟩ := transaction?_mem hu
    rw [hi]
    split
    · rename_i he
      rw [he, hu]
    · rfl
  ids := by rw [ht]

end Ledger

end DonationLedger
