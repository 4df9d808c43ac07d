import DonationLedger.Proofs.Invariant
import DonationLedger.Proofs.Ledger.Renaming
import DonationLedger.Proofs.Resolution.Seen

/-!
# Ids that rows name

Every id that a row goes by, or names another row by, was given out or comes from elsewhere. So other names for ids
that were not given out yet change no row.
-/

namespace DonationLedger

/-- The blockchain transactions of all records go by ids that are taken. -/
def Session.Recorded (s : Session) : Prop :=
  ∀ r ∈ s.ledger.records, s.supply.knows r.blockchainTransaction = true

theorem Ledger.of_mem_records_addRecords {l : Ledger} {rs : List AuditRecord} {q : AuditRecord}
    (h : q ∈ (l.addRecords rs).records) : q ∈ l.records ∨ q ∈ rs := by
  induction rs generalizing l with
  | nil => exact .inl h
  | cons r rs ih =>
    rcases ih h with hq | hq
    · rcases mem_records_addRecord_iff.1 hq with hq | ⟨rfl, -⟩
      · exact .inl hq
      · exact .inr List.mem_cons_self
    · exact .inr (List.mem_cons_of_mem _ hq)

theorem Obtained.records {s s' : Session} {chain : Chain} {hash : String} {block : Int} {c : BlockchainTransaction}
    (h : Obtained s chain hash block c s') : s'.ledger.records = s.ledger.records := by
  cases h with
  | found _ hl _ => rw [hl]
  | stored _ _ hl _ => rw [hl]; rfl

theorem Obtained.mem_or_unlinked {s s' : Session} {chain : Chain} {hash : String} {block : Int}
    {c d : BlockchainTransaction} (h : Obtained s chain hash block c s') (hd : d ∈ s'.ledger.blockchainTransactions) :
    d ∈ s.ledger.blockchainTransactions ∨ d.transaction = none := by
  cases h with
  | found _ hl _ => exact .inl (hl ▸ hd)
  | stored _ hc hl _ =>
    rw [hl] at hd
    refine (List.mem_append.1 hd).imp_right fun hd => ?_
    rw [List.mem_singleton.1 hd, hc]

/-- All new records are of one blockchain transaction. -/
theorem Closed.of_mem_records {l : Ledger} {t : Id} {r : Receipt} {block : Int} {os : List Observed}
    {c d : BlockchainTransaction} {u v : Transaction} {o : Outcome} {rs : List AuditRecord}
    (h : Closed l t r block os c u o v d rs) {q : AuditRecord} (hq : q ∈ rs) : q.blockchainTransaction = c.id := by
  cases h with
  | stored => cases hq
  | reverted => cases hq
  | paid | unpaid =>
    obtain ⟨o, -, rfl⟩ := List.mem_map.1 hq
    rfl

theorem Work.records_createTransaction {s s' : Session} {d : TransactionDraft Id} {t : Transaction}
    (hy : Yields (createTransaction d) s t s') : s'.ledger.records = s.ledger.records := by
  rw [(yields_createTransaction.1 hy).2.2]
  rfl

theorem Work.records_seedPayment {s s' : Session} {chain : Chain} {hash : Hash} {d : TransactionDraft Id}
    {p : Transaction × BlockchainTransaction} (hy : Yields (seedPayment chain hash d) s p s') :
    s'.ledger.records = s.ledger.records := by
  obtain ⟨t, c, -, -, hl⟩ := ledger_seedPayment hy
  rw [hl]
  rfl

namespace Session.Recorded

variable {s s' : Session}

/-- A record that is new is of a blockchain transaction whose id is taken. -/
theorem later (h : s.Recorded) (hs : ∀ kind, s.supply.count kind ≤ s'.supply.count kind)
    (hr : ∀ q ∈ s'.ledger.records, q ∈ s.ledger.records ∨ s'.supply.knows q.blockchainTransaction = true) :
    s'.Recorded := fun q hq => (hr q hq).elim (fun hq => IdSupply.knows_of_le hs (h q hq)) id

theorem of_records (h : s.Recorded) (hs : ∀ kind, s.supply.count kind ≤ s'.supply.count kind)
    (hr : s'.ledger.records = s.ledger.records) : s'.Recorded := h.later hs fun _ hq => .inl (hr ▸ hq)

theorem openPair {b t : Id} {p : BlockchainTransaction × Option Outcome} (h : s.Recorded)
    (hy : (Work.openPair b t).Yields s p s') : s'.Recorded := by
  obtain ⟨c, u, v, -, -, -, hl⟩ := Work.openPair_rewrites hy
  exact h.of_records ((Work.lasting_openPair b t).later hy).supply hl.records

theorem closePair {b t : Id} {r : Receipt} {block : Int} {os : List Observed} {o : Outcome} (h : s.Recorded)
    (hk : s.Keyed) (hy : (Work.closePair b t r block os).Yields s o s') : s'.Recorded := by
  obtain ⟨c, u, v, d, rs, hp, hc, hl⟩ := Work.closePair_rewrites hy
  have hs := ((Work.lasting_closePair _ _ _ _ _).later hy).supply
  refine h.later hs fun q hq => ?_
  rw [hl.records] at hq
  refine (Ledger.of_mem_records_addRecords hq).imp_right fun hq => ?_
  obtain ⟨hm, -⟩ := Ledger.blockchainTransaction?_mem hp.blockchainTransaction
  rw [hc.of_mem_records hq]
  exact IdSupply.knows_of_le hs (hk.taken' _ (List.mem_map_of_mem hm))

theorem applyEvent {chain : Chain} {hash : String} {block index : Int} {e : Event}
    {verdict : Except InvalidReason Payment} {r : LogStep} (h : s.Recorded) (hk : s.Keyed)
    (hy : (Work.applyEvent chain hash block index e verdict).Yields s r s') : s'.Recorded := by
  obtain ⟨c, s₁, s₂, ho, -, -, -, hn, hcr⟩ := Work.applyEvent_credited hk hy
  have hl := (Work.lasting_applyEvent _ _ _ _ _ _).later hy
  refine h.later hl.supply fun q hq => ?_
  rw [hcr.records, hn.records] at hq
  refine (Ledger.of_mem_records_addRecords hq).imp (ho.records ▸ ·) fun hq => ?_
  rw [List.mem_singleton.1 hq]
  -- the row is still there in the end
  obtain ⟨c', hc'⟩ : ∃ c', s'.ledger.blockchainTransaction? c.id = some c' := by
    obtain ⟨t, ht⟩ := hcr.blockchainTransaction? (by rw [hn.blockchainTransaction, if_pos rfl])
    exact ⟨_, ht⟩
  obtain ⟨hm, hi⟩ := Ledger.blockchainTransaction?_mem hc'
  exact (hl.keyed hk).taken' _ (List.mem_map.2 ⟨c', hm, hi⟩)

theorem invariant : Invariant Session.Recorded where
  idle hl hs h := h.of_records hs (by rw [hl])
  addUser s a h := h.of_records (s.later_addUser a).supply rfl
  addContent s ref h := h.of_records (s.later_addContent ref).supply rfl
  seedPayment _ _ hy h := h.of_records ((Work.lasting_seedPayment _ _ _).later hy).supply (Work.records_seedPayment hy)
  createTransaction _ _ hy h :=
    h.of_records ((Work.lasting_createTransaction _).later hy).supply (Work.records_createTransaction hy)
  openPair _ _ hy h := h.openPair hy
  closePair hp _ hy h := h.closePair hp.keyed hy
  applyEvent hp _ hy h := h.applyEvent hp.keyed hy
  raiseCheckpoint hy h := h.of_records ((Work.lasting_raiseCheckpoint _ _).later hy).supply (by
    rw [(Work.yields_raiseCheckpoint.1 hy).2]
    rfl)

end Session.Recorded

theorem System.Reachable.recorded {r : Registry} {w : System} (hw : w.Reachable r) : w.session.Recorded :=
  hw.invariant Session.Recorded.invariant nofun

/-! ## All ids -/

/-- Every id that a row goes by, or names another row by, is taken. -/
structure Session.Named (s : Session) : Prop extends s.Keyed where
  linked : ∀ c ∈ s.ledger.blockchainTransactions, ∀ t, c.transaction = some t → s.supply.knows t = true
  expected : ∀ u ∈ s.ledger.transactions, ∀ b, u.blockchainTransaction = some b → s.supply.knows b = true
  recorded : s.Recorded

/-- In a sound ledger, ids name rows that are stored. -/
theorem Session.Proper.named {s : Session} (hs : s.Proper) (hr : s.Recorded) : s.Named where
  toKeyed := hs.keyed
  linked c hc t ht := by
    have hc := Ledger.blockchainTransaction?_of_mem hs.keyed.blockchainTransactions hc
    obtain ⟨u, hu, -⟩ := hs.sound.linked c.id c t hc ht
    obtain ⟨hm, rfl⟩ := Ledger.transaction?_mem hu
    exact hs.keyed.taken _ (List.mem_map_of_mem hm)
  expected u hu b hb := by
    have hu := Ledger.transaction?_of_mem hs.keyed.transactions hu
    obtain ⟨c, hc⟩ := Option.isSome_iff_exists.1 (hs.sound.expected u.id u b hu hb)
    obtain ⟨hm, rfl⟩ := Ledger.blockchainTransaction?_mem hc
    exact hs.keyed.taken' _ (List.mem_map_of_mem hm)
  recorded := hr

theorem System.Reachable.named {r : Registry} {w : System} (hw : w.Reachable r) : w.session.Named :=
  Session.Proper.named ⟨hw.kept.2.keyed, hw.kept.2.sound⟩ hw.recorded

namespace Session.Named

variable {s s' : Session}

/-- Rows that are new name others by ids that are taken. -/
theorem of_rows (h : s.Named) (hk : s'.Keyed) (hs : ∀ kind, s.supply.count kind ≤ s'.supply.count kind)
    (hb : ∀ c ∈ s'.ledger.blockchainTransactions, c ∈ s.ledger.blockchainTransactions ∨
      ∀ t, c.transaction = some t → s'.supply.knows t = true)
    (ht : ∀ u ∈ s'.ledger.transactions, u ∈ s.ledger.transactions ∨
      ∀ b, u.blockchainTransaction = some b → s'.supply.knows b = true)
    (hr : ∀ q ∈ s'.ledger.records, q ∈ s.ledger.records ∨ s'.supply.knows q.blockchainTransaction = true) :
    s'.Named where
  toKeyed := hk
  linked c hc t htr := (hb c hc).elim (fun hc => IdSupply.knows_of_le hs (h.linked c hc t htr)) fun k => k t htr
  expected u hu b hbt := (ht u hu).elim (fun hu => IdSupply.knows_of_le hs (h.expected u hu b hbt)) fun k => k b hbt
  recorded := h.recorded.later hs hr

theorem of_ledger_eq (h : s.Named) (hl : s'.ledger = s.ledger)
    (hs : ∀ kind, s.supply.count kind ≤ s'.supply.count kind) : s'.Named :=
  h.of_rows ((Later.of_ledger_eq hl hs).keyed h.toKeyed) hs (fun _ hc => .inl (hl ▸ hc)) (fun _ hu => .inl (hl ▸ hu))
    fun _ hq => .inl (hl ▸ hq)

/-- No transaction expects a blockchain transaction whose id is not given out yet. -/
theorem expecting?_next (h : s.Named) (kind : RowKind) : s.ledger.expecting? (s.supply.next kind) = none := by
  refine Option.eq_none_iff_forall_ne_some.2 fun u he => ?_
  obtain ⟨hm, -, hb⟩ := Ledger.expecting?_some he
  have hknown := h.expected u hm _ hb
  rw [s.supply.not_knows_next] at hknown
  cases hknown

/-- What the ledger transaction of a log links, it links to rows that are stored. -/
theorem applyEvent {chain : Chain} {hash : String} {block index : Int} {e : Event}
    {verdict : Except InvalidReason Payment} {r : LogStep} (h : s.Named)
    (hy : (Work.applyEvent chain hash block index e verdict).Yields s r s') : s'.Named := by
  have hl := (Work.lasting_applyEvent _ _ _ _ _ _).later hy
  have hk' := hl.keyed h.toKeyed
  obtain ⟨c, s₁, t, ho, ht, hn, hu⟩ := Work.applyEvent_notes h.toKeyed hy
  refine h.of_rows hk' hl.supply (fun d hd => ?_) (fun u hm => ?_) fun q hq =>
    .inr (h.recorded.applyEvent h.toKeyed hy q hq)
  · rcases hn.mem_or_eq hk'.blockchainTransactions hd with hd | rfl
    · exact (ho.mem_or_unlinked hd).imp_right fun hno i hi => nomatch hno.symm.trans hi
    · refine .inr fun i (hi : t = some i) => ?_
      rcases ht with ht | ⟨u, hm, ht⟩
      · rcases ho.mem_or_unlinked (Ledger.blockchainTransaction?_mem (ho.blockchainTransaction? h.toKeyed)).1
          with hm | hno
        · exact IdSupply.knows_of_le hl.supply (h.linked c hm i (ht.symm.trans hi))
        · exact nomatch hno.symm.trans (ht.symm.trans hi)
      · obtain rfl := Option.some.inj (ht.symm.trans hi)
        exact hk'.taken _ (List.mem_map_of_mem hm)
  · refine (hu u hm).imp (ho.transactions ▸ ·) fun hb i hi => ?_
    obtain rfl := Option.some.inj (hb.symm.trans hi)
    have hc : s'.ledger.blockchainTransaction? c.id = some { c.seen block with transaction := t } := by
      rw [hn.blockchainTransaction]
      exact if_pos rfl
    have hm := List.mem_map_of_mem (f := BlockchainTransaction.id) (Ledger.blockchainTransaction?_mem hc).1
    exact hk'.taken' _ hm

/-- Other names for ids that were not given out yet change no row. -/
theorem rename (h : s.Named) {f : Id → Id} (hf : ∀ i, s.supply.knows i = true → f i = i) :
    s.ledger.rename f = s.ledger := by
  have hkept (o : Option Id) (ho : ∀ i, o = some i → s.supply.knows i = true) : o.map f = o := by
    cases o with
    | none => rfl
    | some i => exact congrArg some (hf i (ho i rfl))
  refine Ledger.rename_eq_self (fun t ht => ?_) (fun b hb => ?_) fun r hm => ?_
  · rw [Transaction.rename, hf t.id (h.taken _ (List.mem_map_of_mem ht)), hkept _ (h.expected t ht)]
  · rw [BlockchainTransaction.rename, hf b.id (h.taken' _ (List.mem_map_of_mem hb)), hkept _ (h.linked b hb)]
  · rw [AuditRecord.rename, hf _ (h.recorded r hm)]

end Session.Named

/-- Other names for ids that were not given out yet change no row of a sound ledger. -/
theorem Session.rename_of_knows {s : Session} (hs : s.Proper) (hr : s.Recorded) {f : Id → Id}
    (hf : ∀ i, s.supply.knows i = true → f i = i) : s.ledger.rename f = s.ledger := (hs.named hr).rename hf

end DonationLedger
