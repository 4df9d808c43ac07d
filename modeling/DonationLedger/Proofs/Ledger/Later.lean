import DonationLedger.Proofs.Ledger.Rows

/-!
# What stays once it is stored

Whatever work does to a ledger, committed or not, no row is ever lost, what a payment is about never
changes, a transaction that ended stays as it ended, a fact that was filled in stays, and ids keep
being keys (`Session.Later`). No step of work needs the others for this, so it holds of every ledger,
also of one that breaks all other laws.
-/

namespace DonationLedger

/-- `u` is a later version of `t`. Only four members may differ, and three of them only as long as
`t` is pending. -/
structure Transaction.Follows (t u : Transaction) : Prop where
  rest : { u with
    blockchainTransaction := t.blockchainTransaction, sender := t.sender, state := t.state,
    remark := t.remark } = t
  ended : t.isPending = false → u.state = t.state ∧ u.sender = t.sender ∧ u.remark = t.remark

/-- `c` is a later version of `b`. What is known of it is kept. -/
structure BlockchainTransaction.Follows (b c : BlockchainTransaction) : Prop where
  rest : { c with
    transaction := b.transaction, state := b.state, sender := b.sender, recipient := b.recipient,
    block := b.block } = b
  final : b.isFinal = true → c.state = b.state
  sender : ∀ a, b.sender = some a → c.sender = some a
  recipient : ∀ a, b.recipient = some a → c.recipient = some a
  block : ∀ n, b.block = some n → c.block = some n

namespace Transaction.Follows

variable {t u v : Transaction}

theorem refl (t : Transaction) : t.Follows t := ⟨rfl, fun _ => ⟨rfl, rfl, rfl⟩⟩

theorem trans (h : t.Follows u) (k : u.Follows v) : t.Follows v := by
  refine ⟨?_, fun he => ?_⟩
  · have := congrArg (fun x : Transaction => { x with
      blockchainTransaction := t.blockchainTransaction, sender := t.sender, state := t.state,
      remark := t.remark }) k.rest
    exact this.trans h.rest
  · obtain ⟨hs, hf, hr⟩ := h.ended he
    have hu : u.isPending = false := by rw [isPending, hs]; exact he
    obtain ⟨ks, kf, kr⟩ := k.ended hu
    exact ⟨ks.trans hs, kf.trans hf, kr.trans hr⟩

theorem id (h : t.Follows u) : u.id = t.id :=
  (congrArg Transaction.id h.rest :)

theorem recipient (h : t.Follows u) : u.recipient = t.recipient :=
  (congrArg Transaction.recipient h.rest :)

theorem apply (c : StateChange Id) (t : Transaction) : t.Follows (c.apply t) := by
  unfold StateChange.apply
  split
  · exact ⟨rfl, fun h => by simp_all⟩
  · exact refl t

end Transaction.Follows

namespace BlockchainTransaction.Follows

variable {b c d : BlockchainTransaction}

theorem refl (b : BlockchainTransaction) : b.Follows b :=
  ⟨rfl, fun _ => rfl, fun _ h => h, fun _ h => h, fun _ h => h⟩

theorem trans (h : b.Follows c) (k : c.Follows d) : b.Follows d := by
  refine ⟨?_, fun hb => ?_, fun a ha => k.sender a (h.sender a ha),
    fun a ha => k.recipient a (h.recipient a ha), fun n hn => k.block n (h.block n hn)⟩
  · have := congrArg (fun x : BlockchainTransaction => { x with
      transaction := b.transaction, state := b.state, sender := b.sender,
      recipient := b.recipient, block := b.block }) k.rest
    exact this.trans h.rest
  · have hc : c.isFinal = true := by rw [isFinal, h.final hb]; exact hb
    exact (k.final hc).trans (h.final hb)

theorem id (h : b.Follows c) : c.id = b.id :=
  (congrArg BlockchainTransaction.id h.rest :)

theorem chain (h : b.Follows c) : c.chain = b.chain :=
  (congrArg BlockchainTransaction.chain h.rest :)

theorem hash (h : b.Follows c) : c.hash = b.hash :=
  (congrArg BlockchainTransaction.hash h.rest :)

theorem moved (state : BlockchainState) (b : BlockchainTransaction) :
    b.Follows (Work.moved state b) := by
  unfold Work.moved
  split
  · exact refl b
  · exact ⟨rfl, fun h => by simp_all, fun _ h => h, fun _ h => h, fun _ h => h⟩

theorem filled (sender recipient : Option String) (block : Option Int) (b : BlockchainTransaction) :
    b.Follows (Work.filled sender recipient block b) :=
  ⟨rfl, fun _ => rfl, fun _ h => by simp [Work.filled, h], fun _ h => by simp [Work.filled, h],
    fun _ h => by simp [Work.filled, h]⟩

end BlockchainTransaction.Follows

/-- Every row of `l` has a later version in `l'`. -/
structure Ledger.Follows (l l' : Ledger) : Prop where
  transactions : ∀ i t, l.transaction? i = some t → ∃ u, l'.transaction? i = some u ∧ t.Follows u
  blockchainTransactions : ∀ i b, l.blockchainTransaction? i = some b →
    ∃ c, l'.blockchainTransaction? i = some c ∧ b.Follows c
  records : ∀ r ∈ l.records, r ∈ l'.records
  checkpoints : ∀ chain c, l.checkpoint? chain = some c →
    ∃ c', l'.checkpoint? chain = some c' ∧ c.block ≤ c'.block

namespace Ledger.Follows

variable {l l' l'' : Ledger}

theorem refl (l : Ledger) : l.Follows l :=
  ⟨fun _ t h => ⟨t, h, .refl t⟩, fun _ b h => ⟨b, h, .refl b⟩, fun _ h => h,
    fun _ c h => ⟨c, h, Int.le_refl c.block⟩⟩

theorem trans (h : l.Follows l') (k : l'.Follows l'') : l.Follows l'' := by
  refine ⟨?_, ?_, fun r hr => k.records r (h.records r hr), ?_⟩
  · intro i t ht
    obtain ⟨u, hu, htu⟩ := h.transactions i t ht
    obtain ⟨v, hv, huv⟩ := k.transactions i u hu
    exact ⟨v, hv, htu.trans huv⟩
  · intro i b hb
    obtain ⟨c, hc, hbc⟩ := h.blockchainTransactions i b hb
    obtain ⟨d, hd, hcd⟩ := k.blockchainTransactions i c hc
    exact ⟨d, hd, hbc.trans hcd⟩
  · intro c x hx
    obtain ⟨y, hy, hxy⟩ := h.checkpoints c x hx
    obtain ⟨z, hz, hyz⟩ := k.checkpoints c y hy
    exact ⟨z, hz, Int.le_trans hxy hyz⟩

/-- Rows that stay where they are follow themselves. -/
theorem of_eq (ht : l'.transactions = l.transactions)
    (hb : l'.blockchainTransactions = l.blockchainTransactions) (hr : ∀ r ∈ l.records, r ∈ l'.records)
    (hc : l'.checkpoints = l.checkpoints) : l.Follows l' := by
  refine ⟨fun i t h => ⟨t, ?_, .refl t⟩, fun i b h => ⟨b, ?_, .refl b⟩, hr,
    fun c x h => ⟨x, ?_, Int.le_refl x.block⟩⟩
  · rw [transaction?, ht]; exact h
  · rw [blockchainTransaction?, hb]; exact h
  · rw [checkpoint?, hc]; exact h

theorem mapTransaction (l : Ledger) (id : Id) {f : Transaction → Transaction}
    (hf : ∀ t : Transaction, t.Follows (f t)) : l.Follows (l.mapTransaction id f) := by
  refine ⟨fun i t ht => ?_, (refl l).blockchainTransactions, fun _ h => h, (refl l).checkpoints⟩
  rw [transaction?_mapTransaction l id i fun t => (hf t).id, ht]
  split
  · exact ⟨f t, rfl, hf t⟩
  · exact ⟨t, rfl, .refl t⟩

theorem mapBlockchainTransaction (l : Ledger) (id : Id)
    {f : BlockchainTransaction → BlockchainTransaction} (hf : ∀ b : BlockchainTransaction, b.Follows (f b)) :
    l.Follows (l.mapBlockchainTransaction id f) := by
  refine ⟨(refl l).transactions, fun i b hb => ?_, fun _ h => h, (refl l).checkpoints⟩
  rw [blockchainTransaction?_mapBlockchainTransaction l id i fun b => (hf b).id, hb]
  split
  · exact ⟨f b, rfl, hf b⟩
  · exact ⟨b, rfl, .refl b⟩

theorem link (l : Ledger) (b t : Id) : l.Follows (l.link b t) := by
  have hb := mapBlockchainTransaction (f := fun c => { c with transaction := some t }) l b
    fun _ => ⟨rfl, fun _ => rfl, fun _ h => h, fun _ h => h, fun _ h => h⟩
  exact hb.trans (mapTransaction (f := fun u => { u with blockchainTransaction := some b }) _ t
    fun _ => ⟨rfl, fun _ => ⟨rfl, rfl, rfl⟩⟩)

theorem addTransaction (l : Ledger) (t : Transaction) : l.Follows (l.addTransaction t) := by
  refine ⟨fun i u hu => ⟨u, ?_, .refl u⟩, (refl l).blockchainTransactions, fun _ h => h,
    (refl l).checkpoints⟩
  simp only [transaction?, Ledger.addTransaction, List.find?_append] at hu ⊢
  rw [hu, Option.some_or]

theorem addBlockchainTransaction (l : Ledger) (b : BlockchainTransaction) :
    l.Follows (l.addBlockchainTransaction b) := by
  refine ⟨(refl l).transactions, fun i c hc => ⟨c, ?_, .refl c⟩, fun _ h => h, (refl l).checkpoints⟩
  simp only [blockchainTransaction?, Ledger.addBlockchainTransaction, List.find?_append] at hc ⊢
  rw [hc, Option.some_or]

theorem addRecord (l : Ledger) (r : AuditRecord) : l.Follows (l.addRecord r) :=
  of_eq (by simp) (by simp) (fun _ h => mem_records_addRecord h) (by simp)

theorem setCheckpoint (l : Ledger) (chain : Chain) (block : Int) :
    l.Follows (l.setCheckpoint chain block) := by
  refine ⟨(refl l).transactions, (refl l).blockchainTransactions, fun _ h => h, fun c x hx => ?_⟩
  by_cases h : c = chain
  · subst h
    refine ⟨_, checkpoint?_setCheckpoint l c block, ?_⟩
    rw [hx]
    exact Int.le_max_left _ _
  · refine ⟨x, ?_, Int.le_refl x.block⟩
    rw [checkpoint?_setCheckpoint_of_ne l block h]
    exact hx

end Ledger.Follows

/-! ## Ids as keys -/

/-- No two rows of a kind share an id, and all ids that the rows go by are taken. -/
structure Session.Keyed (s : Session) : Prop where
  transactions : (s.ledger.transactions.map Transaction.id).Nodup
  blockchainTransactions : (s.ledger.blockchainTransactions.map BlockchainTransaction.id).Nodup
  taken : ∀ id ∈ s.ledger.transactions.map Transaction.id, s.supply.knows id = true
  taken' : ∀ id ∈ s.ledger.blockchainTransactions.map BlockchainTransaction.id,
    s.supply.knows id = true

/-- The next id is not the id of a row yet. -/
theorem Session.Keyed.transaction?_next {s : Session} (h : s.Keyed) (kind : RowKind) :
    s.ledger.transaction? (s.supply.next kind) = none := by
  refine List.find?_eq_none.2 fun t ht => ?_
  simp only [beq_iff_eq]
  intro e
  have := h.taken t.id (List.mem_map_of_mem ht)
  rw [e, s.supply.not_knows_next kind] at this
  exact absurd this (by simp)

theorem Session.Keyed.blockchainTransaction?_next {s : Session} (h : s.Keyed) (kind : RowKind) :
    s.ledger.blockchainTransaction? (s.supply.next kind) = none := by
  refine List.find?_eq_none.2 fun b hb => ?_
  simp only [beq_iff_eq]
  intro e
  have := h.taken' b.id (List.mem_map_of_mem hb)
  rw [e, s.supply.not_knows_next kind] at this
  exact absurd this (by simp)

/-- The user table is one-to-one between spelled addresses and users. -/
structure Session.Filed (s : Session) : Prop where
  addresses : (s.ledger.users.map Prod.fst).Nodup
  owners : (s.ledger.users.map Prod.snd).Nodup
  spelled : ∀ a ∈ s.ledger.users.map Prod.fst, ∃ v : Address, a = v.spelling
  taken : ∀ id ∈ s.ledger.users.map Prod.snd, s.supply.knows id = true

/-- What a blockchain transaction is known by outside. -/
def BlockchainTransaction.place (b : BlockchainTransaction) : Chain × String := (b.chain, b.hash)

theorem BlockchainTransaction.Follows.place {b c : BlockchainTransaction} (h : b.Follows c) :
    c.place = b.place := Prod.ext h.chain h.hash

/-- No two blockchain transactions are at one place. -/
def Session.Hashed (s : Session) : Prop :=
  (s.ledger.blockchainTransactions.map BlockchainTransaction.place).Nodup

theorem Session.Hashed.byHash? {s : Session} (h : s.Hashed) {b : BlockchainTransaction}
    (hb : b ∈ s.ledger.blockchainTransactions) : s.ledger.byHash? b.chain b.hash = some b := by
  rw [← find?_key_of_mem BlockchainTransaction.place h hb]
  refine congrArg (fun p => List.find? p s.ledger.blockchainTransactions) (funext fun c => ?_)
  rw [Bool.eq_iff_iff]
  simp [BlockchainTransaction.place]

theorem Session.Hashed.filter {s : Session} (h : s.Hashed) {b : BlockchainTransaction}
    (hb : b ∈ s.ledger.blockchainTransactions) :
    s.ledger.blockchainTransactions.filter (fun c => c.chain == b.chain && c.hash == b.hash) = [b] := by
  rw [← filter_key_of_mem BlockchainTransaction.place h hb]
  refine congrArg (fun p => List.filter p s.ledger.blockchainTransactions) (funext fun c => ?_)
  rw [Bool.eq_iff_iff]
  simp [BlockchainTransaction.place]

/-- `s'` is a later session than `s`: nothing that was stored is lost. -/
structure Session.Later (s s' : Session) : Prop where
  follows : s.ledger.Follows s'.ledger
  supply : ∀ kind, s.supply.count kind ≤ s'.supply.count kind
  keyed : s.Keyed → s'.Keyed
  hashed : s.Hashed → s'.Hashed
  filed : s.Filed → s'.Filed

theorem IdSupply.knows_of_le {p q : IdSupply} (h : ∀ kind, p.count kind ≤ q.count kind) {id : Id}
    (hi : p.knows id = true) : q.knows id = true := by
  cases id with
  | foreign text => rfl
  | issued kind n =>
    have := h kind
    simp only [knows, decide_eq_true_eq] at hi ⊢
    omega

namespace Session

variable {s s' s'' : Session}

/-- Where ids, places and users stay as they are, they stay keys. -/
theorem later_of_ids (h : s.ledger.Follows s'.ledger)
    (hs : ∀ kind, s.supply.count kind ≤ s'.supply.count kind)
    (ht : s'.ledger.transactions.map Transaction.id = s.ledger.transactions.map Transaction.id)
    (hb : s'.ledger.blockchainTransactions.map BlockchainTransaction.id =
      s.ledger.blockchainTransactions.map BlockchainTransaction.id)
    (hp : s'.ledger.blockchainTransactions.map BlockchainTransaction.place =
      s.ledger.blockchainTransactions.map BlockchainTransaction.place)
    (hu : s'.ledger.users = s.ledger.users) : s.Later s' where
  follows := h
  supply := hs
  keyed k := ⟨by rw [ht]; exact k.transactions, by rw [hb]; exact k.blockchainTransactions,
    by rw [ht]; exact fun id hi => IdSupply.knows_of_le hs (k.taken id hi),
    by rw [hb]; exact fun id hi => IdSupply.knows_of_le hs (k.taken' id hi)⟩
  hashed k := by rw [Hashed, hp]; exact k
  filed k := ⟨by rw [hu]; exact k.addresses, by rw [hu]; exact k.owners,
    by rw [hu]; exact k.spelled,
    by rw [hu]; exact fun id hi => IdSupply.knows_of_le hs (k.taken id hi)⟩

namespace Later

theorem refl (s : Session) : s.Later s :=
  later_of_ids (.refl s.ledger) (fun _ => Nat.le_refl _) rfl rfl rfl rfl

theorem trans (h : s.Later s') (k : s'.Later s'') : s.Later s'' where
  follows := h.follows.trans k.follows
  supply kind := Nat.le_trans (h.supply kind) (k.supply kind)
  keyed hk := k.keyed (h.keyed hk)
  hashed hp := k.hashed (h.hashed hp)
  filed hf := k.filed (h.filed hf)

/-- Only the faults, or nothing, changed. -/
theorem of_ledger_eq (h : s'.ledger = s.ledger)
    (hs : ∀ kind, s.supply.count kind ≤ s'.supply.count kind) : s.Later s' :=
  later_of_ids (h ▸ .refl s.ledger) hs (by rw [h]) (by rw [h]) (by rw [h]) (by rw [h])

end Later

end Session

end DonationLedger
