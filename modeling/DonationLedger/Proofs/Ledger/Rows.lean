import DonationLedger.Ledger.Work

/-!
# Looking rows up after a change

A row is known by its id. Every change of the ledger is described by what the look-ups by id answer
afterwards (`transaction?_mapTransaction`, `blockchainTransaction?_addBlockchainTransaction`, ...);
look-ups by other keys are traced back to them as long as no id occurs twice.
-/

namespace DonationLedger

section
variable {α κ : Type} [DecidableEq κ] (key : α → κ)

theorem find?_map_ite {f : α → α} (hf : ∀ a, key (f a) = key a) (i j : κ) (as : List α) :
    (as.map fun a => if key a = i then f a else a).find? (fun a => key a == j) =
      if j = i then (as.find? fun a => key a == j).map f else as.find? fun a => key a == j := by
  induction as with
  | nil => simp
  | cons a as ih =>
    by_cases hi : key a = i <;> by_cases hj : key a = j
    · subst hi; subst hj; simp [hf]
    · have hb : (key a == j) = false := by simpa using hj
      simp [hi, hf, List.find?_cons, ih]
      simp [← hi, hb]
    · subst hj; simp [hi]
    · have hb : (key a == j) = false := by simpa using hj
      simp [hi, hb, ih]

theorem map_ite_of_same {β : Type} (g : α → β) {f : α → α} (hf : ∀ a, g (f a) = g a) (p : α → Prop)
    [DecidablePred p] (as : List α) : (as.map fun a => if p a then f a else a).map g = as.map g := by
  rw [List.map_map]
  exact List.map_congr_left fun a _ => by simp only [Function.comp]; split <;> simp [hf]

theorem find?_key_of_mem {as : List α} (h : (as.map key).Nodup) {a : α} (ha : a ∈ as) :
    as.find? (fun x => key x == key a) = some a := by
  induction as with
  | nil => simp at ha
  | cons x xs ih =>
    simp only [List.map_cons, List.nodup_cons, List.mem_map] at h
    rcases List.mem_cons.1 ha with rfl | ha
    · simp
    · have : (key x == key a) = false := by
        simp only [beq_eq_false_iff_ne, ne_eq]
        exact fun e => h.1 ⟨a, ha, e.symm⟩
      simp [this, ih h.2 ha]

theorem filter_key_of_mem {as : List α} (h : (as.map key).Nodup) {a : α} (ha : a ∈ as) :
    as.filter (fun x => key x == key a) = [a] := by
  induction as with
  | nil => simp at ha
  | cons x xs ih =>
    simp only [List.map_cons, List.nodup_cons, List.mem_map] at h
    rcases List.mem_cons.1 ha with rfl | ha
    · rw [List.filter_cons_of_pos (by simp), List.filter_eq_nil_iff.2]
      intro y hy he
      exact h.1 ⟨y, hy, by simpa using he⟩
    · rw [List.filter_cons_of_neg, ih h.2 ha]
      simp only [beq_iff_eq]
      exact fun e => h.1 ⟨a, ha, e.symm⟩

/-- Lists with the same keys in the same order are the same if every key finds the same in both. -/
theorem eq_of_find?_key {as bs : List α} (h : (as.map key).Nodup) (hk : bs.map key = as.map key)
    (hf : ∀ i, bs.find? (fun x => key x == i) = as.find? fun x => key x == i) : bs = as := by
  have hl : bs.length = as.length := by simpa using congrArg List.length hk
  refine List.ext_getElem hl fun i hb ha => ?_
  have hi : key bs[i] = key as[i] := by
    have := List.getElem_of_eq hk (i := i) (by simpa using hb)
    simpa using this
  have hfa := find?_key_of_mem key h (List.getElem_mem ha)
  have hfb := find?_key_of_mem key (hk ▸ h) (List.getElem_mem hb)
  rw [hi, hf, hfa] at hfb
  exact (Option.some.inj hfb).symm

end

namespace Ledger

variable {l : Ledger}

/-! ## Transactions -/

theorem transaction?_mapTransaction (l : Ledger) (id i : Id) {f : Transaction → Transaction}
    (hf : ∀ t, (f t).id = t.id) : (l.mapTransaction id f).transaction? i =
      if i = id then (l.transaction? i).map f else l.transaction? i :=
  find?_map_ite Transaction.id hf id i l.transactions

theorem transaction?_addTransaction (l : Ledger) (t : Transaction) (i : Id)
    (h : l.transaction? t.id = none) : (l.addTransaction t).transaction? i =
      if i = t.id then some t else l.transaction? i := by
  unfold transaction? addTransaction at *
  rw [List.find?_append]
  by_cases hi : i = t.id
  · subst hi; simp [h]
  · have : (t.id == i) = false := by simpa using fun e => hi e.symm
    simp [this, hi]

@[simp] theorem transaction?_addBlockchainTransaction (l : Ledger) (b : BlockchainTransaction)
    (i : Id) : (l.addBlockchainTransaction b).transaction? i = l.transaction? i := rfl

theorem transaction?_mem {i : Id} {t : Transaction} (h : l.transaction? i = some t) :
    t ∈ l.transactions ∧ t.id = i :=
  ⟨List.mem_of_find?_eq_some h, by simpa using List.find?_some h⟩

theorem transaction?_of_mem (hl : (l.transactions.map Transaction.id).Nodup) {t : Transaction}
    (h : t ∈ l.transactions) : l.transaction? t.id = some t :=
  find?_key_of_mem Transaction.id hl h

theorem expecting?_some {b : Id} {t : Transaction} (h : l.expecting? b = some t) :
    t ∈ l.transactions ∧ t.provider = .blockchain ∧ t.blockchainTransaction = some b := by
  refine ⟨List.mem_of_find?_eq_some h, ?_⟩
  have := List.find?_some h
  simpa using this

theorem pendingMatch?_some {c : PaymentCriteria Id} {t : Transaction}
    (h : l.pendingMatch? c = some t) : t ∈ l.transactions ∧ c.admits t = true :=
  ⟨List.mem_of_find?_eq_some h, List.find?_some h⟩

/-! ## Blockchain transactions -/

theorem blockchainTransaction?_mapBlockchainTransaction (l : Ledger) (id i : Id)
    {f : BlockchainTransaction → BlockchainTransaction} (hf : ∀ b, (f b).id = b.id) :
    (l.mapBlockchainTransaction id f).blockchainTransaction? i =
      if i = id then (l.blockchainTransaction? i).map f else l.blockchainTransaction? i :=
  find?_map_ite BlockchainTransaction.id hf id i l.blockchainTransactions

theorem blockchainTransaction?_addBlockchainTransaction (l : Ledger) (b : BlockchainTransaction)
    (i : Id) (h : l.blockchainTransaction? b.id = none) :
    (l.addBlockchainTransaction b).blockchainTransaction? i =
      if i = b.id then some b else l.blockchainTransaction? i := by
  unfold blockchainTransaction? addBlockchainTransaction at *
  rw [List.find?_append]
  by_cases hi : i = b.id
  · subst hi; simp [h]
  · have : (b.id == i) = false := by simpa using fun e => hi e.symm
    simp [this, hi]

theorem byHash?_addBlockchainTransaction (l : Ledger) (b : BlockchainTransaction) (chain : Chain) (hash : String)
    (h : l.byHash? b.chain b.hash = none) : (l.addBlockchainTransaction b).byHash? chain hash =
      if chain = b.chain ∧ hash = b.hash then some b else l.byHash? chain hash := by
  unfold byHash? addBlockchainTransaction at *
  rw [List.find?_append]
  by_cases hk : chain = b.chain ∧ hash = b.hash
  · obtain ⟨rfl, rfl⟩ := hk
    simp [h]
  · have hb : (b.chain == chain && b.hash == hash) = false := by
      simpa using fun hc he => hk ⟨hc.symm, he.symm⟩
    simp [hb, hk]

theorem blockchainTransaction?_mem {i : Id} {b : BlockchainTransaction}
    (h : l.blockchainTransaction? i = some b) : b ∈ l.blockchainTransactions ∧ b.id = i :=
  ⟨List.mem_of_find?_eq_some h, by simpa using List.find?_some h⟩

theorem blockchainTransaction?_of_mem
    (hl : (l.blockchainTransactions.map BlockchainTransaction.id).Nodup) {b : BlockchainTransaction}
    (h : b ∈ l.blockchainTransactions) : l.blockchainTransaction? b.id = some b :=
  find?_key_of_mem BlockchainTransaction.id hl h

theorem byHash?_some {chain : Chain} {hash : String} {b : BlockchainTransaction}
    (h : l.byHash? chain hash = some b) :
    b ∈ l.blockchainTransactions ∧ b.chain = chain ∧ b.hash = hash := by
  refine ⟨List.mem_of_find?_eq_some h, ?_⟩
  have := List.find?_some h
  simpa using this

/-! ## Audit records -/

@[simp] theorem transactions_addRecord (l : Ledger) (r : AuditRecord) :
    (l.addRecord r).transactions = l.transactions := by
  unfold addRecord; split <;> rfl

@[simp] theorem blockchainTransactions_addRecord (l : Ledger) (r : AuditRecord) :
    (l.addRecord r).blockchainTransactions = l.blockchainTransactions := by
  unfold addRecord; split <;> rfl

@[simp] theorem checkpoints_addRecord (l : Ledger) (r : AuditRecord) :
    (l.addRecord r).checkpoints = l.checkpoints := by
  unfold addRecord; split <;> rfl

@[simp] theorem users_addRecord (l : Ledger) (r : AuditRecord) :
    (l.addRecord r).users = l.users := by
  unfold addRecord; split <;> rfl

@[simp] theorem contents_addRecord (l : Ledger) (r : AuditRecord) :
    (l.addRecord r).contents = l.contents := by
  unfold addRecord; split <;> rfl

@[simp] theorem transaction?_addRecord (l : Ledger) (r : AuditRecord) (i : Id) :
    (l.addRecord r).transaction? i = l.transaction? i := by
  unfold transaction?; rw [transactions_addRecord]

@[simp] theorem blockchainTransaction?_addRecord (l : Ledger) (r : AuditRecord) (i : Id) :
    (l.addRecord r).blockchainTransaction? i = l.blockchainTransaction? i := by
  unfold blockchainTransaction?; rw [blockchainTransactions_addRecord]

theorem mem_records_addRecord {r q : AuditRecord} (h : q ∈ l.records) :
    q ∈ (l.addRecord r).records := by
  unfold addRecord
  split
  · exact h
  · exact List.mem_append_left _ h

/-- After a record was added there is one for its log, though perhaps an older one. -/
theorem exists_record_addRecord (l : Ledger) (r : AuditRecord) :
    ∃ q ∈ (l.addRecord r).records,
      q.blockchainTransaction = r.blockchainTransaction ∧ q.index = r.index := by
  unfold addRecord
  split
  · rename_i h
    simpa using h
  · exact ⟨r, by simp, rfl, rfl⟩

/-! ## Checkpoints -/

theorem checkpoint?_setCheckpoint_of_ne (l : Ledger) {chain c : Chain} (block : Int) (h : c ≠ chain) :
    (l.setCheckpoint chain block).checkpoint? c = l.checkpoint? c := by
  unfold checkpoint? setCheckpoint
  induction l.checkpoints with
  | nil => simp [raiseCheckpoint, h.symm]
  | cons x xs ih =>
    simp only at ih
    by_cases hx : x.chain = chain
    · simp [raiseCheckpoint, hx, h.symm]
    · simp [raiseCheckpoint, hx, List.find?_cons, ih]

/-! ## Users and contents -/

section
variable {key : String} {value : Id} {es : List (String × Id)}

theorem mem_assign {e : String × Id} (h : e ∈ assign key value es) : e = (key, value) ∨ e ∈ es := by
  induction es with
  | nil => exact .inl (by simpa [assign] using h)
  | cons x xs ih =>
    unfold assign at h
    split at h
    · rcases List.mem_cons.1 h with rfl | h
      · exact .inl rfl
      · exact .inr (List.mem_cons_of_mem _ h)
    · rcases List.mem_cons.1 h with rfl | h
      · exact .inr List.mem_cons_self
      · exact (ih h).imp_right (List.mem_cons_of_mem _)

theorem nodup_fst_assign (h : (es.map Prod.fst).Nodup) :
    ((assign key value es).map Prod.fst).Nodup := by
  induction es with
  | nil => simp [assign]
  | cons x xs ih =>
    simp only [List.map_cons, List.nodup_cons] at h
    unfold assign
    split
    · rename_i hx
      subst hx
      simpa using h
    · rename_i hx
      simp only [List.map_cons, List.nodup_cons]
      refine ⟨fun hm => ?_, ih h.2⟩
      obtain ⟨e, he, hex⟩ := List.mem_map.1 hm
      rcases mem_assign he with rfl | he
      · exact hx hex.symm
      · exact h.1 (List.mem_map.2 ⟨e, he, hex⟩)

theorem nodup_snd_assign (h : (es.map Prod.snd).Nodup) (hv : value ∉ es.map Prod.snd) :
    ((assign key value es).map Prod.snd).Nodup := by
  induction es with
  | nil => simp [assign]
  | cons x xs ih =>
    simp only [List.map_cons, List.nodup_cons, List.mem_cons, not_or] at h hv
    unfold assign
    split
    · simp only [List.map_cons, List.nodup_cons]
      exact ⟨hv.2, h.2⟩
    · simp only [List.map_cons, List.nodup_cons]
      refine ⟨fun hm => ?_, ih h.2 hv.2⟩
      obtain ⟨e, he, hex⟩ := List.mem_map.1 hm
      rcases mem_assign he with rfl | he
      · exact hv.1 hex
      · exact h.1 (List.mem_map.2 ⟨e, he, hex⟩)

/-- Only the value of the key is another one. -/
theorem find?_assign (a : String) : ((assign key value es).find? fun e => e.1 == a).map Prod.snd =
    if a = key then some value else (es.find? fun e => e.1 == a).map Prod.snd := by
  induction es with
  | nil =>
    by_cases h : key = a
    · simp [assign, h]
    · simp [assign, h, Ne.symm h]
  | cons x xs ih =>
    unfold assign
    by_cases h : x.1 = a
    · subst h
      by_cases hx : x.1 = key
      · simp [hx]
      · simp [hx]
    · split
      · rename_i hx
        rw [hx] at h
        simp [h, Ne.symm h, hx]
      · simp [h, ih]

end

theorem user?_addUser (l : Ledger) (address : String) (id : Id) (a : String) :
    (l.addUser address id).user? a = if a = address then some id else l.user? a := find?_assign a

theorem user?_of_users {l' : Ledger} (h : l'.users = l.users) (a : String) : l'.user? a = l.user? a := by
  unfold user?
  rw [h]

theorem address?_of_users {l' : Ledger} (h : l'.users = l.users) (id : Id) : l'.address? id = l.address? id := by
  unfold address?
  rw [h]

theorem content?_of_contents {l' : Ledger} (h : l'.contents = l.contents) : l'.content? = l.content? := by
  unfold content?
  rw [h]

theorem user?_mem {a : String} {id : Id} (h : l.user? a = some id) : (a, id) ∈ l.users := by
  obtain ⟨⟨b, j⟩, he, rfl⟩ := Option.map_eq_some_iff.1 h
  have hb : b = a := by simpa using List.find?_some he
  exact hb ▸ List.mem_of_find?_eq_some he

theorem user?_of_mem (hl : (l.users.map Prod.fst).Nodup) {a : String} {id : Id} (h : (a, id) ∈ l.users) :
    l.user? a = some id := by
  unfold user?
  rw [find?_key_of_mem Prod.fst hl h]
  rfl

theorem address?_of_mem (hl : (l.users.map Prod.snd).Nodup) {a : String} {id : Id}
    (h : (a, id) ∈ l.users) : l.address? id = some a := by
  unfold address?
  rw [find?_key_of_mem Prod.snd hl h]
  rfl

theorem address?_mem {a : String} {id : Id} (h : l.address? id = some a) : (a, id) ∈ l.users := by
  obtain ⟨⟨b, j⟩, he, rfl⟩ := Option.map_eq_some_iff.1 h
  have hj : j = id := by simpa using List.find?_some he
  exact hj ▸ List.mem_of_find?_eq_some he

end Ledger

end DonationLedger
