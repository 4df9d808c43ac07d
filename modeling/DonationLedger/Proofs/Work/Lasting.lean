import DonationLedger.Proofs.Ledger.Later
import DonationLedger.Proofs.Work.Yields

/-!
# Work that loses nothing

Every operation of a ledger transaction leaves a later session, whether it fails or not, and so does
all work put together from them (`Work.Lasting`). The same holds of what the callers of the ledger
do: users and contents are put on file, and expected payments are stored.
-/

namespace DonationLedger

namespace Work

variable {α β : Type} {s : Session}

/-- The session after the work, also after it failed, is a later one. -/
def Lasting (w : Work α) : Prop := ∀ s : Session, s.Later (w.result s).2

theorem Lasting.later {w : Work α} (h : Lasting w) {a : α} {s' : Session} (hy : Yields w s a s') :
    s.Later s' := by
  have := h s
  rw [hy] at this
  exact this

/-- What is dropped is lost, but no id is issued twice. -/
theorem Lasting.dropped {w : Work α} (h : Lasting w) (s : Session) :
    s.Later (s.dropped (w.result s).2) :=
  .of_ledger_eq rfl (h s).supply

theorem Lasting.commit {w : Work α} (h : Lasting w) (s : Session) : s.Later (s.commit w).2 := by
  rcases commit_cases s w with ⟨a, s', hy, hc⟩ | ⟨e, -, hc⟩
  · rw [hc]; exact h.later hy
  · rw [hc]; exact h.dropped s

theorem lasting_pure (a : α) : Lasting (pure a) := fun s => .refl s

theorem lasting_throw (e : Failure) : Lasting (throw e : Work α) := fun s => .refl s

theorem lasting_bind {w : Work α} {k : α → Work β} (hw : Lasting w) (hk : ∀ a, Lasting (k a)) :
    Lasting (w >>= k) := by
  intro s
  rw [result_bind]
  have h := hw s
  rcases hr : w.result s with ⟨_ | a, s'⟩
  · rw [hr] at h; exact h
  · rw [hr] at h; exact h.trans (hk a s')

theorem lasting_gate : Lasting gate := fun s => by
  rw [result_gate]
  exact .of_ledger_eq rfl fun _ => Nat.le_refl _

theorem lasting_modify {f : Session → Session} (h : ∀ s : Session, s.Later (f s)) : Lasting (modify f) := h

theorem lasting_change {f : Ledger → Ledger} (h : ∀ s : Session, s.Later { s with ledger := f s.ledger }) :
    Lasting (change f) :=
  lasting_bind lasting_gate fun _ => lasting_modify h

theorem lasting_rows : Lasting rows := fun s => .refl s

theorem lasting_look {f : Ledger → α} : Lasting (do let l ← rows; pure (f l)) :=
  lasting_bind lasting_rows fun _ => lasting_pure _

/-! ## Operations of a ledger transaction -/

theorem later_mapTransaction (s : Session) (id : Id) {f : Transaction → Transaction}
    (hf : ∀ t : Transaction, t.Follows (f t)) :
    s.Later { s with ledger := s.ledger.mapTransaction id f } :=
  Session.later_of_ids (.mapTransaction s.ledger id hf) (fun _ => Nat.le_refl _)
    (map_ite_of_same Transaction.id (fun t => (hf t).id) _ _) rfl rfl rfl

theorem later_mapBlockchainTransaction (s : Session) (id : Id)
    {f : BlockchainTransaction → BlockchainTransaction} (hf : ∀ b : BlockchainTransaction, b.Follows (f b)) :
    s.Later { s with ledger := s.ledger.mapBlockchainTransaction id f } :=
  Session.later_of_ids (.mapBlockchainTransaction s.ledger id hf) (fun _ => Nat.le_refl _) rfl
    (map_ite_of_same BlockchainTransaction.id (fun b => (hf b).id) _ _)
    (map_ite_of_same BlockchainTransaction.place (fun b => (hf b).place) _ _) rfl

theorem later_link (s : Session) (b t : Id) : s.Later { s with ledger := s.ledger.link b t } :=
  Session.later_of_ids (.link s.ledger b t) (fun _ => Nat.le_refl _)
    (map_ite_of_same (f := fun u => { u with blockchainTransaction := some b }) Transaction.id
      (fun _ => rfl) _ _)
    (map_ite_of_same (f := fun c => { c with transaction := some t }) BlockchainTransaction.id
      (fun _ => rfl) _ _)
    (map_ite_of_same (f := fun c => { c with transaction := some t }) BlockchainTransaction.place
      (fun _ => rfl) _ _) rfl

/-- A row under the next id shares it with no other. -/
theorem nodup_concat_next {kind : RowKind} {ids : List Id} (h : ids.Nodup)
    (ht : ∀ id ∈ ids, s.supply.knows id = true) : (ids ++ [s.supply.next kind]).Nodup := by
  refine List.nodup_append.2 ⟨h, by simp, fun a ha b hb e => ?_⟩
  have hn := s.supply.not_knows_next kind
  rw [← List.mem_singleton.1 hb, ← e, ht a ha] at hn
  exact absurd hn (by simp)

theorem knows_advance_of_mem {kind : RowKind} {ids : List Id}
    (ht : ∀ id ∈ ids, s.supply.knows id = true) :
    ∀ id ∈ ids ++ [s.supply.next kind], (s.supply.advance kind).knows id = true := by
  intro id hi
  rcases List.mem_append.1 hi with hi | hi
  · exact s.supply.knows_advance kind id (ht id hi)
  · rw [List.mem_singleton.1 hi]
    exact s.supply.knows_advance_next kind

theorem later_addTransaction (s : Session) {t : Transaction} (ht : t.id = s.supply.next .transaction) :
    s.Later { s.issue .transaction with ledger := s.ledger.addTransaction t } where
  follows := .addTransaction s.ledger t
  supply kind := s.supply.count_le_advance .transaction kind
  keyed k := by
    refine ⟨?_, k.blockchainTransactions, ?_, fun id hi => s.supply.knows_advance _ id (k.taken' id hi)⟩
    · simp only [Ledger.addTransaction, List.map_append, List.map_cons, List.map_nil, ht]
      exact nodup_concat_next k.transactions k.taken
    · simp only [Ledger.addTransaction, List.map_append, List.map_cons, List.map_nil, ht]
      exact knows_advance_of_mem k.taken
  hashed k := k
  filed k := ⟨k.addresses, k.owners, k.spelled, fun id hi => s.supply.knows_advance _ id (k.taken id hi)⟩

theorem later_addBlockchainTransaction (s : Session) {b : BlockchainTransaction}
    (hb : b.id = s.supply.next .blockchainTransaction) (hn : s.ledger.byHash? b.chain b.hash = none) :
    s.Later { s.issue .blockchainTransaction with ledger := s.ledger.addBlockchainTransaction b } where
  follows := .addBlockchainTransaction s.ledger b
  supply kind := s.supply.count_le_advance .blockchainTransaction kind
  keyed k := by
    refine ⟨k.transactions, ?_, fun id hi => s.supply.knows_advance _ id (k.taken id hi), ?_⟩
    · simp only [Ledger.addBlockchainTransaction, List.map_append, List.map_cons, List.map_nil, hb]
      exact nodup_concat_next k.blockchainTransactions k.taken'
    · simp only [Ledger.addBlockchainTransaction, List.map_append, List.map_cons, List.map_nil, hb]
      exact knows_advance_of_mem k.taken'
  hashed k := by
    simp only [Session.Hashed, Ledger.addBlockchainTransaction, List.map_append, List.map_cons, List.map_nil]
    refine List.nodup_append.2 ⟨k, by simp, fun x hx y hy e => ?_⟩
    obtain ⟨c, hc, rfl⟩ := List.mem_map.1 hx
    rw [List.mem_singleton.1 hy] at e
    have := List.find?_eq_none.1 hn c hc
    simp only [Bool.and_eq_true, beq_iff_eq] at this
    exact this ⟨congrArg Prod.fst e, congrArg Prod.snd e⟩
  filed k := ⟨k.addresses, k.owners, k.spelled, fun id hi => s.supply.knows_advance _ id (k.taken id hi)⟩

theorem lasting_createTransaction (d : TransactionDraft Id) : Lasting (createTransaction d) :=
  lasting_bind lasting_gate fun _ s => later_addTransaction s rfl

theorem lasting_updateTransaction (id : Id) (c : StateChange Id) : Lasting (updateTransaction id c) := by
  refine lasting_bind lasting_gate fun _ => lasting_bind lasting_rows fun l => ?_
  split
  · exact lasting_throw _
  · exact lasting_bind (lasting_modify fun s => later_mapTransaction s id (.apply c)) fun _ =>
      lasting_pure _

theorem lasting_findByHash (chain : Chain) (hash : String) : Lasting (findByHash chain hash) := by
  intro s
  rcases h : s.faults.hiddenLookups with _ | n
  · rw [result_findByHash_shown chain hash h]
    exact .refl s
  · rw [result_findByHash_hidden chain hash h]
    exact .of_ledger_eq rfl fun _ => Nat.le_refl _

theorem lasting_createBlockchainTransaction (d : BlockchainDraft Id) :
    Lasting (createBlockchainTransaction d) := by
  refine lasting_bind lasting_gate fun _ s => ?_
  rw [result_rows_bind]
  split
  · exact .refl s
  · rename_i hn
    exact later_addBlockchainTransaction s rfl hn

theorem lasting_updateBlockchainTransaction (id : Id) (state : BlockchainState) :
    Lasting (updateBlockchainTransaction id state) := by
  refine lasting_bind lasting_gate fun _ => lasting_bind lasting_rows fun l => ?_
  split
  · exact lasting_throw _
  · exact lasting_bind (lasting_modify fun s => later_mapBlockchainTransaction s id (.moved state))
      fun _ => lasting_pure _

theorem lasting_recordFacts (id : Id) (sender recipient : Option String) (block : Option Int) :
    Lasting (recordFacts id sender recipient block) :=
  lasting_change fun s => later_mapBlockchainTransaction s id (.filled sender recipient block)

theorem lasting_link (b t : Id) : Lasting (link b t) := lasting_change fun s => later_link s b t

theorem lasting_insertRecord (r : AuditRecord) : Lasting (insertRecord r) :=
  lasting_change fun s => Session.later_of_ids (.addRecord s.ledger r) (fun _ => Nat.le_refl _)
    (by simp) (by simp) (by simp) (by simp)

theorem lasting_raiseCheckpoint (chain : Chain) (block : Int) : Lasting (raiseCheckpoint chain block) :=
  lasting_change fun s => Session.later_of_ids (.setCheckpoint s.ledger chain block)
    (fun _ => Nat.le_refl _) rfl rfl rfl rfl

theorem lasting_seedPayment (chain : Chain) (hash : Hash) (d : TransactionDraft Id) :
    Lasting (seedPayment chain hash d) := by
  refine lasting_bind (lasting_createTransaction d) fun t =>
    lasting_bind (lasting_createBlockchainTransaction _) fun b => ?_
  split
  · exact lasting_throw _
  · refine lasting_bind (lasting_link _ _) fun _ => lasting_bind lasting_look fun u => ?_
    split
    · exact lasting_pure _
    · exact lasting_throw _

end Work

namespace Session

/-! ## Users and contents -/

theorem later_addUser (s : Session) (a : Address) : s.Later (s.addUser a).2 where
  follows := .of_eq rfl rfl (fun _ h => h) rfl
  supply kind := s.supply.count_le_advance .user kind
  keyed k := ⟨k.transactions, k.blockchainTransactions,
    fun id hi => s.supply.knows_advance _ id (k.taken id hi),
    fun id hi => s.supply.knows_advance _ id (k.taken' id hi)⟩
  hashed k := k
  filed k := by
    have hn : s.supply.next .user ∉ s.ledger.users.map Prod.snd := fun hm => by
      have := k.taken _ hm
      rw [s.supply.not_knows_next] at this
      exact absurd this (by simp)
    refine ⟨Ledger.nodup_fst_assign k.addresses, Ledger.nodup_snd_assign k.owners hn, ?_, ?_⟩
    · intro b hb
      obtain ⟨e, he, rfl⟩ := List.mem_map.1 hb
      rcases Ledger.mem_assign he with rfl | he
      · exact ⟨a, rfl⟩
      · exact k.spelled _ (List.mem_map.2 ⟨e, he, rfl⟩)
    · intro id hi
      obtain ⟨e, he, rfl⟩ := List.mem_map.1 hi
      rcases Ledger.mem_assign he with rfl | he
      · exact s.supply.knows_advance_next .user
      · exact s.supply.knows_advance _ _ (k.taken _ (List.mem_map.2 ⟨e, he, rfl⟩))

theorem later_addContent (s : Session) (reference : String) : s.Later (s.addContent reference).2 where
  follows := .of_eq rfl rfl (fun _ h => h) rfl
  supply kind := s.supply.count_le_advance .content kind
  keyed k := ⟨k.transactions, k.blockchainTransactions,
    fun id hi => s.supply.knows_advance _ id (k.taken id hi),
    fun id hi => s.supply.knows_advance _ id (k.taken' id hi)⟩
  hashed k := k
  filed k := ⟨k.addresses, k.owners, k.spelled,
    fun id hi => s.supply.knows_advance _ id (k.taken id hi)⟩

theorem later_faults (s : Session) (f : Faults) : s.Later { s with faults := f } :=
  .of_ledger_eq rfl fun _ => Nat.le_refl _

end Session

end DonationLedger
