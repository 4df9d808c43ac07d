import DonationLedger.Proofs.Ledger.Rewrites
import DonationLedger.Proofs.System.Alone

/-!
# Rows under other ids

The ids that the supply gives out mean nothing: rows may go by others, as long as no two become the same. The
renaming is of the ids of transactions and of blockchain transactions, and of all places where they are named;
users and contents keep theirs. A renaming that keeps step with the supply (`Renaming`) takes sessions to sessions.
-/

namespace DonationLedger

/-- The transaction under another id, and naming its blockchain transaction by another. -/
def Transaction.rename (f : Id → Id) (t : Transaction) : Transaction :=
  { t with id := f t.id, blockchainTransaction := t.blockchainTransaction.map f }

/-- The blockchain transaction under another id, and naming its transaction by another. -/
def BlockchainTransaction.rename (f : Id → Id) (b : BlockchainTransaction) : BlockchainTransaction :=
  { b with id := f b.id, transaction := b.transaction.map f }

/-- The record of the blockchain transaction under another id. -/
def AuditRecord.rename (f : Id → Id) (r : AuditRecord) : AuditRecord :=
  { r with blockchainTransaction := f r.blockchainTransaction }

namespace Ledger

/-- The same rows under other ids. -/
def rename (f : Id → Id) (l : Ledger) : Ledger :=
  { l with
    transactions := l.transactions.map (Transaction.rename f)
    blockchainTransactions := l.blockchainTransactions.map (BlockchainTransaction.rename f)
    records := l.records.map (AuditRecord.rename f) }

variable {f g : Id → Id}

theorem rename_rename (f g : Id → Id) (l : Ledger) : (l.rename f).rename g = l.rename (g ∘ f) := by
  simp only [rename, List.map_map]
  congr 1
  · refine List.map_congr_left fun t _ => ?_
    simp [Transaction.rename]
  · refine List.map_congr_left fun b _ => ?_
    simp [BlockchainTransaction.rename]

/-- Ids that keep their names change nothing. -/
theorem rename_eq_self {l : Ledger} (ht : ∀ t ∈ l.transactions, t.rename f = t)
    (hb : ∀ b ∈ l.blockchainTransactions, b.rename f = b) (hr : ∀ r ∈ l.records, r.rename f = r) :
    l.rename f = l := by
  unfold rename
  rw [List.map_congr_left (g := id) ht, List.map_congr_left (g := id) hb, List.map_congr_left (g := id) hr]
  simp only [List.map_id]

theorem rename_id (l : Ledger) : l.rename id = l := by
  refine rename_eq_self (fun t _ => ?_) (fun b _ => ?_) fun _ _ => rfl
  · simp [Transaction.rename]
  · simp [BlockchainTransaction.rename]

/-! ## Looking up -/

theorem find?_map_of {α β : Type} {k : α → β} {p : α → Bool} {q : β → Bool} (h : ∀ a, q (k a) = true ↔ p a = true)
    (l : List α) : (l.map k).find? q = (l.find? p).map k := by
  rw [List.find?_map, show q ∘ k = p from funext fun a => Bool.eq_iff_iff.2 (h a)]

theorem transaction?_rename (hf : Function.Injective f) (l : Ledger) (i : Id) :
    (l.rename f).transaction? (f i) = (l.transaction? i).map (Transaction.rename f) :=
  find?_map_of (fun t => by simp [Transaction.rename, hf.eq_iff]) l.transactions

theorem blockchainTransaction?_rename (hf : Function.Injective f) (l : Ledger) (i : Id) :
    (l.rename f).blockchainTransaction? (f i) =
      (l.blockchainTransaction? i).map (BlockchainTransaction.rename f) :=
  find?_map_of (fun b => by simp [BlockchainTransaction.rename, hf.eq_iff]) l.blockchainTransactions

theorem expecting?_rename (hf : Function.Injective f) (l : Ledger) (b : Id) :
    (l.rename f).expecting? (f b) = (l.expecting? b).map (Transaction.rename f) := by
  refine find?_map_of (fun t => ?_) l.transactions
  have hb : t.blockchainTransaction.map f = some (f b) ↔ t.blockchainTransaction = some b := by
    rw [← Option.map_some, (Option.map_injective hf).eq_iff]
  simp [Transaction.rename, hb]

@[simp] theorem byHash?_rename (f : Id → Id) (l : Ledger) (chain : Chain) (hash : String) :
    (l.rename f).byHash? chain hash = (l.byHash? chain hash).map (BlockchainTransaction.rename f) :=
  find?_map_of (fun _ => Iff.rfl) l.blockchainTransactions

@[simp] theorem pendingMatch?_rename (f : Id → Id) (l : Ledger) (c : PaymentCriteria Id) :
    (l.rename f).pendingMatch? c = (l.pendingMatch? c).map (Transaction.rename f) := by
  refine find?_map_of (fun t => ?_) l.transactions
  simp [PaymentCriteria.admits, Transaction.rename, Transaction.isPending]

/-! ## Changing rows -/

theorem rename_addTransaction (f : Id → Id) (l : Ledger) (t : Transaction) :
    (l.addTransaction t).rename f = (l.rename f).addTransaction (t.rename f) := by
  simp [addTransaction, rename]

theorem rename_addBlockchainTransaction (f : Id → Id) (l : Ledger) (b : BlockchainTransaction) :
    (l.addBlockchainTransaction b).rename f = (l.rename f).addBlockchainTransaction (b.rename f) := by
  simp [addBlockchainTransaction, rename]

theorem rename_mapTransaction (hf : Function.Injective f) (l : Ledger) (i : Id)
    {g g' : Transaction → Transaction} (hg : ∀ t, (g t).rename f = g' (t.rename f)) :
    (l.mapTransaction i g).rename f = (l.rename f).mapTransaction (f i) g' := by
  simp only [mapTransaction, rename, List.map_map]
  congr 1
  refine List.map_congr_left fun t _ => ?_
  have hi : (t.rename f).id = f i ↔ t.id = i := hf.eq_iff
  simp only [Function.comp, hi]
  split
  · exact hg t
  · rfl

theorem rename_mapBlockchainTransaction (hf : Function.Injective f) (l : Ledger) (i : Id)
    {g g' : BlockchainTransaction → BlockchainTransaction} (hg : ∀ b, (g b).rename f = g' (b.rename f)) :
    (l.mapBlockchainTransaction i g).rename f = (l.rename f).mapBlockchainTransaction (f i) g' := by
  simp only [mapBlockchainTransaction, rename, List.map_map]
  congr 1
  refine List.map_congr_left fun b _ => ?_
  have hi : (b.rename f).id = f i ↔ b.id = i := hf.eq_iff
  simp only [Function.comp, hi]
  split
  · exact hg b
  · rfl

theorem rename_link (hf : Function.Injective f) (l : Ledger) (b t : Id) :
    (l.link b t).rename f = (l.rename f).link (f b) (f t) := by
  unfold link
  rw [rename_mapTransaction hf, rename_mapBlockchainTransaction hf]
  · exact fun _ => rfl
  · exact fun _ => rfl

theorem rename_addRecord (hf : Function.Injective f) (l : Ledger) (r : AuditRecord) :
    (l.addRecord r).rename f = (l.rename f).addRecord (r.rename f) := by
  have hany : (l.rename f).records.any (fun s => s.blockchainTransaction == (r.rename f).blockchainTransaction &&
      s.index == (r.rename f).index) =
      l.records.any fun s => s.blockchainTransaction == r.blockchainTransaction && s.index == r.index := by
    simp only [rename, List.any_map]
    refine congrArg (List.any l.records) (funext fun s => ?_)
    rw [Bool.eq_iff_iff]
    simp [AuditRecord.rename, hf.eq_iff]
  unfold addRecord
  rw [hany]
  split
  · rfl
  · simp [rename]

theorem rename_setCheckpoint (f : Id → Id) (l : Ledger) (chain : Chain) (block : Int) :
    (l.setCheckpoint chain block).rename f = (l.rename f).setCheckpoint chain block := rfl

end Ledger

/-! ## In step with the supply -/

/-- Other names for ids. Where the supply is one of those covered, the id that it gives out next gets the name that
another supply gives out next. -/
structure Renaming where
  id : Id → Id
  supply : IdSupply → IdSupply
  covers : IdSupply → Prop
  injective : Function.Injective id
  next : ∀ {p : IdSupply} (kind : RowKind), covers p → id (p.next kind) = (supply p).next kind
  advance : ∀ {p : IdSupply} (kind : RowKind), covers p →
    covers (p.advance kind) ∧ supply (p.advance kind) = (supply p).advance kind

namespace IdSupply

/-- By how many ids of a kind `q` is ahead. -/
def lead (p q : IdSupply) (kind : RowKind) : Nat := q.count kind - p.count kind

/-- The supply that is ahead by so many ids of each kind. -/
def ahead (r : IdSupply) (n : RowKind → Nat) : IdSupply :=
  ⟨r.transactions + n .transaction, r.blockchainTransactions + n .blockchainTransaction, r.users + n .user,
    r.contents + n .content⟩

@[simp] theorem count_ahead (r : IdSupply) (n : RowKind → Nat) (kind : RowKind) :
    (r.ahead n).count kind = r.count kind + n kind := by cases kind <;> rfl

theorem ahead_advance (r : IdSupply) (n : RowKind → Nat) (kind : RowKind) :
    (r.advance kind).ahead n = (r.ahead n).advance kind := by
  cases kind <;> simp [ahead, advance, Nat.add_right_comm]

theorem ahead_lead {p q : IdSupply} (h : ∀ kind, p.count kind ≤ q.count kind) : p.ahead (p.lead q) = q := by
  have hk (kind : RowKind) : p.count kind + p.lead q kind = q.count kind := Nat.add_sub_cancel' (h kind)
  obtain ⟨t, b, u, c⟩ := q
  simp only [ahead, IdSupply.mk.injEq]
  exact ⟨hk .transaction, hk .blockchainTransaction, hk .user, hk .content⟩

end IdSupply

namespace Renaming

/-- Every id under its own name. -/
def keep : Renaming where
  id i := i
  supply p := p
  covers _ := True
  injective _ _ h := h
  next _ _ := rfl
  advance _ _ := ⟨trivial, rfl⟩

/-- An id that `p` has not given out yet gets the number that is higher by as many as `q` is ahead. -/
def shift (p q : IdSupply) : Id → Id
  | .issued kind n => .issued kind (if p.count kind < n then n + p.lead q kind else n)
  | .foreign text => .foreign text

theorem shift_of_knows {p q : IdSupply} {i : Id} (h : p.knows i = true) : shift p q i = i := by
  cases i with
  | foreign text => rfl
  | issued kind n =>
    have hn : ¬ p.count kind < n := by simpa [IdSupply.knows] using h
    simp only [shift, if_neg hn]

/-- Ids that `p` gives out get the names that `q` gives out instead. -/
def onto (p q : IdSupply) : Renaming where
  id := shift p q
  supply r := r.ahead (p.lead q)
  covers r := ∀ kind, p.count kind ≤ r.count kind
  injective i j h := by
    cases i <;> cases j <;> simp only [shift, Id.issued.injEq, Id.foreign.injEq, reduceCtorEq] at h ⊢
    · obtain ⟨rfl, h⟩ := h
      refine ⟨rfl, ?_⟩
      split at h <;> split at h <;> omega
    · exact h
  next {r} kind h := by
    have hlt : p.count kind < r.count kind + 1 := Nat.lt_succ_of_le (h kind)
    simp only [IdSupply.next, shift, IdSupply.count_ahead, if_pos hlt]
    rw [Nat.add_right_comm]
  advance {r} kind h :=
    ⟨fun k => Nat.le_trans (h k) (r.count_le_advance kind k), r.ahead_advance (p.lead q) kind⟩

/-- The session with rows and ids under other names, where nothing goes wrong. -/
def session (σ : Renaming) (s : Session) : Session := ⟨s.ledger.rename σ.id, σ.supply s.supply, .none⟩

variable (σ : Renaming) (s : Session)

@[simp] theorem ledger_session : (σ.session s).ledger = s.ledger.rename σ.id := rfl

@[simp] theorem supply_session : (σ.session s).supply = σ.supply s.supply := rfl

@[simp] theorem session_keep : keep.session s = s.calm := by
  unfold session
  rw [show s.ledger.rename keep.id = s.ledger from s.ledger.rename_id]
  rfl

theorem session_write {f f' : Ledger → Ledger} (h : ∀ l : Ledger, (f l).rename σ.id = f' (l.rename σ.id)) :
    σ.session (s.write f) = (σ.session s).write f' := by
  unfold session
  rw [Session.ledger_write, h]
  rfl

theorem session_issue {kind : RowKind} (h : σ.covers s.supply) :
    σ.session (s.issue kind) = (σ.session s).issue kind := by
  unfold session
  rw [Session.supply_issue, (σ.advance kind h).2]
  rfl

end Renaming

end DonationLedger
