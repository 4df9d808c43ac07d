import DonationLedger.Proofs.Ledger.Renaming

/-!
# Work on rows under other ids

Work mirrors other work if it yields under other ids whatever that one yields (`Work.Mirrored`), and does so
though nothing goes wrong with its own session. Looking up a renamed id finds the renamed row, a renamed row is
written to where the row is written to, and ids are given out in step.
-/

namespace DonationLedger

/-- The draft that names its blockchain transaction by another id. -/
def TransactionDraft.rename (f : Id → Id) (d : TransactionDraft Id) : TransactionDraft Id :=
  { d with blockchainTransaction := d.blockchainTransaction.map f }

theorem StateChange.apply_rename (f : Id → Id) (x : StateChange Id) (t : Transaction) :
    (x.apply t).rename f = x.apply (t.rename f) := by
  unfold apply
  rw [show (t.rename f).isPending = t.isPending from rfl]
  split <;> rfl

namespace Work

variable {α β γ δ : Type} {σ : Renaming}

theorem moved_rename (f : Id → Id) (state : BlockchainState) (b : BlockchainTransaction) :
    (moved state b).rename f = moved state (b.rename f) := by
  unfold moved
  rw [show (b.rename f).isFinal = b.isFinal from rfl]
  split <;> rfl

/-- What the first yields, the second yields under other ids. -/
def Mirrored (σ : Renaming) (f : α → β) (w : Work α) (w' : Work β) : Prop :=
  ∀ ⦃s a s'⦄, σ.covers s.supply → w.Yields s a s' →
    σ.covers s'.supply ∧ w'.Yields (σ.session s) (f a) (σ.session s')

theorem mirrored_pure {f : α → β} {a : α} {b : β} (h : f a = b) : Mirrored σ f (pure a) (pure b) := by
  intro s a' s' hs hy
  obtain ⟨rfl, rfl⟩ := yields_pure.1 hy
  exact ⟨hs, yields_pure.2 ⟨h, rfl⟩⟩

theorem mirrored_throw (f : α → β) (e : Failure) (w : Work β) : Mirrored σ f (throw e) w :=
  fun _ _ _ _ hy => absurd hy not_yields_throw

theorem mirrored_bind {g : γ → δ} {f : α → β} {w : Work γ} {w' : Work δ} {k : γ → Work α} {k' : δ → Work β}
    (hw : Mirrored σ g w w') (hk : ∀ c, Mirrored σ f (k c) (k' (g c))) : Mirrored σ f (w >>= k) (w' >>= k') := by
  intro s a s' hs hy
  obtain ⟨c, s₁, hc, hy⟩ := yields_bind.1 hy
  obtain ⟨hs₁, hc⟩ := hw hs hc
  obtain ⟨hs', hy⟩ := hk c hs₁ hy
  exact ⟨hs', yields_bind.2 ⟨_, _, hc, hy⟩⟩

theorem mirrored_change {f f' : Ledger → Ledger} (h : ∀ l : Ledger, (f l).rename σ.id = f' (l.rename σ.id)) :
    Mirrored σ id (change f) (change f') := by
  intro s u s' hs hy
  obtain ⟨-, rfl⟩ := yields_change.1 hy
  exact ⟨hs, yields_change.2 ⟨rfl, σ.session_write s h⟩⟩

/-! ## Looking up -/

theorem mirrored_findTransaction (i : Id) :
    Mirrored σ (Option.map (Transaction.rename σ.id)) (findTransaction i) (findTransaction (σ.id i)) := by
  intro s t s' hs hy
  obtain ⟨rfl, rfl⟩ := yields_findTransaction.1 hy
  exact ⟨hs, yields_findTransaction.2 ⟨(s'.ledger.transaction?_rename σ.injective i).symm, rfl⟩⟩

theorem mirrored_findPendingMatch (c : PaymentCriteria Id) :
    Mirrored σ (Option.map (Transaction.rename σ.id)) (findPendingMatch c) (findPendingMatch c) := by
  intro s t s' hs hy
  obtain ⟨rfl, rfl⟩ := yields_findPendingMatch.1 hy
  exact ⟨hs, yields_findPendingMatch.2 ⟨(s'.ledger.pendingMatch?_rename σ.id c).symm, rfl⟩⟩

theorem mirrored_findBlockchainTransaction (i : Id) :
    Mirrored σ (Option.map (BlockchainTransaction.rename σ.id)) (findBlockchainTransaction i)
      (findBlockchainTransaction (σ.id i)) := by
  intro s b s' hs hy
  obtain ⟨rfl, rfl⟩ := yields_findBlockchainTransaction.1 hy
  exact ⟨hs, yields_findBlockchainTransaction.2
    ⟨(s'.ledger.blockchainTransaction?_rename σ.injective i).symm, rfl⟩⟩

theorem mirrored_findCheckpoint (chain : Chain) : Mirrored σ id (findCheckpoint chain) (findCheckpoint chain) := by
  intro s c s' hs hy
  obtain ⟨rfl, rfl⟩ := yields_findCheckpoint.1 hy
  exact ⟨hs, yields_findCheckpoint.2 ⟨rfl, rfl⟩⟩

theorem mirrored_findUser (address : String) : Mirrored σ id (findUser address) (findUser address) := by
  intro s u s' hs hy
  obtain ⟨rfl, rfl⟩ := yields_findUser.1 hy
  exact ⟨hs, yields_findUser.2 ⟨rfl, rfl⟩⟩

theorem mirrored_findAddress (user : Id) : Mirrored σ id (findAddress user) (findAddress user) := by
  intro s a s' hs hy
  obtain ⟨rfl, rfl⟩ := yields_findAddress.1 hy
  exact ⟨hs, yields_findAddress.2 ⟨rfl, rfl⟩⟩

/-! ## Writing -/

theorem mirrored_createTransaction (d : TransactionDraft Id) :
    Mirrored σ (Transaction.rename σ.id) (createTransaction d) (createTransaction (d.rename σ.id)) := by
  intro s t s' hs hy
  obtain ⟨-, rfl, rfl⟩ := yields_createTransaction.1 hy
  have ht : (d.row (s.supply.next .transaction)).rename σ.id =
      (d.rename σ.id).row ((σ.session s).supply.next .transaction) := by
    rw [Renaming.supply_session, ← σ.next .transaction hs]
    rfl
  refine ⟨(σ.advance .transaction hs).1, yields_createTransaction.2 ⟨rfl, ht, ?_⟩⟩
  rw [← σ.session_issue s hs]
  exact σ.session_write _ fun l => l.rename_addTransaction σ.id _

theorem mirrored_updateTransaction (i : Id) (x : StateChange Id) :
    Mirrored σ (Transaction.rename σ.id) (updateTransaction i x) (updateTransaction (σ.id i) x) := by
  intro s t s' hs hy
  obtain ⟨-, u, hu, rfl, rfl⟩ := yields_updateTransaction.1 hy
  refine ⟨hs, yields_updateTransaction.2 ⟨rfl, u.rename σ.id, ?_, x.apply_rename σ.id u, ?_⟩⟩
  · rw [Renaming.ledger_session, Ledger.transaction?_rename σ.injective, hu]
    rfl
  · exact σ.session_write s fun l => l.rename_mapTransaction σ.injective i (x.apply_rename σ.id)

theorem mirrored_updateBlockchainTransaction (i : Id) (state : BlockchainState) :
    Mirrored σ (BlockchainTransaction.rename σ.id) (updateBlockchainTransaction i state)
      (updateBlockchainTransaction (σ.id i) state) := by
  intro s b s' hs hy
  obtain ⟨-, c, hc, rfl, rfl⟩ := yields_updateBlockchainTransaction.1 hy
  refine ⟨hs, yields_updateBlockchainTransaction.2 ⟨rfl, c.rename σ.id, ?_, moved_rename σ.id state c, ?_⟩⟩
  · rw [Renaming.ledger_session, Ledger.blockchainTransaction?_rename σ.injective, hc]
    rfl
  · exact σ.session_write s fun l => l.rename_mapBlockchainTransaction σ.injective i (moved_rename σ.id state)

theorem mirrored_recordFacts (i : Id) (sender recipient : Option String) (block : Option Int) :
    Mirrored σ id (recordFacts i sender recipient block) (recordFacts (σ.id i) sender recipient block) :=
  mirrored_change fun l => l.rename_mapBlockchainTransaction σ.injective i fun _ => rfl

theorem mirrored_link (b t : Id) : Mirrored σ id (link b t) (link (σ.id b) (σ.id t)) :=
  mirrored_change fun l => l.rename_link σ.injective b t

theorem mirrored_insertRecord (r : AuditRecord) :
    Mirrored σ id (insertRecord r) (insertRecord (r.rename σ.id)) :=
  mirrored_change fun l => l.rename_addRecord σ.injective r

theorem mirrored_raiseCheckpoint (chain : Chain) (block : Int) :
    Mirrored σ id (raiseCheckpoint chain block) (raiseCheckpoint chain block) :=
  mirrored_change fun l => l.rename_setCheckpoint σ.id chain block

end Work

end DonationLedger
