import DonationLedger.Proofs.Resolution.Resume

/-!
# Settling gives out no ids

Settling from a receipt stores no row that goes by an id of its own. So it does the same whatever ids were given out
before (`Work.Frugal`, `Process.Frugal`), and its session gives out the same id next as it did before.
-/

namespace DonationLedger

/-- The session with another supply of ids. -/
def Session.supplied (s : Session) (q : IdSupply) : Session := { s with supply := q }

@[simp] theorem Session.ledger_supplied (s : Session) (q : IdSupply) : (s.supplied q).ledger = s.ledger := rfl

@[simp] theorem Session.faults_supplied (s : Session) (q : IdSupply) : (s.supplied q).faults = s.faults := rfl

/-- The work asks for no id: with another supply it ends the same, and with that supply. -/
def Work.Frugal {α : Type} (w : Work α) : Prop :=
  ∀ (s : Session) (q : IdSupply), w.result (s.supplied q) = ((w.result s).1, (w.result s).2.supplied q)

/-- The process asks for no id, alone with whatever nodes. -/
def Process.Frugal {α : Type} (p : Process α) : Prop :=
  ∀ (reader : Reader) (s : Session) (q : IdSupply),
    p.alone reader (s.supplied q) = ((p.alone reader s).1, (p.alone reader s).2.supplied q)

namespace Work

variable {α β : Type} {w : Work α} {k : α → Work β} {b t : Id}

theorem frugal_pure (a : α) : Frugal (pure a) := fun _ _ => rfl

theorem frugal_throw (e : Failure) : Frugal (throw e : Work α) := fun _ _ => rfl

theorem frugal_bind (hw : w.Frugal) (hk : ∀ a, (k a).Frugal) : (w >>= k).Frugal := by
  intro s q
  rw [result_bind, hw s q, result_bind]
  rcases w.result s with ⟨e | a, s'⟩
  · rfl
  · exact hk a s' q

theorem frugal_rows : Frugal rows := fun _ _ => rfl

theorem frugal_look {f : Ledger → α} : Frugal (do let l ← rows; pure (f l)) :=
  frugal_bind frugal_rows fun _ => frugal_pure _

theorem frugal_gate : Frugal gate := by
  intro s q
  rw [result_gate, result_gate, Session.faults_supplied]
  split <;> rfl

theorem frugal_modify {f : Session → Session} (h : ∀ s q, f (s.supplied q) = (f s).supplied q) :
    Frugal (modify f) := fun s q =>
  congrArg (Prod.mk (Except.ok ())) (h s q)

theorem frugal_change (f : Ledger → Ledger) : Frugal (change f) :=
  frugal_bind frugal_gate fun _ => frugal_modify fun _ _ => rfl

/-! ## Rows -/

theorem frugal_updateTransaction (id : Id) (c : StateChange Id) : Frugal (updateTransaction id c) := by
  refine frugal_bind frugal_gate fun _ => frugal_bind frugal_rows fun l => ?_
  split
  · exact frugal_throw _
  · exact frugal_bind (frugal_modify fun _ _ => rfl) fun _ => frugal_pure _

theorem frugal_updateBlockchainTransaction (id : Id) (state : BlockchainState) :
    Frugal (updateBlockchainTransaction id state) := by
  refine frugal_bind frugal_gate fun _ => frugal_bind frugal_rows fun l => ?_
  split
  · exact frugal_throw _
  · exact frugal_bind (frugal_modify fun _ _ => rfl) fun _ => frugal_pure _

theorem frugal_advance (u : Transaction) (x : StateChange Id) : Frugal (advance u x) := by
  unfold advance
  split
  · exact frugal_throw _
  · exact frugal_bind (frugal_updateTransaction _ _) fun _ => frugal_pure _

theorem frugal_advanceBlockchain (c : BlockchainTransaction) (state : BlockchainState) :
    Frugal (advanceBlockchain c state) := by
  unfold advanceBlockchain
  split
  · exact frugal_pure _
  · split
    · exact frugal_throw _
    · exact frugal_bind (frugal_updateBlockchainTransaction _ _) fun _ => frugal_pure _

/-! ## Receipts -/

theorem frugal_loadPair (b t : Id) : Frugal (loadPair b t) := by
  refine frugal_bind frugal_look fun c => ?_
  split
  · exact frugal_throw _
  · refine frugal_bind frugal_look fun u => ?_
    split
    · exact frugal_throw _
    · split
      · split
        · exact frugal_pure _
        · exact frugal_throw _
      · exact frugal_bind (frugal_change _) fun _ => frugal_pure _

theorem frugal_settleStored (c : BlockchainTransaction) (u : Transaction) : Frugal (settleStored c u) := by
  unfold settleStored
  split
  · exact frugal_pure _
  · split
    · exact frugal_bind (frugal_advance _ _) fun _ => frugal_pure _
    · exact frugal_pure _

theorem frugal_openPair (b t : Id) : Frugal (openPair b t) :=
  frugal_bind (frugal_loadPair b t) fun _ => frugal_bind (frugal_settleStored _ _) fun _ => frugal_pure _

theorem frugal_insertRecords (b : Id) (os : List Observed) : Frugal (insertRecords b os) := by
  induction os with
  | nil => exact frugal_pure _
  | cons o os ih => exact frugal_bind (frugal_change _) fun _ => ih

theorem frugal_settleAgainst (u : Transaction) (os : List Observed) : Frugal (settleAgainst u os) := by
  refine frugal_bind frugal_look fun a => ?_
  split
  · exact frugal_bind frugal_look fun _ => frugal_bind (frugal_advance _ _) fun _ => frugal_pure _
  · exact frugal_bind (frugal_advance _ _) fun _ => frugal_pure _

theorem frugal_closePair (b t : Id) (r : Receipt) (block : Int) (os : List Observed) :
    Frugal (closePair b t r block os) := by
  refine frugal_bind (frugal_loadPair b t) fun p => frugal_bind (frugal_settleStored _ _) fun o => ?_
  split
  · exact frugal_pure _
  · refine frugal_bind (frugal_change _) fun _ => ?_
    split
    · exact frugal_bind (frugal_advanceBlockchain _ _) fun _ => frugal_bind (frugal_advance _ _) fun _ => frugal_pure _
    · exact frugal_bind (frugal_advanceBlockchain _ _) fun _ =>
        frugal_bind (frugal_insertRecords _ _) fun _ => frugal_settleAgainst _ _

end Work

namespace Process

variable {α β : Type} {p : Process α} {k : α → Process β}

theorem frugal_finish (r : Except Failure α) : Frugal (finish r) := fun _ _ _ => rfl

theorem frugal_bind (hp : p.Frugal) (hk : ∀ a, (k a).Frugal) : (p >>= k).Frugal := by
  intro reader s q
  have hbind (s : Session) : (p >>= k).alone reader s = _ := alone_andThen reader p _ s
  rw [hbind, hbind, hp reader s q]
  rcases p.alone reader s with ⟨e | a, s'⟩
  · rfl
  · exact hk a reader s' q

theorem frugal_commit {w : Work α} (hw : w.Frugal) : (commit w).Frugal := by
  intro reader s q
  show (s.supplied q).commit w = ((s.commit w).1, (s.commit w).2.supplied q)
  have hr : w.run.run (s.supplied q) = ((w.run.run s).1, (w.run.run s).2.supplied q) := hw s q
  unfold Session.commit
  rw [hr]
  rcases w.run.run s with ⟨e | a, s'⟩
  · rfl
  · rfl

theorem frugal_observeReceipt (d : Deployment) (receipt : Receipt) : (observeReceipt d receipt).Frugal := by
  intro reader s q
  rw [alone_observeReceipt, alone_observeReceipt, Session.ledger_supplied]

theorem frugal_resolveReceipt (d : Deployment) (b t : Id) : (resolveReceipt d b t).Frugal := by
  rw [resolveReceipt_eq]
  refine frugal_bind (frugal_commit (Work.frugal_openPair b t)) fun p => ?_
  unfold closeOpened
  split
  · exact frugal_finish _
  · split
    · exact frugal_finish _
    · refine frugal_bind (fun _ _ _ => rfl) fun answer => ?_
      cases answer with
      | none => exact frugal_finish _
      | some receipt =>
        refine frugal_bind (frugal_observeReceipt d receipt) fun os => ?_
        unfold closeObserved
        split
        · exact frugal_finish _
        · exact frugal_commit (Work.frugal_closePair _ _ _ _ _)

theorem frugal_closeNoted (d : Deployment) (step : LogStep) : (closeNoted d step).Frugal := by
  cases step with
  | applied a => exact frugal_finish _
  | needsReceipt b t => exact frugal_bind (frugal_resolveReceipt d b t) fun _ => frugal_finish _

end Process

end DonationLedger
