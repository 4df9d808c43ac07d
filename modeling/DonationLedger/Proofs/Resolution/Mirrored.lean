import DonationLedger.Proofs.Resolution.Walk
import DonationLedger.Proofs.Work.Mirrored

/-!
# Resolutions on rows under other ids

Neither a receipt nor a log depends on which ids the rows go by: each of their ledger transactions mirrors itself
with the ids renamed that it was given.
-/

namespace DonationLedger

/-- The result for a transaction that goes by another id. -/
def Applied.rename (f : Id → Id) : Applied → Applied
  | removed => removed
  | malformed => malformed
  | invalid reason => invalid reason
  | linked t => linked (f t)
  | rejected t => rejected (f t)
  | created t => created (f t)
  | alreadySettled t => alreadySettled (f t)

/-- The step with its rows under other ids. -/
def LogStep.rename (f : Id → Id) : LogStep → LogStep
  | applied result => applied (result.rename f)
  | needsReceipt b t => needsReceipt (f b) (f t)

theorem Applied.ofOutcome_rename (f : Id → Id) (t : Id) (o : Outcome) :
    (ofOutcome t o).rename f = ofOutcome (f t) o := by cases o <;> rfl

theorem Tally.add_rename (f : Id → Id) (n : Tally) (a : Applied) : n.add (a.rename f) = n.add a := by
  cases a <;> rfl

theorem Ledger.linked?_rename {f : Id → Id} (hf : Function.Injective f) (l : Ledger) (c : BlockchainTransaction) :
    (l.rename f).linked? (c.rename f) = (l.linked? c).map (Transaction.rename f) := by
  unfold linked?
  rw [show (c.rename f).transaction = c.transaction.map f from rfl]
  cases c.transaction with
  | none => exact expecting?_rename hf l c.id
  | some t => exact transaction?_rename hf l t

namespace Work

variable {σ : Renaming}

theorem mirrored_advance (t : Transaction) (x : StateChange Id) :
    Mirrored σ id (advance t x) (advance (t.rename σ.id) x) := by
  unfold advance
  rw [show (t.rename σ.id).state = t.state from rfl]
  split
  · exact mirrored_throw _ _ _
  · exact mirrored_bind (mirrored_updateTransaction t.id x) fun _ => mirrored_pure rfl

theorem mirrored_advanceBlockchain (b : BlockchainTransaction) (state : BlockchainState) :
    Mirrored σ id (advanceBlockchain b state) (advanceBlockchain (b.rename σ.id) state) := by
  unfold advanceBlockchain
  rw [show (b.rename σ.id).state = b.state from rfl]
  split
  · exact mirrored_pure rfl
  · split
    · exact mirrored_throw _ _ _
    · exact mirrored_bind (mirrored_updateBlockchainTransaction b.id state) fun _ => mirrored_pure rfl

/-! ## Receipts -/

theorem mirrored_loadPair (b t : Id) :
    Mirrored σ (Prod.map (BlockchainTransaction.rename σ.id) (Transaction.rename σ.id)) (loadPair b t)
      (loadPair (σ.id b) (σ.id t)) := by
  refine mirrored_bind (mirrored_findBlockchainTransaction b) fun c => ?_
  cases c with
  | none => exact mirrored_throw _ _ _
  | some c =>
    refine mirrored_bind (mirrored_findTransaction t) fun u => ?_
    cases u with
    | none => exact mirrored_throw _ _ _
    | some u =>
      simp only [Option.map_some, show (c.rename σ.id).transaction = c.transaction.map σ.id from rfl]
      cases c.transaction with
      | none => exact mirrored_bind (mirrored_link b t) fun _ => mirrored_pure rfl
      | some k =>
        simp only [Option.map_some, σ.injective.eq_iff]
        split
        · exact mirrored_pure rfl
        · exact mirrored_throw _ _ _

theorem mirrored_settleStored (c : BlockchainTransaction) (t : Transaction) :
    Mirrored σ id (settleStored c t) (settleStored (c.rename σ.id) (t.rename σ.id)) := by
  unfold settleStored
  rw [show (t.rename σ.id).state = t.state from rfl, show (c.rename σ.id).state = c.state from rfl]
  split
  · exact mirrored_pure rfl
  · split
    · exact mirrored_bind (mirrored_advance t _) fun _ => mirrored_pure rfl
    · exact mirrored_pure rfl

theorem mirrored_openPair (b t : Id) :
    Mirrored σ (Prod.map (BlockchainTransaction.rename σ.id) id) (openPair b t) (openPair (σ.id b) (σ.id t)) :=
  mirrored_bind (mirrored_loadPair b t) fun p => mirrored_bind (mirrored_settleStored p.1 p.2) fun _ =>
    mirrored_pure rfl

theorem mirrored_settleAgainst (t : Transaction) (os : List Observed) :
    Mirrored σ id (settleAgainst t os) (settleAgainst (t.rename σ.id) os) := by
  refine mirrored_bind (mirrored_findAddress t.recipient) fun a => ?_
  rw [show Observed.paying? os (t.rename σ.id) (id a) = Observed.paying? os t a from rfl]
  split
  · exact mirrored_bind (mirrored_findUser _) fun u => mirrored_bind (mirrored_advance t _) fun _ => mirrored_pure rfl
  · exact mirrored_bind (mirrored_advance t _) fun _ => mirrored_pure rfl

theorem mirrored_insertRecords (b : Id) (os : List Observed) :
    Mirrored σ id (insertRecords b os) (insertRecords (σ.id b) os) := by
  induction os with
  | nil => exact mirrored_pure rfl
  | cons o os ih => exact mirrored_bind (mirrored_insertRecord (o.event.record b o.index)) fun _ => ih

theorem mirrored_closePair (b t : Id) (r : Receipt) (block : Int) (os : List Observed) :
    Mirrored σ id (closePair b t r block os) (closePair (σ.id b) (σ.id t) r block os) := by
  refine mirrored_bind (mirrored_loadPair b t) fun p => mirrored_bind (mirrored_settleStored p.1 p.2) fun o => ?_
  cases o with
  | some o => exact mirrored_pure rfl
  | none =>
    refine mirrored_bind (mirrored_recordFacts p.1.id _ _ _) fun _ => ?_
    split
    · exact mirrored_bind (mirrored_advanceBlockchain p.1 _) fun _ =>
        mirrored_bind (mirrored_advance p.2 _) fun _ => mirrored_pure rfl
    · exact mirrored_bind (mirrored_advanceBlockchain p.1 _) fun _ =>
        mirrored_bind (mirrored_insertRecords p.1.id os) fun _ => mirrored_settleAgainst p.2 os

/-! ## Logs -/

/-- Where a row is found or stored, look-ups that miss it make no difference. -/
theorem mirrored_obtainBlockchainTransaction (chain : Chain) (hash : String) (block : Int) :
    Mirrored σ (BlockchainTransaction.rename σ.id) (obtainBlockchainTransaction chain hash block)
      (obtainBlockchainTransaction chain hash block) := by
  intro s c s' hs hy
  have hfind : Yields (findByHash chain hash) (σ.session s)
      ((s.ledger.byHash? chain hash).map (BlockchainTransaction.rename σ.id)) (σ.session s) :=
    yields_findByHash.2 (.inl ⟨rfl, (s.ledger.byHash?_rename σ.id chain hash).symm, rfl⟩)
  cases obtained hy with
  | found hc hl hsup =>
    refine ⟨hsup ▸ hs, ?_⟩
    rw [hc] at hfind
    have he : σ.session s' = σ.session s := by
      unfold Renaming.session
      rw [hl, hsup]
    exact yields_bind.2 ⟨_, _, hfind, yields_pure.2 ⟨rfl, he⟩⟩
  | stored hn hc hl hsup =>
    rw [hn] at hfind
    have hc' : c.rename σ.id = BlockchainDraft.row ⟨chain, hash, none, .pending, some block⟩
        ((σ.session s).supply.next .blockchainTransaction) := by
      rw [Renaming.supply_session, ← σ.next .blockchainTransaction hs, hc]
      rfl
    have he : σ.session s' = ((σ.session s).issue .blockchainTransaction).write fun l =>
        l.addBlockchainTransaction (c.rename σ.id) := by
      rw [← σ.session_issue s hs, ← σ.session_write _ fun l => l.rename_addBlockchainTransaction σ.id c]
      unfold Renaming.session
      rw [hl, hsup]
      rfl
    refine ⟨hsup ▸ (σ.advance .blockchainTransaction hs).1, yields_bind.2 ⟨_, _, hfind, yields_bind.2
      ⟨_, _, yields_createBlockchainTransaction.2 ⟨rfl, .inr ⟨?_, _, hc', rfl, he⟩⟩, yields_pure.2 ⟨rfl, rfl⟩⟩⟩⟩
    rw [Renaming.ledger_session, Ledger.byHash?_rename, hn]
    rfl

theorem mirrored_findLinked (c : BlockchainTransaction) :
    Mirrored σ (Option.map (Transaction.rename σ.id)) (findLinked c) (findLinked (c.rename σ.id)) := by
  intro s t s' hs hy
  obtain ⟨hx, rfl, rfl⟩ := yields_findLinked.1 hy
  refine ⟨hs, yields_findLinked.2 ⟨fun h => ?_, (s'.ledger.linked?_rename σ.injective c).symm, rfl⟩⟩
  rw [Option.isSome_map]
  exact hx (by simpa [BlockchainTransaction.rename] using h)

theorem mirrored_credit (b : Id) (e : Event) (p : Payment) :
    Mirrored σ (Applied.rename σ.id) (credit b e p) (credit (σ.id b) e p) := by
  refine mirrored_bind (mirrored_findUser _) fun recipient => ?_
  cases recipient with
  | none => exact mirrored_pure rfl
  | some recipient =>
    refine mirrored_bind (mirrored_findUser _) fun sender =>
      mirrored_bind (mirrored_findPendingMatch _) fun t => ?_
    cases t with
    | some t =>
      exact mirrored_bind (mirrored_link b t.id) fun _ =>
        mirrored_bind (mirrored_advance t _) fun _ => mirrored_pure rfl
    | none =>
      exact mirrored_bind (mirrored_createTransaction (donation p b recipient sender)) fun t =>
        mirrored_bind (mirrored_link b t.id) fun _ => mirrored_pure rfl

theorem mirrored_noteEvent (c : BlockchainTransaction) (block index : Int) (e : Event)
    (verdict : Except InvalidReason Payment) : Mirrored σ (LogStep.rename σ.id)
      (noteEvent c block index e verdict) (noteEvent (c.rename σ.id) block index e verdict) := by
  refine mirrored_bind (mirrored_recordFacts c.id _ _ _) fun _ =>
    mirrored_bind (mirrored_insertRecord (e.record c.id index)) fun _ =>
      mirrored_bind (mirrored_findLinked c) fun t => ?_
  cases t with
  | some t =>
    simp only [Option.map_some, show (t.rename σ.id).isPending = t.isPending from rfl]
    split
    · exact mirrored_pure rfl
    · exact mirrored_pure rfl
  | none =>
    cases verdict with
    | error reason => exact mirrored_pure rfl
    | ok p => exact mirrored_bind (mirrored_credit c.id e p) fun _ => mirrored_pure rfl

theorem mirrored_applyEvent (chain : Chain) (hash : String) (block index : Int) (e : Event)
    (verdict : Except InvalidReason Payment) : Mirrored σ (LogStep.rename σ.id)
      (applyEvent chain hash block index e verdict) (applyEvent chain hash block index e verdict) := by
  rw [applyEvent_eq]
  refine mirrored_bind (mirrored_obtainBlockchainTransaction chain hash block) fun c =>
    mirrored_bind (g := id) ?_ fun _ => mirrored_noteEvent c block index e verdict
  rw [show (c.rename σ.id).state = c.state from rfl]
  split
  · exact mirrored_pure rfl
  · exact mirrored_advanceBlockchain c .succeeded

/-! ## Checkpoints -/

theorem mirrored_findFollowed (chain : Chain) : Mirrored σ id (findFollowed chain) (findFollowed chain) := by
  refine mirrored_bind (mirrored_findCheckpoint chain) fun c => ?_
  cases c with
  | none => exact mirrored_pure rfl
  | some c =>
    simp only [id]
    split
    · exact mirrored_throw _ _ _
    · exact mirrored_pure rfl

end Work

end DonationLedger
