import DonationLedger.Proofs.Resolution.Log
import DonationLedger.Proofs.Work.Failing

/-!
# Why ledger transactions fail

The reasons of its own that each ledger transaction of a resolution has to fail: a pair that cannot be loaded
(`Ledger.Unpaired`), a receipt that takes back what was seen on the chain (`Ledger.Unclosed`), a job that is not due
(`Ledger.Unexpected`), a log whose blockchain transaction names a transaction that is not there (`Ledger.Dangling`).
All else that goes wrong with them goes wrong with the ledger: as long as no write is refused and no look-up misses, a
ledger transaction that has no reason of its own does not fail (`Work.Clean`).
-/

namespace DonationLedger

namespace Ledger

/-- Why a blockchain transaction and a transaction cannot be loaded as a pair. -/
inductive Unpaired (l : Ledger) (b t : Id) : Failure → Prop
  | blockchainTransaction (hb : l.blockchainTransaction? b = none) :
    Unpaired l b t (.settlement (.blockchainTransactionNotFound t))
  | transaction (ht : l.transaction? t = none) : Unpaired l b t (.settlement (.transactionNotFound t))
  | elsewhere {c : BlockchainTransaction} {i : Id} (hb : l.blockchainTransaction? b = some c)
    (hc : c.transaction = some i) (hi : i ≠ t) : Unpaired l b t (.settlement (.linkedElsewhere b i))

/-- Why a receipt cannot be applied to a pair. -/
inductive Unclosed (l : Ledger) (b t : Id) (r : Receipt) : Failure → Prop
  | unpaired {e : Failure} (h : l.Unpaired b t e) : Unclosed l b t r e
  | reverted {c : BlockchainTransaction} {u : Transaction} (hp : l.Pair b t c u) (hu : u.state = .pending)
    (hc : c.state = .succeeded) (hr : r.reverted = true) : Unclosed l b t r
      (.settlement (.invalidTransition BlockchainState.succeeded.title BlockchainState.reverted.title))

/-- Why a transaction is not one that a job settles. -/
inductive Unexpected (l : Ledger) (t : Id) : Failure → Prop
  | ended (h : ∀ u, l.transaction? t = some u → u.isPending = false) :
    Unexpected l t (.settlement (.transactionNotFound t))
  | queue {u : Transaction} (hu : l.transaction? t = some u) (hp : u.provider ≠ .blockchain) :
    Unexpected l t (.settlement (.wrongQueue t u.provider.name))
  | unnamed {u : Transaction} (hu : l.transaction? t = some u)
    (hb : ∀ b, u.blockchainTransaction = some b → l.blockchainTransaction? b = none) :
    Unexpected l t (.settlement (.blockchainTransactionNotFound t))

/-- The blockchain transaction of a hash names a transaction that is not there. -/
inductive Dangling (l : Ledger) (chain : Chain) (hash : String) : Failure → Prop
  | mk {c : BlockchainTransaction} {t : Id} (hc : l.byHash? chain hash = some c) (ht : c.transaction = some t)
    (hn : l.transaction? t = none) : Dangling l chain hash (.ledger (.linksMissing c.id t))

theorem Pair.not_unpaired {l : Ledger} {b t : Id} {c : BlockchainTransaction} {u : Transaction} {e : Failure}
    (hp : l.Pair b t c u) : ¬ l.Unpaired b t e := by
  rintro (hb | ht | ⟨hb, hc, hi⟩)
  · exact nomatch hb.symm.trans hp.blockchainTransaction
  · exact nomatch ht.symm.trans hp.transaction
  · obtain rfl := Option.some.inj (hb.symm.trans hp.blockchainTransaction)
    rcases hp.free with hn | ht
    · exact nomatch hn.symm.trans hc
    · exact hi (Option.some.inj (hc.symm.trans ht))

end Ledger

namespace Work

variable {P : Failure → Prop} {s s' : Session} {b t : Id} {c : BlockchainTransaction} {u : Transaction}

/-! ## Changes of state -/

theorem failsBy_advance {x : StateChange Id} (hu : u.state = .pending) (hx : x.state ≠ .pending)
    (hs : (s.ledger.transaction? u.id).isSome = true) : (advance u x).FailsBy P s := by
  unfold advance
  rw [(TransactionState.check_eq_ok_iff _ _).2 ⟨hu, hx⟩]
  exact failsBy_bind (failsBy_updateTransaction hs) fun _ _ _ => failsBy_pure _

/-- Only a change of what is final is refused. -/
theorem failsBy_advanceBlockchain {state : BlockchainState} (hx : state ≠ .pending)
    (hs : (s.ledger.blockchainTransaction? c.id).isSome = true)
    (hp : c.state ≠ state → c.state ≠ .pending →
      P (.settlement (.invalidTransition c.state.title state.title))) : (advanceBlockchain c state).FailsBy P s := by
  unfold advanceBlockchain
  split
  · exact failsBy_pure _
  · rename_i hne
    by_cases hc : c.state = .pending
    · rw [(BlockchainState.check_eq_ok_iff _ _).2 ⟨hc, hx⟩]
      exact failsBy_bind (failsBy_updateBlockchainTransaction hs) fun _ _ _ => failsBy_pure _
    · have hcheck : BlockchainState.check c.state state =
          .error (.settlement (.invalidTransition c.state.title state.title)) := by
        revert hc
        cases c.state <;> simp [BlockchainState.check, BlockchainState.successors]
      rw [hcheck]
      exact failsBy_throw (hp hne hc)

/-! ## Receipts -/

theorem failsBy_loadPair (b t : Id) : (loadPair b t).FailsBy (s.ledger.Unpaired b t) s := by
  refine failsBy_bind failsBy_look fun c s₁ hy => ?_
  obtain ⟨rfl, rfl⟩ := yields_findBlockchainTransaction.1 hy
  split
  · rename_i hb
    exact failsBy_throw (.blockchainTransaction hb)
  · rename_i c hb
    refine failsBy_bind failsBy_look fun u s₂ hy => ?_
    obtain ⟨rfl, rfl⟩ := yields_findTransaction.1 hy
    split
    · rename_i ht
      exact failsBy_throw (.transaction ht)
    · split
      · rename_i i hc
        split
        · exact failsBy_pure _
        · rename_i hi
          exact failsBy_throw (.elsewhere hb hc hi)
      · exact failsBy_bind failsBy_change fun _ _ _ => failsBy_pure _

theorem failsBy_settleStored (hs : (s.ledger.transaction? u.id).isSome = true) :
    (settleStored c u).FailsBy P s := by
  unfold settleStored
  split
  · exact failsBy_pure _
  · rename_i hn
    split
    · have hu := (Outcome.ofState?_eq_none_iff u.state).1 hn
      exact failsBy_bind (failsBy_advance hu nofun hs) fun _ _ _ => failsBy_pure _
    · exact failsBy_pure _

/-- The transaction of a pair that was loaded is stored. -/
theorem isSome_of_rewrites {l : Ledger} {v : Transaction} {d : BlockchainTransaction} {rs : List AuditRecord}
    (h : l.Rewrites v d rs s.ledger) (hi : v.id = u.id) : (s.ledger.transaction? u.id).isSome = true := by
  rw [← hi, h.transaction_self]
  rfl

theorem failsBy_openPair (b t : Id) : (openPair b t).FailsBy (s.ledger.Unpaired b t) s := by
  refine failsBy_bind (failsBy_loadPair b t) fun p s₁ hy => ?_
  obtain ⟨c, u, -, rfl, hl⟩ := loadPair_rewrites hy
  exact failsBy_bind (failsBy_settleStored (isSome_of_rewrites hl (u.joined_id c))) fun _ _ _ => failsBy_pure _

theorem failsBy_insertRecords (os : List Observed) : (insertRecords b os).FailsBy P s := by
  induction os generalizing s with
  | nil => exact failsBy_pure _
  | cons o os ih => exact failsBy_bind failsBy_change fun _ _ _ => ih

theorem failsBy_settleAgainst (os : List Observed) (hu : u.state = .pending)
    (hs : (s.ledger.transaction? u.id).isSome = true) : (settleAgainst u os).FailsBy P s := by
  refine failsBy_bind failsBy_look fun a s₁ hy => ?_
  obtain ⟨-, rfl⟩ := yields_findAddress.1 hy
  split
  · refine failsBy_bind failsBy_look fun x s₂ hy => ?_
    obtain ⟨-, rfl⟩ := yields_findUser.1 hy
    exact failsBy_bind (failsBy_advance hu nofun hs) fun _ _ _ => failsBy_pure _
  · exact failsBy_bind (failsBy_advance hu nofun hs) fun _ _ _ => failsBy_pure _

/-- A receipt is refused only if there is no pair, or if it was reverted after a log of it was seen. -/
theorem failsBy_closePair (b t : Id) (r : Receipt) (block : Int) (os : List Observed) :
    (closePair b t r block os).FailsBy (s.ledger.Unclosed b t r) s := by
  refine failsBy_bind ((failsBy_loadPair b t).imp fun _ => .unpaired) fun p s₁ hy => ?_
  obtain ⟨c, u, hp, rfl, hl⟩ := loadPair_rewrites hy
  refine failsBy_bind (failsBy_settleStored (isSome_of_rewrites hl (u.joined_id c))) fun o s₂ hy => ?_
  obtain ⟨v, hv, hl⟩ := settleStored_rewrites hl hy
  cases hv with
  | ended => exact failsBy_pure _
  | reverted => exact failsBy_pure _
  | undecided hu hc =>
    refine failsBy_bind failsBy_change fun _ s₃ hy => ?_
    obtain ⟨-, rfl⟩ := yields_recordFacts.1 hy
    have hl := hl.mapBlockchainTransaction (f := filled (some r.sender.spelling)
      (r.recipient.map FixedBytes.spelling) (some block)) fun _ => rfl
    have hb := Option.isSome_of_eq_some hl.blockchainTransaction_self
    split
    · rename_i hr
      refine failsBy_bind (failsBy_advanceBlockchain nofun hb fun hne hpend => ?_) fun _ s₄ hy => ?_
      · -- what is neither reverted nor pending was seen on the chain
        have hsucc : c.state = .succeeded := by
          revert hne hpend
          show c.state ≠ _ → c.state ≠ _ → _
          cases c.state <;> simp
        show s.ledger.Unclosed b t r (.settlement (.invalidTransition c.state.title _))
        rw [hsucc]
        exact .reverted hp hu hsucc hr
      · obtain ⟨-, hl⟩ := advanceBlockchain_rewrites hy hl rfl rfl
        have hs := isSome_of_rewrites hl (u.joined_id c)
        exact failsBy_bind (failsBy_advance hu nofun hs) fun _ _ _ => failsBy_pure _
    · refine failsBy_bind (failsBy_advanceBlockchain nofun hb fun hne hpend => ?_) fun _ s₄ hy => ?_
      · refine absurd ?_ hc
        revert hne hpend
        show c.state ≠ _ → c.state ≠ _ → _
        cases c.state <;> simp
      · obtain ⟨-, hl⟩ := advanceBlockchain_rewrites hy hl rfl rfl
        refine failsBy_bind (failsBy_insertRecords os) fun _ s₅ hy => ?_
        have hl := insertRecords_rewrites hy hl
        exact failsBy_settleAgainst os hu (isSome_of_rewrites hl (u.joined_id c))

/-! ## Jobs -/

theorem failsBy_findExpected (t : Id) : (findExpected t).FailsBy (s.ledger.Unexpected t) s := by
  refine failsBy_bind failsBy_look fun u s₁ hy => ?_
  obtain ⟨rfl, rfl⟩ := yields_findTransaction.1 hy
  split
  · rename_i hn
    exact failsBy_throw (.ended fun u hu => nomatch hn.symm.trans hu)
  · rename_i u hu
    split
    · rename_i hp
      refine failsBy_throw (.ended fun v hv => ?_)
      obtain rfl := Option.some.inj (hu.symm.trans hv)
      simpa using hp
    · split
      · rename_i hp
        exact failsBy_throw (.queue hu hp)
      · split
        · rename_i hb
          exact failsBy_throw (.unnamed hu fun b hb' => nomatch hb.symm.trans hb')
        · rename_i b hb
          refine failsBy_bind failsBy_look fun c s₂ hy => ?_
          obtain ⟨rfl, rfl⟩ := yields_findBlockchainTransaction.1 hy
          split
          · exact failsBy_pure _
          · rename_i hn
            refine failsBy_throw (.unnamed hu fun b' hb' => ?_)
            obtain rfl := Option.some.inj (hb.symm.trans hb')
            exact hn

/-! ## Logs -/

/-- The second look at a hash that is stored misses it only if look-ups do. -/
theorem failsBy_findAgain {chain : Chain} {hash : String} (hs : (s.ledger.byHash? chain hash).isSome = true) :
    FailsBy P (do
      match ← findByHash chain hash with
      | some b => pure b
      | none => throw (.ledger (.vanished hash))) s := by
  obtain ⟨c, hc⟩ := Option.isSome_iff_exists.1 hs
  rcases Nat.eq_zero_or_eq_succ_pred s.faults.hiddenLookups with h | h
  · have hy : (findByHash chain hash).Yields s (some c) s := yields_findByHash.2 (.inl ⟨h, hc.symm, rfl⟩)
    exact failsBy_of_yields (yields_bind.2 ⟨_, _, hy, yields_pure.2 ⟨rfl, rfl⟩⟩) (.refl _)
  · have hy : (findByHash chain hash).Yields s none (s.missing _) := yields_findByHash.2 (.inr ⟨_, h, rfl, rfl⟩)
    have hr := result_bind (findByHash chain hash) (fun x => match x with
      | some b => pure b
      | none => throw (.ledger (.vanished hash)) : _ → Work BlockchainTransaction) s
    rw [hy] at hr
    refine ⟨?_, fun e he => .inl ?_⟩
    · rw [hr]
      exact (failsBy_findByHash (P := P) chain hash).eases_of_yields hy
    · rw [hr] at he
      obtain rfl := Except.error.inj he
      exact .lookup (by rw [h]; exact Nat.succ_ne_zero _)

theorem failsBy_obtainBlockchainTransaction (chain : Chain) (hash : String) (block : Int) :
    (obtainBlockchainTransaction chain hash block).FailsBy P s := by
  refine failsBy_bind (failsBy_findByHash chain hash) fun x s₁ _ => ?_
  split
  · exact failsBy_pure _
  · refine failsBy_bind (failsBy_createBlockchainTransaction _) fun y s₂ hy => ?_
    split
    · exact failsBy_pure _
    · -- another writer was faster
      rcases yields_createBlockchainTransaction.1 hy with ⟨-, ⟨hs, -, rfl⟩ | ⟨-, _, -, hsome, -⟩⟩
      · exact failsBy_findAgain hs
      · cases hsome

theorem failsBy_findLinked (c : BlockchainTransaction) : (findLinked c).FailsBy
    (fun e => ∃ t, c.transaction = some t ∧ s.ledger.transaction? t = none ∧
      e = .ledger (.linksMissing c.id t)) s := by
  unfold findLinked
  split
  · rename_i t ht
    refine failsBy_bind failsBy_look fun u s₁ hy => ?_
    obtain ⟨rfl, rfl⟩ := yields_findTransaction.1 hy
    split
    · exact failsBy_pure _
    · rename_i hn
      exact failsBy_throw ⟨t, ht, hn, rfl⟩
  · exact failsBy_look

theorem failsBy_credit (hk : s.Keyed) (b : Id) (e : Event) (p : Payment) : (credit b e p).FailsBy P s := by
  refine failsBy_bind failsBy_look fun recipient s₁ hy => ?_
  obtain ⟨-, rfl⟩ := yields_findUser.1 hy
  split
  · exact failsBy_pure _
  · refine failsBy_bind failsBy_look fun sender s₂ hy => failsBy_bind failsBy_look fun u s₃ hy₃ => ?_
    obtain ⟨-, rfl⟩ := yields_findUser.1 hy
    obtain ⟨rfl, rfl⟩ := yields_findPendingMatch.1 hy₃
    split
    · rename_i u hu
      obtain ⟨hm, ha⟩ := Ledger.pendingMatch?_some hu
      refine failsBy_bind failsBy_change fun _ s₄ hy => ?_
      obtain ⟨-, rfl⟩ := yields_link.1 hy
      have hpend : u.state = .pending := by
        simp only [PaymentCriteria.admits, Transaction.isPending, Bool.and_eq_true, beq_iff_eq] at ha
        exact ha.1.1.1.1.1.2
      have hended : TransactionState.succeeded ≠ .pending := by decide
      refine failsBy_bind (failsBy_advance hpend hended ?_) fun _ _ _ => failsBy_pure _
      obtain ⟨v, hv, -⟩ := (Ledger.Follows.link s₃.ledger b u.id).transactions u.id u
        (Ledger.transaction?_of_mem hk.transactions hm)
      exact Option.isSome_of_eq_some hv
    · exact failsBy_bind (failsBy_createTransaction _) fun _ _ _ =>
        failsBy_bind failsBy_change fun _ _ _ => failsBy_pure _

/-- A log is refused only if its blockchain transaction names a transaction that is not there. -/
theorem failsBy_applyEvent {chain : Chain} {hash : String} {block index : Int} {e : Event}
    {verdict : Except InvalidReason Payment} (hk : s.Keyed) :
    (applyEvent chain hash block index e verdict).FailsBy (s.ledger.Dangling chain hash) s := by
  rw [applyEvent_eq]
  refine failsBy_bind (failsBy_obtainBlockchainTransaction chain hash block) fun c s₁ hy => ?_
  have ho := obtained hy
  have hb := ho.blockchainTransaction? hk
  have hk₁ := ((lasting_obtainBlockchainTransaction _ _ _).later hy).keyed hk
  refine failsBy_bind ?_ fun _ s₂ hy₂ => ?_
  · split
    · exact failsBy_pure _
    · rename_i hr
      refine failsBy_advanceBlockchain nofun (Option.isSome_of_eq_some hb) fun hne hpend => absurd ?_ hr
      revert hne hpend
      cases c.state <;> simp
  · have hk₂ := ((lasting_advanceUnlessReverted c).later hy₂).keyed hk₁
    obtain ⟨-, ht₂, -⟩ := advanceBlockchain_notes hy₂ (.start hb)
    refine failsBy_bind failsBy_change fun _ s₃ hy₃ => failsBy_bind failsBy_change fun _ s₄ hy₄ => ?_
    have hk₄ := ((lasting_insertRecord _).later hy₄).keyed (((lasting_recordFacts _ _ _ _).later hy₃).keyed hk₂)
    have ht : s₄.ledger.transactions = s.ledger.transactions := by
      rw [(yields_insertRecord.1 hy₄).2, (yields_recordFacts.1 hy₃).2]
      exact (Ledger.transactions_addRecord _ _).trans (ht₂.trans ho.transactions)
    refine failsBy_bind ((failsBy_findLinked c).imp ?_) fun x s₅ hy₅ => ?_
    · rintro _ ⟨t, hct, hn, rfl⟩
      refine .mk ?_ hct ?_
      · -- a blockchain transaction that was stored just now names none
        cases ho with
        | found hc => exact hc
        | stored _ hc => rw [hc] at hct; cases hct
      · rw [Ledger.transaction?, ← ht]
        exact hn
    · obtain ⟨-, -, rfl⟩ := yields_findLinked.1 hy₅
      split
      · split
        · exact failsBy_pure _
        · exact failsBy_pure _
      · split
        · exact failsBy_pure _
        · exact failsBy_bind (failsBy_credit hk₄ _ _ _) fun _ _ _ => failsBy_pure _

/-! ## Checkpoints -/

theorem failsBy_findFollowed (chain : Chain) : (findFollowed chain).FailsBy
    (fun e => ∃ c, s.ledger.checkpoint? chain = some c ∧ c.block < 0 ∧
      e = .ledger (.negativeCheckpoint c.block)) s := by
  refine failsBy_bind failsBy_look fun c s₁ hy => ?_
  obtain ⟨rfl, rfl⟩ := yields_findCheckpoint.1 hy
  split
  · exact failsBy_pure _
  · rename_i c hc
    split
    · rename_i hn
      exact failsBy_throw ⟨c, hc, hn, rfl⟩
    · exact failsBy_pure _

/-! ## Where nothing fails -/

variable {α : Type}

/-- Where nothing goes wrong with the ledger, the work does not fail. -/
def Clean (w : Work α) (s : Session) : Prop :=
  s.faults = .none → ∃ a s', Yields w s a s' ∧ s'.faults = .none

theorem Clean.faults {w : Work α} {a : α} (hc : w.Clean s) (hf : s.faults = .none) (hy : Yields w s a s') :
    s'.faults = .none := by
  obtain ⟨a', s₁, hy', hf'⟩ := hc hf
  rw [Yields, hy] at hy'
  cases hy'
  exact hf'

/-- It is enough that the work has no reason of its own to fail. -/
theorem FailsBy.clean {w : Work α} (h : w.FailsBy P s) (hp : ∀ e, ¬ P e) : w.Clean s :=
  (h.imp hp).yields

theorem clean_openPair (hp : s.ledger.Pair b t c u) : (openPair b t).Clean s :=
  (failsBy_openPair b t).clean fun _ => hp.not_unpaired

/-- A receipt that was not reverted can always be applied. -/
theorem clean_closePair {r : Receipt} (block : Int) (os : List Observed) (hp : s.ledger.Pair b t c u)
    (hr : r.reverted = false) : (closePair b t r block os).Clean s := by
  refine (failsBy_closePair b t r block os).clean fun e he => ?_
  cases he with
  | unpaired h => exact hp.not_unpaired h
  | reverted _ _ _ hr' => exact nomatch hr.symm.trans hr'

/-- A log of a blockchain transaction that some transaction waits for can always be applied. -/
theorem clean_applyEvent {chain : Chain} {hash : String} {block index : Int} {e : Event}
    {verdict : Except InvalidReason Payment} (hk : s.Keyed) (hc : s.ledger.byHash? chain hash = some c)
    (hl : (s.ledger.linked? c).isSome = true) : (applyEvent chain hash block index e verdict).Clean s := by
  refine (failsBy_applyEvent hk).clean fun e he => ?_
  cases he with
  | mk hc' ht hn =>
    obtain rfl := Option.some.inj (hc.symm.trans hc')
    simp only [Ledger.linked?, ht, hn] at hl
    cases hl

end Work

end DonationLedger
