import DonationLedger.Proofs.Ledger.Rewrites
import DonationLedger.Proofs.Work.Lasting
import DonationLedger.Resolution.Receipt

/-!
# The ledger transactions of a receipt

What loading, opening and closing a pair do to the ledger: which rows they find, which two rows they
rewrite, and how (`Opened`, `Closed`). What the operations of the ledger are made of is not needed
any more after this.
-/

namespace DonationLedger

/-- The blockchain transaction as the one that settles `t`. -/
def BlockchainTransaction.linkedTo (c : BlockchainTransaction) (t : Id) : BlockchainTransaction :=
  { c with transaction := some t }

theorem BlockchainTransaction.linkedTo_of_linked (c : BlockchainTransaction) {t : Id}
    (h : c.transaction = some t) : c.linkedTo t = c := by
  unfold linkedTo
  rw [← h]

/-- The blockchain transaction with what a receipt tells of it. -/
def BlockchainTransaction.told (c : BlockchainTransaction) (r : Receipt) (block : Int) :
    BlockchainTransaction :=
  Work.filled (some r.sender.spelling) (r.recipient.map FixedBytes.spelling) (some block) c

/-- The transaction as it is once a blockchain transaction is linked to it, unless that one is linked
already. -/
def Transaction.joined (u : Transaction) (c : BlockchainTransaction) : Transaction :=
  if c.transaction.isNone then { u with blockchainTransaction := some c.id } else u

theorem Transaction.joined_of_linked (u : Transaction) {c : BlockchainTransaction} {t : Id}
    (h : c.transaction = some t) : u.joined c = u := by
  unfold joined
  rw [h]
  rfl

theorem Transaction.joined_of_unlinked (u : Transaction) {c : BlockchainTransaction}
    (h : c.transaction = none) : u.joined c = { u with blockchainTransaction := some c.id } := by
  unfold joined
  rw [h]
  rfl

/-- The stored rows of a blockchain transaction and of a transaction that it may settle. -/
structure Ledger.Pair (l : Ledger) (b t : Id) (c : BlockchainTransaction) (u : Transaction) : Prop where
  blockchainTransaction : l.blockchainTransaction? b = some c
  transaction : l.transaction? t = some u
  free : c.transaction = none ∨ c.transaction = some t

/-- There is one pair of these ids. -/
theorem Ledger.Pair.unique {l : Ledger} {b t : Id} {c d : BlockchainTransaction} {u v : Transaction}
    (h : l.Pair b t d v) (hc : l.blockchainTransaction? b = some c) (hu : l.transaction? t = some u) :
    d = c ∧ v = u :=
  ⟨Option.some.inj (h.blockchainTransaction.symm.trans hc), Option.some.inj (h.transaction.symm.trans hu)⟩

/-- The blockchain transaction of `b` settles the transaction of `t`, which has ended with the outcome. -/
def Ledger.Ended (l : Ledger) (b t : Id) (o : Outcome) : Prop :=
  ∃ c u, l.blockchainTransaction? b = some c ∧ c.transaction = some t ∧ l.transaction? t = some u ∧ u.state = o.state

namespace Work

variable {s s' : Session} {b t : Id}

/-! ## Changes of state -/

theorem yields_advance {u : Transaction} {x : StateChange Id} {r : Unit} :
    Yields (advance u x) s r s' ↔ u.state = .pending ∧ x.state ≠ .pending ∧ s.faults.allows = true ∧
      (s.ledger.transaction? u.id).isSome = true ∧
      s' = s.write fun l => l.mapTransaction u.id x.apply := by
  unfold advance
  split
  · rename_i e he
    have : ¬ (u.state = .pending ∧ x.state ≠ .pending) := fun h => by
      rw [(TransactionState.check_eq_ok_iff _ _).2 h] at he
      cases he
    exact ⟨fun h => absurd h not_yields_throw, fun h => absurd ⟨h.1, h.2.1⟩ this⟩
  · rename_i he
    have hc := (TransactionState.check_eq_ok_iff _ _).1 he
    simp only [yields_bind, yields_updateTransaction, yields_pure, Option.isSome_iff_exists]
    constructor
    · rintro ⟨_, _, ⟨ha, v, hv, rfl, rfl⟩, _, rfl⟩
      exact ⟨hc.1, hc.2, ha, ⟨v, hv⟩, rfl⟩
    · rintro ⟨_, _, ha, ⟨v, hv⟩, rfl⟩
      exact ⟨_, _, ⟨ha, v, hv, rfl, rfl⟩, trivial, rfl⟩

theorem lasting_advance (u : Transaction) (x : StateChange Id) : Lasting (advance u x) := by
  unfold advance
  split
  · exact lasting_throw _
  · exact lasting_bind (lasting_updateTransaction _ _) fun _ => lasting_pure _

theorem yields_advanceBlockchain {c : BlockchainTransaction} {state : BlockchainState} {r : Unit} :
    Yields (advanceBlockchain c state) s r s' ↔ (c.state = state ∧ s' = s) ∨
      (c.state = .pending ∧ state ≠ .pending ∧ s.faults.allows = true ∧
      (s.ledger.blockchainTransaction? c.id).isSome = true ∧
      s' = s.write fun l => l.mapBlockchainTransaction c.id (moved state)) := by
  unfold advanceBlockchain
  split
  · rename_i h
    simp only [yields_pure, h]
    constructor
    · exact fun hs => .inl ⟨trivial, hs.2⟩
    · rintro (⟨_, rfl⟩ | ⟨h1, h2, _⟩)
      · exact ⟨trivial, rfl⟩
      · exact absurd h1 h2
  · rename_i h
    split
    · rename_i e he
      have : ¬ (c.state = .pending ∧ state ≠ .pending) := fun h => by
        rw [(BlockchainState.check_eq_ok_iff _ _).2 h] at he
        cases he
      constructor
      · exact fun h => absurd h not_yields_throw
      · rintro (⟨h1, _⟩ | ⟨h1, h2, _⟩)
        · exact absurd h1 h
        · exact absurd ⟨h1, h2⟩ this
    · rename_i he
      have hc := (BlockchainState.check_eq_ok_iff _ _).1 he
      simp only [yields_bind, yields_updateBlockchainTransaction, yields_pure,
        Option.isSome_iff_exists]
      constructor
      · rintro ⟨_, _, ⟨ha, v, hv, rfl, rfl⟩, _, rfl⟩
        exact .inr ⟨hc.1, hc.2, ha, ⟨v, hv⟩, rfl⟩
      · rintro (⟨h1, _⟩ | ⟨_, _, ha, ⟨v, hv⟩, rfl⟩)
        · exact absurd h1 h
        · exact ⟨_, _, ⟨ha, v, hv, rfl, rfl⟩, trivial, rfl⟩

theorem lasting_advanceBlockchain (c : BlockchainTransaction) (state : BlockchainState) :
    Lasting (advanceBlockchain c state) := by
  unfold advanceBlockchain
  split
  · exact lasting_pure _
  · split
    · exact lasting_throw _
    · exact lasting_bind (lasting_updateBlockchainTransaction _ _) fun _ => lasting_pure _

/-! ## Loading a pair -/

theorem yields_loadPair {p : BlockchainTransaction × Transaction} :
    Yields (loadPair b t) s p s' ↔ ∃ c u, s.ledger.blockchainTransaction? b = some c ∧
      s.ledger.transaction? t = some u ∧ p = (c.linkedTo t, u) ∧
      ((c.transaction = some t ∧ s' = s) ∨
      (c.transaction = none ∧ s.faults.allows = true ∧ s' = s.write fun l => l.link b t)) := by
  simp only [loadPair, yields_bind, yields_findBlockchainTransaction]
  constructor
  · rintro ⟨_, _, ⟨rfl, rfl⟩, h⟩
    split at h
    · exact absurd h not_yields_throw
    · rename_i c hc
      obtain ⟨_, _, hf, h⟩ := yields_bind.1 h
      obtain ⟨rfl, rfl⟩ := yields_findTransaction.1 hf
      split at h
      · exact absurd h not_yields_throw
      · rename_i u hu
        refine ⟨c, u, hc, hu, ?_⟩
        split at h
        · rename_i k hk
          by_cases hkt : k = t
          · rw [if_pos hkt] at h
            obtain ⟨rfl, rfl⟩ := yields_pure.1 h
            rw [hkt] at hk
            exact ⟨by rw [c.linkedTo_of_linked hk], .inl ⟨hk, rfl⟩⟩
          · rw [if_neg hkt] at h
            exact absurd h not_yields_throw
        · rename_i hk
          simp only [yields_bind, yields_link, yields_pure] at h
          obtain ⟨_, _, ⟨ha, rfl⟩, rfl, rfl⟩ := h
          exact ⟨rfl, .inr ⟨hk, ha, rfl⟩⟩
  · rintro ⟨c, u, hc, hu, rfl, h⟩
    refine ⟨_, _, ⟨rfl, rfl⟩, ?_⟩
    rw [hc]
    refine yields_bind.2 ⟨_, _, yields_findTransaction.2 ⟨rfl, rfl⟩, ?_⟩
    rw [hu]
    rcases h with ⟨hk, rfl⟩ | ⟨hk, ha, rfl⟩
    · simp only [hk, if_true, yields_pure, and_true]
      rw [c.linkedTo_of_linked hk]
    · simp only [hk, yields_bind, yields_link, yields_pure]
      exact ⟨(), _, ⟨ha, rfl⟩, rfl, rfl⟩

/-- The rows of a pair that was loaded, and what linking made of them. -/
theorem loadPair_rewrites {p : BlockchainTransaction × Transaction}
    (h : Yields (loadPair b t) s p s') : ∃ c u, s.ledger.Pair b t c u ∧ p = (c.linkedTo t, u) ∧
      s.ledger.Rewrites (u.joined c) (c.linkedTo t) [] s'.ledger := by
  obtain ⟨c, u, hc, hu, rfl, ⟨hk, rfl⟩ | ⟨hk, -, rfl⟩⟩ := yields_loadPair.1 h
  · refine ⟨c, u, ⟨hc, hu, .inr hk⟩, rfl, ?_⟩
    rw [u.joined_of_linked hk, c.linkedTo_of_linked hk]
    exact .start hu hc
  · refine ⟨c, u, ⟨hc, hu, .inl hk⟩, rfl, ?_⟩
    rw [u.joined_of_unlinked hk]
    obtain ⟨-, rfl⟩ := Ledger.transaction?_mem hu
    obtain ⟨-, rfl⟩ := Ledger.blockchainTransaction?_mem hc
    exact (Ledger.Rewrites.start hu hc).link

theorem lasting_loadPair (b t : Id) : Lasting (loadPair b t) := by
  refine lasting_bind lasting_look fun c => ?_
  split
  · exact lasting_throw _
  · refine lasting_bind lasting_look fun u => ?_
    split
    · exact lasting_throw _
    · split
      · split
        · exact lasting_pure _
        · exact lasting_throw _
      · exact lasting_bind (lasting_link _ _) fun _ => lasting_pure _

/-! ## What is stored already -/

theorem yields_settleStored {c : BlockchainTransaction} {u : Transaction} {o : Option Outcome} :
    Yields (settleStored c u) s o s' ↔
      (u.state ≠ .pending ∧ o = Outcome.ofState? u.state ∧ s' = s) ∨
      (u.state = .pending ∧ c.state = .reverted ∧ o = some .failed ∧ s.faults.allows = true ∧
        (s.ledger.transaction? u.id).isSome = true ∧
        s' = s.write fun l => l.mapTransaction u.id (StateChange.into .failed).apply) ∨
      (u.state = .pending ∧ c.state ≠ .reverted ∧ o = none ∧ s' = s) := by
  unfold settleStored
  split
  · rename_i out ho
    have hu : u.state ≠ .pending := fun h => by rw [h] at ho; cases ho
    rw [yields_pure]
    simp [hu, ho]
  · rename_i ho
    have hu := (Outcome.ofState?_eq_none_iff _).1 ho
    split
    · rename_i hc
      simp only [yields_bind, yields_advance, yields_pure]
      constructor
      · rintro ⟨_, _, ⟨_, _, ha, hs, rfl⟩, rfl, rfl⟩
        exact .inr (.inl ⟨hu, hc, rfl, ha, hs, rfl⟩)
      · rintro (⟨h, _⟩ | ⟨_, _, rfl, ha, hs, rfl⟩ | ⟨_, h, _⟩)
        · exact absurd hu h
        · exact ⟨(), _, ⟨hu, by simp [StateChange.into], ha, hs, rfl⟩, rfl, rfl⟩
        · exact absurd hc h
    · rename_i hc
      rw [yields_pure]
      simp [hu, hc]

theorem lasting_settleStored (c : BlockchainTransaction) (u : Transaction) :
    Lasting (settleStored c u) := by
  unfold settleStored
  split
  · exact lasting_pure _
  · split
    · exact lasting_bind (lasting_advance _ _) fun _ => lasting_pure _
    · exact lasting_pure _

/-! ## Opening a pair -/

end Work

/-- What is stored of a pair decides on an outcome or asks for the receipt. Last is the transaction as
it is then. -/
inductive Stored (c : BlockchainTransaction) (u : Transaction) : Option Outcome → Transaction → Prop
  | ended {o : Outcome} (hu : Outcome.ofState? u.state = some o) : Stored c u (some o) (u.joined c)
  | reverted (hu : u.state = .pending) (hc : c.state = .reverted) :
    Stored c u (some .failed) { u.joined c with state := .failed }
  | undecided (hu : u.state = .pending) (hc : c.state ≠ .reverted) : Stored c u none (u.joined c)

namespace Transaction

@[simp] theorem joined_id (u : Transaction) (c : BlockchainTransaction) : (u.joined c).id = u.id := by
  unfold joined; split <;> rfl

@[simp] theorem joined_state (u : Transaction) (c : BlockchainTransaction) :
    (u.joined c).state = u.state := by
  unfold joined; split <;> rfl

@[simp] theorem joined_remark (u : Transaction) (c : BlockchainTransaction) :
    (u.joined c).remark = u.remark := by
  unfold joined; split <;> rfl

@[simp] theorem joined_sender (u : Transaction) (c : BlockchainTransaction) :
    (u.joined c).sender = u.sender := by
  unfold joined; split <;> rfl

@[simp] theorem joined_recipient (u : Transaction) (c : BlockchainTransaction) :
    (u.joined c).recipient = u.recipient := by
  unfold joined; split <;> rfl

@[simp] theorem joined_currency (u : Transaction) (c : BlockchainTransaction) :
    (u.joined c).currency = u.currency := by
  unfold joined; split <;> rfl

@[simp] theorem joined_amount (u : Transaction) (c : BlockchainTransaction) :
    (u.joined c).amount = u.amount := by
  unfold joined; split <;> rfl

@[simp] theorem joined_target (u : Transaction) (c : BlockchainTransaction) :
    (u.joined c).target = u.target := by
  unfold joined; split <;> rfl

end Transaction

namespace Outcome

theorem state_ne_pending (o : Outcome) : o.state ≠ .pending := by cases o <;> simp [state]

theorem eq_of_state_eq {o o' : Outcome} (h : o.state = o'.state) : o = o' := by
  have := congrArg ofState? h
  rwa [ofState?_state, ofState?_state, Option.some.injEq] at this

theorem state_of_ofState? {s : TransactionState} {o : Outcome} (h : ofState? s = some o) : o.state = s := by
  cases s <;> cases h <;> rfl

end Outcome

theorem StateChange.apply_of_pending (x : StateChange Id) {u : Transaction} (h : u.state = .pending) :
    x.apply u = { u with
      state := x.state, remark := x.remark <|> u.remark, sender := x.sender.getD u.sender } := by
  simp [apply, Transaction.isPending, h]

namespace Work

variable {s s' : Session} {b t : Id}

/-- A pair was loaded and then its stored outcome looked for. -/
theorem settleStored_rewrites {c : BlockchainTransaction} {u : Transaction} {o : Option Outcome}
    {l : Ledger} (hl : l.Rewrites (u.joined c) (c.linkedTo t) [] s.ledger)
    (h : Yields (settleStored (c.linkedTo t) u) s o s') :
    ∃ v, Stored c u o v ∧ l.Rewrites v (c.linkedTo t) [] s'.ledger := by
  rcases yields_settleStored.1 h with ⟨hu, rfl, rfl⟩ | ⟨hu, hc, rfl, -, -, rfl⟩ | ⟨hu, hc, rfl, rfl⟩
  · obtain ⟨o, ho⟩ := Option.ne_none_iff_exists'.1 (mt (Outcome.ofState?_eq_none_iff _).1 hu)
    exact ⟨_, ho ▸ .ended ho, hl⟩
  · refine ⟨_, .reverted hu hc, ?_⟩
    have := hl.mapTransaction (StateChange.into .failed).apply_id
    rw [StateChange.apply_of_pending _ (by simpa using hu), Transaction.joined_id] at this
    simpa [StateChange.into] using this
  · exact ⟨_, .undecided hu hc, hl⟩

theorem openPair_rewrites {p : BlockchainTransaction × Option Outcome}
    (h : Yields (openPair b t) s p s') : ∃ c u v, s.ledger.Pair b t c u ∧ p.1 = c.linkedTo t ∧
      Stored c u p.2 v ∧ s.ledger.Rewrites v (c.linkedTo t) [] s'.ledger := by
  simp only [openPair, yields_bind, yields_pure] at h
  obtain ⟨_, s₁, hp, o, _, ho, rfl, rfl⟩ := h
  obtain ⟨c, u, hcu, rfl, hl⟩ := loadPair_rewrites hp
  obtain ⟨v, hv, hl⟩ := settleStored_rewrites hl ho
  exact ⟨c, u, v, hcu, rfl, hv, hl⟩

theorem lasting_openPair (b t : Id) : Lasting (openPair b t) :=
  lasting_bind (lasting_loadPair b t) fun _ => lasting_bind (lasting_settleStored _ _) fun _ => lasting_pure _

/-! ## Closing a pair -/

end Work

/-- What a receipt decides about a pair, and the pair and its new audit records as they are then. The
addresses on file are those of `l`. -/
inductive Closed (l : Ledger) (t : Id) (r : Receipt) (block : Int) (os : List Observed)
    (c : BlockchainTransaction) (u : Transaction) :
    Outcome → Transaction → BlockchainTransaction → List AuditRecord → Prop
  | stored {o : Outcome} {v : Transaction} (hv : Stored c u (some o) v) :
    Closed l t r block os c u o v (c.linkedTo t) []
  | reverted (hu : u.state = .pending) (hc : c.state = .pending) (hr : r.reverted = true) :
    Closed l t r block os c u .failed { u.joined c with state := .failed }
      { (c.linkedTo t).told r block with state := .reverted } []
  | paid {o : Observed} (hu : u.state = .pending) (hc : c.state ≠ .reverted) (hr : r.reverted = false)
    (ho : Observed.paying? os u (l.address? u.recipient) = some o) :
    Closed l t r block os c u .succeeded
      { u.joined c with
        state := .succeeded, sender := l.user? (Text.lowercase o.event.curator.spelling) }
      { (c.linkedTo t).told r block with state := .succeeded } (os.map fun o => o.event.record c.id o.index)
  | unpaid (hu : u.state = .pending) (hc : c.state ≠ .reverted) (hr : r.reverted = false)
    (ho : Observed.paying? os u (l.address? u.recipient) = none) :
    Closed l t r block os c u .canceled { u.joined c with state := .canceled, remark := some invalidRemark }
      { (c.linkedTo t).told r block with state := .succeeded } (os.map fun o => o.event.record c.id o.index)

namespace Stored

variable {c : BlockchainTransaction} {u v : Transaction} {o : Option Outcome}

theorem id (h : Stored c u o v) : v.id = u.id := by cases h <;> simp

theorem blockchainTransaction (h : Stored c u o v) :
    v.blockchainTransaction = (u.joined c).blockchainTransaction := by cases h <;> rfl

theorem state {out : Outcome} (h : Stored c u (some out) v) : v.state = out.state := by
  cases h with
  | ended hu => rw [Transaction.joined_state, Outcome.state_of_ofState? hu]
  | reverted => rfl

end Stored

namespace Closed

variable {l : Ledger} {t : Id} {r : Receipt} {block : Int} {os : List Observed}
  {c d : BlockchainTransaction} {u v : Transaction} {o : Outcome} {rs : List AuditRecord}

theorem id (h : Closed l t r block os c u o v d rs) : v.id = u.id := by
  cases h with
  | stored hv => exact hv.id
  | reverted => exact u.joined_id c
  | paid => exact u.joined_id c
  | unpaid => exact u.joined_id c

theorem blockchainTransaction (h : Closed l t r block os c u o v d rs) :
    v.blockchainTransaction = (u.joined c).blockchainTransaction := by
  cases h with
  | stored hv => exact hv.blockchainTransaction
  | reverted => rfl
  | paid => rfl
  | unpaid => rfl

theorem id' (h : Closed l t r block os c u o v d rs) : d.id = c.id := by cases h <;> rfl

theorem state (h : Closed l t r block os c u o v d rs) : v.state = o.state := by
  cases h with
  | stored hv => exact hv.state
  | reverted => rfl
  | paid => rfl
  | unpaid => rfl

theorem transaction (h : Closed l t r block os c u o v d rs) : d.transaction = some t := by
  cases h <;> rfl

end Closed

namespace Work

variable {s s' : Session} {b t : Id} {l : Ledger} {u : Transaction} {c : BlockchainTransaction}
  {rs : List AuditRecord}

theorem insertRecords_rewrites {os : List Observed} {r : Unit} (h : Yields (insertRecords b os) s r s')
    (hl : l.Rewrites u c rs s.ledger) :
    l.Rewrites u c (rs ++ os.map fun o => o.event.record b o.index) s'.ledger := by
  induction os generalizing s rs with
  | nil =>
    obtain ⟨-, rfl⟩ := yields_pure.1 h
    simpa using hl
  | cons o os ih =>
    simp only [insertRecords, yields_bind, yields_insertRecord] at h
    obtain ⟨_, _, ⟨-, rfl⟩, h⟩ := h
    have := ih h (hl.addRecord (o.event.record b o.index))
    simpa using this

theorem lasting_insertRecords (b : Id) (os : List Observed) : Lasting (insertRecords b os) := by
  induction os with
  | nil => exact lasting_pure _
  | cons o os ih => exact lasting_bind (lasting_insertRecord _) fun _ => ih

/-- A blockchain transaction that is stored with its facts filled in is advanced. It was read before
they were. -/
theorem advanceBlockchain_rewrites {d : BlockchainTransaction} {state : BlockchainState} {r : Unit}
    (h : Yields (advanceBlockchain c state) s r s') (hl : l.Rewrites u d rs s.ledger)
    (hd : d.state = c.state) (hi : d.id = c.id) :
    (c.state = state ∨ c.state = .pending) ∧ l.Rewrites u { d with state := state } rs s'.ledger := by
  rcases yields_advanceBlockchain.1 h with ⟨hc, rfl⟩ | ⟨hc, -, -, -, rfl⟩
  · refine ⟨.inl hc, ?_⟩
    rw [← hc, ← hd]
    exact hl
  · refine ⟨.inr hc, ?_⟩
    have := hl.mapBlockchainTransaction (f := moved state) fun b => by unfold moved; split <;> rfl
    rw [hi] at this
    simpa [moved, BlockchainTransaction.isFinal, hd, hc] using this

theorem advance_rewrites {v : Transaction} {x : StateChange Id} {r : Unit}
    (h : Yields (advance u x) s r s') (hl : l.Rewrites v c rs s.ledger) (hv : v.state = u.state)
    (hi : v.id = u.id) : u.state = .pending ∧
      l.Rewrites { v with
        state := x.state, remark := x.remark <|> v.remark, sender := x.sender.getD v.sender }
        c rs s'.ledger := by
  obtain ⟨hu, -, -, -, rfl⟩ := yields_advance.1 h
  refine ⟨hu, ?_⟩
  have := hl.mapTransaction x.apply_id
  rw [x.apply_of_pending (hv.trans hu)] at this
  rw [hi] at this ⊢
  exact this

theorem settleAgainst_rewrites {e : BlockchainTransaction} {os : List Observed} {o : Outcome}
    (h : Yields (settleAgainst u os) s o s') (hl : l.Rewrites (u.joined e) c rs s.ledger) :
    (∃ p, Observed.paying? os u (l.address? u.recipient) = some p ∧ o = .succeeded ∧
      l.Rewrites { u.joined e with
        state := .succeeded, sender := l.user? (Text.lowercase p.event.curator.spelling) }
        c rs s'.ledger) ∨
    (Observed.paying? os u (l.address? u.recipient) = none ∧ o = .canceled ∧
      l.Rewrites { u.joined e with state := .canceled, remark := some invalidRemark } c rs s'.ledger) := by
  have ha : s.ledger.address? u.recipient = l.address? u.recipient := Ledger.address?_of_users hl.users _
  have hf (a : String) : s.ledger.user? a = l.user? a := Ledger.user?_of_users hl.users a
  simp only [settleAgainst, yields_bind, yields_findAddress] at h
  obtain ⟨_, _, ⟨rfl, rfl⟩, h⟩ := h
  rw [ha] at h
  split at h
  · rename_i p hp
    simp only [yields_bind, yields_findUser, yields_pure] at h
    obtain ⟨_, _, ⟨rfl, rfl⟩, _, _, hv, rfl, rfl⟩ := h
    refine .inl ⟨p, hp, rfl, ?_⟩
    rw [← hf]
    simpa using (advance_rewrites hv hl (by simp) (by simp)).2
  · rename_i hp
    simp only [yields_bind, yields_pure] at h
    obtain ⟨_, _, hv, rfl, rfl⟩ := h
    refine .inr ⟨hp, rfl, ?_⟩
    simpa using (advance_rewrites hv hl (by simp) (by simp)).2

theorem lasting_settleAgainst (u : Transaction) (os : List Observed) : Lasting (settleAgainst u os) := by
  refine lasting_bind lasting_look fun a => ?_
  split
  · exact lasting_bind lasting_look fun _ => lasting_bind (lasting_advance _ _) fun _ => lasting_pure _
  · exact lasting_bind (lasting_advance _ _) fun _ => lasting_pure _

theorem closePair_rewrites {r : Receipt} {block : Int} {os : List Observed} {o : Outcome}
    (h : Yields (closePair b t r block os) s o s') : ∃ c u v d rs, s.ledger.Pair b t c u ∧
      Closed s.ledger t r block os c u o v d rs ∧ s.ledger.Rewrites v d rs s'.ledger := by
  simp only [closePair, yields_bind] at h
  obtain ⟨_, s₁, hp, o', s₂, ho, h⟩ := h
  obtain ⟨c, u, hcu, rfl, hl⟩ := loadPair_rewrites hp
  obtain ⟨v, hv, hl⟩ := settleStored_rewrites hl ho
  split at h
  · obtain ⟨rfl, rfl⟩ := yields_pure.1 h
    exact ⟨c, u, v, _, [], hcu, .stored hv, hl⟩
  · cases hv with
    | undecided hu hc =>
      simp only [yields_bind, yields_recordFacts] at h
      obtain ⟨_, _, ⟨-, rfl⟩, h⟩ := h
      have hl := hl.mapBlockchainTransaction (f := filled (some r.sender.spelling)
        (r.recipient.map FixedBytes.spelling) (some block)) fun _ => rfl
      split at h
      · rename_i hr
        simp only [yields_bind, yields_pure] at h
        obtain ⟨_, _, hb, _, _, ha, rfl, rfl⟩ := h
        obtain ⟨hs, hl⟩ := advanceBlockchain_rewrites hb hl rfl rfl
        have hl := (advance_rewrites ha hl (u.joined_state c) (u.joined_id c)).2
        refine ⟨c, u, _, _, [], hcu, .reverted hu (hs.resolve_left hc) hr, ?_⟩
        simpa [StateChange.into, BlockchainTransaction.told] using hl
      · rename_i hr
        simp only [yields_bind] at h
        obtain ⟨_, _, hb, _, _, hi, h⟩ := h
        obtain ⟨hs, hl⟩ := advanceBlockchain_rewrites hb hl rfl rfl
        have hl := insertRecords_rewrites hi hl
        have hr : r.reverted = false := by simpa using hr
        rcases settleAgainst_rewrites h hl with ⟨p, hp, rfl, hl⟩ | ⟨hp, rfl, hl⟩
        · exact ⟨c, u, _, _, _, hcu, .paid hu hc hr hp, hl⟩
        · exact ⟨c, u, _, _, _, hcu, .unpaid hu hc hr hp, hl⟩

theorem lasting_closePair (b t : Id) (r : Receipt) (block : Int) (os : List Observed) :
    Lasting (closePair b t r block os) := by
  refine lasting_bind (lasting_loadPair b t) fun p => lasting_bind (lasting_settleStored _ _) fun o => ?_
  split
  · exact lasting_pure _
  · refine lasting_bind (lasting_recordFacts _ _ _ _) fun _ => ?_
    split
    · exact lasting_bind (lasting_advanceBlockchain _ _) fun _ =>
        lasting_bind (lasting_advance _ _) fun _ => lasting_pure _
    · exact lasting_bind (lasting_advanceBlockchain _ _) fun _ =>
        lasting_bind (lasting_insertRecords _ _) fun _ => lasting_settleAgainst _ _

/-! ## The pair when an outcome is known -/

theorem ended_openPair {p : BlockchainTransaction × Option Outcome} {o : Outcome} (h : Yields (openPair b t) s p s')
    (ho : p.2 = some o) : s'.ledger.Ended b t o := by
  obtain ⟨c, u, v, hp, -, hv, hl⟩ := openPair_rewrites h
  rw [ho] at hv
  have hb := hl.blockchainTransaction_self
  have ht := hl.transaction_self
  rw [show (c.linkedTo t).id = b from (Ledger.blockchainTransaction?_mem hp.blockchainTransaction).2] at hb
  rw [hv.id, (Ledger.transaction?_mem hp.transaction).2] at ht
  exact ⟨_, v, hb, rfl, ht, hv.state⟩

theorem ended_closePair {r : Receipt} {block : Int} {os : List Observed} {o : Outcome}
    (h : Yields (closePair b t r block os) s o s') : s'.ledger.Ended b t o := by
  obtain ⟨c, u, v, d, rs, hp, hc, hl⟩ := closePair_rewrites h
  have hb := hl.blockchainTransaction_self
  have ht := hl.transaction_self
  rw [hc.id', (Ledger.blockchainTransaction?_mem hp.blockchainTransaction).2] at hb
  rw [hc.id, (Ledger.transaction?_mem hp.transaction).2] at ht
  exact ⟨d, v, hb, hc.transaction, ht, hc.state⟩

/-! ## The pair of a job -/

theorem yields_findExpected {c : BlockchainTransaction} :
    Yields (findExpected t) s c s' ↔ s' = s ∧ ∃ u b, s.ledger.transaction? t = some u ∧
      u.isPending = true ∧ u.provider = .blockchain ∧ u.blockchainTransaction = some b ∧
      s.ledger.blockchainTransaction? b = some c := by
  simp only [findExpected, yields_bind, yields_findTransaction]
  constructor
  · rintro ⟨_, _, ⟨rfl, rfl⟩, h⟩
    split at h
    · exact absurd h not_yields_throw
    · rename_i u hu
      split at h
      · exact absurd h not_yields_throw
      · rename_i hp
        split at h
        · exact absurd h not_yields_throw
        · rename_i hpr
          split at h
          · exact absurd h not_yields_throw
          · rename_i b hb
            obtain ⟨_, _, hf, h⟩ := yields_bind.1 h
            obtain ⟨rfl, rfl⟩ := yields_findBlockchainTransaction.1 hf
            split at h
            · rename_i d hd
              obtain ⟨rfl, rfl⟩ := yields_pure.1 h
              exact ⟨rfl, u, b, hu, by simpa using hp, by simpa using hpr, hb, hd⟩
            · exact absurd h not_yields_throw
  · rintro ⟨rfl, u, b, hu, hp, hpr, hb, hc⟩
    refine ⟨_, _, ⟨rfl, rfl⟩, ?_⟩
    rw [hu]
    simp only [hp, hpr, hb, Bool.not_true, Bool.false_eq_true, if_false, ne_eq, not_true_eq_false,
      yields_bind, yields_findBlockchainTransaction]
    refine ⟨_, _, ⟨rfl, rfl⟩, ?_⟩
    rw [hc]
    exact yields_pure.2 ⟨rfl, rfl⟩

/-- A transaction that ended is not found as an expected one any more. -/
theorem result_findExpected_of_ended {u : Transaction} (hu : s.ledger.transaction? t = some u)
    (hp : u.isPending = false) :
    (findExpected t).result s = (.error (.settlement (.transactionNotFound t)), s) := by
  have hf : (findTransaction t).result s = (.ok (some u), s) := yields_findTransaction.2 ⟨hu.symm, rfl⟩
  unfold findExpected
  rw [result_bind, hf]
  simp only [hp, Bool.not_false, if_true]
  rfl

theorem lasting_findExpected (t : Id) : Lasting (findExpected t) := by
  refine lasting_bind lasting_look fun u => ?_
  split
  · exact lasting_throw _
  · split
    · exact lasting_throw _
    · split
      · exact lasting_throw _
      · split
        · exact lasting_throw _
        · refine lasting_bind lasting_look fun c => ?_
          split
          · exact lasting_pure _
          · exact lasting_throw _

end Work

end DonationLedger
