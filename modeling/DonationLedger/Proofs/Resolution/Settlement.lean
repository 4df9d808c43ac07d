import DonationLedger.Proofs.Resolution.Failing
import DonationLedger.Proofs.Resolution.Walk
import Mathlib.Data.List.Nodup

/-!
# One receipt, whoever applies it

A pending transaction may be settled by its job and by a log of its blockchain transaction at once, both in
several ledger transactions. Whichever comes first, the ledger either still waits for the receipt, with some
of its facts and records noted already (`Settlement.Waits`), or has all that the receipt tells
(`Settlement.Done`). Every ledger transaction is looked at from both sides.
-/

namespace DonationLedger

/-- `t` is pending and expects `b`, which settles no other transaction and, unless it is linked already, is
expected by no other. -/
structure Ledger.Awaits (l : Ledger) (t : Transaction) (b : BlockchainTransaction) : Prop where
  transaction : t ∈ l.transactions
  blockchainTransaction : b ∈ l.blockchainTransactions
  pending : t.state = .pending
  provider : t.provider = .blockchain
  expected : t.blockchainTransaction = some b.id
  free : b.transaction = some t.id ∨
    b.transaction = none ∧ ∀ u ∈ l.transactions, u.blockchainTransaction = some b.id → u = t

/-- A receipt whose numbers can be stored, and where no two logs share an index. -/
structure Receipt.Storable (r : Receipt) : Prop where
  block : r.block ≤ Text.maxSigned64
  indices : ∀ log ∈ r.logs, log.index ≤ Text.maxSigned64
  distinct : (r.logs.map Log.index).Nodup

/-- A pending transaction, the blockchain transaction that it expects and its receipt, and the ledger before
anything is done about them. -/
structure Settlement where
  ledger : Ledger
  deployment : Deployment
  transaction : Transaction
  onChain : BlockchainTransaction
  receipt : Receipt

namespace Settlement

variable (x : Settlement)

def block : Int := x.receipt.block

/-- The events of the receipt. -/
def observed : List Observed := x.receipt.logs.filterMap (Observed.ofLog? x.deployment x.ledger.content?)

/-- What is kept of the events for audit. -/
def records : List AuditRecord := x.observed.map fun o => o.event.record x.onChain.id o.index

/-- A transaction as the events settle it. -/
def settle (u : Transaction) : Transaction :=
  match Observed.paying? x.observed u (x.ledger.address? u.recipient) with
  | some o => { u with
      state := .succeeded, sender := x.ledger.user? (Text.lowercase o.event.curator.spelling) }
  | none => { u with state := .canceled, remark := some invalidRemark }

/-- A blockchain transaction with all that the receipt tells of it. -/
def finish (c : BlockchainTransaction) : BlockchainTransaction :=
  { (c.linkedTo x.transaction.id).told x.receipt x.block with state := .succeeded }

/-- The ledger after the receipt was applied. -/
def final : Ledger :=
  ((x.ledger.mapTransaction x.transaction.id x.settle).mapBlockchainTransaction x.onChain.id
    x.finish).addRecords x.records

/-- What is given when the settlement begins. -/
structure Due : Prop where
  awaits : x.ledger.Awaits x.transaction x.onChain
  reverted : x.onChain.state ≠ .reverted
  transactions : (x.ledger.transactions.map Transaction.id).Nodup
  blockchainTransactions : (x.ledger.blockchainTransactions.map BlockchainTransaction.id).Nodup
  applies : x.receipt.reverted = false
  storable : x.receipt.Storable

/-- What the blockchain transaction may be until the receipt is applied. All that is noted of it already, the
receipt tells too. -/
structure Nears (c : BlockchainTransaction) : Prop where
  finish : x.finish c = x.finish x.onChain
  reverted : c.state ≠ .reverted
  linked : c.transaction = x.onChain.transaction ∨ c.transaction = some x.transaction.id

/-- Nothing goes wrong with the session. It has `u` and `c` in place of the two rows of the settlement, and
some of the records. -/
structure Stage (u : Transaction) (c : BlockchainTransaction) (rs : List AuditRecord) (s : Session) :
    Prop where
  keyed : s.Keyed
  hashed : s.Hashed
  faults : s.faults = .none
  rewrites : x.ledger.Rewrites u c rs s.ledger
  records : rs ⊆ x.records

/-- The receipt was not applied yet. -/
def Waits (s : Session) : Prop := ∃ c rs, x.Stage x.transaction c rs s ∧ x.Nears c

/-- The receipt was applied. -/
def Done (s : Session) : Prop :=
  ∃ rs, x.Stage (x.settle x.transaction) (x.finish x.onChain) rs s ∧ x.records ⊆ rs

variable {x} {s s' : Session} {u v : Transaction} {c d : BlockchainTransaction} {rs qs : List AuditRecord}

/-! ## The rows -/

@[simp] theorem settle_id (x : Settlement) (u : Transaction) : (x.settle u).id = u.id := by
  unfold settle; split <;> rfl

theorem settle_isPending (x : Settlement) (u : Transaction) : (x.settle u).isPending = false := by
  unfold settle; split <;> rfl

theorem settle_state (x : Settlement) (u : Transaction) : (x.settle u).state ≠ .pending := by
  have := x.settle_isPending u
  simpa [Transaction.isPending] using this

theorem finish_seen (x : Settlement) (c : BlockchainTransaction) : x.finish (c.seen x.block) = x.finish c := by
  unfold finish BlockchainTransaction.told BlockchainTransaction.seen BlockchainTransaction.linkedTo
    Work.filled
  cases c.sender <;> cases c.recipient <;> cases c.block <;> rfl

theorem seen_finish (x : Settlement) (c : BlockchainTransaction) : (x.finish c).seen x.block = x.finish c := by
  unfold finish BlockchainTransaction.told BlockchainTransaction.seen BlockchainTransaction.linkedTo
    Work.filled
  cases c.recipient <;> cases x.receipt.recipient <;> cases c.sender <;> cases c.block <;> rfl

namespace Nears

theorem refl (hx : x.Due) : x.Nears x.onChain := ⟨rfl, hx.reverted, .inl rfl⟩

theorem id (h : x.Nears c) : c.id = x.onChain.id := (congrArg BlockchainTransaction.id h.finish :)

theorem place (h : x.Nears c) : c.place = x.onChain.place :=
  Prod.ext (congrArg BlockchainTransaction.chain h.finish :) (congrArg BlockchainTransaction.hash h.finish :)

theorem linkedTo (h : x.Nears c) : x.Nears (c.linkedTo x.transaction.id) := ⟨h.finish, h.reverted, .inr rfl⟩

theorem seen (h : x.Nears c) : x.Nears (c.seen x.block) := by
  refine ⟨(x.finish_seen c).trans h.finish, ?_, h.linked⟩
  simp [BlockchainTransaction.seen, h.reverted]

theorem free (hx : x.Due) (h : x.Nears c) : c.transaction = none ∨ c.transaction = some x.transaction.id := by
  rcases h.linked with hc | hc
  · rw [hc]
    exact hx.awaits.free.elim .inr fun hn => .inl hn.1
  · exact .inr hc

theorem joined (hx : x.Due) (h : x.Nears c) : x.transaction.joined c = x.transaction := by
  unfold Transaction.joined
  split
  · rw [h.id, ← hx.awaits.expected]
  · rfl

end Nears

/-! ## Stages -/

/-- Before anything is done, the receipt is waited for. -/
theorem waits_start (hx : x.Due) (hk : s.Keyed) (hh : s.Hashed) (hf : s.faults = .none)
    (hs : s.ledger = x.ledger) : x.Waits s := by
  have ht := Ledger.transaction?_of_mem hx.transactions hx.awaits.transaction
  have hb := Ledger.blockchainTransaction?_of_mem hx.blockchainTransactions hx.awaits.blockchainTransaction
  refine ⟨x.onChain, [], ⟨hk, hh, hf, ?_, List.nil_subset _⟩, .refl hx⟩
  rw [hs]
  exact .start ht hb

namespace Stage

/-- A ledger transaction that rewrites the two rows leads to the next stage. -/
theorem next {α : Type} {w : Work α} {a : α} (h : x.Stage u c rs s) (hw : w.Lasting) (hc : w.Clean s)
    (hy : w.Yields s a s') (hl : s.ledger.Rewrites v d qs s'.ledger) (hv : v.id = u.id) (hd : d.id = c.id)
    (hq : qs ⊆ x.records) : x.Stage v d (rs ++ qs) s' where
  keyed := (hw.later hy).keyed h.keyed
  hashed := (hw.later hy).hashed h.hashed
  faults := hc.faults h.faults hy
  rewrites := h.rewrites.trans hl hv hd
  records := List.append_subset.2 ⟨h.records, hq⟩

theorem transaction? (h : x.Stage u c rs s) : s.ledger.transaction? u.id = some u :=
  h.rewrites.transaction_self

theorem blockchainTransaction? (h : x.Stage u c rs s) : s.ledger.blockchainTransaction? c.id = some c :=
  h.rewrites.blockchainTransaction_self

theorem byHash? (h : x.Stage u c rs s) : s.ledger.byHash? c.chain c.hash = some c :=
  h.hashed.byHash? (Ledger.blockchainTransaction?_mem h.blockchainTransaction?).1

theorem pair (h : x.Stage u c rs s) (hc : c.transaction = none ∨ c.transaction = some u.id) :
    s.ledger.Pair c.id u.id c u := ⟨h.blockchainTransaction?, h.transaction?, hc⟩

theorem address? (h : x.Stage u c rs s) (i : Id) : s.ledger.address? i = x.ledger.address? i :=
  Ledger.address?_of_users h.rewrites.users i

theorem user? (h : x.Stage u c rs s) (a : String) : s.ledger.user? a = x.ledger.user? a :=
  Ledger.user?_of_users h.rewrites.users a

theorem content? (h : x.Stage u c rs s) (ref : String) : s.ledger.content? ref = x.ledger.content? ref := by
  rw [Ledger.content?_of_contents h.rewrites.contents]

/-- A log of a blockchain transaction that belongs to `u` is recorded, and `u` tells what is next. -/
theorem applyEvent {index : Int} {e : Event} (verdict : Except InvalidReason Payment)
    (h : x.Stage u c rs s) (hc : c.state ≠ .reverted) (hl : s.ledger.linked? c = some u)
    (hr : e.record c.id index ∈ x.records) :
    ∃ r s', (Work.applyEvent c.chain c.hash x.block index e verdict).Yields s r s' ∧
      x.Stage u (c.seen x.block) (rs ++ [e.record c.id index]) s' ∧
      r = if u.isPending then .needsReceipt c.id u.id else .applied (.alreadySettled u.id) := by
  have hclean : (Work.applyEvent c.chain c.hash x.block index e verdict).Clean s :=
    Work.clean_applyEvent h.keyed h.byHash? (Option.isSome_of_eq_some hl)
  obtain ⟨r, s', hy, -⟩ := hclean h.faults
  refine ⟨r, s', hy, ?_⟩
  obtain ⟨c', s₁, s₂, ho, -, -, ht, hn, hcr⟩ := Work.applyEvent_credited h.keyed hy
  obtain ⟨rfl, hs₁⟩ : c' = c ∧ s₁.ledger = s.ledger := by
    cases ho with
    | found hc' hl' => exact ⟨Option.some.inj (hc'.symm.trans h.byHash?), hl'⟩
    | stored hn => exact nomatch hn.symm.trans h.byHash?
  rw [hs₁] at ht hn
  have hl₂ : s₂.ledger.linked? (c'.seen x.block) = some u := (Ledger.linked?_seen ht c' x.block).trans hl
  have hne (he : s₂.ledger.expecting? (c'.seen x.block).id = none) : (c'.seen x.block).transaction ≠ none := by
    intro ht
    unfold Ledger.linked? at hl₂
    rw [ht, he] at hl₂
    exact nomatch hl₂
  have hrw := hn.rewrites ht h.transaction?
  cases hcr with
  | @expected u' hu hp =>
    obtain rfl : u' = u := Option.some.inj (hu.symm.trans hl₂)
    exact ⟨h.next (Work.lasting_applyEvent _ _ _ _ _ _) hclean hy hrw rfl rfl (by simpa using hr),
      by rw [hp]; rfl⟩
  | @settled u' hu hp =>
    obtain rfl : u' = u := Option.some.inj (hu.symm.trans hl₂)
    exact ⟨h.next (Work.lasting_applyEvent _ _ _ _ _ _) hclean hy hrw rfl rfl (by simpa using hr),
      by rw [hp]; rfl⟩
  | invalid hno he => exact absurd hno (hne he)
  | unknown hno he => exact absurd hno (hne he)
  | matched hno he => exact absurd hno (hne he)
  | created hno he => exact absurd hno (hne he)

end Stage

/-! ## While the receipt is waited for -/

namespace Waits

/-- The job finds what it is to settle. -/
theorem findExpected (hx : x.Due) (h : x.Waits s) :
    ∃ c, (Work.findExpected x.transaction.id).Yields s c s ∧ x.Nears c := by
  obtain ⟨c, rs, hs, hc⟩ := h
  have hb := hs.blockchainTransaction?
  rw [hc.id] at hb
  refine ⟨c, Work.yields_findExpected.2 ⟨rfl, _, _, hs.transaction?, ?_, hx.awaits.provider,
    hx.awaits.expected, hb⟩, hc⟩
  simp [Transaction.isPending, hx.awaits.pending]

/-- What is stored does not decide yet. -/
theorem openPair (hx : x.Due) (h : x.Waits s) :
    ∃ p s', (Work.openPair x.onChain.id x.transaction.id).Yields s p s' ∧ x.Waits s' ∧ p.2 = none ∧
      p.1.hash = x.onChain.hash := by
  obtain ⟨c, rs, hs, hc⟩ := h
  have hclean := Work.clean_openPair (hs.pair (hc.free hx))
  obtain ⟨p, s', hy, -⟩ := hclean hs.faults
  rw [hc.id] at hclean hy
  refine ⟨p, s', hy, ?_⟩
  obtain ⟨d, u, v, hp, hp₁, hv, hl⟩ := Work.openPair_rewrites hy
  rw [← hc.id] at hp
  obtain ⟨rfl, rfl⟩ := hp.unique hs.blockchainTransaction? hs.transaction?
  have hpend := hx.awaits.pending
  generalize p.2 = o at hv ⊢
  cases hv with
  | ended ho => rw [hpend] at ho; cases ho
  | reverted _ hr => exact absurd hr hc.reverted
  | undecided =>
    rw [hc.joined hx] at hl
    exact ⟨⟨_, _, hs.next (Work.lasting_openPair _ _) hclean hy hl rfl rfl (List.nil_subset _), hc.linkedTo⟩,
      rfl, by rw [hp₁]; exact (Prod.mk.inj hc.place).2⟩

/-- The receipt decides. -/
theorem closePair (hx : x.Due) (h : x.Waits s) :
    ∃ o s', (Work.closePair x.onChain.id x.transaction.id x.receipt x.block x.observed).Yields s o s' ∧
      x.Done s' := by
  obtain ⟨c, rs, hs, hc⟩ := h
  have hclean := Work.clean_closePair x.block x.observed (hs.pair (hc.free hx)) hx.applies
  obtain ⟨o, s', hy, -⟩ := hclean hs.faults
  rw [hc.id] at hclean hy
  refine ⟨o, s', hy, ?_⟩
  obtain ⟨d, u, v, e, qs, hp, hv, hl⟩ := Work.closePair_rewrites hy
  rw [← hc.id] at hp
  obtain ⟨rfl, rfl⟩ := hp.unique hs.blockchainTransaction? hs.transaction?
  have hpend := hx.awaits.pending
  have hnext {v : Transaction} (hl : s.ledger.Rewrites v (x.finish d) (x.observed.map fun o =>
      o.event.record d.id o.index) s'.ledger) (hv : v = x.settle x.transaction) : x.Done s' := by
    rw [hv, hc.finish, hc.id] at hl
    exact ⟨_, hs.next (Work.lasting_closePair _ _ _ _ _) hclean hy hl (x.settle_id _) hc.id.symm
      (List.Subset.refl _), List.subset_append_right _ _⟩
  cases hv with
  | stored hv => cases hv with
    | ended ho => rw [hpend] at ho; cases ho
    | reverted _ hr => exact absurd hr hc.reverted
  | reverted _ _ hr => rw [hx.applies] at hr; cases hr
  | paid _ _ _ ho =>
    refine hnext hl ?_
    rw [hs.address?] at ho
    rw [hc.joined hx, hs.user?, Settlement.settle, ho]
  | unpaid _ _ _ ho =>
    refine hnext hl ?_
    rw [hs.address?] at ho
    rw [hc.joined hx, Settlement.settle, ho]

/-- Both ways lead from the blockchain transaction to the transaction. -/
theorem linked? (hx : x.Due) (hs : x.Stage x.transaction c rs s) (hc : x.Nears c) :
    s.ledger.linked? c = some x.transaction := by
  unfold Ledger.linked?
  split
  · rename_i i hi
    obtain rfl : i = x.transaction.id := by
      rcases hc.free hx with hn | ht
      · exact nomatch hn.symm.trans hi
      · exact Option.some.inj (hi.symm.trans ht)
    exact hs.transaction?
  · rename_i hn
    have honly : ∀ u ∈ x.ledger.transactions, u.blockchainTransaction = some x.onChain.id → u = x.transaction := by
      rcases hx.awaits.free with ht | ho
      · rcases hc.linked with hb | hb
        · exact nomatch hn.symm.trans (hb.trans ht)
        · exact nomatch hn.symm.trans hb
      · exact ho.2
    have hmem := (Ledger.transaction?_mem hs.transaction?).1
    obtain ⟨u, hu⟩ : ∃ u, s.ledger.expecting? c.id = some u := by
      refine Option.isSome_iff_exists.1 (List.find?_isSome.2 ⟨_, hmem, ?_⟩)
      simp [hx.awaits.provider, hx.awaits.expected, hc.id]
    obtain ⟨hu', -, hub⟩ := Ledger.expecting?_some hu
    have hself := Ledger.transaction?_of_mem hs.keyed.transactions hu'
    rw [hs.rewrites.transaction] at hself
    split at hself
    · rw [hu, hself]
    · rw [hu, honly u (Ledger.transaction?_mem hself).1 (hub.trans (congrArg some hc.id))]

/-- A log is recorded, and the receipt is still needed. -/
theorem applyEvent {index : Int} {e : Event} (verdict : Except InvalidReason Payment) (hx : x.Due)
    (h : x.Waits s) (hr : e.record x.onChain.id index ∈ x.records) :
    ∃ r s', (Work.applyEvent x.onChain.chain x.onChain.hash x.block index e verdict).Yields s r s' ∧
      x.Waits s' ∧ r = .needsReceipt x.onChain.id x.transaction.id := by
  obtain ⟨c, rs, hs, hc⟩ := h
  obtain ⟨r, s', hy, hs', hr⟩ := hs.applyEvent verdict hc.reverted (linked? hx hs hc) (hc.id ▸ hr)
  obtain ⟨hch, hha⟩ := Prod.mk.inj hc.place
  rw [hch, hha] at hy
  refine ⟨r, s', hy, ⟨_, _, hs', hc.seen⟩, ?_⟩
  rw [hr, hc.id, if_pos]
  simp [Transaction.isPending, hx.awaits.pending]

end Waits

/-! ## Once the receipt was applied -/

namespace Done

/-- The job finds nothing to settle any more. -/
theorem findExpected (h : x.Done s) : (Work.findExpected x.transaction.id).result s =
    (.error (.settlement (.transactionNotFound x.transaction.id)), s) := by
  obtain ⟨rs, hs, -⟩ := h
  have ht := hs.transaction?
  rw [settle_id] at ht
  exact Work.result_findExpected_of_ended ht (x.settle_isPending _)

theorem pair (hs : x.Stage (x.settle x.transaction) (x.finish x.onChain) rs s) :
    s.ledger.Pair x.onChain.id x.transaction.id (x.finish x.onChain) (x.settle x.transaction) := by
  have := hs.pair (.inr (by rw [settle_id]; rfl))
  rwa [settle_id] at this

theorem stored {o : Option Outcome} (h : Stored (x.finish x.onChain) (x.settle x.transaction) o v) :
    (∃ out, o = some out) ∧ v = x.settle x.transaction := by
  cases h with
  | ended => exact ⟨⟨_, rfl⟩, Transaction.joined_of_linked (t := x.transaction.id) _ rfl⟩
  | reverted hu => exact absurd hu (x.settle_state _)
  | undecided hu => exact absurd hu (x.settle_state _)

/-- A ledger transaction that leaves the two rows as they are. -/
theorem next {α : Type} {w : Work α} {a : α} (hs : x.Stage (x.settle x.transaction) (x.finish x.onChain) rs s)
    (hr : x.records ⊆ rs) (hw : w.Lasting) (hc : w.Clean s) (hy : w.Yields s a s')
    (hl : s.ledger.Rewrites (x.settle x.transaction) (x.finish x.onChain) [] s'.ledger) : x.Done s' :=
  ⟨_, hs.next hw hc hy hl rfl rfl (List.nil_subset _), fun _ hm => List.mem_append_left _ (hr hm)⟩

/-- What is stored decides, and nothing changes. -/
theorem openPair (h : x.Done s) : ∃ p s', (Work.openPair x.onChain.id x.transaction.id).Yields s p s' ∧
    x.Done s' ∧ ∃ o, p.2 = some o := by
  obtain ⟨rs, hs, hr⟩ := h
  have hclean := Work.clean_openPair (pair hs)
  obtain ⟨p, s', hy, -⟩ := hclean hs.faults
  obtain ⟨d, u, v, hp, hp₁, hv, hl⟩ := Work.openPair_rewrites hy
  obtain ⟨rfl, rfl⟩ := hp.unique (pair hs).blockchainTransaction (pair hs).transaction
  obtain ⟨ho, rfl⟩ := stored hv
  exact ⟨p, s', hy, next hs hr (Work.lasting_openPair _ _) hclean hy hl, ho⟩

/-- A receipt that comes late changes nothing. -/
theorem closePair (hx : x.Due) (h : x.Done s) :
    ∃ o s', (Work.closePair x.onChain.id x.transaction.id x.receipt x.block x.observed).Yields s o s' ∧
      x.Done s' := by
  obtain ⟨rs, hs, hr⟩ := h
  have hclean := Work.clean_closePair x.block x.observed (pair hs) hx.applies
  obtain ⟨o, s', hy, -⟩ := hclean hs.faults
  obtain ⟨d, u, v, e, qs, hp, hv, hl⟩ := Work.closePair_rewrites hy
  obtain ⟨rfl, rfl⟩ := hp.unique (pair hs).blockchainTransaction (pair hs).transaction
  cases hv with
  | stored hv =>
    obtain ⟨-, rfl⟩ := stored hv
    exact ⟨o, s', hy, next hs hr (Work.lasting_closePair _ _ _ _ _) hclean hy hl⟩
  | reverted hu => exact absurd hu (x.settle_state _)
  | paid hu => exact absurd hu (x.settle_state _)
  | unpaid hu => exact absurd hu (x.settle_state _)

/-- A log that comes late has its record already. -/
theorem applyEvent {index : Int} {e : Event} (verdict : Except InvalidReason Payment)
    (h : x.Done s) (hr : e.record x.onChain.id index ∈ x.records) :
    ∃ r s', (Work.applyEvent x.onChain.chain x.onChain.hash x.block index e verdict).Yields s r s' ∧
      x.Done s' ∧ r = .applied (.alreadySettled x.transaction.id) := by
  obtain ⟨rs, hs, hrs⟩ := h
  have hl : s.ledger.linked? (x.finish x.onChain) = some (x.settle x.transaction) := (pair hs).transaction
  obtain ⟨r, s', hy, hs', hr⟩ := hs.applyEvent verdict (by simp [finish]) hl hr
  rw [seen_finish] at hs'
  refine ⟨r, s', hy, ⟨_, hs', fun _ hm => List.mem_append_left _ (hrs hm)⟩, ?_⟩
  rw [hr, settle_isPending, settle_id]
  rfl

end Done

/-! ## The course of it -/

/-- A receipt that is waited for was not applied. -/
theorem Waits.not_done (hx : x.Due) (h : x.Waits s) : ¬ x.Done s := by
  rintro ⟨rs, hs, -⟩
  obtain ⟨c, qs, hs', -⟩ := h
  have ht := hs'.transaction?.symm.trans (Done.pair hs).transaction
  exact x.settle_state _ (Option.some.inj ht ▸ hx.awaits.pending)

/-- The settlement was begun. -/
def Begun (x : Settlement) (s : Session) : Prop := x.Waits s ∨ x.Done s

theorem Begun.content? (h : x.Begun s) (ref : String) : s.ledger.content? ref = x.ledger.content? ref := by
  rcases h with ⟨c, rs, hs, -⟩ | ⟨rs, hs, -⟩
  · exact hs.content? ref
  · exact hs.content? ref

/-- The settlement goes on from `s` to `s'`, if it was begun. -/
structure Goes (x : Settlement) (s s' : Session) : Prop where
  begun : x.Begun s → x.Begun s'
  done : x.Done s → x.Done s'

theorem Goes.refl (s : Session) : x.Goes s s := ⟨id, id⟩

theorem Goes.of_waits (hx : x.Due) (h : x.Waits s) (h' : x.Begun s') : x.Goes s s' :=
  ⟨fun _ => h', fun hd => absurd hd (h.not_done hx)⟩

theorem Goes.of_done (h' : x.Done s') : x.Goes s s' := ⟨fun _ => .inr h', fun _ => h'⟩

/-! ## The end -/

theorem mem_observed {o : Observed} (h : o ∈ x.observed) :
    ∃ log ∈ x.receipt.logs, Observed.ofLog? x.deployment x.ledger.content? log = some o ∧ o.index = log.index := by
  obtain ⟨log, hl, ho⟩ := List.mem_filterMap.1 h
  obtain ⟨⟨index, e⟩, he, rfl⟩ := Option.map_eq_some_iff.1 ho
  exact ⟨log, hl, ho, (storedNumber?_eq_some_iff.1 (observable?_eq_some_iff.1 he).2.2.1).2⟩

/-- A log of the receipt that counts has its record. -/
theorem record_mem {log : Log} {index : Int} {e : Event} (hl : log ∈ x.receipt.logs)
    (ho : observable? x.deployment log = some (index, e)) : e.record x.onChain.id index ∈ x.records := by
  refine List.mem_map.2 ⟨⟨index, e, Payment.screen x.deployment.settings x.ledger.content? e⟩, ?_, rfl⟩
  refine List.mem_filterMap.2 ⟨log, hl, ?_⟩
  rw [Observed.ofLog?, ho]
  rfl

theorem eq_of_place_eq (hx : x.Due) : ∀ r ∈ x.records, ∀ q ∈ x.records, r.place = q.place → r = q := by
  intro r hr q hq h
  obtain ⟨o, ho, rfl⟩ := List.mem_map.1 hr
  obtain ⟨p, hp, rfl⟩ := List.mem_map.1 hq
  obtain ⟨log, hl, hlo, hi⟩ := mem_observed ho
  obtain ⟨log', hl', hlp, hi'⟩ := mem_observed hp
  have hindex : log.index = log'.index := by
    have : o.index = p.index := (Prod.mk.inj h).2
    omega
  obtain rfl := List.inj_on_of_nodup_map hx.storable.distinct hl hl' hindex
  rw [Option.some.inj (hlo.symm.trans hlp)]

theorem rewrites_final (hx : x.Due) :
    x.ledger.Rewrites (x.settle x.transaction) (x.finish x.onChain) x.records x.final := by
  have ht := Ledger.transaction?_of_mem hx.transactions hx.awaits.transaction
  have hb := Ledger.blockchainTransaction?_of_mem hx.blockchainTransactions hx.awaits.blockchainTransaction
  have hl := (Ledger.Rewrites.start ht hb).mapTransaction x.settle_id
  exact (hl.mapBlockchainTransaction (f := x.finish) fun _ => rfl).addRecords x.records

/-- Whatever the order was, the ledger is the same at the end. -/
theorem Done.same (hx : x.Due) (h : x.Done s) : s.ledger.Same x.final := by
  obtain ⟨rs, hs, hr⟩ := h
  exact hs.rewrites.same (rewrites_final hx) hx.transactions hx.blockchainTransactions
    (fun r => ⟨fun hm => hs.records hm, fun hm => hr hm⟩)
    fun r hr q hq => eq_of_place_eq hx r (hs.records hr) q (hs.records hq)

end Settlement

end DonationLedger
