import DonationLedger.Follow.Cycle
import DonationLedger.Proofs.Resolution.Pair

/-!
# The ledger transaction of a log

Applying a log finds or stores its blockchain transaction (`Obtained`), notes on it what the log
tells, and then looks for the transaction that it settles (`Credited`).
-/

namespace DonationLedger

/-- The blockchain transaction of a hash was found, or stored as a new one. -/
inductive Obtained (s : Session) (chain : Chain) (hash : String) (block : Int) :
    BlockchainTransaction → Session → Prop
  | found {c : BlockchainTransaction} {s' : Session} (hc : s.ledger.byHash? chain hash = some c)
    (hl : s'.ledger = s.ledger) (hs : s'.supply = s.supply) : Obtained s chain hash block c s'
  | stored {c : BlockchainTransaction} {s' : Session} (hn : s.ledger.byHash? chain hash = none)
    (hc : c = ⟨s.supply.next .blockchainTransaction, none, chain, hash, .pending, none, none, some block⟩)
    (hl : s'.ledger = s.ledger.addBlockchainTransaction c)
    (hs : s'.supply = s.supply.advance .blockchainTransaction) : Obtained s chain hash block c s'

theorem Obtained.blockchainTransaction? {s s' : Session} {chain : Chain} {hash : String} {block : Int}
    {c : BlockchainTransaction} (h : Obtained s chain hash block c s') (hk : s.Keyed) :
    s'.ledger.blockchainTransaction? c.id = some c := by
  cases h with
  | found hc hl _ =>
    rw [hl]
    exact Ledger.blockchainTransaction?_of_mem hk.blockchainTransactions (Ledger.byHash?_some hc).1
  | stored _ hc hl _ =>
    have hi : c.id = s.supply.next .blockchainTransaction := by rw [hc]
    rw [hl, Ledger.blockchainTransaction?_addBlockchainTransaction _ _ _
      (hi ▸ hk.blockchainTransaction?_next _), if_pos rfl]

namespace Obtained

variable {s s' : Session} {chain : Chain} {hash : String} {block : Int} {c : BlockchainTransaction}

theorem transactions (h : Obtained s chain hash block c s') :
    s'.ledger.transactions = s.ledger.transactions := by
  cases h with
  | found _ hl _ => rw [hl]
  | stored _ _ hl _ => rw [hl]; rfl

theorem users (h : Obtained s chain hash block c s') : s'.ledger.users = s.ledger.users := by
  cases h with
  | found _ hl _ => rw [hl]
  | stored _ _ hl _ => rw [hl]; rfl

theorem hash_eq (h : Obtained s chain hash block c s') : c.hash = hash := by
  cases h with
  | found hc _ _ => exact (Ledger.byHash?_some hc).2.2
  | stored _ hc _ _ => rw [hc]

end Obtained

/-- The blockchain transaction as it is once a log of it was seen in a block. -/
def BlockchainTransaction.seen (c : BlockchainTransaction) (block : Int) : BlockchainTransaction :=
  { Work.filled none none (some block) c with
    state := if c.state = .reverted then .reverted else .succeeded }

/-- The transaction that a blockchain transaction settles or is expected to settle. -/
def Ledger.linked? (l : Ledger) (c : BlockchainTransaction) : Option Transaction :=
  match c.transaction with
  | some t => l.transaction? t
  | none => l.expecting? c.id

theorem Ledger.linked?_congr (l : Ledger) {c d : BlockchainTransaction} (hi : c.id = d.id)
    (ht : c.transaction = d.transaction) : l.linked? c = l.linked? d := by
  unfold linked?
  rw [hi, ht]

/-- What settles through a blockchain transaction does so once it was seen. -/
theorem Ledger.linked?_seen {l l' : Ledger} (h : l'.transactions = l.transactions) (c : BlockchainTransaction)
    (block : Int) : l'.linked? (c.seen block) = l.linked? c := by
  rw [l'.linked?_congr (c := c.seen block) (d := c) rfl rfl]
  unfold linked? Ledger.transaction? expecting?
  rw [h]

theorem Ledger.linked?_eq_none {l : Ledger} {c : BlockchainTransaction} (ht : c.transaction = none)
    (he : l.expecting? c.id = none) : l.linked? c = none := by
  unfold linked?
  rw [ht]
  exact he

/-- What came of a log once its blockchain transaction `c` was known. -/
inductive Credited (s : Session) (c : BlockchainTransaction) (e : Event)
    (verdict : Except InvalidReason Payment) : LogStep → Session → Prop
  | expected {u : Transaction} (hu : s.ledger.linked? c = some u) (hp : u.isPending = true) :
    Credited s c e verdict (.needsReceipt c.id u.id) s
  | settled {u : Transaction} (hu : s.ledger.linked? c = some u) (hp : u.isPending = false) :
    Credited s c e verdict (.applied (.alreadySettled u.id)) s
  | invalid {reason : InvalidReason} (hn : c.transaction = none) (he : s.ledger.expecting? c.id = none)
    (hv : verdict = .error reason) : Credited s c e verdict (.applied (.invalid reason)) s
  | unknown {p : Payment} (hn : c.transaction = none) (he : s.ledger.expecting? c.id = none)
    (hv : verdict = .ok p) (hr : s.ledger.user? (Text.lowercase e.creator.spelling) = none) :
    Credited s c e verdict (.applied (.invalid .unknownCreator)) s
  | matched {p : Payment} {recipient : Id} {u : Transaction} {s' : Session} (hn : c.transaction = none)
    (he : s.ledger.expecting? c.id = none) (hv : verdict = .ok p)
    (hr : s.ledger.user? (Text.lowercase e.creator.spelling) = some recipient)
    (hm : s.ledger.pendingMatch? (p.criteria recipient) = some u)
    (hl : s.ledger.Rewrites
      { u with
        blockchainTransaction := some c.id
        state := .succeeded
        sender := u.sender <|> s.ledger.user? (Text.lowercase e.curator.spelling) }
      (c.linkedTo u.id) [] s'.ledger) : Credited s c e verdict (.applied (.linked u.id)) s'
  | created {p : Payment} {recipient : Id} {u : Transaction} {s' : Session} (hn : c.transaction = none)
    (he : s.ledger.expecting? c.id = none) (hv : verdict = .ok p)
    (hr : s.ledger.user? (Text.lowercase e.creator.spelling) = some recipient)
    (hm : s.ledger.pendingMatch? (p.criteria recipient) = none)
    (hu : u = (Work.donation p c.id recipient
      (s.ledger.user? (Text.lowercase e.curator.spelling))).row (s.supply.next .transaction))
    (hl : (s.ledger.addTransaction u).Rewrites u (c.linkedTo u.id) [] s'.ledger) :
    Credited s c e verdict (.applied (.created u.id)) s'

namespace Work

variable {s s' : Session} {chain : Chain} {hash : String} {block index : Int} {e : Event}
  {c : BlockchainTransaction}

/-! ## Finding or storing the blockchain transaction -/

theorem findByHash_keeps {b : Option BlockchainTransaction} (h : Yields (findByHash chain hash) s b s') :
    s'.ledger = s.ledger ∧ s'.supply = s.supply ∧ (b = none ∨ b = s.ledger.byHash? chain hash) := by
  rcases yields_findByHash.1 h with ⟨-, rfl, rfl⟩ | ⟨n, -, rfl, rfl⟩
  · exact ⟨rfl, rfl, .inr rfl⟩
  · exact ⟨rfl, rfl, .inl rfl⟩

theorem obtained (h : Yields (obtainBlockchainTransaction chain hash block) s c s') :
    Obtained s chain hash block c s' := by
  obtain ⟨b, s₁, hf, h⟩ := yields_bind.1 h
  obtain ⟨hl₁, hs₁, hb⟩ := findByHash_keeps hf
  split at h
  · obtain ⟨rfl, rfl⟩ := yields_pure.1 h
    exact .found ((hb.resolve_left nofun).symm) hl₁ hs₁
  · obtain ⟨b, s₂, hc, h⟩ := yields_bind.1 h
    rcases yields_createBlockchainTransaction.1 hc with ⟨-, ⟨-, rfl, rfl⟩ | ⟨hn, _, rfl, rfl, rfl⟩⟩
    · obtain ⟨b, s₃, hf, h⟩ := yields_bind.1 h
      obtain ⟨hl₂, hs₂, hb⟩ := findByHash_keeps hf
      split at h
      · obtain ⟨rfl, rfl⟩ := yields_pure.1 h
        refine .found ?_ (hl₂.trans hl₁) (hs₂.trans hs₁)
        rw [← hl₁]
        exact (hb.resolve_left nofun).symm
      · exact absurd h not_yields_throw
    · obtain ⟨rfl, rfl⟩ := yields_pure.1 h
      refine .stored (hl₁ ▸ hn) (by rw [hs₁]; rfl) ?_ ?_
      · simp [hl₁]
      · simp [hs₁]

theorem lasting_obtainBlockchainTransaction (chain : Chain) (hash : String) (block : Int) :
    Lasting (obtainBlockchainTransaction chain hash block) := by
  refine lasting_bind (lasting_findByHash _ _) fun b => ?_
  split
  · exact lasting_pure _
  · refine lasting_bind (lasting_createBlockchainTransaction _) fun b => ?_
    split
    · exact lasting_pure _
    · refine lasting_bind (lasting_findByHash _ _) fun b => ?_
      split
      · exact lasting_pure _
      · exact lasting_throw _

/-! ## Finding the transaction -/

theorem yields_findLinked {t : Option Transaction} : Yields (findLinked c) s t s' ↔
    (c.transaction.isSome → t.isSome) ∧ t = s.ledger.linked? c ∧ s' = s := by
  unfold findLinked Ledger.linked?
  split
  · rename_i i hi
    rw [yields_bind_of (yields_findTransaction.2 ⟨rfl, rfl⟩)]
    split
    · rename_i u hu
      simp only [yields_pure, hi, hu]
      constructor
      · rintro ⟨rfl, rfl⟩
        exact ⟨fun _ => rfl, rfl, rfl⟩
      · exact fun h => h.2
    · rename_i hu
      simp only [hi, hu]
      refine ⟨fun h => absurd h not_yields_throw, fun ⟨h, ht, _⟩ => ?_⟩
      rw [ht] at h
      exact absurd (h rfl) (by simp)
  · rename_i hi
    rw [yields_findExpecting]
    simp [hi]

theorem lasting_findLinked (c : BlockchainTransaction) : Lasting (findLinked c) := by
  unfold findLinked
  split
  · refine lasting_bind lasting_look fun t => ?_
    split
    · exact lasting_pure _
    · exact lasting_throw _
  · exact lasting_look

/-! ## Crediting a payment -/

/-- The sender on file for a matched transaction is kept. -/
theorem matched_sender (u : Transaction) (sender : Option Id) :
    (if u.sender.isNone && sender.isSome then some sender else none).getD u.sender =
      (u.sender <|> sender) := by
  cases u.sender <;> cases sender <;> rfl

theorem credit_credited {p : Payment} {r : Applied} (hk : s.Keyed)
    (hc : s.ledger.blockchainTransaction? c.id = some c) (hn : c.transaction = none)
    (he : s.ledger.expecting? c.id = none) (h : Yields (credit c.id e p) s r s') :
    Credited s c e (.ok p) (.applied r) s' := by
  simp only [credit, yields_bind, yields_findUser] at h
  obtain ⟨_, _, ⟨rfl, rfl⟩, h⟩ := h
  split at h
  · rename_i hr
    obtain ⟨rfl, rfl⟩ := yields_pure.1 h
    exact .unknown hn he rfl hr
  · rename_i recipient hr
    simp only [yields_bind, yields_findUser, yields_findPendingMatch] at h
    obtain ⟨_, _, ⟨rfl, rfl⟩, _, s, ⟨rfl, rfl⟩, h⟩ := h
    split at h
    · rename_i u hm
      simp only [yields_bind, yields_link, settleMatched, yields_pure] at h
      obtain ⟨_, _, ⟨-, rfl⟩, _, _, ha, rfl, rfl⟩ := h
      have hu := Ledger.transaction?_of_mem hk.transactions (Ledger.pendingMatch?_some hm).1
      have hl := (Ledger.Rewrites.start hu hc).link
      have hl := (advance_rewrites ha hl rfl rfl).2
      rw [matched_sender] at hl
      refine .matched hn he rfl hr hm ?_
      simpa [BlockchainTransaction.linkedTo] using hl
    · rename_i hm
      simp only [yields_bind, yields_createTransaction, yields_link, yields_pure] at h
      obtain ⟨u, _, ⟨-, hu, rfl⟩, _, _, ⟨-, rfl⟩, rfl, rfl⟩ := h
      refine .created hn he rfl hr hm hu ?_
      have hid : u.id = s.supply.next .transaction := by rw [hu]; rfl
      have hx : s.ledger.transaction? u.id = none := hid ▸ hk.transaction?_next _
      have hs : (s.ledger.addTransaction u).transaction? u.id = some u := by
        rw [Ledger.transaction?_addTransaction _ _ _ hx, if_pos rfl]
      have hl := (Ledger.Rewrites.start hs (b := c.id) (c := c) hc).link
      simpa [hu, donation, TransactionDraft.row, BlockchainTransaction.linkedTo] using hl

theorem lasting_credit (b : Id) (e : Event) (p : Payment) : Lasting (credit b e p) := by
  refine lasting_bind lasting_look fun recipient => ?_
  split
  · exact lasting_pure _
  · refine lasting_bind lasting_look fun sender => lasting_bind lasting_look fun t => ?_
    split
    · exact lasting_bind (lasting_link _ _) fun _ => lasting_bind (lasting_advance _ _) fun _ => lasting_pure _
    · exact lasting_bind (lasting_createTransaction _) fun _ => lasting_bind (lasting_link _ _) fun _ => lasting_pure _

/-! ## The ledger transaction -/

theorem advanceBlockchain_notes {l : Ledger} {rs : List AuditRecord} {r : Unit}
    (h : Yields (if c.state = .reverted then pure () else advanceBlockchain c .succeeded) s r s')
    (hl : l.Notes c rs s.ledger) : s'.supply = s.supply ∧
      s'.ledger.transactions = s.ledger.transactions ∧
      l.Notes { c with state := if c.state = .reverted then .reverted else .succeeded } rs s'.ledger := by
  split at h
  · rename_i hr
    obtain ⟨-, rfl⟩ := yields_pure.1 h
    refine ⟨rfl, rfl, ?_⟩
    rw [if_pos hr, ← hr]
    exact hl
  · rename_i hr
    rcases yields_advanceBlockchain.1 h with ⟨hc, rfl⟩ | ⟨hc, -, -, -, rfl⟩
    · refine ⟨rfl, rfl, ?_⟩
      rw [if_neg hr, ← hc]
      exact hl
    · refine ⟨rfl, rfl, ?_⟩
      have := hl.mapBlockchainTransaction (f := moved .succeeded) fun b => by unfold moved; split <;> rfl
      simpa [hr, moved, BlockchainTransaction.isFinal, hc] using this

theorem lasting_advanceUnlessReverted (c : BlockchainTransaction) :
    Lasting (if c.state = .reverted then pure () else advanceBlockchain c .succeeded) := by
  split
  · exact lasting_pure _
  · exact lasting_advanceBlockchain _ _

/-- The end of the ledger transaction: the log is recorded and its payment credited. -/
def noteEvent (c : BlockchainTransaction) (block index : Int) (e : Event)
    (verdict : Except InvalidReason Payment) : Work LogStep := do
  recordFacts c.id none none (some block)
  insertRecord (e.record c.id index)
  match ← findLinked c with
  | some t =>
    if t.isPending then pure (.needsReceipt c.id t.id)
    else pure (.applied (.alreadySettled t.id))
  | none => match verdict with
    | .error reason => pure (.applied (.invalid reason))
    | .ok payment =>
      let result ← credit c.id e payment
      pure (.applied result)

theorem applyEvent_eq (chain : Chain) (hash : String) (block index : Int) (e : Event)
    (verdict : Except InvalidReason Payment) : applyEvent chain hash block index e verdict =
      (do
        let c ← obtainBlockchainTransaction chain hash block
        let _ ← (if c.state = .reverted then pure () else advanceBlockchain c .succeeded : Work Unit)
        noteEvent c block index e verdict) := by
  unfold applyEvent
  refine congrArg _ (funext fun c => ?_)
  show (if c.state = .reverted then noteEvent c block index e verdict else do
    let _ ← advanceBlockchain c .succeeded
    noteEvent c block index e verdict) = _
  split <;> rfl

theorem noteEvent_credited {l : Ledger} {d : BlockchainTransaction}
    {verdict : Except InvalidReason Payment} {r : LogStep} (hk : s.Keyed) (hl : l.Notes d [] s.ledger)
    (hi : d.id = c.id) (ht : d.transaction = c.transaction)
    (h : Yields (noteEvent c block index e verdict) s r s') : ∃ s₂ : Session,
      s₂.Keyed ∧ s₂.supply = s.supply ∧ s₂.ledger.transactions = s.ledger.transactions ∧
      l.Notes (filled none none (some block) d) [e.record c.id index] s₂.ledger ∧
      Credited s₂ (filled none none (some block) d) e verdict r s' := by
  simp only [noteEvent, yields_bind] at h
  obtain ⟨_, s₁, hf, _, _, hr, _, s₂, hlk, h⟩ := h
  have hk := ((lasting_insertRecord _).later hr).keyed (((lasting_recordFacts _ _ _ _).later hf).keyed hk)
  obtain ⟨-, hs₁⟩ := yields_recordFacts.1 hf
  obtain ⟨-, hs₂⟩ := yields_insertRecord.1 hr
  obtain ⟨hx, rfl, rfl⟩ := yields_findLinked.1 hlk
  have hn : l.Notes (filled none none (some block) d) [e.record c.id index] s₂.ledger := by
    rw [hs₂, hs₁, ← hi]
    exact (hl.mapBlockchainTransaction (f := filled none none (some block)) fun _ => rfl).addRecord _
  refine ⟨s₂, hk, by rw [hs₂, hs₁]; rfl, by simp [hs₂, hs₁, Ledger.mapBlockchainTransaction], hn, ?_⟩
  have hi' : c.id = (filled none none (some block) d).id := hi.symm
  have ht' : c.transaction = (filled none none (some block) d).transaction := ht.symm
  rw [s₂.ledger.linked?_congr hi' ht'] at h hx
  rw [ht'] at hx
  rw [hi'] at h
  split at h
  · rename_i u hu
    split at h
    · rename_i hp
      obtain ⟨rfl, rfl⟩ := yields_pure.1 h
      exact .expected hu hp
    · rename_i hp
      obtain ⟨rfl, rfl⟩ := yields_pure.1 h
      exact .settled hu (by simpa using hp)
  · rename_i hu
    rw [hu] at hx
    have hnone : (filled none none (some block) d).transaction = none := by simpa using hx
    have he : s₂.ledger.expecting? (filled none none (some block) d).id = none := by
      simpa only [Ledger.linked?, hnone] using hu
    split at h
    · obtain ⟨rfl, rfl⟩ := yields_pure.1 h
      exact .invalid hnone he rfl
    · simp only [yields_bind, yields_pure] at h
      obtain ⟨_, _, hc, rfl, rfl⟩ := h
      refine credit_credited hk ?_ hnone he hc
      rw [hn.blockchainTransaction, if_pos rfl]

theorem applyEvent_credited {verdict : Except InvalidReason Payment} {r : LogStep} (hk : s.Keyed)
    (h : Yields (applyEvent chain hash block index e verdict) s r s') : ∃ c s₁ s₂,
      Obtained s chain hash block c s₁ ∧ s₂.Keyed ∧ s₂.supply = s₁.supply ∧
      s₂.ledger.transactions = s₁.ledger.transactions ∧
      s₁.ledger.Notes (c.seen block) [e.record c.id index] s₂.ledger ∧
      Credited s₂ (c.seen block) e verdict r s' := by
  rw [applyEvent_eq] at h
  simp only [yields_bind] at h
  obtain ⟨c, s₁, hc, _, s₂, ha, h⟩ := h
  have hk₁ := ((lasting_obtainBlockchainTransaction _ _ _).later hc).keyed hk
  have hk₂ := ((lasting_advanceUnlessReverted c).later ha).keyed hk₁
  have ho := obtained hc
  obtain ⟨hs₂, ht₂, hn⟩ := advanceBlockchain_notes ha (.start (ho.blockchainTransaction? hk))
  obtain ⟨s₃, hk₃, hs₃, ht₃, hn, hcr⟩ := noteEvent_credited hk₂ hn rfl rfl h
  exact ⟨c, s₁, s₃, ho, hk₃, hs₃.trans hs₂, ht₃.trans ht₂, hn, hcr⟩

theorem lasting_noteEvent (c : BlockchainTransaction) (block index : Int) (e : Event)
    (verdict : Except InvalidReason Payment) : Lasting (noteEvent c block index e verdict) := by
  refine lasting_bind (lasting_recordFacts _ _ _ _) fun _ => lasting_bind (lasting_insertRecord _) fun _ =>
    lasting_bind (lasting_findLinked c) fun t => ?_
  split
  · split
    · exact lasting_pure _
    · exact lasting_pure _
  · split
    · exact lasting_pure _
    · exact lasting_bind (lasting_credit _ _ _) fun _ => lasting_pure _

theorem lasting_applyEvent (chain : Chain) (hash : String) (block index : Int) (e : Event)
    (verdict : Except InvalidReason Payment) : Lasting (applyEvent chain hash block index e verdict) := by
  rw [applyEvent_eq]
  exact lasting_bind (lasting_obtainBlockchainTransaction _ _ _) fun c =>
    lasting_bind (lasting_advanceUnlessReverted c) fun _ => lasting_noteEvent _ _ _ _ _

/-! ## Checkpoints -/

theorem lasting_findFollowed (chain : Chain) : Lasting (findFollowed chain) := by
  refine lasting_bind lasting_look fun c => ?_
  split
  · exact lasting_pure _
  · split
    · exact lasting_throw _
    · exact lasting_pure _

theorem yields_findFollowed {previous : Option Nat} : Yields (findFollowed chain) s previous s' ↔ s' = s ∧
    ((s.ledger.checkpoint? chain = none ∧ previous = none) ∨
      ∃ c, s.ledger.checkpoint? chain = some c ∧ 0 ≤ c.block ∧ previous = some c.block.toNat) := by
  unfold findFollowed
  rw [yields_bind_of (yields_findCheckpoint.2 ⟨rfl, rfl⟩)]
  split
  · rename_i hc
    simp [yields_pure, hc, and_comm]
  · rename_i c hc
    split
    · rename_i hn
      refine ⟨fun h => absurd h not_yields_throw, fun ⟨_, h⟩ => ?_⟩
      rcases h with ⟨hno, -⟩ | ⟨c', hc', hb, -⟩
      · exact nomatch hno.symm.trans hc
      · obtain rfl := Option.some.inj (hc'.symm.trans hc)
        omega
    · rename_i hn
      simp [yields_pure, hc, Int.not_lt.1 hn, and_comm]

end Work

end DonationLedger
