import DonationLedger.Ledger.Work

/-!
# What work yields

Work that does not fail takes one session to another and returns something. For every operation of
a ledger transaction it is said here once what it returns and how it leaves the session, so that
longer work is taken apart at its binds and nothing later looks into the monad again.
-/

namespace DonationLedger

namespace Session

/-- The session after a write was tried. -/
def spend (s : Session) : Session := { s with faults := s.faults.spend }

/-- The session after a write went through. -/
def write (s : Session) (f : Ledger → Ledger) : Session :=
  { s with ledger := f s.ledger, faults := s.faults.spend }

/-- The session after an id was issued. -/
def issue (s : Session) (kind : RowKind) : Session := { s with supply := s.supply.advance kind }

/-- The session with so many look-ups by hash still to be missed. -/
def missing (s : Session) (n : Nat) : Session := { s with faults := { s.faults with hiddenLookups := n } }

@[simp] theorem ledger_spend (s : Session) : s.spend.ledger = s.ledger := rfl

@[simp] theorem supply_spend (s : Session) : s.spend.supply = s.supply := rfl

@[simp] theorem faults_spend (s : Session) : s.spend.faults = s.faults.spend := rfl

@[simp] theorem ledger_write (s : Session) (f : Ledger → Ledger) : (s.write f).ledger = f s.ledger := rfl

@[simp] theorem supply_write (s : Session) (f : Ledger → Ledger) : (s.write f).supply = s.supply := rfl

@[simp] theorem faults_write (s : Session) (f : Ledger → Ledger) : (s.write f).faults = s.faults.spend := rfl

@[simp] theorem ledger_issue (s : Session) (kind : RowKind) : (s.issue kind).ledger = s.ledger := rfl

@[simp] theorem supply_issue (s : Session) (kind : RowKind) : (s.issue kind).supply = s.supply.advance kind := rfl

@[simp] theorem faults_issue (s : Session) (kind : RowKind) : (s.issue kind).faults = s.faults := rfl

@[simp] theorem ledger_missing (s : Session) (n : Nat) : (s.missing n).ledger = s.ledger := rfl

@[simp] theorem supply_missing (s : Session) (n : Nat) : (s.missing n).supply = s.supply := rfl

end Session

namespace Work

variable {α β : Type} {s s' s'' : Session}

/-- What comes of the work, and the session after it. -/
def result (w : Work α) (s : Session) : Except Failure α × Session := w.run.run s

/-- The work takes `s` to `s'` and returns `a`. -/
def Yields (w : Work α) (s : Session) (a : α) (s' : Session) : Prop := w.result s = (.ok a, s')

/-! ## Binds -/

theorem result_bind (w : Work α) (k : α → Work β) (s : Session) :
    (w >>= k).result s = match w.result s with
      | (.ok a, s') => (k a).result s'
      | (.error e, s') => (.error e, s') := by
  have h : (w >>= k).result s =
      (ExceptT.bindCont k (w.result s).1 : StateM Session (Except Failure β)) (w.result s).2 := rfl
  rw [h]
  rcases w.result s with ⟨_ | a, s'⟩ <;> rfl

theorem yields_pure {a b : α} : Yields (pure a) s b s' ↔ b = a ∧ s' = s := by
  show (Except.ok a, s) = (Except.ok b, s') ↔ _
  simp [eq_comm]

theorem not_yields_throw {e : Failure} {a : α} : ¬ Yields (throw e) s a s' := nofun

theorem yields_bind {w : Work α} {k : α → Work β} {b : β} :
    Yields (w >>= k) s b s'' ↔ ∃ a s', Yields w s a s' ∧ Yields (k a) s' b s'' := by
  unfold Yields
  rw [result_bind]
  rcases w.result s with ⟨_ | a, s'⟩
  · simp
  · constructor
    · exact fun h => ⟨a, s', rfl, h⟩
    · rintro ⟨_, _, h, hk⟩
      cases h
      exact hk

/-- The first part of two is known, so what they yield is what the second does. -/
theorem yields_bind_of {w : Work α} {k : α → Work β} {a : α} {b : β} (h : Yields w s a s') :
    Yields (w >>= k) s b s'' ↔ Yields (k a) s' b s'' := by
  unfold Yields at *
  rw [result_bind, h]

/-! ## Parts of an operation -/

theorem yields_rows {l : Ledger} : Yields rows s l s' ↔ l = s.ledger ∧ s' = s := by
  show (Except.ok s.ledger, s) = (Except.ok l, s') ↔ _
  simp [eq_comm]

theorem result_rows_bind {k : Ledger → Work β} (s : Session) :
    (rows >>= k).result s = (k s.ledger).result s := rfl

theorem result_gate (s : Session) : gate.result s =
    (if s.faults.allows = true then .ok () else .error (.ledger .writeRejected), s.spend) := by
  show Work.result (if s.faults.allows = true then pure () else throw _) (s.spend) = _
  split <;> rfl

theorem yields_gate {u : Unit} : Yields gate s u s' ↔ s.faults.allows = true ∧ s' = s.spend := by
  unfold Yields
  rw [result_gate]
  split <;> rename_i h <;> simp [h, eq_comm]

theorem yields_modify {f : Session → Session} {u : Unit} :
    Yields (modify f) s u s' ↔ s' = f s := by
  show (Except.ok (), f s) = (Except.ok u, s') ↔ _
  simp [eq_comm]

theorem yields_issue {kind : RowKind} {id : Id} :
    Yields (Work.issue kind) s id s' ↔ id = s.supply.next kind ∧ s' = s.issue kind := by
  show (Except.ok (s.supply.next kind), s.issue kind) = (Except.ok id, s') ↔ _
  simp [eq_comm]

theorem yields_change {f : Ledger → Ledger} {u : Unit} :
    Yields (change f) s u s' ↔ s.faults.allows = true ∧ s' = s.write f := by
  simp only [change, yields_bind, yields_gate, yields_modify]
  constructor
  · rintro ⟨_, _, ⟨h, rfl⟩, rfl⟩
    exact ⟨h, rfl⟩
  · rintro ⟨h, rfl⟩
    exact ⟨(), _, ⟨h, rfl⟩, rfl⟩

theorem yields_look {f : Ledger → α} {a : α} :
    Yields (do let l ← rows; pure (f l)) s a s' ↔ a = f s.ledger ∧ s' = s := by
  rw [yields_bind_of (yields_rows.2 ⟨rfl, rfl⟩), yields_pure]

/-! ## Transactions -/

theorem yields_findTransaction {id : Id} {t : Option Transaction} :
    Yields (findTransaction id) s t s' ↔ t = s.ledger.transaction? id ∧ s' = s := yields_look

theorem yields_findExpecting {b : Id} {t : Option Transaction} :
    Yields (findExpecting b) s t s' ↔ t = s.ledger.expecting? b ∧ s' = s := yields_look

theorem yields_findPendingMatch {c : PaymentCriteria Id} {t : Option Transaction} :
    Yields (findPendingMatch c) s t s' ↔ t = s.ledger.pendingMatch? c ∧ s' = s := yields_look

theorem yields_createTransaction {d : TransactionDraft Id} {t : Transaction} :
    Yields (createTransaction d) s t s' ↔ s.faults.allows = true ∧
      t = d.row (s.supply.next .transaction) ∧
      s' = (s.issue .transaction).write fun l => l.addTransaction t := by
  simp only [createTransaction, yields_bind, yields_gate, yields_issue, yields_modify, yields_pure]
  constructor
  · rintro ⟨_, _, ⟨h, rfl⟩, _, _, ⟨rfl, rfl⟩, _, _, rfl, rfl, rfl⟩
    exact ⟨h, rfl, rfl⟩
  · rintro ⟨h, rfl, rfl⟩
    exact ⟨(), _, ⟨h, rfl⟩, _, _, ⟨rfl, rfl⟩, (), _, rfl, rfl, rfl⟩

theorem yields_updateTransaction {id : Id} {c : StateChange Id} {t : Transaction} :
    Yields (updateTransaction id c) s t s' ↔ s.faults.allows = true ∧
      ∃ u, s.ledger.transaction? id = some u ∧ t = c.apply u ∧
        s' = s.write fun l => l.mapTransaction id c.apply := by
  simp only [updateTransaction, yields_bind, yields_gate, yields_rows]
  constructor
  · rintro ⟨_, _, ⟨h, rfl⟩, _, _, ⟨rfl, rfl⟩, hk⟩
    split at hk
    · exact absurd hk not_yields_throw
    · rename_i u hu
      simp only [yields_bind, yields_modify, yields_pure] at hk
      obtain ⟨_, _, rfl, rfl, rfl⟩ := hk
      exact ⟨h, u, hu, rfl, rfl⟩
  · rintro ⟨h, u, hu, rfl, rfl⟩
    refine ⟨(), _, ⟨h, rfl⟩, _, _, ⟨rfl, rfl⟩, ?_⟩
    simp only [Session.ledger_spend, hu, yields_bind, yields_modify, yields_pure]
    exact ⟨(), _, rfl, trivial, rfl⟩

/-! ## Blockchain transactions -/

theorem result_findByHash_shown (chain : Chain) (hash : String) (h : s.faults.hiddenLookups = 0) :
    (findByHash chain hash).result s = (.ok (s.ledger.byHash? chain hash), s) := by
  obtain ⟨ledger, supply, rejecting, writes, hidden⟩ := s
  cases h
  rfl

theorem result_findByHash_hidden (chain : Chain) (hash : String) {n : Nat} (h : s.faults.hiddenLookups = n + 1) :
    (findByHash chain hash).result s = (.ok none, s.missing n) := by
  obtain ⟨ledger, supply, rejecting, writes, hidden⟩ := s
  cases h
  rfl

theorem yields_findByHash {chain : Chain} {hash : String} {b : Option BlockchainTransaction} :
    Yields (findByHash chain hash) s b s' ↔
      (s.faults.hiddenLookups = 0 ∧ b = s.ledger.byHash? chain hash ∧ s' = s) ∨
      ∃ n, s.faults.hiddenLookups = n + 1 ∧ b = none ∧ s' = s.missing n := by
  unfold Yields
  rcases h : s.faults.hiddenLookups with _ | n
  · simp [result_findByHash_shown chain hash h, eq_comm]
  · simp [result_findByHash_hidden chain hash h, eq_comm]

theorem yields_findBlockchainTransaction {id : Id} {b : Option BlockchainTransaction} :
    Yields (findBlockchainTransaction id) s b s' ↔
      b = s.ledger.blockchainTransaction? id ∧ s' = s := yields_look

theorem yields_createBlockchainTransaction {d : BlockchainDraft Id}
    {b : Option BlockchainTransaction} :
    Yields (createBlockchainTransaction d) s b s' ↔ s.faults.allows = true ∧
      (((s.ledger.byHash? d.chain d.hash).isSome = true ∧ b = none ∧ s' = s.spend) ∨
      (s.ledger.byHash? d.chain d.hash = none ∧
        ∃ c, c = d.row (s.supply.next .blockchainTransaction) ∧ b = some c ∧
        s' = (s.issue .blockchainTransaction).write fun l => l.addBlockchainTransaction c)) := by
  simp only [createBlockchainTransaction, yields_bind, yields_gate, yields_rows]
  constructor
  · rintro ⟨_, _, ⟨h, rfl⟩, _, _, ⟨rfl, rfl⟩, hk⟩
    refine ⟨h, ?_⟩
    split at hk
    · rename_i c hc
      obtain ⟨rfl, rfl⟩ := yields_pure.1 hk
      exact .inl ⟨by rw [show s.ledger.byHash? d.chain d.hash = some c from hc]; rfl, rfl, rfl⟩
    · rename_i hc
      simp only [yields_bind, yields_issue, yields_modify, yields_pure] at hk
      obtain ⟨_, _, ⟨rfl, rfl⟩, _, _, rfl, rfl, rfl⟩ := hk
      exact .inr ⟨hc, _, rfl, rfl, rfl⟩
  · rintro ⟨h, ⟨hc, rfl, rfl⟩ | ⟨hc, _, rfl, rfl, rfl⟩⟩
    · refine ⟨(), _, ⟨h, rfl⟩, _, _, ⟨rfl, rfl⟩, ?_⟩
      obtain ⟨c, hc⟩ := Option.isSome_iff_exists.1 hc
      simp only [Session.ledger_spend, hc, yields_pure, and_self]
    · refine ⟨(), _, ⟨h, rfl⟩, _, _, ⟨rfl, rfl⟩, ?_⟩
      simp only [Session.ledger_spend, hc, yields_bind, yields_issue, yields_modify, yields_pure]
      exact ⟨_, _, ⟨rfl, rfl⟩, (), _, rfl, rfl, rfl⟩

theorem yields_updateBlockchainTransaction {id : Id} {state : BlockchainState}
    {b : BlockchainTransaction} :
    Yields (updateBlockchainTransaction id state) s b s' ↔ s.faults.allows = true ∧
      ∃ c, s.ledger.blockchainTransaction? id = some c ∧ b = moved state c ∧
        s' = s.write fun l => l.mapBlockchainTransaction id (moved state) := by
  simp only [updateBlockchainTransaction, yields_bind, yields_gate, yields_rows]
  constructor
  · rintro ⟨_, _, ⟨h, rfl⟩, _, _, ⟨rfl, rfl⟩, hk⟩
    split at hk
    · exact absurd hk not_yields_throw
    · rename_i c hc
      simp only [yields_bind, yields_modify, yields_pure] at hk
      obtain ⟨_, _, rfl, rfl, rfl⟩ := hk
      exact ⟨h, c, hc, rfl, rfl⟩
  · rintro ⟨h, c, hc, rfl, rfl⟩
    refine ⟨(), _, ⟨h, rfl⟩, _, _, ⟨rfl, rfl⟩, ?_⟩
    simp only [Session.ledger_spend, hc, yields_bind, yields_modify, yields_pure]
    exact ⟨(), _, rfl, trivial, rfl⟩

theorem yields_recordFacts {id : Id} {sender recipient : Option String} {block : Option Int}
    {u : Unit} :
    Yields (recordFacts id sender recipient block) s u s' ↔ s.faults.allows = true ∧
      s' = s.write fun l => l.mapBlockchainTransaction id (filled sender recipient block) :=
  yields_change

theorem yields_link {b t : Id} {u : Unit} :
    Yields (link b t) s u s' ↔ s.faults.allows = true ∧ s' = s.write fun l => l.link b t :=
  yields_change

theorem yields_insertRecord {r : AuditRecord} {u : Unit} :
    Yields (insertRecord r) s u s' ↔ s.faults.allows = true ∧ s' = s.write fun l => l.addRecord r :=
  yields_change

/-! ## Checkpoints and users -/

theorem yields_findCheckpoint {chain : Chain} {c : Option Checkpoint} :
    Yields (findCheckpoint chain) s c s' ↔ c = s.ledger.checkpoint? chain ∧ s' = s := yields_look

theorem yields_raiseCheckpoint {chain : Chain} {block : Int} {u : Unit} :
    Yields (raiseCheckpoint chain block) s u s' ↔ s.faults.allows = true ∧
      s' = s.write fun l => l.setCheckpoint chain block := yields_change

theorem yields_findUser {address : String} {id : Option Id} :
    Yields (findUser address) s id s' ↔ id = s.ledger.user? (Text.lowercase address) ∧ s' = s :=
  yields_look

theorem yields_findAddress {user : Id} {a : Option String} :
    Yields (findAddress user) s a s' ↔ a = s.ledger.address? user ∧ s' = s := yields_look

/-! ## Expected payments -/

/-- A payment that is expected, and the blockchain transaction that is to settle it, link each other. -/
theorem ledger_seedPayment {chain : Chain} {hash : Hash} {d : TransactionDraft Id}
    {p : Transaction × BlockchainTransaction} (hy : Yields (seedPayment chain hash d) s p s') :
    ∃ t c, t = d.row (s.supply.next .transaction) ∧
      c = (BlockchainDraft.mk chain hash.spelling (some t.id) .pending none).row
        (s.supply.next .blockchainTransaction) ∧
      s'.ledger = ((s.ledger.addTransaction t).addBlockchainTransaction c).link c.id t.id := by
  obtain ⟨t, s₁, hcreate, hy⟩ := yields_bind.1 hy
  obtain ⟨-, ht, rfl⟩ := yields_createTransaction.1 hcreate
  obtain ⟨b, s₂, hb, hy⟩ := yields_bind.1 hy
  rcases yields_createBlockchainTransaction.1 hb with ⟨-, ⟨-, rfl, rfl⟩ | ⟨-, c, hc, rfl, rfl⟩⟩
  · exact absurd hy not_yields_throw
  · obtain ⟨_, s₃, hl, hy⟩ := yields_bind.1 hy
    obtain ⟨-, rfl⟩ := yields_link.1 hl
    obtain ⟨u, s₄, hf, hy⟩ := yields_bind.1 hy
    obtain ⟨-, rfl⟩ := yields_findTransaction.1 hf
    split at hy
    · rw [(yields_pure.1 hy).2]
      exact ⟨t, c, ht, hc, rfl⟩
    · exact absurd hy not_yields_throw

/-! ## The end of a ledger transaction -/

theorem commit_of_yields {w : Work α} {a : α} (h : Yields w s a s') : s.commit w = (.ok a, s') := by
  show (match w.result s with
    | (.ok a, after) => (Except.ok a, after)
    | (.error e, after) => (.error e, s.dropped after)) = _
  rw [h]

theorem commit_of_error {w : Work α} {e : Failure} (h : w.result s = (.error e, s')) :
    s.commit w = (.error e, s.dropped s') := by
  show (match w.result s with
    | (.ok a, after) => (Except.ok a, after)
    | (.error e, after) => (.error e, s.dropped after)) = _
  rw [h]

/-- Work is committed with what it yields, or dropped and the rows are as before. -/
theorem commit_cases (s : Session) (w : Work α) :
    (∃ a s', Yields w s a s' ∧ s.commit w = (.ok a, s')) ∨
    ∃ e, (w.result s).1 = .error e ∧ s.commit w = (.error e, s.dropped (w.result s).2) := by
  rcases h : w.result s with ⟨e | a, s'⟩
  · exact .inr ⟨e, rfl, commit_of_error h⟩
  · exact .inl ⟨a, s', h, commit_of_yields h⟩

end Work

end DonationLedger
