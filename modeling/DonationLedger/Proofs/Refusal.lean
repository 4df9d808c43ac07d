import DonationLedger.Proofs.References
import DonationLedger.Proofs.Resolution.Decision

/-!
# Why a transaction is not settled

What keeps a transaction from being settled is read off the rows, the registry and the answer of the node
(`Obstacle.Refuses`). The obstacles are in a fixed order, and the failure is that of the first of them that there is:
first those that the transaction's own row shows, then the chain and the link of the blockchain transaction that it
expects, last what the node answers. Where there is none, the transaction is settled. That nothing else is in the way
rests on what holds of every ledger: a hash is stored as it is spelled, and what was reverted is not expected by a
transaction that still waits.
-/

namespace DonationLedger

/-- What keeps a transaction from being settled. -/
inductive Obstacle
  | unknown
  | wrongQueue
  | unnamed
  | unregistered
  | elsewhere
  | silent
  | unmined
  | beyond
  | retracted
  deriving DecidableEq

/-- The row of the transaction names this blockchain transaction. -/
def Ledger.Names (l : Ledger) (id : Id) (c : BlockchainTransaction) : Prop :=
  ∃ u b, l.transaction? id = some u ∧ u.blockchainTransaction = some b ∧ l.blockchainTransaction? b = some c

theorem Ledger.Names.unique {l : Ledger} {id : Id} {c c' : BlockchainTransaction} (h : l.Names id c)
    (h' : l.Names id c') : c' = c := by
  obtain ⟨u, b, hu, hb, hc⟩ := h
  obtain ⟨u', b', hu', hb', hc'⟩ := h'
  obtain rfl := Option.some.inj (hu.symm.trans hu')
  obtain rfl := Option.some.inj (hb.symm.trans hb')
  exact Option.some.inj (hc'.symm.trans hc)

namespace Obstacle

/-- What the row of the transaction shows. -/
def onFile : List Obstacle := [unknown, wrongQueue, unnamed]

/-- What the blockchain transaction that it expects shows. -/
def onChain : List Obstacle := [unregistered, elsewhere]

/-- What the node's answer shows. -/
def answered : List Obstacle := [silent, unmined, beyond, retracted]

/-- All obstacles, in the order in which they count. -/
def all : List Obstacle := onFile ++ (onChain ++ answered)

def code : Obstacle → String
  | unknown => "TX_NOT_FOUND"
  | wrongQueue => "WRONG_QUEUE"
  | unnamed => "BLOCKCHAIN_TX_NOT_FOUND"
  | unregistered => "UNSUPPORTED_CHAIN"
  | elsewhere => "ALREADY_LINKED"
  | silent => "CHAIN_READER_ERROR"
  | unmined => "NOT_MINED"
  | beyond => "MALFORMED_PAYLOAD"
  | retracted => "INVALID_TRANSITION"

/-- Whether the obstacle may be gone later. -/
def passes : Obstacle → Bool
  | silent | unmined => true
  | _ => false

variable (r : Registry) (reader : Reader) (l : Ledger) (id : Id)

/-- The obstacle is there, and this failure tells of it. -/
inductive Refuses : Obstacle → Failure → Prop
  | unknown (h : ∀ u, l.transaction? id = some u → u.state ≠ .pending) :
    Refuses .unknown (.settlement (.transactionNotFound id))
  | wrongQueue {u : Transaction} (hu : l.transaction? id = some u) (hp : u.provider ≠ .blockchain) :
    Refuses .wrongQueue (.settlement (.wrongQueue id u.provider.name))
  | unnamed {u : Transaction} (hu : l.transaction? id = some u)
    (hb : ∀ b, u.blockchainTransaction = some b → l.blockchainTransaction? b = none) :
    Refuses .unnamed (.settlement (.blockchainTransactionNotFound id))
  | unregistered {c : BlockchainTransaction} (hc : l.Names id c) (hr : r.find? c.chain = none) :
    Refuses .unregistered (.settlement (.unsupportedChain c.chain.id))
  | elsewhere {c : BlockchainTransaction} {t : Id} (hc : l.Names id c) (ht : c.transaction = some t) (hne : t ≠ id) :
    Refuses .elsewhere (.settlement (.linkedElsewhere c.id t))
  | silent {c : BlockchainTransaction} {hash : Hash} {e : Failure} (hc : l.Names id c) (hh : c.hash = hash.spelling)
    (ha : reader c.chain (.receipt hash) = .error e) : Refuses .silent e
  | unmined {c : BlockchainTransaction} {hash : Hash} (hc : l.Names id c) (hh : c.hash = hash.spelling)
    (ha : reader c.chain (.receipt hash) = .ok none) : Refuses .unmined (.settlement (.notMined hash.spelling))
  | beyond {c : BlockchainTransaction} {hash : Hash} {receipt : Receipt} (hc : l.Names id c)
    (hh : c.hash = hash.spelling) (ha : reader c.chain (.receipt hash) = .ok (some receipt))
    (hb : Text.maxSigned64 < receipt.block) :
    Refuses .beyond (.settlement (.malformedPayload (.blockNumber receipt.block)))
  | retracted {c : BlockchainTransaction} {hash : Hash} {receipt : Receipt} (hc : l.Names id c)
    (hh : c.hash = hash.spelling) (ha : reader c.chain (.receipt hash) = .ok (some receipt))
    (hr : receipt.reverted = true) (hs : c.state = .succeeded) :
    Refuses .retracted
      (.settlement (.invalidTransition BlockchainState.succeeded.title BlockchainState.reverted.title))

/-- The failure is that of the first obstacle that there is. -/
def Refused (os : List Obstacle) (e : Failure) : Prop :=
  ∃ o, IsFirst (fun o => ∃ e, Refuses r reader l id o e) os o ∧ Refuses r reader l id o e

/-- How settling ends: with the failure of the first obstacle that there is, or, where there is none, with an outcome,
which is the state of the row then. -/
inductive Ends (os : List Obstacle) : Except Failure Outcome → Session → Prop
  | refused {e : Failure} {s' : Session} (h : Refused r reader l id os e) : Ends os (.error e) s'
  | settled {o : Outcome} {v : Transaction} {s' : Session} (h : ∀ x ∈ os, ∀ e, ¬ Refuses r reader l id x e)
    (hv : s'.ledger.transaction? id = some v) (ho : v.state = o.state) : Ends os (.ok o) s'

variable {r reader l id} {o : Obstacle} {os : List Obstacle} {e e' : Failure}

theorem Refuses.code_eq (h : Refuses r reader l id o e) (hn : o = .silent → ∃ chain text, e = .node chain text) :
    e.code = o.code ∧ e.retryable = o.passes := by
  cases h with
  | silent =>
    obtain ⟨chain, text, rfl⟩ := hn rfl
    exact ⟨rfl, rfl⟩
  | _ => exact ⟨rfl, rfl⟩

theorem refused_cons : Refused r reader l id (o :: os) e ↔
    Refuses r reader l id o e ∨ (∀ e', ¬ Refuses r reader l id o e') ∧ Refused r reader l id os e := by
  simp only [Refused, isFirst_cons]
  constructor
  · rintro ⟨o', ⟨-, rfl⟩ | ⟨hn, hf⟩, he⟩
    · exact .inl he
    · exact .inr ⟨fun e' h => hn ⟨e', h⟩, o', hf, he⟩
  · rintro (he | ⟨hn, o', hf, he⟩)
    · exact ⟨o, .inl ⟨⟨e, he⟩, rfl⟩, he⟩
    · exact ⟨o', .inr ⟨fun ⟨e', h⟩ => hn e' h, hf⟩, he⟩

theorem refused_append {os' : List Obstacle} (hn : ∀ o ∈ os, ∀ e, ¬ Refuses r reader l id o e) :
    Refused r reader l id (os ++ os') e ↔ Refused r reader l id os' e := by
  induction os with
  | nil => rfl
  | cons o os ih =>
    rw [List.cons_append, refused_cons, ih fun o ho => hn o (List.mem_cons_of_mem _ ho)]
    exact ⟨fun h => (h.resolve_left (hn o List.mem_cons_self e)).2, fun h => .inr ⟨hn o List.mem_cons_self, h⟩⟩

theorem Refused.append (h : Refused r reader l id os e) (os' : List Obstacle) :
    Refused r reader l id (os ++ os') e := by
  obtain ⟨o, ⟨before, after, rfl, ho, hn⟩, he⟩ := h
  exact ⟨o, ⟨before, after ++ os', by simp, ho, hn⟩, he⟩

/-- Obstacles that there are not do not matter. -/
theorem Ends.after {os' : List Obstacle} {result : Except Failure Outcome} {s' : Session}
    (hn : ∀ o ∈ os, ∀ e, ¬ Refuses r reader l id o e) (h : Ends r reader l id os' result s') :
    Ends r reader l id (os ++ os') result s' := by
  cases h with
  | refused h => exact .refused ((refused_append hn).2 h)
  | settled h hv ho => exact .settled (fun x hx => (List.mem_append.1 hx).elim (hn x) (h x)) hv ho

/-! ## Each obstacle, where the rows are known -/

section
variable {u : Transaction} (hu : l.transaction? id = some u)
include hu

theorem unknown_iff : Refuses r reader l id .unknown e ↔
    u.state ≠ .pending ∧ e = .settlement (.transactionNotFound id) := by
  constructor
  · rintro ⟨h⟩
    exact ⟨h u hu, rfl⟩
  · rintro ⟨h, rfl⟩
    exact .unknown fun v hv => Option.some.inj (hu.symm.trans hv) ▸ h

theorem wrongQueue_iff : Refuses r reader l id .wrongQueue e ↔
    u.provider ≠ .blockchain ∧ e = .settlement (.wrongQueue id u.provider.name) := by
  constructor
  · intro h
    cases h with
    | wrongQueue hv hp =>
      obtain rfl := Option.some.inj (hu.symm.trans hv)
      exact ⟨hp, rfl⟩
  · rintro ⟨h, rfl⟩
    exact .wrongQueue hu h

theorem unnamed_iff : Refuses r reader l id .unnamed e ↔
    (∀ b, u.blockchainTransaction = some b → l.blockchainTransaction? b = none) ∧
      e = .settlement (.blockchainTransactionNotFound id) := by
  constructor
  · intro h
    cases h with
    | unnamed hv hb =>
      obtain rfl := Option.some.inj (hu.symm.trans hv)
      exact ⟨hb, rfl⟩
  · rintro ⟨h, rfl⟩
    exact .unnamed hu h

end

section
variable {c : BlockchainTransaction} (hc : l.Names id c)
include hc

theorem unregistered_iff : Refuses r reader l id .unregistered e ↔
    r.find? c.chain = none ∧ e = .settlement (.unsupportedChain c.chain.id) := by
  constructor
  · intro h
    cases h with
    | unregistered hc' hr =>
      obtain rfl := hc.unique hc'
      exact ⟨hr, rfl⟩
  · rintro ⟨h, rfl⟩
    exact .unregistered hc h

theorem elsewhere_iff : Refuses r reader l id .elsewhere e ↔
    ∃ t, c.transaction = some t ∧ t ≠ id ∧ e = .settlement (.linkedElsewhere c.id t) := by
  constructor
  · intro h
    cases h with
    | elsewhere hc' ht hne =>
      obtain rfl := hc.unique hc'
      exact ⟨_, ht, hne, rfl⟩
  · rintro ⟨t, ht, hne, rfl⟩
    exact .elsewhere hc ht hne

variable {hash : Hash} (hh : c.hash = hash.spelling)
include hh

omit hc in
theorem hash_eq {hash' : Hash} (hh' : c.hash = hash'.spelling) : hash' = hash := by
  have h := congrArg (FixedBytes.parse? 32) (hh'.symm.trans hh)
  rw [FixedBytes.parse?_spelling, FixedBytes.parse?_spelling] at h
  exact Option.some.inj h

theorem silent_iff : Refuses r reader l id .silent e ↔ reader c.chain (.receipt hash) = .error e := by
  constructor
  · intro h
    cases h with
    | silent hc' hh' ha =>
      obtain rfl := hc.unique hc'
      obtain rfl := hash_eq hh hh'
      exact ha
  · exact .silent hc hh

theorem unmined_iff : Refuses r reader l id .unmined e ↔
    reader c.chain (.receipt hash) = .ok none ∧ e = .settlement (.notMined hash.spelling) := by
  constructor
  · intro h
    cases h with
    | unmined hc' hh' ha =>
      obtain rfl := hc.unique hc'
      obtain rfl := hash_eq hh hh'
      exact ⟨ha, rfl⟩
  · rintro ⟨ha, rfl⟩
    exact .unmined hc hh ha

theorem beyond_iff : Refuses r reader l id .beyond e ↔ ∃ receipt, reader c.chain (.receipt hash) = .ok (some receipt) ∧
    Text.maxSigned64 < receipt.block ∧ e = .settlement (.malformedPayload (.blockNumber receipt.block)) := by
  constructor
  · intro h
    cases h with
    | beyond hc' hh' ha hb =>
      obtain rfl := hc.unique hc'
      obtain rfl := hash_eq hh hh'
      exact ⟨_, ha, hb, rfl⟩
  · rintro ⟨_, ha, hb, rfl⟩
    exact .beyond hc hh ha hb

theorem retracted_iff : Refuses r reader l id .retracted e ↔
    ∃ receipt, reader c.chain (.receipt hash) = .ok (some receipt) ∧ receipt.reverted = true ∧ c.state = .succeeded ∧
      e = .settlement (.invalidTransition BlockchainState.succeeded.title BlockchainState.reverted.title) := by
  constructor
  · intro h
    cases h with
    | retracted hc' hh' ha hr hs =>
      obtain rfl := hc.unique hc'
      obtain rfl := hash_eq hh hh'
      exact ⟨_, ha, hr, hs, rfl⟩
  · rintro ⟨_, ha, hr, hs, rfl⟩
    exact .retracted hc hh ha hr hs

theorem not_refuses_of_mined {receipt : Receipt} (ha : reader c.chain (.receipt hash) = .ok (some receipt)) :
    ∀ o ∈ [silent, unmined], ∀ e, ¬ Refuses r reader l id o e := by
  simp only [List.forall_mem_cons, List.not_mem_nil, false_implies, implies_true, and_true]
  constructor
  · intro e he
    cases ha.symm.trans ((silent_iff hc hh).1 he)
  · intro e he
    cases ha.symm.trans ((unmined_iff hc hh).1 he).1

end

/-- An obstacle is told of in one way. -/
theorem Refuses.unique (h : Refuses r reader l id o e) (h' : Refuses r reader l id o e') : e' = e := by
  cases h with
  | unknown => cases h'; rfl
  | wrongQueue hu => exact ((wrongQueue_iff hu).1 h').2
  | unnamed => cases h'; rfl
  | unregistered hc => exact ((unregistered_iff hc).1 h').2
  | elsewhere hc ht =>
    obtain ⟨t, ht', -, rfl⟩ := (elsewhere_iff hc).1 h'
    rw [Option.some.inj (ht.symm.trans ht')]
  | silent hc hh ha => exact (Except.error.inj (ha.symm.trans ((silent_iff hc hh).1 h'))).symm
  | unmined hc hh => exact ((unmined_iff hc hh).1 h').2
  | beyond hc hh ha =>
    obtain ⟨receipt, ha', -, rfl⟩ := (beyond_iff hc hh).1 h'
    rw [Option.some.inj (Except.ok.inj (ha.symm.trans ha'))]
  | retracted => cases h'; rfl

theorem Refused.unique (h : Refused r reader l id os e) (h' : Refused r reader l id os e') : e' = e := by
  induction os with
  | nil =>
    obtain ⟨o, hf, -⟩ := h
    exact absurd hf (not_isFirst_nil o)
  | cons o os ih =>
    rcases refused_cons.1 h with ho | ⟨hn, h⟩
    · rcases refused_cons.1 h' with ho' | ⟨hn', -⟩
      · exact ho.unique ho'
      · exact absurd ho (hn' e)
    · exact ih h ((refused_cons.1 h').resolve_left (hn e')).2

end Obstacle

/-! ## How a job ends -/

section
variable {r : Registry} {reader : Reader} {s s' : Session} {d : Deployment} {id b i : Id} {u : Transaction}
  {c : BlockchainTransaction} {hash : Hash}

open Obstacle in
/-- The row of a transaction that is due names a blockchain transaction. -/
theorem Work.findExpected_refused (r : Registry) (reader : Reader) (s : Session) (id : Id) :
    (∃ e, Refused r reader s.ledger id onFile e ∧ (Work.findExpected id).result s = (.error e, s)) ∨
    (∀ o ∈ onFile, ∀ e, ¬ Refuses r reader s.ledger id o e) ∧ ∃ u c, s.ledger.transaction? id = some u ∧
      u.state = .pending ∧ s.ledger.Names id c ∧ (Work.findExpected id).Yields s c s := by
  have hfind : (Work.findTransaction id).result s = (.ok (s.ledger.transaction? id), s) :=
    Work.yields_findTransaction.2 ⟨rfl, rfl⟩
  cases hu : s.ledger.transaction? id with
  | none =>
    refine .inl ⟨_, refused_cons.2 (.inl (.unknown fun u hu' => nomatch hu.symm.trans hu')), ?_⟩
    rw [Work.findExpected, Work.result_bind, hfind, hu]
    rfl
  | some u =>
    by_cases hp : u.state = .pending
    case neg =>
      exact .inl ⟨_, refused_cons.2 (.inl ((unknown_iff hu).2 ⟨hp, rfl⟩)),
        Work.result_findExpected_of_ended hu (by simpa [Transaction.isPending] using hp)⟩
    have hunknown : ∀ e, ¬ Refuses r reader s.ledger id .unknown e := fun e he => ((unknown_iff hu).1 he).1 hp
    by_cases hq : u.provider = .blockchain
    case neg =>
      refine .inl ⟨_, refused_cons.2 (.inr ⟨hunknown, refused_cons.2 (.inl ((wrongQueue_iff hu).2 ⟨hq, rfl⟩))⟩), ?_⟩
      rw [Work.findExpected, Work.result_bind, hfind, hu]
      simp [Transaction.isPending, hp, hq]
      rfl
    have hqueue : ∀ e, ¬ Refuses r reader s.ledger id .wrongQueue e := fun e he => ((wrongQueue_iff hu).1 he).1 hq
    by_cases hn : ∀ b, u.blockchainTransaction = some b → s.ledger.blockchainTransaction? b = none
    · refine .inl ⟨_, refused_cons.2 (.inr ⟨hunknown, refused_cons.2 (.inr ⟨hqueue,
        refused_cons.2 (.inl ((unnamed_iff hu).2 ⟨hn, rfl⟩))⟩)⟩), ?_⟩
      rw [Work.findExpected, Work.result_bind, hfind, hu]
      cases hb : u.blockchainTransaction with
      | none =>
        simp [Transaction.isPending, hp, hq, hb]
        rfl
      | some b =>
        have hmiss : (Work.findBlockchainTransaction b).result s = (.ok none, s) :=
          Work.yields_findBlockchainTransaction.2 ⟨(hn b hb).symm, rfl⟩
        simp only [Transaction.isPending, hp, hq, hb, beq_self_eq_true, Bool.not_true, Bool.false_eq_true, if_false,
          ne_eq, not_true_eq_false]
        rw [Work.result_bind, hmiss]
        rfl
    · simp only [not_forall] at hn
      obtain ⟨b, hb, hmiss⟩ := hn
      obtain ⟨c, hc⟩ := Option.ne_none_iff_exists'.1 hmiss
      have hunnamed : ∀ e, ¬ Refuses r reader s.ledger id .unnamed e :=
        fun e he => hmiss (((unnamed_iff hu).1 he).1 b hb)
      refine .inr ⟨by simp [onFile, hunknown, hqueue, hunnamed], u, c, rfl, hp, ⟨u, b, hu, hb, hc⟩, ?_⟩
      exact Work.yields_findExpected.2 ⟨rfl, u, b, hu, by simp [Transaction.isPending, hp], hq, hb, hc⟩

/-- A blockchain transaction that settles another transaction is not opened for this one. -/
theorem Work.result_openPair_elsewhere (hf : s.faults = .none) (hc : s.ledger.blockchainTransaction? b = some c)
    (hu : s.ledger.transaction? id = some u) (ht : c.transaction = some i) (hi : i ≠ id) :
    ∃ s₁, (Work.openPair b id).result s = (.error (.settlement (.linkedElsewhere b i)), s₁) := by
  rcases hr : (Work.openPair b id).result s with ⟨e | p, s₁⟩
  · refine ⟨s₁, ?_⟩
    rcases (Work.failsBy_openPair b id).cause e (by rw [hr]) with hcause | hpair
    · rw [hf] at hcause
      exact (Faults.not_causes_none e hcause).elim
    · cases hpair with
      | blockchainTransaction hb => exact nomatch hb.symm.trans hc
      | transaction ht' => exact nomatch ht'.symm.trans hu
      | elsewhere hc' ht' =>
        obtain rfl := Option.some.inj (hc.symm.trans hc')
        rw [Option.some.inj (ht.symm.trans ht')]
  · obtain ⟨c', u', v, hp, -⟩ := Work.openPair_rewrites hr
    obtain ⟨rfl, rfl⟩ := hp.unique hc hu
    rcases hp.free with hn | ht'
    · exact nomatch hn.symm.trans ht
    · exact absurd (Option.some.inj (ht.symm.trans ht')) hi

namespace Process

/-- What follows once a pair is open that waits. -/
theorem alone_closeOpened (hh : c.hash = hash.spelling) :
    (closeOpened d b id (c, none)).alone reader s = match reader d.chain (.receipt hash) with
      | .error e => (.error e, s)
      | .ok none => (.error (.settlement (.notMined hash.spelling)), s)
      | .ok (some receipt) =>
        (closeObserved b id receipt (if receipt.reverted then [] else receipt.observed d s.ledger)).alone reader s := by
  have hread : FixedBytes.parse? 32 c.hash = some hash := by rw [hh, FixedBytes.parse?_spelling]
  unfold closeOpened
  simp only [hread]
  cases ha : reader d.chain (.receipt hash) with
  | error e => exact alone_bind_error (congrArg (·, s) ha)
  | ok answer =>
    refine (alone_bind (congrArg (·, s) ha)).trans ?_
    cases answer with
    | none => rfl
    | some receipt => exact alone_bind (alone_observeReceipt reader d receipt s)

end Process

open Obstacle in
/-- A receipt that can be stored is refused for what it takes back, or settles the transaction. -/
theorem Receipt.Decides.ends {receipt : Receipt} {result : Except Failure Outcome}
    (h : receipt.Decides d id c u s.ledger result s'.ledger) (hu : u.id = id) (hn : s.ledger.Names id c)
    (hh : c.hash = hash.spelling) (ha : reader c.chain (.receipt hash) = .ok (some receipt))
    (hb : receipt.block ≤ Text.maxSigned64) : Ends r reader s.ledger id answered result s' := by
  have hstored : ∀ o ∈ [beyond], ∀ e, ¬ Refuses r reader s.ledger id o e := by
    simp only [List.mem_singleton, forall_eq]
    intro e he
    obtain ⟨_, hr, hlt, -⟩ := (beyond_iff hn hh).1 he
    cases ha.symm.trans hr
    exact Nat.not_le.2 hlt hb
  have hretracted : ∀ e, Refuses r reader s.ledger id .retracted e ↔ _ := fun e => retracted_iff hn hh
  rw [ha] at hretracted
  -- where the transaction is settled, the receipt did not take anything back
  have hsettled (hkept : receipt.reverted = true → c.state = .pending) :
      ∀ o ∈ [retracted], ∀ e, ¬ Refuses r reader s.ledger id o e := by
    simp only [List.mem_singleton, forall_eq]
    intro e he
    obtain ⟨_, hr, hrev, hsucc, -⟩ := (hretracted e).1 he
    cases hr
    cases hsucc.symm.trans (hkept hrev)
  have hrow {v : Transaction} {x : BlockchainTransaction} {rs : List AuditRecord}
      (rows : s.ledger.Rewrites v x rs s'.ledger) (hv : v.id = (u.joined c).id) : s'.ledger.transaction? id = some v :=
    hu ▸ u.joined_id c ▸ hv ▸ rows.transaction_self
  have hends : Ends r reader s.ledger id [retracted] result s' := by
    cases h with
    | failed _ hpend rows => exact .settled (hsettled fun _ => hpend) (hrow rows rfl) rfl
    | refused hrev hsucc rows =>
      exact .refused (refused_cons.2 (.inl ((hretracted _).2 ⟨receipt, rfl, hrev, hsucc, rfl⟩)))
    | succeeded hrev _ _ rows => exact .settled (hsettled (by simp [hrev])) (hrow rows rfl) rfl
    | canceled hrev _ rows => exact .settled (hsettled (by simp [hrev])) (hrow rows rfl) rfl
  exact (hends.after hstored).after (not_refuses_of_mined hn hh ha)

open Obstacle in
/-- What the node answers decides on a pair that waits. -/
theorem resolveReceipt_answered (hf : s.faults = .none) (hn : s.ledger.Names id c) (hh : c.hash = hash.spelling)
    (hp : s.ledger.Pair b id c u) (hu : u.state = .pending) (hc : c.state ≠ .reverted) (hd : d.chain = c.chain) :
    ∃ result s', (resolveReceipt d b id).alone reader s = (result, s') ∧
      Ends r reader s.ledger id answered result s' := by
  obtain ⟨s₁, hy, hf₁, hl⟩ := Work.openPair_undecided hf hp hu hc
  have hopen : (resolveReceipt d b id).alone reader s =
      (Process.closeOpened d b id (c.linkedTo id, none)).alone reader s₁ := by
    rw [Process.resolveReceipt_eq, Process.alone_bind (Process.alone_commit hy)]
  rw [hopen, Process.alone_closeOpened (show (c.linkedTo id).hash = _ from hh), hd]
  rcases ha : reader c.chain (.receipt hash) with e | _ | receipt
  · exact ⟨.error e, s₁, rfl, .refused (refused_cons.2 (.inl ((silent_iff hn hh).2 ha)))⟩
  · have hsilent : ∀ o ∈ [silent], ∀ e, ¬ Refuses r reader s.ledger id o e := by simp [silent_iff hn hh, ha]
    have hends : Ends r reader s.ledger id [unmined, beyond, retracted] _ s₁ :=
      .refused (refused_cons.2 (.inl ((unmined_iff hn hh).2 ⟨ha, rfl⟩)))
    exact ⟨_, s₁, rfl, hends.after hsilent⟩
  have hobserved : receipt.observed d s₁.ledger = receipt.observed d s.ledger := by
    rw [Receipt.observed, Receipt.observed, Ledger.content?_of_contents hl.contents]
  simp only [hobserved]
  unfold Process.closeObserved
  by_cases hb : receipt.block ≤ Text.maxSigned64
  · rw [storedNumber?_eq_some_iff.2 ⟨hb, rfl⟩]
    have hdec := receipt.decides_close (d := d) hf₁ hl hp hu hc
    exact ⟨_, _, rfl, hdec.ends (Ledger.transaction?_mem hp.transaction).2 hn hh ha hb⟩
  · have hends : Ends r reader s.ledger id [beyond, retracted] _ s₁ :=
      .refused (refused_cons.2 (.inl ((beyond_iff hn hh).2 ⟨receipt, ha, Nat.lt_of_not_le hb, rfl⟩)))
    rw [storedNumber?, if_neg hb]
    exact ⟨_, s₁, rfl, hends.after (not_refuses_of_mined hn hh ha)⟩

/-- A transaction that waits is paired with none that was reverted: what was reverted is linked to one that has
failed. -/
theorem Ledger.Pair.not_reverted {l : Ledger} (hp : l.Pair b id c u) (hs : l.Sound) (hu : u.state = .pending) :
    c.state ≠ .reverted := by
  intro hrev
  rcases hp.free with hfree | hlinked
  · exact hs.unlinked b c hp.blockchainTransaction hfree hrev
  · obtain ⟨v, hv, -, hagree⟩ := hs.linked b c id hp.blockchainTransaction hlinked
    obtain rfl := Option.some.inj (hp.transaction.symm.trans hv)
    rw [hu, hrev] at hagree
    exact absurd hagree (by decide)

open Obstacle in
/-- On a chain that is registered, the link of the blockchain transaction and the node's answer decide. -/
theorem resolveReceipt_ends (hf : s.faults = .none) (hs : s.ledger.Sound) (hh : c.hash = hash.spelling)
    (hn : s.ledger.Names id c) (hc : s.ledger.blockchainTransaction? b = some c)
    (hu : s.ledger.transaction? id = some u) (hp : u.state = .pending) (hd : d.chain = c.chain) :
    ∃ result s', (resolveReceipt d b id).alone reader s = (result, s') ∧
      Ends r reader s.ledger id (elsewhere :: answered) result s' := by
  have helsewhere : ∀ e, Refuses r reader s.ledger id .elsewhere e ↔ _ := fun e => elsewhere_iff hn
  by_cases hfree : c.transaction = none ∨ c.transaction = some id
  · have hlink : ∀ o ∈ [elsewhere], ∀ e, ¬ Refuses r reader s.ledger id o e := by
      simp only [List.mem_singleton, forall_eq]
      intro e he
      obtain ⟨t, ht, hne, -⟩ := (helsewhere e).1 he
      simp [ht, hne] at hfree
    have hpair : s.ledger.Pair b id c u := ⟨hc, hu, hfree⟩
    obtain ⟨result, s', hresolve, hends⟩ :=
      resolveReceipt_answered hf hn hh hpair hp (hpair.not_reverted hs hp) hd
    exact ⟨result, s', hresolve, hends.after hlink⟩
  · obtain ⟨t, ht⟩ := Option.ne_none_iff_exists'.1 fun h => hfree (.inl h)
    have hne : t ≠ id := fun he => hfree (.inr (he ▸ ht))
    obtain ⟨s₁, hopen⟩ := Work.result_openPair_elsewhere hf hc hu ht hne
    obtain ⟨-, rfl⟩ := Ledger.blockchainTransaction?_mem hc
    refine ⟨_, s.dropped s₁, ?_, .refused (refused_cons.2 (.inl ((helsewhere _).2 ⟨t, ht, hne, rfl⟩)))⟩
    rw [Process.resolveReceipt_eq]
    exact Process.alone_bind_error (Process.alone_commit_error hopen)

open Obstacle in
/-- A job ends as the obstacles say, if hashes are stored as they are spelled and what was reverted is not expected. -/
theorem settle_ends (hf : s.faults = .none) (hs : s.ledger.Sound) (hv : s.ledger.Valid) (r : Registry)
    (reader : Reader) (id : Id) : ∃ result s', (settle r id).alone reader s = (result.map (Settled.mk id), s') ∧
      Ends r reader s.ledger id all result s' := by
  rcases Work.findExpected_refused r reader s id with ⟨e, he, hfind⟩ | ⟨hfile, u, c, hu, hp, hn, hfind⟩
  · exact ⟨.error e, _, Process.alone_bind_error (Process.alone_commit_error hfind), .refused (he.append _)⟩
  have hc : s.ledger.blockchainTransaction? c.id = some c := by
    obtain ⟨_, b, -, -, hb⟩ := hn
    obtain ⟨-, rfl⟩ := Ledger.blockchainTransaction?_mem hb
    exact hb
  obtain ⟨hash, hh⟩ := hv.spelled _ _ hc
  have hexpected : (settle r id).alone reader s = (Process.ofExcept (r.require c.chain) >>= fun d =>
      resolveReceipt d c.id id >>= fun o => pure ⟨id, o⟩).alone reader s :=
    Process.alone_bind (Process.alone_commit hfind)
  have hregistered : ∀ e, Refuses r reader s.ledger id .unregistered e ↔ _ := fun e => unregistered_iff hn
  rw [hexpected]
  cases hd : r.find? c.chain with
  | none =>
    have hrequire : (Process.ofExcept (r.require c.chain)).alone reader s =
        (.error (.settlement (.unsupportedChain c.chain.id)), s) := by
      rw [Registry.require, hd]
      rfl
    exact ⟨.error _, s, Process.alone_bind_error hrequire,
      .after hfile (.refused (refused_cons.2 (.inl ((hregistered _).2 ⟨hd, rfl⟩))))⟩
  | some d =>
    have hrequire : (Process.ofExcept (r.require c.chain)).alone reader s = (.ok d, s) := by
      rw [Registry.require, hd]
      rfl
    have hchain : ∀ o ∈ [unregistered], ∀ e, ¬ Refuses r reader s.ledger id o e := by
      simp [hregistered, hd]
    obtain ⟨result, s', hresolve, hends⟩ := resolveReceipt_ends (r := r) hf hs hh hn hc hu hp
      (Registry.chain_of_find? hd)
    have hall : Ends r reader s.ledger id (onFile ++ ([unregistered] ++ elsewhere :: answered)) result s' :=
      .after hfile (.after hchain hends)
    rw [Process.alone_bind hrequire]
    refine ⟨result, s', ?_, hall⟩
    cases result with
    | error e => exact Process.alone_bind_error hresolve
    | ok o => exact Process.alone_bind hresolve

/-- Whatever the node answers, a job ends with the failure of the first obstacle that there is, and with no other
failure. Each obstacle has its code, and only what the node did not tell may pass. Where there is no obstacle the
transaction is settled. -/
theorem System.settle_refused_first {w : System} (hw : w.Reachable r) (reader : Reader) (id : Id) :
    ∃ result s', (settle r id).alone reader w.session.calm = (result, s') ∧
      (∀ e, result = .error e ↔ Obstacle.Refused r reader w.session.ledger id Obstacle.all e) ∧
      (∀ o e, Obstacle.Refuses r reader w.session.ledger id o e →
        (o = .silent → ∃ chain text, e = .node chain text) → e.code = o.code ∧ e.retryable = o.passes) ∧
      ((∀ o e, ¬ Obstacle.Refuses r reader w.session.ledger id o e) → ∃ outcome v, result = .ok ⟨id, outcome⟩ ∧
        s'.ledger.transaction? id = some v ∧ v.state = outcome.state) := by
  obtain ⟨result, s', hrun, hends⟩ := settle_ends (s := w.session.calm) rfl hw.kept.2.sound
    (referring_happened hw.happened).2.1.valid r reader id
  refine ⟨_, s', hrun, fun e => ?_, fun o e he hn => he.code_eq hn, fun hno => ?_⟩
  · cases hends with
    | refused h => exact ⟨fun he => Except.error.inj he ▸ h, fun h' => congrArg _ (h.unique h').symm⟩
    | settled h =>
      refine ⟨fun he => (nomatch he), fun ⟨o, hf, he⟩ => absurd he (h o ?_ e)⟩
      obtain ⟨before, after, hall, -⟩ := hf
      exact hall ▸ List.mem_append_right _ List.mem_cons_self
  · cases hends with
    | refused h =>
      obtain ⟨o, -, he⟩ := h
      exact absurd he (hno o _)
    | settled _ hv ho => exact ⟨_, _, rfl, hv, ho⟩

/-- A node that tells of a receipt in a block whose number is too large to be stored. -/
def Donation.remote (_ : Chain) : (q : Query) → Except Failure q.Answer
  | .height => .ok (7 : Nat)
  | .logs .. => .ok []
  | .receipt _ => .ok (some { receipt with reverted := true, block := power 2 63 })

/-- The donation that is waited for is not settled by a receipt that cannot be stored. That it was reverted does not
matter. -/
theorem System.donation_refused : Donation.awaited.Reachable [Donation.deployment] ∧
    IsFirst (fun o => ∃ e, Obstacle.Refuses [Donation.deployment] Donation.remote Donation.awaited.session.ledger
      (.issued .transaction 1) o e) Obstacle.all .beyond ∧
    ∃ e, ((settle [Donation.deployment] (.issued .transaction 1)).alone Donation.remote
      Donation.awaited.session.calm).1 = .error e ∧ e.code = "MALFORMED_PAYLOAD" ∧ e.retryable = false := by
  obtain ⟨result, s', hrun, hfirst, hcode, -⟩ := settle_refused_first
    (Donation.awaited_reachable [Donation.deployment]) Donation.remote (.issued .transaction 1)
  have hresult : ((settle [Donation.deployment] (.issued .transaction 1)).alone Donation.remote
      Donation.awaited.session.calm).1 = .error (.settlement (.malformedPayload (.blockNumber (power 2 63)))) := by
    rfl
  have he := hresult
  rw [hrun] at he
  obtain ⟨o, hf, ho⟩ := (hfirst _).1 he
  have hbeyond : o = .beyond := by
    generalize hfail : Failure.settlement (.malformedPayload (.blockNumber (power 2 63))) = e at ho
    cases ho with
    | beyond => rfl
    | silent _ _ ha => cases ha
    | _ => cases hfail
  obtain ⟨hc, hr⟩ := hcode o _ ho (by rw [hbeyond]; nofun)
  exact ⟨Donation.awaited_reachable _, hbeyond ▸ hf, _, hresult, by rw [hc, hbeyond]; rfl, by rw [hr, hbeyond]; rfl⟩

end

end DonationLedger
