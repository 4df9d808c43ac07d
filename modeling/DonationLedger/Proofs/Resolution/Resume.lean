import DonationLedger.Proofs.Idempotence
import DonationLedger.Proofs.Names
import DonationLedger.Proofs.Resolution.Mirrored
import DonationLedger.Proofs.Work.Mirrored

/-!
# Taking up a log where it was left

The application of a log may stop after any of its ledger transactions. Whatever is there by then, applying the log
from the start again comes to where it would have come: the ledger transactions that were committed find done what
they did (`Work.yields_applyEvent_of_pending`, `Work.openPair_again`). All that is needed of the other logs is that
they advance the session (`Session.Advances`), so that what they refused is refused again or has been settled since.
-/

namespace DonationLedger

/-- The blockchain transaction of `i` settles nothing, and nobody waits for it. -/
def Ledger.Spare (l : Ledger) (i : Id) : Prop :=
  ∃ c, l.blockchainTransaction? i = some c ∧ c.transaction = none ∧ l.expecting? i = none

/-- What applying logs makes of a session. Who is not waited for is spare still, or settles a transaction that
ended. -/
structure Session.Advances (s s' : Session) : Prop where
  upholds : s.Upholds s'
  beside : s.ledger.Beside s'.ledger
  spare : ∀ i, s.ledger.Spare i → s'.ledger.Spare i ∨ ∃ t, s'.ledger.Settled i t

/-- All that is known of the sessions that the system can come to, and nothing goes wrong any more. -/
structure Session.Ready (s : Session) : Prop extends s.Proper where
  hashed : s.Hashed
  recorded : s.Recorded
  faults : s.faults = .none

/-- A log of the blockchain transaction of `b` was seen, and the transaction of `t` waits for its receipt. -/
def Ledger.Pends (l : Ledger) (chain : Chain) (hash : String) (index : Int) (b t : Id) : Prop :=
  ∃ c u, l.Seen chain hash index c ∧ l.linked? c = some u ∧ u.isPending = true ∧ c.id = b ∧ u.id = t

namespace Session.Advances

variable {s s' s'' : Session}

theorem refl (s : Session) : s.Advances s := ⟨.refl s, .refl _, fun _ => .inl⟩

theorem trans (h : s.Advances s') (k : s'.Advances s'') (hs : s'.Proper) : s.Advances s'' :=
  ⟨h.upholds.trans k.upholds, h.beside.trans k.beside, fun i hi => (h.spare i hi).elim (k.spare i)
    fun ⟨t, ht⟩ => .inr ⟨t, ht.upholds hs k.upholds⟩⟩

end Session.Advances

/-! ## Who is spare -/

namespace Ledger

variable {l l' : Ledger} {u : Transaction} {c : BlockchainTransaction} {rs : List AuditRecord} {i b t : Id}

theorem Spare.of_transactions (h : l.Spare i) (ht : l'.transactions = l.transactions)
    (hb : ∀ c, l.blockchainTransaction? i = some c →
      ∃ c', l'.blockchainTransaction? i = some c' ∧ c'.transaction = c.transaction) : l'.Spare i := by
  obtain ⟨c, hc, hn, he⟩ := h
  obtain ⟨c', hc', htr⟩ := hb c hc
  refine ⟨c', hc', htr.trans hn, ?_⟩
  unfold expecting?
  rw [ht]
  exact he

theorem Spare.addTransaction (h : l.Spare i) (hu : u.blockchainTransaction ≠ some i) :
    (l.addTransaction u).Spare i := by
  obtain ⟨c, hc, hn, he⟩ := h
  refine ⟨c, hc, hn, List.find?_eq_none.2 fun v hv => ?_⟩
  rcases List.mem_append.1 hv with hv | hv
  · exact List.find?_eq_none.1 he v hv
  · rw [List.mem_singleton.1 hv]
    simp [hu]

/-- Others were rewritten. -/
theorem Spare.rewrites (h : l.Spare i) (hl : l.Rewrites u c rs l')
    (hk : (l'.transactions.map Transaction.id).Nodup) (hi : i ≠ c.id) (hu : u.blockchainTransaction = some c.id) :
    l'.Spare i := by
  obtain ⟨d, hd, hn, he⟩ := h
  refine ⟨d, by rw [hl.blockchainTransaction, if_neg hi, hd], hn, List.find?_eq_none.2 fun v hv => ?_⟩
  have hv := transaction?_of_mem hk hv
  rw [hl.transaction] at hv
  split at hv
  · obtain rfl := Option.some.inj hv
    simp [hu, hi.symm]
  · exact List.find?_eq_none.1 he v (transaction?_mem hv).1

theorem Pends.not_spare {s : Session} {chain : Chain} {hash : String} {index : Int} (hk : s.Keyed)
    (h : s.ledger.Pends chain hash index b t) : ¬ s.ledger.Spare b := by
  rintro ⟨c', hc', hn, he⟩
  obtain ⟨c, u, hc, hu, -, rfl, -⟩ := h
  obtain rfl := Option.some.inj ((hc.blockchainTransaction? hk).symm.trans hc')
  unfold linked? at hu
  rw [hn, he] at hu
  cases hu

end Ledger

/-! ## Ledger transactions advance -/

section
variable {s s' s₁ s₂ : Session} {chain : Chain} {hash : String} {block index : Int} {c : BlockchainTransaction}
  {u : Transaction} {e : Event} {verdict : Except InvalidReason Payment} {b t : Id}

namespace Work

/-- Work that yields the same though nothing goes wrong does not make it go wrong. -/
theorem Mirrored.faults {α : Type} {f : α → α} {w : Work α} {a : α} (h : Mirrored .keep f w w)
    (hs : s.faults = .none) (hy : w.Yields s a s') : s'.faults = .none := by
  have hcalm := (h trivial hy).2
  rw [Renaming.session_keep, Renaming.session_keep, Session.calm_of_faults hs] at hcalm
  have he : s' = s'.calm := congrArg Prod.snd (hy.symm.trans hcalm)
  rw [he]
  rfl

theorem spare_seen {rs : List AuditRecord} {i : Id} (hk : s.Keyed) (ho : Obtained s chain hash block c s₁)
    (ht : s₂.ledger.transactions = s₁.ledger.transactions) (hn : s₁.ledger.Notes (c.seen block) rs s₂.ledger)
    (h : s.ledger.Spare i) : s₂.ledger.Spare i := by
  refine h.of_transactions (ht.trans ho.transactions) fun d hd => ?_
  have hd₁ : s₁.ledger.blockchainTransaction? i = some d := by
    cases ho with
    | found _ hl _ => rw [hl, hd]
    | stored _ hc hl _ =>
      have hi : c.id = s.supply.next .blockchainTransaction := by rw [hc]
      have hnone : s.ledger.blockchainTransaction? c.id = none := hi ▸ hk.blockchainTransaction?_next _
      rw [hl, Ledger.blockchainTransaction?_addBlockchainTransaction _ _ _ hnone, if_neg fun he => ?_, hd]
      rw [he, hnone] at hd
      cases hd
  rw [hn.blockchainTransaction]
  split
  · rename_i he
    obtain rfl := Option.some.inj ((he ▸ hd₁).symm.trans (ho.blockchainTransaction? hk))
    exact ⟨_, rfl, rfl⟩
  · exact ⟨d, hd₁, rfl⟩

theorem spare_credited {r : LogStep} {i : Id} (hk : s'.Keyed) (hcr : Credited s c e verdict r s')
    (h : s.ledger.Spare i) : s'.ledger.Spare i ∨ ∃ t, s'.ledger.Settled i t := by
  have hsettled {u : Transaction} {rs : List AuditRecord} {l : Ledger}
      (hl : l.Rewrites u (c.linkedTo u.id) rs s'.ledger) (hp : u.isPending = false) :
      s'.ledger.Settled c.id u.id := ⟨_, u, hl.blockchainTransaction_self, rfl, hl.transaction_self, hp⟩
  cases hcr with
  | expected => exact .inl h
  | settled => exact .inl h
  | invalid => exact .inl h
  | unknown => exact .inl h
  | matched _ _ _ _ _ hl =>
    by_cases hi : i = c.id
    · exact .inr ⟨_, hi ▸ hsettled hl rfl⟩
    · exact .inl (h.rewrites hl hk.transactions hi rfl)
  | created _ _ _ _ _ hu hl =>
    by_cases hi : i = c.id
    · exact .inr ⟨_, hi ▸ hsettled hl (by rw [hu]; rfl)⟩
    · refine .inl ((h.addTransaction ?_).rewrites hl hk.transactions hi (by rw [hu]; rfl))
      rw [hu]
      simpa [donation, TransactionDraft.row] using fun he => hi he.symm

theorem advances_applyEvent {r : LogStep} (hs : s.Ready)
    (hy : Yields (applyEvent chain hash block index e verdict) s r s') : s.Advances s' ∧ s'.Ready := by
  have hu : s.Upholds s' := .applyEvent hy
  refine ⟨⟨hu, beside_applyEvent hs.keyed hy, fun i hi => ?_⟩, ⟨hs.upholds hu, hu.later.hashed hs.hashed,
    hs.recorded.applyEvent hs.keyed hy, (mirrored_applyEvent _ _ _ _ _ _).faults hs.faults hy⟩⟩
  obtain ⟨c, s₁, s₂, ho, -, -, ht, hn, hcr⟩ := applyEvent_credited hs.keyed hy
  exact spare_credited (hu.later.keyed hs.keyed) hcr (spare_seen hs.keyed ho ht hn hi)

/-- A pair that is waited for is rewritten. -/
theorem spare_rewrites {v : Transaction} {d : BlockchainTransaction} {rs : List AuditRecord} {i : Id}
    (hk : s'.Keyed) (hn : ¬ s.ledger.Spare b) (he : s.ledger.Expects b t) (hp : s.ledger.Pair b t c u)
    (hl : s.ledger.Rewrites v d rs s'.ledger) (hv : v.blockchainTransaction = (u.joined c).blockchainTransaction)
    (hd : d.id = c.id) (h : s.ledger.Spare i) : s'.ledger.Spare i := by
  have hb := (Ledger.blockchainTransaction?_mem hp.blockchainTransaction).2
  refine h.rewrites hl hk.transactions (fun hi => ?_) ?_
  · rw [hi, hd, hb] at h
    exact hn h
  · rw [hv, hd]
    unfold Transaction.joined
    split
    · rfl
    · rw [he.pair hp, hb]

theorem advances_openPair {p : BlockchainTransaction × Option Outcome} (hs : s.Ready)
    (hn : ¬ s.ledger.Spare b) (he : s.ledger.Expects b t) (hy : Yields (openPair b t) s p s') :
    s.Advances s' ∧ s'.Ready := by
  have hu : s.Upholds s' := .openPair he hy
  refine ⟨⟨hu, beside_openPair hy, fun i hi => .inl ?_⟩, ⟨hs.upholds hu, hu.later.hashed hs.hashed,
    hs.recorded.openPair hy, (mirrored_openPair b t).faults hs.faults hy⟩⟩
  obtain ⟨c, u, v, hp, -, hv, hl⟩ := openPair_rewrites hy
  exact spare_rewrites (hu.later.keyed hs.keyed) hn he hp hl hv.blockchainTransaction rfl hi

theorem advances_closePair {r : Receipt} {os : List Observed} {o : Outcome} (hs : s.Ready)
    (hn : ¬ s.ledger.Spare b) (he : s.ledger.Expects b t) (hy : Yields (closePair b t r block os) s o s') :
    s.Advances s' ∧ s'.Ready := by
  have hu : s.Upholds s' := .closePair he hy
  refine ⟨⟨hu, beside_closePair hy, fun i hi => .inl ?_⟩, ⟨hs.upholds hu, hu.later.hashed hs.hashed,
    hs.recorded.closePair hs.keyed hy, (mirrored_closePair b t r block os).faults hs.faults hy⟩⟩
  obtain ⟨c, u, v, d, rs, hp, hc, hl⟩ := closePair_rewrites hy
  exact spare_rewrites (hu.later.keyed hs.keyed) hn he hp hl hc.blockchainTransaction hc.id' hi

/-! ## Ledger transactions that are made again -/

/-- A pair that was opened and is undecided is opened once more, and nothing changes. -/
theorem openPair_again {p : BlockchainTransaction × Option Outcome} (hy : Yields (openPair b t) s p s')
    (hp : p.2 = none) : Yields (openPair b t) s' p s' ∧
      ∃ v, s'.ledger.blockchainTransaction? b = some p.1 ∧ p.1.transaction = some t ∧
        s'.ledger.transaction? t = some v ∧ v.isPending = true := by
  obtain ⟨c, u, v, hcu, hc, hv, hl⟩ := openPair_rewrites hy
  obtain ⟨d, o⟩ := p
  obtain rfl : d = c.linkedTo t := hc
  obtain rfl : o = none := hp
  obtain ⟨hu, hrev⟩ : u.state = .pending ∧ c.state ≠ .reverted := by
    cases hv with
    | undecided hu hc => exact ⟨hu, hc⟩
  have hvs : v.state = .pending := by
    cases hv with
    | undecided => exact (u.joined_state c).trans hu
  have hb : s'.ledger.blockchainTransaction? b = some (c.linkedTo t) := by
    rw [← (Ledger.blockchainTransaction?_mem hcu.blockchainTransaction).2]
    exact hl.blockchainTransaction_self
  have ht : s'.ledger.transaction? t = some v := by
    rw [← (Ledger.transaction?_mem hcu.transaction).2, ← hv.id]
    exact hl.transaction_self
  refine ⟨yields_bind.2 ⟨(c.linkedTo t, v), s', yields_loadPair.2 ⟨_, v, hb, ht, rfl, .inl ⟨rfl, rfl⟩⟩, ?_⟩,
    v, hb, rfl, ht, by simp [Transaction.isPending, hvs]⟩
  exact yields_bind.2 ⟨none, s', yields_settleStored.2 (.inr (.inr ⟨hvs, hrev, rfl, rfl⟩)), yields_pure.2 ⟨rfl, rfl⟩⟩

end Work

theorem Ledger.Pends.expects (h : s.ledger.Pends chain hash index b t) (hs : s.Proper) : s.ledger.Expects b t := by
  obtain ⟨c, u, hc, hu, -, rfl, rfl⟩ := h
  exact hs.sound.expects_linked hs.keyed (hc.blockchainTransaction? hs.keyed) hu

/-- What was opened without a decision still waits. -/
theorem Ledger.Pends.openPair {p : BlockchainTransaction × Option Outcome} (hs : s.Proper) (hh : s.Hashed)
    (h : s.ledger.Pends chain hash index b t) (hy : (Work.openPair b t).Yields s p s') (hp : p.2 = none) :
    s'.ledger.Pends chain hash index b t := by
  obtain ⟨-, v, hb, hbt, ht, hv⟩ := Work.openPair_again hy hp
  have hl := (Work.lasting_openPair b t).later hy
  obtain ⟨c, u, hc, -, -, rfl, -⟩ := h
  obtain ⟨c', hf, hc'⟩ := hc.later hs.keyed hh hl
  obtain rfl : p.1 = c' := by
    have := hc'.blockchainTransaction? (hl.keyed hs.keyed)
    rw [hf.id, hb] at this
    exact Option.some.inj this
  refine ⟨p.1, v, hc', ?_, hv, hf.id, (Ledger.transaction?_mem ht).2⟩
  unfold Ledger.linked?
  rw [hbt]
  exact ht

end

/-! ## The processes -/

namespace Process

variable {reader : Reader} {d : Deployment} {s s' x : Session} {b t : Id}

theorem passes_screen {e : Event} (h : (screen d e).Passes reader s x) : x = s := by
  unfold screen at h
  cases hr : Payment.reference e with
  | error reason =>
    rw [hr] at h
    exact h.elim
  | ok ref =>
    rw [hr] at h
    exact h.elim id False.elim

/-- What is observed where contents are what is on file. -/
theorem alone_observe (reader : Reader) (d : Deployment) (logs : List Log) (s : Session) :
    (observe d logs).alone reader s =
      (.ok (logs.filterMap (Observed.ofLog? d s.ledger.content?)), s) := by
  induction logs with
  | nil => rfl
  | cons log logs ih =>
    unfold observe
    rw [List.filterMap_cons, Observed.ofLog?]
    cases observable? d log with
    | none => exact ih
    | some p => exact (alone_bind (alone_screen d p.2 s)).trans (alone_bind ih)

theorem passes_observe {logs : List Log} (h : (observe d logs).Passes reader s x) : x = s := by
  induction logs with
  | nil => exact h.elim
  | cons log logs ih =>
    unfold observe at h
    split at h
    · exact ih h
    · rename_i index e _
      rcases (passes_bind (alone_screen d e s)).1 h with h | h
      · exact passes_screen h
      · exact ((passes_bind (alone_observe reader d logs s)).1 h).elim ih False.elim

theorem alone_observeReceipt (reader : Reader) (d : Deployment) (receipt : Receipt) (s : Session) :
    (observeReceipt d receipt).alone reader s = (.ok (if receipt.reverted then [] else
      receipt.logs.filterMap (Observed.ofLog? d s.ledger.content?)), s) := by
  unfold observeReceipt
  split
  · rfl
  · exact alone_observe reader d receipt.logs s

theorem passes_observeReceipt {receipt : Receipt} (h : (observeReceipt d receipt).Passes reader s x) : x = s := by
  unfold observeReceipt at h
  split at h
  · exact h.elim
  · exact passes_observe h

/-- Nothing but the last request writes. -/
theorem passes_closeAnswered {hash : Hash} {answer : Option Receipt}
    (h : (closeAnswered d b t hash answer).Passes reader s x) : x = s := by
  cases answer with
  | none => exact h.elim
  | some receipt =>
    rcases (passes_bind (alone_observeReceipt reader d receipt s)).1 h with h | h
    · exact passes_observeReceipt h
    · unfold closeObserved at h
      split at h
      · exact h.elim
      · exact h.elim id False.elim

theorem alone_closeAnswered_ok {hash : Hash} {answer : Option Receipt} {o : Outcome}
    (h : (closeAnswered d b t hash answer).alone reader s = (.ok o, s')) :
    ∃ receipt block os, (Work.closePair b t receipt block os).Yields s o s' := by
  cases answer with
  | none => cases h
  | some receipt =>
    have h := (alone_bind (alone_observeReceipt reader d receipt s)).symm.trans h
    unfold closeObserved at h
    split at h
    · cases h
    · exact ⟨receipt, _, _, alone_commit_ok h⟩

/-- What a receipt was asked for before, and what it then decides. -/
theorem alone_resolveReceipt_ok {o : Outcome} (h : (resolveReceipt d b t).alone reader s = (.ok o, s')) :
    ∃ p s₁, (Work.openPair b t).Yields s p s₁ ∧ (closeOpened d b t p).alone reader s₁ = (.ok o, s') ∧
      (p.2 = some o ∧ s' = s₁ ∨
        p.2 = none ∧ ∃ receipt block os, (Work.closePair b t receipt block os).Yields s₁ o s') := by
  rw [resolveReceipt_eq] at h
  obtain ⟨⟨c, stored⟩, s₁, hy, hc⟩ := alone_bind_ok h
  refine ⟨(c, stored), s₁, alone_commit_ok hy, hc, ?_⟩
  unfold closeOpened at hc
  cases stored with
  | some o' =>
    cases hc
    exact .inl ⟨rfl, rfl⟩
  | none =>
    simp only at hc
    split at hc
    · cases hc
    · obtain ⟨answer, s₂, ha, hc⟩ := alone_bind_ok hc
      obtain ⟨-, rfl⟩ := Prod.mk.inj ha
      exact .inr ⟨rfl, alone_closeAnswered_ok hc⟩

theorem passes_resolveReceipt {p : BlockchainTransaction × Option Outcome} {s₁ : Session}
    (hy : (Work.openPair b t).Yields s p s₁) (h : (resolveReceipt d b t).Passes reader s x) :
    x = s ∨ p.2 = none ∧ x = s₁ := by
  rw [resolveReceipt_eq] at h
  rcases (passes_bind (alone_commit hy)).1 h with h | h
  · exact .inl (h.elim id False.elim)
  · obtain ⟨c, stored⟩ := p
    unfold closeOpened at h
    cases stored with
    | some o => exact h.elim
    | none =>
      refine .inr ⟨rfl, ?_⟩
      simp only at h
      split at h
      · exact h.elim
      · rename_i hash _
        rcases h with rfl | h
        · rfl
        · rcases hr : reader d.chain (.receipt hash) with err | answer
          · rw [hr] at h
            exact h.elim
          · rw [hr] at h
            exact passes_closeAnswered h

/-- A receipt that was applied in part is applied from the start. -/
theorem alone_resolveReceipt_again {p : BlockchainTransaction × Option Outcome} {s₁ : Session} {o : Outcome}
    (hy : (Work.openPair b t).Yields s p s₁) (hp : p.2 = none)
    (hc : (closeOpened d b t p).alone reader s₁ = (.ok o, s')) :
    (resolveReceipt d b t).alone reader s₁ = (.ok o, s') := by
  rw [resolveReceipt_eq, alone_bind (alone_commit (Work.openPair_again hy hp).1)]
  exact hc

variable {chain : Chain} {hash : String} {index : Int}

/-- Where a log waits for its receipt, resolving the receipt may stop anywhere. -/
theorem resume_resolveReceipt {o : Outcome} (hs : s.Ready) (hw : s.ledger.Pends chain hash index b t)
    (h : (resolveReceipt d b t).alone reader s = (.ok o, s')) :
    (s.Advances s' ∧ s'.Ready ∧ s'.ledger.Settled b t) ∧ ∀ x, (resolveReceipt d b t).Passes reader s x →
      s.Advances x ∧ x.Ready ∧ x.ledger.Pends chain hash index b t ∧
        (resolveReceipt d b t).alone reader x = (.ok o, s') := by
  obtain ⟨p, s₁, hy, hc, hend⟩ := alone_resolveReceipt_ok h
  obtain ⟨ha₁, hs₁⟩ := Work.advances_openPair hs (hw.not_spare hs.keyed) (hw.expects hs.toProper) hy
  refine ⟨?_, fun x hx => ?_⟩
  · rcases hend with ⟨ho, rfl⟩ | ⟨hn, receipt, block, os, hy'⟩
    · exact ⟨ha₁, hs₁, (Work.ended_openPair hy ho).settled⟩
    · have hw₁ := hw.openPair hs.toProper hs.hashed hy hn
      obtain ⟨ha, hs'⟩ := Work.advances_closePair hs₁ (hw₁.not_spare hs₁.keyed) (hw₁.expects hs₁.toProper) hy'
      exact ⟨ha₁.trans ha hs₁.toProper, hs', (Work.ended_closePair hy').settled⟩
  · rcases passes_resolveReceipt hy hx with rfl | ⟨hn, rfl⟩
    · exact ⟨.refl x, hs, hw, h⟩
    · exact ⟨ha₁, hs₁, hw.openPair hs.toProper hs.hashed hy hn, alone_resolveReceipt_again hy hn hc⟩

/-- What is left before the ledger transaction of a log is what was there at the start. -/
theorem passes_applyLog {log : Log} {block : Int} {e : Event} {step : LogStep} {s₁ : Session}
    (ha : d.applicable? log = some (block, index, e))
    (hy : (Work.applyEvent d.chain log.hash.spelling block index e
      (Payment.screen d.settings s.ledger.content? e)).Yields s step s₁)
    (h : (applyLog d log).Passes reader s x) : x = s ∨ (closeNoted d step).Passes reader s₁ x := by
  rw [applyLog_of_some ha] at h
  rcases (passes_bind (alone_screen d e s)).1 h with h | h
  · exact .inl (passes_screen h)
  · rcases (passes_bind (alone_commit hy)).1 h with h | h
    · exact .inl (h.elim id False.elim)
    · exact .inr h

/-- Where a log waits for its receipt, applying it is resolving that. -/
theorem alone_applyLog_of_pends {log : Log} {block : Int} {e : Event} (hk : s.Keyed) (hf : s.faults = .none)
    (ha : d.applicable? log = some (block, index, e)) (hw : s.ledger.Pends d.chain log.hash.spelling index b t) :
    (applyLog d log).alone reader s = (closeNoted d (.needsReceipt b t)).alone reader s := by
  obtain ⟨c, u, hseen, hl, hp, rfl, rfl⟩ := hw
  exact alone_applyLog_of_noted ha (Work.yields_applyEvent_of_pending hk hf hseen hl hp)

/-- A log may be left anywhere. Applied from the start again, it comes to the same session. -/
theorem resume_applyLog {log : Log} {a : Applied} (hs : s.Ready)
    (h : (applyLog d log).alone reader s = (.ok a, s')) :
    (s.Advances s' ∧ s'.Ready ∧ ∃ a', s'.ledger.Again d log a') ∧ ∀ x, (applyLog d log).Passes reader s x →
      s.Advances x ∧ x.Ready ∧ ∃ a', (applyLog d log).alone reader x = (.ok a', s') := by
  rcases alone_applyLog_ok h with ⟨ha, -, rfl⟩ | ⟨block, index, e, step, s₁, ha, hy, hc⟩
  · refine ⟨⟨.refl _, hs, ?_⟩, fun x hx => ?_⟩
    · cases hr : log.removed with
      | true => exact ⟨_, .removed ha hr⟩
      | false => exact ⟨_, .malformed ha hr⟩
    · rw [applyLog_of_none ha] at hx
      exact hx.elim
  · obtain ⟨ha₁, hs₁⟩ := Work.advances_applyEvent hs hy
    obtain ⟨c, hseen, hafter⟩ := Work.after_applyEvent hs.keyed hs.hashed hs.sound hy
    have hstart : s.Advances s ∧ s.Ready ∧ ∃ a', (applyLog d log).alone reader s = (.ok a', s') :=
      ⟨.refl s, hs, a, h⟩
    cases hafter with
    | settled hl hu hp =>
      cases hc
      refine ⟨⟨ha₁, hs₁, _, .settled ha hseen hl hu hp⟩, fun x hx => ?_⟩
      exact (passes_applyLog ha hy hx).elim (· ▸ hstart) False.elim
    | refused hn he hr =>
      cases hc
      refine ⟨⟨ha₁, hs₁, _, .refused ha hseen hn he (ha₁.beside.content? ▸ hr)⟩, fun x hx => ?_⟩
      exact (passes_applyLog ha hy hx).elim (· ▸ hstart) False.elim
    | @waiting u hl hp =>
      obtain ⟨o, hres, -⟩ := alone_closeNoted_waiting hc
      obtain ⟨⟨ha₂, hs', hsettled⟩, hresume⟩ := resume_resolveReceipt hs₁ ⟨c, u, hseen, hl, hp, rfl, rfl⟩ hres
      refine ⟨⟨ha₁.trans ha₂ hs₁.toProper, hs', ?_⟩, fun x hx => ?_⟩
      · obtain ⟨c', hf, hc'⟩ := hseen.later hs₁.keyed hs₁.hashed ha₂.upholds.later
        exact ⟨_, (hf.id ▸ hsettled).again hs'.keyed ha hc'⟩
      · rcases passes_applyLog ha hy hx with rfl | hx
        · exact hstart
        · have hx : (resolveReceipt d c.id u.id).Passes reader s₁ x :=
            ((passes_bind hres).1 hx).elim id False.elim
          obtain ⟨ha₃, hx, hw, hagain⟩ := hresume x hx
          exact ⟨ha₁.trans ha₃ hs₁.toProper, hx, _,
            (alone_applyLog_of_pends hx.keyed hx.faults ha hw).trans (alone_bind hagain)⟩

end Process

/-! ## Logs that were applied before -/

section
variable {s s' : Session} {d : Deployment} {log : Log}

theorem Ledger.Refuses.beside {l l' : Ledger} {e : Event} {verdict : Except InvalidReason Payment}
    {reason : InvalidReason} (h : l.Refuses e verdict reason) (hb : l.Beside l') : l'.Refuses e verdict reason := by
  refine h.imp_right fun ⟨hv, hu, hr⟩ => ⟨hv, ?_, hr⟩
  rw [Ledger.user?_of_users hb.users]
  exact hu

/-- A log that was applied stays applied while others are: what was refused is refused again, or its blockchain
transaction was credited since. -/
theorem Session.Advances.again (h : s.Advances s') (hs : s.Ready) (ha : ∃ a, s.ledger.Again d log a) :
    ∃ a, s'.ledger.Again d log a := by
  obtain ⟨a, ha⟩ := ha
  cases ha with
  | removed ha hr => exact ⟨_, .removed ha hr⟩
  | malformed ha hr => exact ⟨_, .malformed ha hr⟩
  | settled ha hc hl hu hp =>
    exact ⟨_, (Ledger.Again.settled ha hc hl hu hp).upholds hs.toProper hs.hashed h.upholds⟩
  | @refused _ _ e c _ ha hc hn he hr =>
    obtain ⟨c', hf, hc'⟩ := hc.later hs.keyed hs.hashed h.upholds.later
    have hk := h.upholds.later.keyed hs.keyed
    rcases h.spare c.id ⟨c, hc.blockchainTransaction? hs.keyed, hn, he⟩ with ⟨d, hd, hdn, hde⟩ | ⟨t, ht⟩
    · obtain rfl : c' = d := by
        have := hc'.blockchainTransaction? hk
        rw [hf.id, hd] at this
        exact (Option.some.inj this).symm
      exact ⟨_, .refused ha hc' hdn (hf.id ▸ hde) (h.beside.content? ▸ hr.beside h.beside)⟩
    · exact ⟨_, (hf.id ▸ ht).again hk ha hc'⟩

end

end DonationLedger
