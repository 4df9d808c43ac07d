import DonationLedger.Proofs.Links

/-!
# Invariants of a running system

What no ledger transaction of an operation breaks, and no caller, holds of every session that the system can come
to. What is known of all of them may be used for it: ids are keys, the ledger is sound, no place is taken twice, and
whoever resolves a receipt has seen that the transaction expects the blockchain transaction.
-/

namespace DonationLedger

/-- No one breaks `inv`. Nothing but what is put on file, what is waited for, and the four kinds of ledger transactions
that write has to be looked at. -/
structure Session.Invariant (inv : Session → Prop) : Prop where
  idle : ∀ {s s' : Session}, s'.ledger = s.ledger → (∀ kind, s.supply.count kind ≤ s'.supply.count kind) →
    inv s → inv s'
  addUser : ∀ (s : Session) (a : Address), inv s → inv (s.addUser a).2
  addContent : ∀ (s : Session) (ref : String), inv s → inv (s.addContent ref).2
  seedPayment : ∀ {s s' : Session} {chain : Chain} {hash : Hash} {d : TransactionDraft Id}
    {p : Transaction × BlockchainTransaction}, s.Proper → d.state = .pending →
    (Work.seedPayment chain hash d).Yields s p s' → inv s → inv s'
  createTransaction : ∀ {s s' : Session} {d : TransactionDraft Id} {t : Transaction}, s.Proper →
    d.Expectable s.ledger → (Work.createTransaction d).Yields s t s' → inv s → inv s'
  openPair : ∀ {s s' : Session} {b t : Id} {p : BlockchainTransaction × Option Outcome}, s.Proper →
    s.ledger.Expects b t → (Work.openPair b t).Yields s p s' → inv s → inv s'
  closePair : ∀ {s s' : Session} {b t : Id} {r : Receipt} {block : Int} {os : List Observed} {o : Outcome},
    s.Proper → s.ledger.Expects b t → (Work.closePair b t r block os).Yields s o s' → inv s → inv s'
  applyEvent : ∀ {s s' : Session} {chain : Chain} {hash : String} {block index : Int} {e : Event}
    {verdict : Except InvalidReason Payment} {r : LogStep}, s.Proper → s.Hashed →
    (Work.applyEvent chain hash block index e verdict).Yields s r s' → inv s → inv s'
  raiseCheckpoint : ∀ {s s' : Session} {chain : Chain} {block : Int},
    (Work.raiseCheckpoint chain block).Yields s () s' → inv s → inv s'

/-- `s'` upholds `s`, and the invariant. -/
structure Session.Sustains (inv : Session → Prop) (s s' : Session) : Prop where
  upholds : s.Upholds s'
  inv : s.Proper → s.Hashed → inv s → inv s'

namespace Session.Sustains

variable {inv : Session → Prop} {s s' s'' : Session}

theorem refl (s : Session) : s.Sustains inv s := ⟨.refl s, fun _ _ => id⟩

theorem trans (h : s.Sustains inv s') (k : s'.Sustains inv s'') : s.Sustains inv s'' :=
  ⟨h.upholds.trans k.upholds, fun hp hh hi =>
    k.inv (hp.upholds h.upholds) (h.upholds.later.hashed hh) (h.inv hp hh hi)⟩

theorem commit {α : Type} {w : Work α} (hi : Invariant inv) (hu : s.Upholds (s.commit w).2)
    (hy : ∀ a s', w.Yields s a s' → s.Proper → s.Hashed → inv s → inv s') : s.Sustains inv (s.commit w).2 := by
  refine ⟨hu, fun hp hh hs => ?_⟩
  rcases Work.commit_cases s w with ⟨a, s', hya, hc⟩ | ⟨e, -, hc⟩
  · rw [hc]
    exact hy a s' hya hp hh hs
  · rw [hc] at hu ⊢
    exact hi.idle (s := s) rfl hu.later.supply hs

end Session.Sustains

/-- All operations uphold what is sound, and the invariant. -/
def sustaining (r : Registry) (inv : Session → Prop) : Regime (.any r) where
  others := Session.Sustains inv
  own _ _ := Session.Sustains inv
  post _ := Process.anyEnd
  refl := Session.Sustains.refl
  trans := Session.Sustains.trans
  expected := id

section
variable {r : Registry} {inv : Session → Prop} {op : Operation} {s : Session} {h : List Told}

theorem upholding_sustaining (hi : Session.Invariant inv) : (sustaining r inv).Upholding where
  others h := h.upholds
  idles _ _ _ _ hl hs := ⟨.of_ledger_eq hl hs, fun _ _ => hi.idle hl hs⟩
  openPair _ he hy := ⟨.openPair he hy, fun hp _ => hi.openPair hp he hy⟩
  closePair _ he hy := ⟨.closePair he hy, fun hp _ => hi.closePair hp he hy⟩
  applyEvent _ hy := ⟨.applyEvent hy, fun hp hh => hi.applyEvent hp hh hy⟩
  raiseCheckpoint _ hy := ⟨.raiseCheckpoint hy, fun _ _ => hi.raiseCheckpoint hy⟩

theorem sustaining_callers (hi : Session.Invariant inv) : (sustaining r inv).Callers where
  faults s f := ⟨(upholding_callers (r := r)).faults s f, fun _ _ => hi.idle rfl fun _ => Nat.le_refl _⟩
  addUser s a := ⟨(upholding_callers (r := r)).addUser s a, fun _ _ => hi.addUser s a⟩
  addContent s ref := ⟨(upholding_callers (r := r)).addContent s ref, fun _ _ => hi.addContent s ref⟩
  seed s chain hash d hd := .commit hi ((upholding_callers (r := r)).seed s chain hash d hd) fun _ _ hy hp _ =>
    hi.seedPayment hp hd hy
  create s d hd := .commit hi ((upholding_callers (r := r)).create s d hd) fun _ _ hy hp _ =>
    hi.createTransaction hp hd hy

end

/-- An invariant that holds at the beginning holds always. -/
theorem System.Reachable.invariant {r : Registry} {w : System} {inv : Session → Prop} (hw : w.Reachable r)
    (hi : Session.Invariant inv) (hstart : inv .start) : inv w.session := by
  have h := (Regime.kept_reaches (m := sustaining r inv) Session.Proper (sustaining_callers hi)
    (fun hs ho => hs.upholds ho.upholds) (fun _ _ hop hs => (upholding_sustaining hi).process hop hs) Regime.kept_empty
    System.proper_empty hw).2
  exact h.inv System.proper_empty List.nodup_nil hstart

end DonationLedger
