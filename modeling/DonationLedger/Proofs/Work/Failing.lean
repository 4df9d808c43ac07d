import DonationLedger.Proofs.Work.Yields

/-!
# Why work fails

Work fails because the ledger refuses a write or misses a row that is there (`Faults.Causes`), or for a reason of its
own. `Work.FailsBy P` says that all its own reasons are among `P`. Like what work yields, it is put together along the
binds, and no fault comes up on the way that was not there at the beginning.
-/

namespace DonationLedger

/-- The failures that come from what is wrong with the ledger, and from nothing else. -/
inductive Faults.Causes (f : Faults) : Failure → Prop
  | write (h : f ≠ .none) : Causes f (.ledger .writeRejected)
  | lookup {hash : String} (h : f.hiddenLookups ≠ 0) : Causes f (.ledger (.vanished hash))

/-- `g` is no worse than `f`. -/
structure Faults.Eases (f g : Faults) : Prop where
  calm : f = .none → g = .none
  shown : f.hiddenLookups = 0 → g.hiddenLookups = 0

namespace Faults

variable {f g k : Faults}

theorem not_causes_none (e : Failure) : ¬ Faults.none.Causes e := by
  rintro (h | h)
  · exact h rfl
  · exact h rfl

namespace Eases

theorem refl (f : Faults) : f.Eases f := ⟨id, id⟩

theorem trans (h : f.Eases g) (h' : g.Eases k) : f.Eases k := ⟨h'.calm ∘ h.calm, h'.shown ∘ h.shown⟩

theorem spend (f : Faults) : f.Eases f.spend := by
  refine ⟨?_, id⟩
  rintro rfl
  rfl

/-- What goes wrong later could have gone wrong before. -/
theorem causes (h : f.Eases g) {e : Failure} (hc : g.Causes e) : f.Causes e := by
  cases hc with
  | write hg => exact .write fun hf => hg (h.calm hf)
  | lookup hg => exact .lookup fun hf => hg (h.shown hf)

end Eases

end Faults

namespace Work

variable {α β : Type} {P Q : Failure → Prop} {s s' : Session}

/-- The work fails only by the faults of the ledger or for a reason in `P`, and leaves the ledger no worse. -/
structure FailsBy (P : Failure → Prop) (w : Work α) (s : Session) : Prop where
  eases : s.faults.Eases (w.result s).2.faults
  cause : ∀ e, (w.result s).1 = .error e → s.faults.Causes e ∨ P e

theorem FailsBy.imp {w : Work α} (h : w.FailsBy P s) (hi : ∀ e, P e → Q e) : w.FailsBy Q s :=
  ⟨h.eases, fun e he => (h.cause e he).imp_right (hi e)⟩

theorem FailsBy.eases_of_yields {w : Work α} (h : w.FailsBy P s) {a : α} (hy : w.Yields s a s') :
    s.faults.Eases s'.faults := by
  have he := h.eases
  rw [hy] at he
  exact he

/-- Where nothing is wrong with the ledger and there is no other reason, the work does not fail. -/
theorem FailsBy.yields {w : Work α} (h : w.FailsBy (fun _ => False) s) (hf : s.faults = .none) :
    ∃ a s', w.Yields s a s' ∧ s'.faults = .none := by
  rcases hr : w.result s with ⟨e | a, s'⟩
  · rcases h.cause e (by rw [hr]) with hc | hp
    · rw [hf] at hc
      exact absurd hc (Faults.not_causes_none e)
    · exact hp.elim
  · have he := h.eases.calm hf
    rw [hr] at he
    exact ⟨a, s', hr, he⟩

/-! ## Binds -/

theorem failsBy_of_yields {w : Work α} {a : α} (hy : w.Yields s a s') (hf : s.faults.Eases s'.faults) :
    w.FailsBy P s := by
  refine ⟨?_, fun e he => ?_⟩
  · rw [hy]
    exact hf
  · rw [hy] at he
    cases he

theorem failsBy_pure (a : α) : FailsBy P (pure a) s := failsBy_of_yields (yields_pure.2 ⟨rfl, rfl⟩) (.refl _)

theorem failsBy_throw {e : Failure} (hp : P e) : FailsBy P (throw e : Work α) s := by
  refine ⟨.refl _, fun e' he => .inr ?_⟩
  obtain rfl : e = e' := Except.error.inj he
  exact hp

theorem failsBy_bind {w : Work α} {k : α → Work β} (hw : w.FailsBy P s)
    (hk : ∀ a s', w.Yields s a s' → (k a).FailsBy P s') : (w >>= k).FailsBy P s := by
  rcases hr : w.result s with ⟨e | a, s'⟩
  · have he := hw.eases
    have hc := hw.cause e (by rw [hr])
    refine ⟨?_, fun e' he' => ?_⟩
    · rw [result_bind, hr]
      rw [hr] at he
      exact he
    · rw [result_bind, hr] at he'
      obtain rfl : e = e' := Except.error.inj he'
      exact hc
  · have hs := hw.eases_of_yields hr
    have hka := hk a s' hr
    refine ⟨?_, fun e he => ?_⟩
    · rw [result_bind, hr]
      exact hs.trans hka.eases
    · rw [result_bind, hr] at he
      exact (hka.cause e he).imp_left hs.causes

/-! ## Parts of an operation -/

theorem failsBy_rows : FailsBy P rows s := failsBy_of_yields (yields_rows.2 ⟨rfl, rfl⟩) (.refl _)

theorem failsBy_look {f : Ledger → α} : FailsBy P (do let l ← rows; pure (f l)) s :=
  failsBy_bind failsBy_rows fun _ _ _ => failsBy_pure _

theorem failsBy_gate : FailsBy P gate s := by
  refine ⟨?_, fun e he => .inl ?_⟩
  · rw [result_gate]
    exact .spend s.faults
  · rw [result_gate] at he
    split at he
    · cases he
    · rename_i ha
      obtain rfl := Except.error.inj he
      refine .write fun hn => ha ?_
      rw [hn]
      rfl

theorem failsBy_modify {f : Session → Session} (h : (f s).faults = s.faults) : FailsBy P (modify f) s :=
  failsBy_of_yields (a := ()) (yields_modify.2 rfl) (h ▸ .refl _)

theorem failsBy_change {f : Ledger → Ledger} : FailsBy P (change f) s :=
  failsBy_bind failsBy_gate fun _ _ _ => failsBy_modify rfl

theorem failsBy_issue {kind : RowKind} : FailsBy P (Work.issue kind) s :=
  failsBy_of_yields (yields_issue.2 ⟨rfl, rfl⟩) (.refl _)

/-! ## Operations of a ledger transaction -/

theorem failsBy_createTransaction (d : TransactionDraft Id) : FailsBy P (createTransaction d) s :=
  failsBy_bind failsBy_gate fun _ _ _ => failsBy_bind failsBy_issue fun _ _ _ =>
    failsBy_bind (failsBy_modify rfl) fun _ _ _ => failsBy_pure _

/-- A transaction that is stored can be written. -/
theorem failsBy_updateTransaction {id : Id} {c : StateChange Id}
    (hs : (s.ledger.transaction? id).isSome = true) : FailsBy P (updateTransaction id c) s := by
  refine failsBy_bind failsBy_gate fun _ s₁ hg => failsBy_bind failsBy_rows fun l s₂ hr => ?_
  obtain ⟨-, rfl⟩ := yields_gate.1 hg
  obtain ⟨rfl, rfl⟩ := yields_rows.1 hr
  obtain ⟨t, ht⟩ := Option.isSome_iff_exists.1 hs
  simp only [Session.ledger_spend, ht]
  exact failsBy_bind (failsBy_modify rfl) fun _ _ _ => failsBy_pure _

theorem failsBy_findByHash (chain : Chain) (hash : String) : FailsBy P (findByHash chain hash) s := by
  rcases Nat.eq_zero_or_eq_succ_pred s.faults.hiddenLookups with h | h
  · exact failsBy_of_yields (yields_findByHash.2 (.inl ⟨h, rfl, rfl⟩)) (.refl _)
  · refine failsBy_of_yields (yields_findByHash.2 (.inr ⟨_, h, rfl, rfl⟩)) ⟨fun hn => ?_, fun hn => ?_⟩
    · rw [hn] at h
      cases h
    · rw [hn] at h
      cases h

theorem failsBy_createBlockchainTransaction (d : BlockchainDraft Id) :
    FailsBy P (createBlockchainTransaction d) s := by
  refine failsBy_bind failsBy_gate fun _ _ _ => failsBy_bind failsBy_rows fun l _ _ => ?_
  split
  · exact failsBy_pure _
  · exact failsBy_bind failsBy_issue fun _ _ _ => failsBy_bind (failsBy_modify rfl) fun _ _ _ => failsBy_pure _

/-- A blockchain transaction that is stored can be written. -/
theorem failsBy_updateBlockchainTransaction {id : Id} {state : BlockchainState}
    (hs : (s.ledger.blockchainTransaction? id).isSome = true) :
    FailsBy P (updateBlockchainTransaction id state) s := by
  refine failsBy_bind failsBy_gate fun _ s₁ hg => failsBy_bind failsBy_rows fun l s₂ hr => ?_
  obtain ⟨-, rfl⟩ := yields_gate.1 hg
  obtain ⟨rfl, rfl⟩ := yields_rows.1 hr
  obtain ⟨b, hb⟩ := Option.isSome_iff_exists.1 hs
  simp only [Session.ledger_spend, hb]
  exact failsBy_bind (failsBy_modify rfl) fun _ _ _ => failsBy_pure _

end Work

end DonationLedger
