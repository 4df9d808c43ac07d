import DonationLedger.Proofs.Ledger.Later
import Mathlib.Logic.Basic

/-!
# Sound ledgers

In a sound ledger the two ends of a link name each other, the states of linked rows belong together, and
a transaction that ended is linked to the blockchain transaction that ended it. A reverted blockchain
transaction is therefore never free to be credited. Soundness is said in terms of look-ups by id, and so
is what each kind of write changes, so that one lemma covers all writes of a kind.
-/

namespace DonationLedger

/-- The states that a transaction and the blockchain transaction linked to it may be in. -/
def agreedStates : List (TransactionState × BlockchainState) :=
  [(.pending, .pending), (.pending, .succeeded), (.succeeded, .succeeded), (.canceled, .succeeded),
    (.failed, .reverted)]

/-- The remark on a transaction says that it is canceled. -/
def Transaction.Remarked (t : Transaction) : Prop :=
  t.remark = if t.state = .canceled then some invalidRemark else none

namespace Ledger

structure Sound (l : Ledger) : Prop where
  linked : ∀ b c t, l.blockchainTransaction? b = some c → c.transaction = some t →
    ∃ u, l.transaction? t = some u ∧ u.blockchainTransaction = some b ∧ (u.state, c.state) ∈ agreedStates
  unlinked : ∀ b c, l.blockchainTransaction? b = some c → c.transaction = none → c.state ≠ .reverted
  expected : ∀ t u b, l.transaction? t = some u → u.blockchainTransaction = some b →
    (l.blockchainTransaction? b).isSome = true
  ended : ∀ t u, l.transaction? t = some u → u.state ≠ .pending →
    ∃ b c, u.blockchainTransaction = some b ∧ l.blockchainTransaction? b = some c ∧ c.transaction = some t
  remarked : ∀ t u, l.transaction? t = some u → u.Remarked

/-- No link that is set in `l` is set otherwise in `l'`. -/
structure KeepsLinks (l l' : Ledger) : Prop where
  blockchainTransaction : ∀ b c t, l.blockchainTransaction? b = some c → c.transaction = some t →
    ∃ d, l'.blockchainTransaction? b = some d ∧ d.transaction = some t
  transaction : ∀ t u b, l.transaction? t = some u → u.blockchainTransaction = some b →
    ∃ v, l'.transaction? t = some v ∧ v.blockchainTransaction = some b

namespace KeepsLinks

variable {l l' l'' : Ledger}

theorem refl (l : Ledger) : l.KeepsLinks l := ⟨fun _ c _ h k => ⟨c, h, k⟩, fun _ u _ h k => ⟨u, h, k⟩⟩

theorem trans (h : l.KeepsLinks l') (k : l'.KeepsLinks l'') : l.KeepsLinks l'' := by
  refine ⟨?_, ?_⟩
  · intro b c t hc ht
    obtain ⟨d, hd, hdt⟩ := h.blockchainTransaction b c t hc ht
    exact k.blockchainTransaction b d t hd hdt
  · intro t u b hu hb
    obtain ⟨v, hv, hvb⟩ := h.transaction t u b hu hb
    exact k.transaction t v b hv hvb

end KeepsLinks

theorem sound_empty : Ledger.empty.Sound := by
  refine ⟨?_, ?_, ?_, ?_, ?_⟩ <;> intro i _ <;> intros <;> simp_all [Ledger.empty, blockchainTransaction?, transaction?]

namespace Sound

variable {l l' : Ledger} {u : Transaction} {c : BlockchainTransaction}

/-! ## Kinds of writes -/

/-- Rows that are looked up as before. -/
theorem congr (h : l.Sound) (ht : ∀ i, l'.transaction? i = l.transaction? i)
    (hb : ∀ i, l'.blockchainTransaction? i = l.blockchainTransaction? i) : l'.Sound ∧ l.KeepsLinks l' := by
  refine ⟨⟨?_, ?_, ?_, ?_, ?_⟩, ⟨?_, ?_⟩⟩
  · simpa only [ht, hb] using h.linked
  · simpa only [hb] using h.unlinked
  · simpa only [ht, hb] using h.expected
  · simpa only [ht, hb] using h.ended
  · simpa only [ht] using h.remarked
  · simpa only [hb] using (KeepsLinks.refl l).blockchainTransaction
  · simpa only [ht] using (KeepsLinks.refl l).transaction

/-- Two rows that name each other, and named nobody else before, lose no link. -/
theorem keepsLinks_of_pair (ht : ∀ i, l'.transaction? i = if i = u.id then some u else l.transaction? i)
    (hb : ∀ i, l'.blockchainTransaction? i = if i = c.id then some c else l.blockchainTransaction? i)
    (hu : u.blockchainTransaction = some c.id) (hc : c.transaction = some u.id)
    (hu' : ∀ v, l.transaction? u.id = some v →
      v.blockchainTransaction = none ∨ v.blockchainTransaction = some c.id)
    (hc' : ∀ d, l.blockchainTransaction? c.id = some d → d.transaction = none ∨ d.transaction = some u.id) :
    l.KeepsLinks l' := by
  refine ⟨?_, ?_⟩
  · intro b d t hd hdt
    by_cases hi : b = c.id
    · subst hi
      have hsame := (hc' d hd).resolve_left (by simp [hdt])
      exact ⟨c, by rw [hb, if_pos rfl], hc.trans (hsame.symm.trans hdt)⟩
    · exact ⟨d, by rw [hb, if_neg hi, hd], hdt⟩
  · intro t v b hv hvb
    by_cases hj : t = u.id
    · subst hj
      have hsame := (hu' v hv).resolve_left (by simp [hvb])
      exact ⟨u, by rw [ht, if_pos rfl], hu.trans (hsame.symm.trans hvb)⟩
    · exact ⟨v, by rw [ht, if_neg hj, hv], hvb⟩

/-- Two rows that name each other, and named nobody else before. -/
theorem pair (h : l.Sound)
    (ht : ∀ i, l'.transaction? i = if i = u.id then some u else l.transaction? i)
    (hb : ∀ i, l'.blockchainTransaction? i = if i = c.id then some c else l.blockchainTransaction? i)
    (hu : u.blockchainTransaction = some c.id) (hc : c.transaction = some u.id)
    (hs : (u.state, c.state) ∈ agreedStates) (hr : u.Remarked)
    (hu' : ∀ v, l.transaction? u.id = some v →
      v.blockchainTransaction = none ∨ v.blockchainTransaction = some c.id)
    (hc' : ∀ d, l.blockchainTransaction? c.id = some d → d.transaction = none ∨ d.transaction = some u.id) :
    l'.Sound ∧ l.KeepsLinks l' := by
  have htu : l'.transaction? u.id = some u := by rw [ht, if_pos rfl]
  have hbc : l'.blockchainTransaction? c.id = some c := by rw [hb, if_pos rfl]
  refine ⟨⟨?_, ?_, ?_, ?_, ?_⟩, keepsLinks_of_pair ht hb hu hc hu' hc'⟩
  · intro b d t hd hdt
    rw [hb, ite_eq_iff] at hd
    rcases hd with ⟨rfl, hd⟩ | ⟨hi, hd⟩
    · cases hd
      obtain rfl : u.id = t := Option.some.inj (hc.symm.trans hdt)
      exact ⟨u, htu, hu, hs⟩
    · obtain ⟨v, hv, hvb, hvs⟩ := h.linked b d t hd hdt
      -- who names another blockchain transaction is another transaction
      have hj : t ≠ u.id := by
        rintro rfl
        have hsame := (hu' v hv).resolve_left (by simp [hvb])
        exact hi (Option.some.inj (hvb.symm.trans hsame))
      exact ⟨v, by rw [ht, if_neg hj, hv], hvb, hvs⟩
  · intro b d hd hdt
    rw [hb, ite_eq_iff] at hd
    rcases hd with ⟨rfl, hd⟩ | ⟨hi, hd⟩
    · cases hd
      rw [hc] at hdt
      cases hdt
    · exact h.unlinked b d hd hdt
  · intro t v b hv hvb
    rw [ht, ite_eq_iff] at hv
    rcases hv with ⟨rfl, hv⟩ | ⟨hj, hv⟩
    · cases hv
      obtain rfl : c.id = b := Option.some.inj (hu.symm.trans hvb)
      rw [hbc]
      rfl
    · rw [hb]
      split
      · rfl
      · exact h.expected t v b hv hvb
  · intro t v hv hvs
    rw [ht, ite_eq_iff] at hv
    rcases hv with ⟨rfl, hv⟩ | ⟨hj, hv⟩
    · cases hv
      exact ⟨c.id, c, hu, hbc, hc⟩
    · obtain ⟨b, d, hvb, hd, hdt⟩ := h.ended t v hv hvs
      have hi : b ≠ c.id := by
        rintro rfl
        have hsame := (hc' d hd).resolve_left (by simp [hdt])
        exact hj (Option.some.inj (hdt.symm.trans hsame))
      exact ⟨b, d, hvb, by rw [hb, if_neg hi, hd], hdt⟩
  · intro t v hv
    rw [ht, ite_eq_iff] at hv
    rcases hv with ⟨rfl, hv⟩ | ⟨hj, hv⟩
    · cases hv
      exact hr
    · exact h.remarked t v hv

/-- A blockchain transaction that names whom it named before. -/
theorem onChain (h : l.Sound) (ht : ∀ i, l'.transaction? i = l.transaction? i)
    (hb : ∀ i, l'.blockchainTransaction? i = if i = c.id then some c else l.blockchainTransaction? i)
    (hn : c.transaction = none → c.state ≠ .reverted)
    (hs : ∀ t, c.transaction = some t → ∃ u, l.transaction? t = some u ∧
      u.blockchainTransaction = some c.id ∧ (u.state, c.state) ∈ agreedStates)
    (hc : ∀ d, l.blockchainTransaction? c.id = some d → c.transaction = d.transaction) :
    l'.Sound ∧ l.KeepsLinks l' := by
  have hkeep {b d t} (hd : l.blockchainTransaction? b = some d) (hdt : d.transaction = some t) :
      ∃ e, l'.blockchainTransaction? b = some e ∧ e.transaction = some t := by
    rw [hb]
    split
    · rename_i hi
      subst hi
      exact ⟨c, rfl, (hc d hd).trans hdt⟩
    · exact ⟨d, hd, hdt⟩
  refine ⟨⟨?_, ?_, ?_, ?_, ?_⟩, ⟨fun b d t hd hdt => hkeep hd hdt, fun t v b hv hvb => ⟨v, by rw [ht, hv], hvb⟩⟩⟩
  · intro b d t hd hdt
    rw [hb, ite_eq_iff] at hd
    rw [ht]
    rcases hd with ⟨rfl, hd⟩ | ⟨hi, hd⟩
    · cases hd
      exact hs t hdt
    · exact h.linked b d t hd hdt
  · intro b d hd hdt
    rw [hb, ite_eq_iff] at hd
    rcases hd with ⟨rfl, hd⟩ | ⟨hi, hd⟩
    · cases hd
      exact hn hdt
    · exact h.unlinked b d hd hdt
  · intro t v b hv hvb
    rw [ht] at hv
    rw [hb]
    split
    · rfl
    · exact h.expected t v b hv hvb
  · intro t v hv hvs
    rw [ht] at hv
    obtain ⟨b, d, hvb, hd, hdt⟩ := h.ended t v hv hvs
    obtain ⟨e, he, het⟩ := hkeep hd hdt
    exact ⟨b, e, hvb, he, het⟩
  · intro t v hv
    rw [ht] at hv
    exact h.remarked t v hv

/-- A new transaction that waits for none or for a stored blockchain transaction. -/
theorem expect (h : l.Sound)
    (ht : ∀ i, l'.transaction? i = if i = u.id then some u else l.transaction? i)
    (hb : ∀ i, l'.blockchainTransaction? i = l.blockchainTransaction? i)
    (hn : l.transaction? u.id = none) (hp : u.state = .pending) (hr : u.remark = none)
    (hs : ∀ b, u.blockchainTransaction = some b → (l.blockchainTransaction? b).isSome = true) :
    l'.Sound ∧ l.KeepsLinks l' := by
  -- The id of the new row is not that of an old one.
  have hold {i v} (hv : l.transaction? i = some v) : l'.transaction? i = some v := by
    rw [ht, if_neg fun hi => ?_, hv]
    rw [hi, hn] at hv
    cases hv
  refine ⟨⟨?_, ?_, ?_, ?_, ?_⟩, ⟨fun b d t hd hdt => ⟨d, by rw [hb, hd], hdt⟩, fun t v b hv hvb => ⟨v, hold hv, hvb⟩⟩⟩
  · intro b d t hd hdt
    rw [hb] at hd
    obtain ⟨v, hv, hvb, hvs⟩ := h.linked b d t hd hdt
    exact ⟨v, hold hv, hvb, hvs⟩
  · intro b d hd hdt
    rw [hb] at hd
    exact h.unlinked b d hd hdt
  · intro t v b hv hvb
    rw [ht, ite_eq_iff] at hv
    rw [hb]
    rcases hv with ⟨rfl, hv⟩ | ⟨hj, hv⟩
    · cases hv
      exact hs b hvb
    · exact h.expected t v b hv hvb
  · intro t v hv hvs
    rw [ht, ite_eq_iff] at hv
    simp only [hb]
    rcases hv with ⟨rfl, hv⟩ | ⟨hj, hv⟩
    · cases hv
      exact absurd hp hvs
    · exact h.ended t v hv hvs
  · intro t v hv
    rw [ht, ite_eq_iff] at hv
    rcases hv with ⟨rfl, hv⟩ | ⟨hj, hv⟩
    · cases hv
      rw [Transaction.Remarked, hp, hr]
      rfl
    · exact h.remarked t v hv

end Sound

end Ledger

end DonationLedger
