import DonationLedger.Proofs.Ledger.Sound
import DonationLedger.Proofs.Resolution.Walk
import DonationLedger.Proofs.System.Alone

/-!
# Transactions that have ended

Settling a transaction that has ended from a receipt returns the outcome that is stored and asks no node. Where the
blockchain transaction is linked to it, not a row changes. But one that is not linked to any transaction is linked
before the outcome is looked at, so that the transaction no longer names the blockchain transaction that settled it
(`Ledger.Sound.repointed`).
-/

namespace DonationLedger

section
variable {s s' : Session} {d : Deployment} {reader : Reader} {b t : Id} {c : BlockchainTransaction} {u : Transaction}
  {o : Outcome}

namespace Work

/-- A pair whose transaction has ended is opened with its outcome. -/
theorem yields_openPair_of_ended (hp : s.ledger.Pair b t c u) (ho : Outcome.ofState? u.state = some o)
    (hs : (c.transaction = some t ∧ s' = s) ∨
      (c.transaction = none ∧ s.faults.allows = true ∧ s' = s.write fun l => l.link b t)) :
    (openPair b t).Yields s (c.linkedTo t, some o) s' := by
  have hended : u.state ≠ .pending := fun hu => by
    rw [hu] at ho
    cases ho
  have hload : (loadPair b t).Yields s (c.linkedTo t, u) s' :=
    yields_loadPair.2 ⟨c, u, hp.blockchainTransaction, hp.transaction, rfl, hs⟩
  have hstored : (settleStored (c.linkedTo t) u).Yields s' (some o) s' :=
    yields_settleStored.2 (.inl ⟨hended, ho.symm, rfl⟩)
  exact yields_bind.2 ⟨_, _, hload, yields_bind.2 ⟨_, _, hstored, yields_pure.2 ⟨rfl, rfl⟩⟩⟩

end Work

namespace Process

/-- Where the first ledger transaction knows the outcome, nothing follows. -/
theorem alone_resolveReceipt_of_opened (hy : (Work.openPair b t).Yields s (c, some o) s') :
    (resolveReceipt d b t).alone reader s = (.ok o, s') := by
  rw [resolveReceipt_eq, alone_bind (alone_commit hy)]
  rfl

/-- Nobody is asked about a transaction that has ended, whether or not the ledger can be written to. -/
theorem asked_resolveReceipt_of_ended (hp : s.ledger.Pair b t c u) (ho : Outcome.ofState? u.state = some o) :
    (resolveReceipt d b t).asked reader s = [] := by
  rw [resolveReceipt_eq]
  show ((commit (Work.openPair b t)).andThen _).asked reader s = []
  rw [asked_andThen]
  rcases Work.commit_cases s (Work.openPair b t) with ⟨p, s', hy, hc⟩ | ⟨e, -, hc⟩
  · obtain ⟨c', u', v, hp', -, hv, -⟩ := Work.openPair_rewrites hy
    obtain ⟨-, rfl⟩ := hp'.unique hp.blockchainTransaction hp.transaction
    obtain ⟨c₁, stored⟩ := p
    have halone : (commit (Work.openPair b t)).alone reader s = (.ok (c₁, stored), s') := alone_commit hy
    rw [halone]
    cases hv with
    | ended => rfl
    | reverted => rfl
    | undecided hu =>
      rw [hu] at ho
      cases ho
  · have halone : (commit (Work.openPair b t)).alone reader s =
        (.error e, s.dropped ((Work.openPair b t).result s).2) := hc
    rw [halone]
    rfl

end Process

/-- In a sound ledger, linking a blockchain transaction that settles nothing to a transaction that has ended takes
that transaction away from the one that settled it, which names it still. -/
theorem Ledger.Sound.repointed {l : Ledger} (h : l.Sound) (hp : l.Pair b t c u) (hu : u.state ≠ .pending)
    (hc : c.transaction = none) : ∃ b' c', b' ≠ b ∧ u.blockchainTransaction = some b' ∧
      (l.link b t).blockchainTransaction? b' = some c' ∧ c'.transaction = some t ∧
      (l.link b t).transaction? t = some { u with blockchainTransaction := some b } := by
  obtain ⟨b', c', hub, hc', hct⟩ := h.ended t u hp.transaction hu
  have hne : b' ≠ b := by
    rintro rfl
    obtain rfl := Option.some.inj (hc'.symm.trans hp.blockchainTransaction)
    exact nomatch hct.symm.trans hc
  obtain ⟨-, rfl⟩ := transaction?_mem hp.transaction
  obtain ⟨-, rfl⟩ := blockchainTransaction?_mem hp.blockchainTransaction
  have hl := (Rewrites.start hp.transaction hp.blockchainTransaction).link
  refine ⟨b', c', hne, hub, ?_, hct, hl.transaction_self⟩
  rw [hl.blockchainTransaction]
  exact (if_neg hne).trans hc'

end

/-- Whatever else is stored, and whatever nodes would answer: settling a transaction that has ended asks nobody. If the
blockchain transaction is linked to it, the stored outcome is returned and nothing is written. If it is linked to none,
the stored outcome is returned and the two are linked, which is the only change. -/
theorem ended_transaction_resolved (d : Deployment) (reader : Reader) {s : Session} {b t : Id}
    {c : BlockchainTransaction} {u : Transaction} {o : Outcome} (hp : s.ledger.Pair b t c u)
    (ho : Outcome.ofState? u.state = some o) :
    (resolveReceipt d b t).asked reader s = [] ∧
    (c.transaction = some t → (resolveReceipt d b t).alone reader s = (.ok o, s)) ∧
    (c.transaction = none → s.faults.allows = true →
      (resolveReceipt d b t).alone reader s = (.ok o, s.write fun l => l.link b t)) :=
  ⟨Process.asked_resolveReceipt_of_ended hp ho,
    fun hc => Process.alone_resolveReceipt_of_opened (Work.yields_openPair_of_ended hp ho (.inl ⟨hc, rfl⟩)),
    fun hc ha => Process.alone_resolveReceipt_of_opened (Work.yields_openPair_of_ended hp ho (.inr ⟨hc, ha, rfl⟩))⟩

namespace Donation

/-- The donation is credited, and another blockchain transaction is stored that settles nothing. -/
def besides : Session :=
  (credited.session.commit (Work.createBlockchainTransaction
    ⟨.optimism, otherHash.spelling, none, .succeeded, some 6⟩)).2

end Donation

/-- The donation is settled again from the blockchain transaction that settled it. Nobody is asked, and nothing
changes. -/
theorem donation_resolved_again : ∃ c u,
    Donation.besides.ledger.Pair (.issued .blockchainTransaction 1) (.issued .transaction 1) c u ∧
    Outcome.ofState? u.state = some .succeeded ∧
    (resolveReceipt Donation.deployment (.issued .blockchainTransaction 1) (.issued .transaction 1)).alone
      Donation.node Donation.besides = (.ok .succeeded, Donation.besides) := by
  obtain ⟨c, hc, hct⟩ : ∃ c, Donation.besides.ledger.blockchainTransaction? (.issued .blockchainTransaction 1) =
      some c ∧ c.transaction = some (.issued .transaction 1) := by
    exact ⟨_, rfl, by decide +kernel⟩
  have hu : Donation.besides.ledger.transaction? (.issued .transaction 1) = some Donation.transaction := by
    decide +kernel
  have hp : Donation.besides.ledger.Pair (.issued .blockchainTransaction 1) (.issued .transaction 1) c
      Donation.transaction := ⟨hc, hu, .inr hct⟩
  exact ⟨c, Donation.transaction, hp, rfl,
    (ended_transaction_resolved Donation.deployment Donation.node hp rfl).2.1 hct⟩

/-- Settled from the other blockchain transaction, the donation that has ended names that one. -/
theorem donation_repointed :
    Donation.besides.ledger.transaction? (.issued .transaction 1) = some Donation.transaction ∧
    Donation.transaction.state = .succeeded ∧
    Donation.transaction.blockchainTransaction = some (.issued .blockchainTransaction 1) ∧
    (Donation.besides.ledger.blockchainTransaction? (.issued .blockchainTransaction 2)).map
      BlockchainTransaction.transaction = some none ∧
    (((resolveReceipt Donation.deployment (.issued .blockchainTransaction 2) (.issued .transaction 1)).alone
      Donation.node Donation.besides).2.ledger.transaction? (.issued .transaction 1)).map
        Transaction.blockchainTransaction = some (some (.issued .blockchainTransaction 2)) := by
  refine ⟨?_, rfl, rfl, ?_, ?_⟩
  · decide +kernel
  · decide +kernel
  · decide +kernel

end DonationLedger
