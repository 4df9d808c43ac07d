import DonationLedger.Proofs.Follow.Requests
import DonationLedger.Proofs.Follow.Sparing
import DonationLedger.Proofs.Resolution.Touching

/-!
# Operations touch only their own rows

Wherever it is cut short, a job has touched its own transaction and the blockchain transaction that this one named at
the beginning; a log has touched its own blockchain transaction and at most one transaction, which its result names; a
cycle has moved no checkpoint but that of its chain. Whatever is touched is known when the operation begins or, of a
log, when its ledger transaction is over: up to there nothing is written, and from there on the pair is the same.
-/

namespace DonationLedger

namespace System

variable {r : Registry} {w : System}

/-- Whatever was stored, whatever is answered and wherever writes fail: settling a transaction touches it and the
blockchain transaction that its row names. Applying a log touches the blockchain transaction of the log and at most
one transaction; if there is a result, it is the one that the result names, and where nothing was to be credited or
all was settled before there is none. Following a chain moves no other chain's checkpoint. -/
theorem operations_touch_own_rows (hw : w.Reachable r) :
    (∀ t held s' held' q, (settle r t).Goes (.any r) w.session held s' held' q →
      w.session.ledger.Touches (some t) (w.session.ledger.named? t) s'.ledger) ∧
    (∀ d log held s' held' q, (applyLog d log).Goes (.any r) w.session held s' held' q →
      w.session.ledger.Applies d log s'.ledger ∧
      ∀ a, q = .finish (.ok a) → w.session.ledger.AppliesAs d log a s'.ledger) ∧
    ∀ chain other held s' held' q, (follow r chain).Goes (.any r) w.session held s' held' q → chain ≠ other →
      s'.ledger.checkpoint? other = w.session.ledger.checkpoint? other := by
  have hk : w.session.Keyed := hw.kept.2.keyed
  refine ⟨fun t held s' held' q hg => ?_, fun d log held s' held' q hg => ?_, fun c other held s' held' q hg hne => ?_⟩
  · have hsettle : (settle r t).Meets _ _ [] w.session := keeping_settle
    exact (hsettle.keeps (.refl _ _ _) hg).1
  · have happly : (applyLog d log).Meets (keeping r (w.session.ledger.Applies d log)) _ [] w.session :=
      keeping_applyLog hk
    obtain ⟨happlies, hend⟩ := happly.keeps ⟨none, none, .refl _ _ _, nofun⟩ hg
    refine ⟨happlies, fun a ha => ?_⟩
    obtain ⟨-, has⟩ := hend _ ha
    exact has a rfl
  · have hfollow : (follow r c).Meets (sparing (.any r) other) _ [] w.session := sparing_follow hk hne
    have hspares := hfollow.goes (fun s => w.session.Spares other s) Session.later_faults
      (fun s f hs => hs.trans ⟨s.later_faults f, rfl⟩) (fun _ _ _ => .trans) (.refl _ _) hg
    exact hspares.1.checkpoint

/-- The donation that is waited for is settled by its job, by its log and by a cycle. Each touches the donation and its
blockchain transaction alone, and the cycle leaves the other chains where they are. -/
theorem donation_touched : Donation.awaited.Reachable [Donation.deployment] ∧
    (∃ s' held, (settle [Donation.deployment] (.issued .transaction 1)).Goes (.any [Donation.deployment])
        Donation.awaited.session [] s' held (.finish (.ok ⟨.issued .transaction 1, .succeeded⟩)) ∧
      Donation.awaited.session.ledger.Touches (some (.issued .transaction 1))
        (some (.issued .blockchainTransaction 1)) s'.ledger) ∧
    (∃ s' held b, (applyLog Donation.deployment Donation.log).Goes (.any [Donation.deployment])
        Donation.awaited.session [] s' held (.finish (.ok (.linked (.issued .transaction 1)))) ∧
      Donation.awaited.session.ledger.Touches (some (.issued .transaction 1)) b s'.ledger) ∧
    ∃ s' held report, (follow [Donation.deployment] .optimism).Goes (.any [Donation.deployment])
        Donation.awaited.session [] s' held (.finish (.ok report)) ∧ Chain.optimism ≠ .polygon ∧
      s'.ledger.checkpoint? .polygon = none := by
  have hw := Donation.awaited_reachable [Donation.deployment]
  obtain ⟨hsettle, happly, hfollow⟩ := operations_touch_own_rows hw
  have hbegun {α : Type} (p : Process α) : p.Goes (.any [Donation.deployment]) Donation.awaited.session []
      Donation.awaited.session [] p := .start
  refine ⟨hw, ?_, ?_, ?_⟩
  · obtain ⟨held, hg⟩ := (hbegun _).alone Donation.node (fun _ _ => trivial) (fun _ _ => trivial)
      (Process.confined_settle [Donation.deployment] (.issued .transaction 1)).lockless
    have hg := hg.of_toOption (a := ⟨.issued .transaction 1, .succeeded⟩) (by decide +kernel)
    exact ⟨_, held, hg, hsettle _ _ _ _ _ hg⟩
  · obtain ⟨held, hg⟩ := (hbegun _).alone Donation.node (fun _ _ => trivial) (fun _ _ => trivial)
      (Process.confined_applyLog Donation.deployment Donation.log).lockless
    have hg := hg.of_toOption (a := .linked (.issued .transaction 1)) (by decide +kernel)
    obtain ⟨b, ht, -⟩ := (happly _ _ _ _ _ _ hg).2 _ rfl
    exact ⟨_, held, b, hg, ht⟩
  · obtain ⟨held, hg⟩ := (hbegun _).follow_alone Donation.ahead (fun _ _ => trivial) (fun _ _ => trivial)
      (rfl : Registry.find? [Donation.deployment] .optimism = _)
    obtain ⟨report, hr⟩ := Option.isSome_iff_exists.1 (show ((follow [Donation.deployment] .optimism).alone
      Donation.ahead Donation.awaited.session).1.toOption.isSome = true by decide +kernel)
    have hg := hg.of_toOption hr
    exact ⟨_, held, report, hg, by decide, (hfollow _ .polygon _ _ _ _ hg (by decide)).trans rfl⟩

end System

end DonationLedger
