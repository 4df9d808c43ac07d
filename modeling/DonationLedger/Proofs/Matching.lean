import DonationLedger.Proofs.Credit
import DonationLedger.Proofs.Unclaimed

/-!
# Which payments match

Whether a payment is what a transaction expects is asked in two places. A receipt compares it with one transaction,
by the address on file for the recipient (`Payment.mismatch?`); a log searches all that wait, by the user whose
address the creator's is (`PaymentCriteria.admits`). As users and their addresses are one to one, both ask for the
same, but for the currency: a receipt takes it in any ASCII case, and the search only as it is spelled.
-/

namespace DonationLedger

/-- The session where these addresses were put on file, one after another. -/
def Session.addUsers (s : Session) (as : List Address) : Session := as.foldl (fun s a => (s.addUser a).2) s

/-- The transaction waits for a payment for its target, wherever on the chain it will be made. -/
structure Transaction.Promised (t : Transaction) : Prop where
  pending : t.state = .pending
  provider : t.provider = .blockchain
  unassigned : t.blockchainTransaction = none
  targeted : t.target.isSome = true

section
variable {s : Session} {t : Transaction} {e : Event} {p : Payment} {recipient : Id}

theorem Session.later_addUsers (s : Session) (as : List Address) : s.Later (s.addUsers as) := by
  induction as generalizing s with
  | nil => exact .refl s
  | cons a as ih => exact (s.later_addUser a).trans (ih (s.addUser a).2)

/-- However users are added, no two share an address, and none has two. -/
theorem Session.filed_addUsers (hu : s.ledger.users = []) (as : List Address) : (s.addUsers as).Filed := by
  refine (s.later_addUsers as).filed ⟨?_, ?_, ?_, ?_⟩ <;> simp [hu]

/-- The user of an address is the one who has it on file. -/
theorem Session.Filed.user_iff (h : s.Filed) {id : Id} {v : Address} :
    s.ledger.user? (Text.lowercase v.spelling) = some id ↔
      (s.ledger.address? id).bind (FixedBytes.parse? 20) = some v := by
  constructor
  · intro hu
    rw [h.user hu]
    exact FixedBytes.parse?_spelling v
  · intro ha
    obtain ⟨a, ha, hv⟩ := Option.bind_eq_some_iff.1 ha
    obtain rfl := h.address ha hv
    rw [FixedBytes.lowercase_spelling]
    exact Ledger.user?_of_mem h.addresses (Ledger.address?_mem ha)

theorem Payment.mismatch?_eq_none_iff {address : Option String} : Payment.mismatch? t address e p = none ↔
    address.bind (FixedBytes.parse? 20) = some e.creator ∧ Text.sameAscii t.currency p.currency = true ∧
      t.amount.same p.amount = true ∧ (t.target = none ∨ t.target = some p.content) := by
  refine ⟨mismatch?_none, fun ⟨hr, hc, ha, ht⟩ => ?_⟩
  unfold mismatch?
  rw [if_neg (not_not_intro hr), hc, ha]
  rcases ht with ht | ht <;> simp [ht]

/-- Where users and addresses are one to one, the search finds what a receipt would accept and what has its currency
spelled so. -/
theorem Transaction.Promised.admits_iff (ht : t.Promised) (hf : s.Filed)
    (hr : s.ledger.user? (Text.lowercase e.creator.spelling) = some recipient) :
    (p.criteria recipient).admits t = true ↔
      Payment.mismatch? t (s.ledger.address? t.recipient) e p = none ∧ t.currency = p.currency := by
  have hrecipient : t.recipient = recipient ↔
      (s.ledger.address? t.recipient).bind (FixedBytes.parse? 20) = some e.creator := by
    rw [← hf.user_iff, hr, Option.some.injEq, eq_comm]
  have htarget : t.target ≠ none := Option.isSome_iff_ne_none.1 ht.targeted
  rw [Payment.admits_criteria_iff, Payment.mismatch?_eq_none_iff, ← hrecipient]
  constructor
  · intro hm
    refine ⟨⟨hm.recipient, ?_, hm.amount, .inr hm.target⟩, hm.currency⟩
    rw [hm.currency]
    exact Text.sameAscii_refl p.currency
  · rintro ⟨⟨hrec, -, ham, htar⟩, hcur⟩
    exact ⟨ht.pending, ht.provider, ht.unassigned, hrec, htar.resolve_left htarget, hcur, ham⟩

end

/-- Add users in any way. A transaction that was promised for its target is found by the search for a payment to the
creator of an event exactly if a receipt with the event would be accepted for it and its currency is spelled as the
chain spells it. So a log of such a payment is no second donation. -/
theorem search_agrees_with_receipt {s : Session} (hu : s.ledger.users = []) (as : List Address) {t : Transaction}
    (ht : t.Promised) {e : Event} {recipient : Id}
    (hr : (s.addUsers as).ledger.user? (Text.lowercase e.creator.spelling) = some recipient) (p : Payment) :
    ((p.criteria recipient).admits t = true ↔
      Payment.mismatch? t ((s.addUsers as).ledger.address? t.recipient) e p = none ∧ t.currency = p.currency) ∧
    ∀ l : Ledger, t ∈ l.transactions → t.currency = p.currency →
      Payment.mismatch? t ((s.addUsers as).ledger.address? t.recipient) e p = none →
      (l.pendingMatch? (p.criteria recipient)).isSome = true := by
  have hiff := ht.admits_iff (p := p) (Session.filed_addUsers hu as) hr
  refine ⟨hiff, fun l hm hc hn => ?_⟩
  rw [Ledger.pendingMatch?, List.find?_isSome]
  exact ⟨t, hm, hiff.2 ⟨hn, hc⟩⟩

namespace Donation

/-- The users of the donation, its content, and the donation as it is promised in a currency. -/
def promisedIn (currency : String) : Session :=
  ((((Session.start.addUsers [creator]).addContent "a").2).commit
    (Work.createTransaction { promise with currency := currency })).2

/-- The promised donation. -/
def promisedRow (currency : String) : Transaction := { promise with currency := currency }.row (.issued .transaction 1)

theorem promisedRow_promised (currency : String) : (promisedRow currency).Promised := ⟨rfl, rfl, rfl, rfl⟩

end Donation

/-- The donation that is promised in coins as the chain spells them is found. -/
theorem search_finds_donation :
    Session.start.ledger.users = [] ∧ (Donation.promisedRow "ETH").Promised ∧
    (Session.start.addUsers [Donation.creator]).ledger.user? (Text.lowercase Donation.event.creator.spelling) =
      some (.issued .user 1) ∧
    (Donation.payment.criteria (.issued .user 1)).admits (Donation.promisedRow "ETH") = true := by
  have hr : (Session.start.addUsers [Donation.creator]).ledger.user?
      (Text.lowercase Donation.event.creator.spelling) = some (.issued .user 1) := by decide +kernel
  have hn : Payment.mismatch? (Donation.promisedRow "ETH")
      ((Session.start.addUsers [Donation.creator]).ledger.address? (Donation.promisedRow "ETH").recipient)
      Donation.event Donation.payment = none := by decide +kernel
  exact ⟨rfl, Donation.promisedRow_promised "ETH", hr, (search_agrees_with_receipt rfl [Donation.creator]
    (Donation.promisedRow_promised "ETH") hr Donation.payment).1.2 ⟨hn, rfl⟩⟩

/-- Spelled otherwise, the donation that a receipt would accept is not found, and its log makes a second one. -/
theorem search_misses_accepted :
    (Donation.promisedRow "eth").Promised ∧
    (Donation.promisedIn "eth").ledger.transactions = [Donation.promisedRow "eth"] ∧
    (Donation.promisedIn "eth").ledger.users = (Session.start.addUsers [Donation.creator]).ledger.users ∧
    (Donation.promisedIn "eth").ledger.user? (Text.lowercase Donation.event.creator.spelling) =
      some (.issued .user 1) ∧
    Payment.mismatch? (Donation.promisedRow "eth")
      ((Donation.promisedIn "eth").ledger.address? (Donation.promisedRow "eth").recipient) Donation.event
      Donation.payment = none ∧
    (Donation.payment.criteria (.issued .user 1)).admits (Donation.promisedRow "eth") = false ∧
    ((applyLog Donation.deployment Donation.log).alone Donation.node (Donation.promisedIn "eth")).1.toOption =
      some (.created (.issued .transaction 2)) := by
  refine ⟨Donation.promisedRow_promised "eth", ?_, rfl, ?_, ?_, ?_, ?_⟩
  · decide +kernel
  · decide +kernel
  · decide +kernel
  · decide +kernel
  · decide +kernel

end DonationLedger
