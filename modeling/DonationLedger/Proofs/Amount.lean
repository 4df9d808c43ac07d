import DonationLedger.Proofs.Decimal.Value
import DonationLedger.Proofs.Matching
import Mathlib.Tactic.NormNum

/-!
# Amounts are compared exactly

The contract reports amounts in smallest units, and transactions expect amounts of a currency in whatever scale they
were stored with. Between them only the point is moved. So a payment is accepted exactly if the two amounts are one
number, by a receipt as by the search for transactions that wait; where a currency has more places than an amount can
have, no payment is accepted at all.
-/

namespace DonationLedger

section
variable {t : Transaction} {e : Event} {p : Payment} {address : Option String} {recipient : Id}

/-- The transaction waits for the payment to the recipient, whatever the amount. -/
structure Transaction.Awaits (t : Transaction) (p : Payment) (recipient : Id) : Prop where
  pending : t.state = .pending
  provider : t.provider = .blockchain
  unassigned : t.blockchainTransaction = none
  recipient : t.recipient = recipient
  target : t.target = some p.content
  currency : t.currency = p.currency

theorem Transaction.matches_iff : t.Matches p recipient ↔ t.Awaits p recipient ∧ t.amount.same p.amount = true :=
  ⟨fun h => ⟨⟨h.pending, h.provider, h.unassigned, h.recipient, h.target, h.currency⟩, h.amount⟩,
    fun ⟨h, ha⟩ => ⟨h.pending, h.provider, h.unassigned, h.recipient, h.target, h.currency, ha⟩⟩

namespace Payment

/-- The amount is compared after the recipient and the currency. -/
theorem mismatch?_eq_amountMismatch_iff : mismatch? t address e p = some .amountMismatch ↔
    address.bind (FixedBytes.parse? 20) = some e.creator ∧ Text.sameAscii t.currency p.currency = true ∧
      t.amount.same p.amount = false := by
  unfold mismatch?
  split
  · next hr => simp [hr]
  split
  · next hr hc => simp_all
  split
  · next hr hc ha => simp_all
  · next hr hc ha => cases t.target <;> simp_all

variable {settings : ChainSettings} {contents : String → Option Id} {ref : String} {content : Id} {token : Token}

theorem screen_eq_priced (hr : reference e = .ok ref) :
    screen settings contents e = priced settings e (contents ref) := by
  rw [screen, hr]
  rfl

theorem screen_overflows (hr : reference e = .ok ref) (hc : contents ref = some content)
    (ht : settings.token? e.token = some token) (ha : humanAmount? e.amount token.decimals = none) :
    screen settings contents e = .error .amountOverflow := by
  simp only [screen_eq_priced hr, hc, priced, ht, ha]

theorem screen_pays (hr : reference e = .ok ref) (hc : contents ref = some content)
    (ht : settings.token? e.token = some token) {amount : Decimal}
    (ha : humanAmount? e.amount token.decimals = some amount) :
    screen settings contents e = .ok ⟨content, token.symbol, amount⟩ := by
  simp only [screen_eq_priced hr, hc, priced, ht, ha]

end Payment

end

/-- Take any amount in smallest units, and an event of that amount whose creator, content and token are known. Beyond
28 places the event is refused. Else it pays an amount of the currency that is the same number: no digit is lost and
no zero is left at its end, and no other number of units makes that amount. A receipt accepts it for what a transaction
expects exactly if that is the same number too, and so does the search, which finds the oldest such transaction. -/
theorem amounts_compared_exactly {units : Nat} (hu : units < 2 ^ 96) (settings : ChainSettings)
    (contents : String → Option Id) {e : Event} {ref : String} {content : Id} {token : Token}
    (he : e.amount = Decimal.whole units hu) (hr : Payment.reference e = .ok ref) (hc : contents ref = some content)
    (ht : settings.token? e.token = some token) :
    Decimal.ofNat? units = some e.amount ∧
    (28 < token.decimals → Payment.screen settings contents e = .error .amountOverflow) ∧
    (token.decimals ≤ 28 → ∃ amount, humanAmount? e.amount token.decimals = some amount ∧
      Payment.screen settings contents e = .ok ⟨content, token.symbol, amount⟩ ∧
      amount.value * 10 ^ token.decimals = (units : ℚ) ∧ amount.IsTrimmed ∧
      (∀ (units' : Nat) (hu' : units' < 2 ^ 96),
        humanAmount? (Decimal.whole units' hu') token.decimals = some amount → units' = units) ∧
      (∀ (t : Transaction) (address : Option String),
        (Payment.mismatch? t address e ⟨content, token.symbol, amount⟩ = none ↔
          address.bind (FixedBytes.parse? 20) = some e.creator ∧ Text.sameAscii t.currency token.symbol = true ∧
          t.amount.value * 10 ^ token.decimals = (units : ℚ) ∧ (t.target = none ∨ t.target = some content)) ∧
        (Payment.mismatch? t address e ⟨content, token.symbol, amount⟩ = some .amountMismatch ↔
          address.bind (FixedBytes.parse? 20) = some e.creator ∧ Text.sameAscii t.currency token.symbol = true ∧
          t.amount.value * 10 ^ token.decimals ≠ (units : ℚ))) ∧
      ∀ (l : Ledger) (recipient : Id) (t : Transaction),
        l.pendingMatch? (Payment.criteria ⟨content, token.symbol, amount⟩ recipient) = some t ↔
          IsFirst (fun t => t.Awaits ⟨content, token.symbol, amount⟩ recipient ∧
            t.amount.value * 10 ^ token.decimals = (units : ℚ)) l.transactions t) := by
  refine ⟨he ▸ Decimal.ofNat?_whole hu, fun hd => ?_, fun hd => ?_⟩
  · exact Payment.screen_overflows hr hc ht (humanAmount?_eq_none e.amount hd)
  obtain ⟨amount, ha⟩ := exists_humanAmount? e.amount hd
  have hsigned : (e.amount.signed : ℚ) = units := by
    rw [he, Decimal.signed_whole]
    exact Int.cast_natCast units
  have hsame : ∀ x : Decimal, x.same amount = true ↔ x.value * 10 ^ token.decimals = (units : ℚ) := fun x => by
    rw [same_humanAmount?_iff ha, hsigned]
  have hvalue : amount.value * 10 ^ token.decimals = (units : ℚ) := by
    rw [value_of_humanAmount? ha, hsigned]
  refine ⟨amount, ha, Payment.screen_pays hr hc ht ha, hvalue, isTrimmed_of_humanAmount? ha,
    fun units' hu' ha' => ?_, fun t address => ⟨?_, ?_⟩, fun l recipient t => ?_⟩
  · have hvalue' := value_of_humanAmount? ha'
    rw [hvalue, Decimal.signed_whole] at hvalue'
    exact_mod_cast hvalue'.symm
  · rw [Payment.mismatch?_eq_none_iff, hsame]
  · rw [Payment.mismatch?_eq_amountMismatch_iff, ← Bool.not_eq_true, hsame]
  · simp only [Ledger.pendingMatch?_eq_some_iff, Transaction.matches_iff, hsame]

/-- A coin that is expected as `1.00` is paid by a quintillion of smallest units. -/
theorem padded_coin_accepted :
    10 ^ 18 < 2 ^ 96 ∧ Payment.reference Donation.event = .ok "a" ∧
    Donation.deployment.settings.token? Donation.event.token = some (.coin .optimism) ∧
    ∃ amount, Payment.screen Donation.deployment.settings (fun _ => some (.issued .content 1)) Donation.event =
        .ok ⟨.issued .content 1, "ETH", amount⟩ ∧
      Payment.mismatch? { Donation.transaction with amount := ⟨false, 100, 2, by decide, by decide⟩ }
        (some Donation.creator.spelling) Donation.event ⟨.issued .content 1, "ETH", amount⟩ = none := by
  have hu : 10 ^ 18 < 2 ^ 96 := by decide
  have hr : Payment.reference Donation.event = .ok "a" := by decide +kernel
  have ht : Donation.deployment.settings.token? Donation.event.token = some (.coin .optimism) := by decide +kernel
  obtain ⟨-, -, h⟩ := amounts_compared_exactly hu Donation.deployment.settings (fun _ => some (.issued .content 1))
    rfl hr rfl ht
  obtain ⟨amount, -, hs, -, -, -, hm, -⟩ := h (by decide)
  have hrecipient : (some Donation.creator.spelling).bind (FixedBytes.parse? 20) = some Donation.event.creator :=
    FixedBytes.parse?_spelling Donation.creator
  refine ⟨hu, hr, ht, amount, hs, (hm _ _).1.2 ⟨hrecipient, by decide +kernel, ?_, .inr rfl⟩⟩
  show ((100 : Int) : ℚ) / 10 ^ 2 * 10 ^ 18 = ((10 ^ 18 : Nat) : ℚ)
  norm_num

end DonationLedger
