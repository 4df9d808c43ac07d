import DonationLedger.Curation.Event
import Mathlib.Algebra.Order.Field.Rat
import Mathlib.Tactic.Positivity

/-!
# The value of an amount

A decimal stands for a rational number. Two are the same exactly if they have one value, whatever their scales
(`same_iff_value`), and trimming keeps the value. So an amount in smallest units and the amount of the currency that
it makes are one number, with the point moved and nothing rounded (`value_of_humanAmount?`).
-/

namespace DonationLedger

theorem power_eq_pow (base n : Nat) : power base n = base ^ n := by
  induction n with
  | zero => rfl
  | succ n ih => rw [power_succ, ih, Nat.pow_succ]

namespace Decimal

/-- The number that a decimal stands for. -/
def value (d : Decimal) : ℚ := d.signed / 10 ^ d.scale

/-- No zero stands at the end of the places. -/
def IsTrimmed (d : Decimal) : Prop := d.scale = 0 ∨ ¬ 10 ∣ d.mantissa

/-- A whole number as an amount. -/
def whole (n : Nat) (h : n < 2 ^ 96) : Decimal := { zero with mantissa := n, mantissa_lt := h }

theorem ofNat?_whole {n : Nat} (h : n < 2 ^ 96) : ofNat? n = some (whole n h) := dif_pos ⟨h, Nat.zero_le 28⟩

theorem ofNat?_eq_none {n : Nat} (h : 2 ^ 96 ≤ n) : ofNat? n = none := dif_neg fun hn => Nat.not_lt.2 h hn.1

theorem signed_whole {n : Nat} (h : n < 2 ^ 96) : (whole n h).signed = n := rfl

section
variable (d : Decimal)

theorem value_eq_iff (q : ℚ) : d.value = q ↔ (d.signed : ℚ) = q * 10 ^ d.scale := by
  have h : (10 : ℚ) ^ d.scale ≠ 0 := by positivity
  rw [value, div_eq_iff h]

theorem same_iff_value (a b : Decimal) : a.same b = true ↔ a.value = b.value := by
  have ha : (10 : ℚ) ^ a.scale ≠ 0 := by positivity
  have hb : (10 : ℚ) ^ b.scale ≠ 0 := by positivity
  rw [same_iff, value, value, div_eq_div_iff ha hb, power_eq_pow, power_eq_pow]
  exact_mod_cast Iff.rfl

theorem dropZeros_trimmed (m s : Nat) : (dropZeros m s).2 = 0 ∨ ¬ 10 ∣ (dropZeros m s).1 := by
  induction s generalizing m with
  | zero => exact .inl rfl
  | succ s ih =>
    unfold dropZeros
    split
    · exact ih (m / 10)
    · next h => exact .inr fun hd => h (Nat.mod_eq_zero_of_dvd hd)

theorem isTrimmed_trimmed : d.trimmed.IsTrimmed := by
  unfold trimmed
  split
  · exact .inl rfl
  · exact dropZeros_trimmed d.mantissa d.scale

theorem value_trimmed : d.trimmed.value = d.value := by
  rw [← same_iff_value, same_iff]
  unfold trimmed
  split
  · next h => simp [signed, zero, h]
  · have h : ((dropZeros d.mantissa d.scale).1 : Int) * power 10 d.scale =
        d.mantissa * power 10 (dropZeros d.mantissa d.scale).2 := by
      exact_mod_cast dropZeros_value d.mantissa d.scale
    unfold signed
    split
    · simp only [neg_mul, h]
    · exact h

end

end Decimal

section
variable {units amount : Decimal} {decimals : Nat}

theorem humanAmount?_eq_none (units : Decimal) (h : 28 < decimals) : humanAmount? units decimals = none := by
  rw [humanAmount?, Decimal.withScale?, dif_neg (Nat.not_le.2 h)]
  rfl

theorem exists_humanAmount? (units : Decimal) (h : decimals ≤ 28) :
    ∃ amount, humanAmount? units decimals = some amount := by
  rw [humanAmount?, Decimal.withScale?, dif_pos h]
  exact ⟨_, rfl⟩

theorem humanAmount?_eq_some_iff : humanAmount? units decimals = some amount ↔
    ∃ h : decimals ≤ 28, (Decimal.mk units.negative units.mantissa decimals units.mantissa_lt h).trimmed = amount := by
  unfold humanAmount? Decimal.withScale?
  split
  · next h => simp [h]
  · next h => simp [h]

theorem isTrimmed_of_humanAmount? (h : humanAmount? units decimals = some amount) : amount.IsTrimmed := by
  obtain ⟨_, rfl⟩ := humanAmount?_eq_some_iff.1 h
  exact Decimal.isTrimmed_trimmed _

/-- Only the point is moved. -/
theorem value_of_humanAmount? (h : humanAmount? units decimals = some amount) :
    amount.value * 10 ^ decimals = units.signed := by
  obtain ⟨_, rfl⟩ := humanAmount?_eq_some_iff.1 h
  rw [Decimal.value_trimmed]
  exact ((Decimal.value_eq_iff _ _).1 rfl).symm

/-- An amount of the currency is the same as one in smallest units exactly if it has as many of them. -/
theorem same_humanAmount?_iff (h : humanAmount? units decimals = some amount) (x : Decimal) :
    x.same amount = true ↔ x.value * 10 ^ decimals = units.signed := by
  have hp : (10 : ℚ) ^ decimals ≠ 0 := by positivity
  rw [Decimal.same_iff_value, ← value_of_humanAmount? h, mul_left_inj' hp]

end

end DonationLedger
