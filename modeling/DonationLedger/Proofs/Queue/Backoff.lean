import DonationLedger.Proofs.Decimal.Value
import DonationLedger.Queue

/-!
# How delays grow

Delays double from the base up to the longest (`nanos_backoff_succ`), as long as the factor fits a word of 32 bits. It
does for the first thirty-two attempts. From then on the factor is the largest word, so that the delay stays where it
is, short of twice the one before unless it has come to the longest already.
-/

namespace DonationLedger

/-- A bound hides a larger factor where there is nothing to multiply, or where the smaller one has reached it. -/
theorem min_mul_eq_min_mul_iff {a k n bound : Nat} (h : k < n) :
    min (a * k) bound = min (a * n) bound ↔ a = 0 ∨ bound ≤ a * k := by
  constructor
  · intro he
    by_contra hn
    obtain ⟨ha, hk⟩ := not_or.1 hn
    have hlt : a * k < min (a * n) bound :=
      lt_min (Nat.mul_lt_mul_of_pos_left h (Nat.pos_of_ne_zero ha)) (Nat.lt_of_not_le hk)
    rw [← he, min_eq_left (Nat.lt_of_not_le hk).le] at hlt
    exact Nat.lt_irrefl _ hlt
  · rintro (rfl | hk)
    · simp
    · rw [min_eq_right hk, min_eq_right (hk.trans (Nat.mul_le_mul_left a h.le))]

namespace Duration

theorem nanos_least (a b : Duration) : (a.least b).nanos = min a.nanos b.nanos := by
  unfold least
  split
  · next h => exact (Nat.min_eq_left h).symm
  · next h => exact (Nat.min_eq_right (Nat.le_of_not_le h)).symm

/-- A product that no clock can count is longer than any span that one can. -/
theorem nanos_times?_getD_least (d : Duration) (n : Nat) {longest : Duration} (h : longest.seconds ≤ Text.maxWord64) :
    (((d.times? n).getD longest).least longest).nanos = min (d.nanos * n) longest.nanos := by
  rw [nanos_least]
  by_cases hfits : Duration.seconds ⟨d.nanos * n⟩ ≤ Text.maxWord64
  · have hsome : d.times? n = some ⟨d.nanos * n⟩ := if_pos hfits
    rw [hsome, Option.getD_some]
  · have hnone : d.times? n = none := if_neg hfits
    have hlong : longest.nanos < d.nanos * n :=
      Nat.lt_of_div_lt_div (Nat.lt_of_le_of_lt h (Nat.lt_of_not_le hfits))
    rw [hnone, Option.getD_none, Nat.min_self, Nat.min_eq_right hlong.le]

end Duration

namespace QueueSettings

theorem factor_eq_min (n : Nat) : factor n = min (2 ^ (n - 1)) (2 ^ 32 - 1) := by
  unfold factor
  split
  · next h =>
    have hpow : 2 ^ (n - 1) ≤ 2 ^ 31 := Nat.pow_le_pow_right (by decide) (by omega)
    rw [power_eq_pow]
    omega
  · next h =>
    have hpow : 2 ^ 32 ≤ 2 ^ (n - 1) := Nat.pow_le_pow_right (by decide) (by omega)
    rw [show Text.maxWord32 = 2 ^ 32 - 1 from rfl]
    omega

theorem factor_mono {m n : Nat} (h : m ≤ n) : factor m ≤ factor n := by
  have hpow : 2 ^ (m - 1) ≤ 2 ^ (n - 1) := Nat.pow_le_pow_right (by decide) (Nat.sub_le_sub_right h 1)
  rw [factor_eq_min, factor_eq_min]
  omega

theorem factor_of_le {n : Nat} (h : n ≤ 32) : factor n = 2 ^ (n - 1) := by
  have hpow : 2 ^ (n - 1) ≤ 2 ^ 31 := Nat.pow_le_pow_right (by decide) (by omega)
  rw [factor_eq_min]
  omega

theorem factor_of_lt {n : Nat} (h : 32 < n) : factor n = 2 ^ 32 - 1 := by
  have hpow : 2 ^ 32 ≤ 2 ^ (n - 1) := Nat.pow_le_pow_right (by decide) (by omega)
  rw [factor_eq_min]
  omega

section
variable {s : QueueSettings} (hs : s.backoffMax.seconds ≤ Text.maxWord64)
include hs

theorem nanos_backoff (n : Nat) :
    (s.backoff n).nanos = min (s.backoffBase.nanos * factor n) s.backoffMax.nanos :=
  s.backoffBase.nanos_times?_getD_least (factor n) hs

theorem backoff_mono {m n : Nat} (h : m ≤ n) : (s.backoff m).nanos ≤ (s.backoff n).nanos := by
  rw [nanos_backoff hs, nanos_backoff hs]
  exact min_le_min_right _ (Nat.mul_le_mul_left _ (factor_mono h))

/-- Up to the thirty-second attempt each delay is twice the one before, unless it is the longest. -/
theorem nanos_backoff_succ {n : Nat} (hn : 1 ≤ n) (h : n < 32) :
    (s.backoff (n + 1)).nanos = min (2 * (s.backoff n).nanos) s.backoffMax.nanos := by
  obtain ⟨k, rfl⟩ := Nat.exists_eq_add_of_le' hn
  have hdouble : factor (k + 2) = 2 * factor (k + 1) := by
    rw [factor_of_le (show k + 2 ≤ 32 from h), factor_of_le h.le]
    exact Nat.pow_succ'
  rw [nanos_backoff hs, nanos_backoff hs, hdouble, Nat.mul_left_comm]
  omega

/-- Delays are as if factors were unbounded for as long as the factor fits, where there is nothing to multiply, and
where the largest factor leads to the longest delay. -/
theorem nanos_backoff_eq_iff (n : Nat) :
    (s.backoff n).nanos = min (s.backoffBase.nanos * 2 ^ (n - 1)) s.backoffMax.nanos ↔
      n ≤ 32 ∨ s.backoffBase.nanos = 0 ∨ s.backoffMax.nanos ≤ s.backoffBase.nanos * (2 ^ 32 - 1) := by
  rw [nanos_backoff hs]
  rcases Nat.lt_or_ge 32 n with h | h
  · have hpow : 2 ^ 32 ≤ 2 ^ (n - 1) := Nat.pow_le_pow_right (by decide) (by omega)
    rw [factor_of_lt h, min_mul_eq_min_mul_iff (Nat.lt_of_lt_of_le (by decide) hpow),
      iff_false_intro (Nat.not_le.2 h), false_or]
  · simp only [factor_of_le h, h, true_or]

end

/-- Delays never exceed the longest and never become shorter, and up to the thirty-second attempt they double until
they are the longest. They are the base times a power of two, cut at the longest, for the first thirty-two attempts, and
later exactly where the base is zero or the largest word times the base reaches the longest; else they stay at this
product. -/
theorem backoff_follows_formula {s : QueueSettings} (hs : s.backoffMax.seconds ≤ Text.maxWord64) (n : Nat) :
    ((s.backoff n).nanos = min (s.backoffBase.nanos * 2 ^ (n - 1)) s.backoffMax.nanos ↔
      n ≤ 32 ∨ s.backoffBase.nanos = 0 ∨ s.backoffMax.nanos ≤ s.backoffBase.nanos * (2 ^ 32 - 1)) ∧
    (32 < n → (s.backoff n).nanos = min (s.backoffBase.nanos * (2 ^ 32 - 1)) s.backoffMax.nanos) ∧
    (s.backoff n).nanos ≤ s.backoffMax.nanos ∧
    (∀ m, n ≤ m → (s.backoff n).nanos ≤ (s.backoff m).nanos) ∧
    (1 ≤ n → n < 32 → (s.backoff (n + 1)).nanos = min (2 * (s.backoff n).nanos) s.backoffMax.nanos) := by
  refine ⟨nanos_backoff_eq_iff hs n, fun h => ?_, s.backoff_le n, fun m => backoff_mono hs, nanos_backoff_succ hs⟩
  rw [nanos_backoff hs, factor_of_lt h]

/-- Of the standard delays the third is the base of two seconds, doubled twice. -/
theorem third_standard_delay : standard.backoffMax.seconds ≤ Text.maxWord64 ∧
    (standard.backoff 3).nanos = min (standard.backoffBase.nanos * 2 ^ 2) standard.backoffMax.nanos := by
  have hs : standard.backoffMax.seconds ≤ Text.maxWord64 := by decide
  exact ⟨hs, (backoff_follows_formula hs 3).1.2 (.inl (by decide))⟩

/-- A base of a millisecond, and a longest delay of more than a hundred days. -/
def patient : QueueSettings := ⟨4, 40, .ofMillis 1, .ofMillis 10000000000⟩

/-- These delays can be set, and the thirty-fourth is no longer than the one before, though it is nowhere near the
longest. -/
theorem delay_stops_doubling :
    Settings.readQueue [("SETTLEMENT_MAX_ATTEMPTS", "40"), ("SETTLEMENT_BACKOFF_BASE_MS", "1"),
      ("SETTLEMENT_BACKOFF_MAX_MS", "10000000000")] = .ok patient ∧
    patient.backoffBase.seconds ≤ Text.maxWord64 ∧ patient.backoffMax.seconds ≤ Text.maxWord64 ∧
    (patient.backoff 34).nanos = (patient.backoff 33).nanos ∧
    (patient.backoff 34).nanos ≠ min (patient.backoffBase.nanos * 2 ^ 33) patient.backoffMax.nanos := by
  refine ⟨?_, by decide, by decide, by decide +kernel, by decide +kernel⟩
  decide +kernel

end QueueSettings

end DonationLedger
