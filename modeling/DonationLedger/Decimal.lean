import DonationLedger.Text.Basic

/-!
# Amounts

A decimal number with a sign, a mantissa of 96 bits and a scale of at most 28 places. Two
decimals of different scale can be the same number, so amounts are compared by value, never by
their parts.
-/

namespace DonationLedger

/-- The number `± mantissa / 10 ^ scale`. -/
structure Decimal where
  negative : Bool
  mantissa : Nat
  scale : Nat
  mantissa_lt : mantissa < 79228162514264337593543950336 := by decide
  scale_le : scale ≤ 28 := by decide
  deriving DecidableEq, Repr

namespace Decimal

/-- What every mantissa is smaller than: two to the power of 96. -/
def limit : Nat := 79228162514264337593543950336

/-- The largest number of places. -/
def maxScale : Nat := 28

def zero : Decimal := ⟨false, 0, 0, by decide, by decide⟩

instance : Inhabited Decimal := ⟨zero⟩

/-- The decimal of these parts, if they are in range. -/
def ofParts? (negative : Bool) (mantissa scale : Nat) : Option Decimal :=
  if h : mantissa < limit ∧ scale ≤ 28 then some ⟨negative, mantissa, scale, h.1, h.2⟩ else none

/-- A whole number below 2 ^ 96. -/
def ofNat? (n : Nat) : Option Decimal := ofParts? false n 0

/-- The same digits with the point moved, `none` beyond 28 places. -/
def withScale? (d : Decimal) (scale : Nat) : Option Decimal :=
  if h : scale ≤ 28 then some ⟨d.negative, d.mantissa, scale, d.mantissa_lt, h⟩ else none

/-- The mantissa and the scale without the zeros at the end, never below scale zero. -/
def dropZeros : Nat → Nat → Nat × Nat
  | m, 0 => (m, 0)
  | m, s + 1 => if m % 10 = 0 then dropZeros (m / 10) s else (m, s + 1)

theorem dropZeros_fst_le (m s : Nat) : (dropZeros m s).1 ≤ m := by
  induction s generalizing m with
  | zero => simp [dropZeros]
  | succ s ih =>
    simp only [dropZeros]
    split
    · exact Nat.le_trans (ih _) (Nat.div_le_self _ _)
    · exact Nat.le_refl _

theorem dropZeros_snd_le (m s : Nat) : (dropZeros m s).2 ≤ s := by
  induction s generalizing m with
  | zero => simp [dropZeros]
  | succ s ih =>
    simp only [dropZeros]
    split
    · exact Nat.le_succ_of_le (ih _)
    · exact Nat.le_refl _

/-- Dropping zeros keeps the value. -/
theorem dropZeros_value (m s : Nat) :
    (dropZeros m s).1 * power 10 s = m * power 10 (dropZeros m s).2 := by
  induction s generalizing m with
  | zero => simp [dropZeros]
  | succ s ih =>
    simp only [dropZeros]
    split
    · next h =>
      have hm : m = m / 10 * 10 := by omega
      calc (dropZeros (m / 10) s).1 * power 10 (s + 1)
          = (dropZeros (m / 10) s).1 * power 10 s * 10 := by rw [power_succ, Nat.mul_assoc]
        _ = m / 10 * power 10 (dropZeros (m / 10) s).2 * 10 := by rw [ih]
        _ = m / 10 * 10 * power 10 (dropZeros (m / 10) s).2 := by
            rw [Nat.mul_right_comm]
        _ = m * power 10 (dropZeros (m / 10) s).2 := by rw [← hm]
    · rfl

/-- The same number with the fewest places. Zero has none, and no sign. -/
def trimmed (d : Decimal) : Decimal :=
  if d.mantissa = 0 then zero
  else
    ⟨d.negative, (dropZeros d.mantissa d.scale).1, (dropZeros d.mantissa d.scale).2,
      Nat.lt_of_le_of_lt (dropZeros_fst_le _ _) d.mantissa_lt,
      Nat.le_trans (dropZeros_snd_le _ _) d.scale_le⟩

/-- The mantissa with its sign. -/
def signed (d : Decimal) : Int := if d.negative then -(d.mantissa : Int) else d.mantissa

/-- Equality of the numbers, whatever their scales. -/
def same (a b : Decimal) : Bool := a.signed * power 10 b.scale == b.signed * power 10 a.scale

theorem same_iff (a b : Decimal) :
    a.same b = true ↔ a.signed * power 10 b.scale = b.signed * power 10 a.scale := by
  simp [same]

theorem same_refl (a : Decimal) : a.same a = true := by simp [same]

theorem same_comm (a b : Decimal) : a.same b = b.same a := by
  rw [Bool.eq_iff_iff, same_iff, same_iff]
  exact eq_comm

theorem same_trans {a b c : Decimal} (h : a.same b = true) (k : b.same c = true) : a.same c = true := by
  rw [same_iff] at *
  have hb : (power 10 b.scale : Int) ≠ 0 := Int.natCast_ne_zero.2 (Nat.ne_of_gt (power_pos (by decide) b.scale))
  refine Int.eq_of_mul_eq_mul_right hb ?_
  calc a.signed * power 10 c.scale * power 10 b.scale
      = a.signed * power 10 b.scale * power 10 c.scale := Int.mul_right_comm ..
    _ = b.signed * power 10 c.scale * power 10 a.scale := by rw [h, Int.mul_right_comm]
    _ = c.signed * power 10 a.scale * power 10 b.scale := by rw [k, Int.mul_right_comm]

end Decimal

end DonationLedger
