import DonationLedger.Bytes
import DonationLedger.Text.Lowercase

/-!
# Spelled bytes

The spelling of bytes is in lower case already. So an address is on file under its spelling, in whatever
case it is looked for.
-/

namespace DonationLedger

namespace Text

theorem le_iff_toNat_le {c d : Char} : c ≤ d ↔ c.toNat ≤ d.toNat := by
  rw [Char.le_def, UInt32.le_iff_toNat_le]
  rfl

/-! ## Lower case of ASCII -/

theorem lowerAscii_eq (c : Char) :
    lowerAscii c = Char.ofNat (if 0x41 ≤ c.toNat ∧ c.toNat ≤ 0x5A then c.toNat + 0x20 else c.toNat) := by
  have hcap : ('A' ≤ c ∧ c ≤ 'Z') ↔ 0x41 ≤ c.toNat ∧ c.toNat ≤ 0x5A := by
    rw [le_iff_toNat_le, le_iff_toNat_le]
    rfl
  simp only [lowerAscii, hcap]
  split
  · rfl
  · exact (Char.ofNat_toNat c).symm

theorem toNat_lowerAscii (c : Char) :
    (lowerAscii c).toNat = if 0x41 ≤ c.toNat ∧ c.toNat ≤ 0x5A then c.toNat + 0x20 else c.toNat := by
  rw [lowerAscii_eq]
  split
  · next h =>
    rw [Char.ofNat, dif_pos (.inl (by omega))]
    rfl
  · rw [Char.ofNat_toNat]

theorem lowerAscii_lowerAscii (c : Char) : lowerAscii (lowerAscii c) = lowerAscii c := by
  rw [← Char.toNat_inj, toNat_lowerAscii, toNat_lowerAscii]
  grind

/-- An ASCII letter is lowered by itself, whatever stands around it. -/
theorem lowerIn_of_ascii {c : Char} (h : c.toNat < 0x80) (before after : List Char) :
    lowerIn before c after = [lowerAscii c] := by
  have hsigma : c.toNat ≠ 0x3A3 := by omega
  have hdotted : c.toNat ≠ 0x130 := by omega
  rw [lowerAscii_eq, lowerIn, if_neg hsigma, if_neg hdotted, lowerCode, if_pos h]

theorem lowerFrom_of_ascii {cs : List Char} (h : ∀ c ∈ cs, c.toNat < 0x80) (before : List Char) :
    lowerFrom before cs = cs.map lowerAscii := by
  induction cs generalizing before with
  | nil => rfl
  | cons c cs ih =>
    rw [lowerFrom, lowerIn_of_ascii (h c List.mem_cons_self), ih fun d hd => h d (List.mem_cons_of_mem _ hd)]
    rfl

theorem lowercase_of_ascii {s : String} (h : ∀ c ∈ s.toList, c.toNat < 0x80) :
    lowercase s = String.ofList (s.toList.map lowerAscii) := by
  rw [lowercase, lowerFrom_of_ascii h]

/-- The characters that lower case leaves alone whatever stands around them. -/
def IsSmall (c : Char) : Prop := c.toNat < 0x80 ∧ ¬ (0x41 ≤ c.toNat ∧ c.toNat ≤ 0x5A)

theorem IsSmall.lowerAscii_eq {c : Char} (h : IsSmall c) : lowerAscii c = c := by
  rw [Text.lowerAscii_eq, if_neg h.2, Char.ofNat_toNat]

theorem lowerFrom_of_isSmall {cs : List Char} (h : ∀ c ∈ cs, IsSmall c) (before : List Char) :
    lowerFrom before cs = cs := by
  rw [lowerFrom_of_ascii (fun c hc => (h c hc).1), List.map_congr_left fun c hc => (h c hc).lowerAscii_eq, List.map_id']

/-! ## Digits -/

theorem toNat_hexDigit {n : Nat} (h : n < 16) : (hexDigit n).toNat = if n < 10 then n + 0x30 else n + 0x57 := by
  decide +revert

theorem isSmall_hexDigit {n : Nat} (h : n < 16) : IsSmall (hexDigit n) := by
  rw [IsSmall, toNat_hexDigit h]
  split <;> omega

theorem lowercase_writeHex (bs : List UInt8) : lowercase (writeHex bs) = writeHex bs := by
  unfold lowercase writeHex
  rw [String.toList_ofList, lowerFrom_of_isSmall]
  intro c hc
  simp only [List.mem_cons, hexChars, List.mem_flatMap] at hc
  rcases hc with rfl | rfl | ⟨b, -, hc⟩
  · unfold IsSmall; decide
  · unfold IsSmall; decide
  · have hb : b.toNat < 256 := b.toNat_lt
    simp only [hexPair, List.mem_cons, List.not_mem_nil, or_false] at hc
    rcases hc with rfl | rfl
    · exact isSmall_hexDigit (by omega)
    · exact isSmall_hexDigit (by omega)

end Text

namespace FixedBytes

variable {n : Nat}

@[simp] theorem lowercase_spelling (v : FixedBytes n) : Text.lowercase v.spelling = v.spelling :=
  Text.lowercase_writeHex v.bytes

end FixedBytes

end DonationLedger
