import DonationLedger.Bytes
import DonationLedger.Proofs.Text.Spelling
import DonationLedger.Proofs.Text.Utf8

/-!
# Hexadecimal text is read in every case

What is read as bytes is an optional mark and then the digits of these bytes, each letter in either case
(`readHex?_eq_some_iff`), two digits for each byte (`exists_spells_iff`). Lower case turns every such text into the
one that is written, but for the mark, which it does not supply (`Spells.writeHex_eq`).

A number that a node is told is written as a quantity: the mark, then hexadecimal digits without a zero in front. Every
number is written in this form, and a reader that insists on the form takes it for that number again.
-/

namespace DonationLedger.Text

/-- The two forms of the mark. -/
def hexMarks : List (List Char) := [['0', 'x'], ['0', 'X']]

/-- The digits in small letters. -/
def hexAlphabet : List Char := ['0', '1', '2', '3', '4', '5', '6', '7', '8', '9', 'a', 'b', 'c', 'd', 'e', 'f']

/-- The mark stands in front. -/
def IsMarked (s : String) : Prop := s.toList.take 2 ∈ hexMarks

instance (s : String) : Decidable (IsMarked s) := inferInstanceAs (Decidable (s.toList.take 2 ∈ hexMarks))

/-- A text spells bytes: after the mark, or without it, stand their digits in any case. -/
def Spells (s : String) (bs : List UInt8) : Prop :=
  ∃ mark ∈ [] :: hexMarks, ∃ digits, s.toList = mark ++ digits ∧ digits.map lowerAscii = hexChars bs

/-! ## Digits -/

/-- A character has the value of the digit that it is lowered to. -/
theorem hexValue?_eq_some_iff {c : Char} {n : Nat} : hexValue? c = some n ↔ n < 16 ∧ lowerAscii c = hexDigit n := by
  -- Characters are told apart by their codes, and on codes both sides are bounds.
  have hdigit (hn : n < 16) : lowerAscii c = hexDigit n ↔
      (if 0x41 ≤ c.toNat ∧ c.toNat ≤ 0x5A then c.toNat + 0x20 else c.toNat) =
        if n < 10 then n + 0x30 else n + 0x57 := by
    rw [← Char.toNat_inj, toNat_lowerAscii, toNat_hexDigit hn]
  rw [and_congr_right hdigit]
  simp only [hexValue?, le_iff_toNat_le, Char.reduceToNat]
  grind

theorem hexValue?_lowerAscii (c : Char) : hexValue? (lowerAscii c) = hexValue? c := by
  refine Option.ext fun n => ?_
  rw [hexValue?_eq_some_iff, hexValue?_eq_some_iff, lowerAscii_lowerAscii]

theorem mem_hexAlphabet_iff {c : Char} : c ∈ hexAlphabet ↔ ∃ n, n < 16 ∧ c = hexDigit n := by
  have hdigits : hexAlphabet = (List.range 16).map hexDigit := by decide
  rw [hdigits, List.mem_map]
  exact exists_congr fun n => and_congr List.mem_range eq_comm

/-- No digit is the letter of the mark. -/
theorem hexDigit_ne_x {n : Nat} (h : n < 16) : hexDigit n ≠ 'x' := by
  decide +revert

theorem hexChars_cons {x y : Nat} (hx : x < 16) (hy : y < 16) (bs : List UInt8) :
    hexChars ((x * 16 + y).toUInt8 :: bs) = hexDigit x :: hexDigit y :: hexChars bs := by
  have hhigh : (x * 16 + y) / 16 = x := by omega
  have hlow : (x * 16 + y) % 16 = y := by omega
  rw [hexChars, List.flatMap_cons, hexPair, toNat_toUInt8 (show x * 16 + y < 256 by omega), hhigh, hlow]
  rfl

theorem mem_hexAlphabet_of_mem_hexChars {bs : List UInt8} {c : Char} (h : c ∈ hexChars bs) : c ∈ hexAlphabet := by
  obtain ⟨b, -, hc⟩ := List.mem_flatMap.1 h
  have hb : b.toNat < 256 := b.toNat_lt
  simp only [hexPair, List.mem_cons, List.not_mem_nil, or_false] at hc
  rcases hc with rfl | rfl
  · exact mem_hexAlphabet_iff.2 ⟨_, by omega, rfl⟩
  · exact mem_hexAlphabet_iff.2 ⟨_, by omega, rfl⟩

theorem length_hexChars (bs : List UInt8) : (hexChars bs).length = 2 * bs.length := by
  induction bs with
  | nil => rfl
  | cons b bs ih => simp only [hexChars, List.flatMap_cons, hexPair, List.length_append, List.length_cons,
      List.length_nil] at ih ⊢; omega

/-! ## Runs of digits -/

theorem hexBytes?_map_lowerAscii (cs : List Char) : hexBytes? (cs.map lowerAscii) = hexBytes? cs := by
  fun_induction hexBytes? cs with
  | case1 => rfl
  | case2 a b cs x y rest hrest hb ha ih => simp [hexBytes?, hexValue?_lowerAscii, *]
  | case3 a b cs h ih => simp [hexBytes?, hexValue?_lowerAscii, *]
  | case4 c => rfl

theorem map_lowerAscii_of_hexBytes? {cs : List Char} {bs : List UInt8} (h : hexBytes? cs = some bs) :
    cs.map lowerAscii = hexChars bs := by
  fun_induction hexBytes? cs generalizing bs with
  | case1 => cases h; rfl
  | case2 a b cs x y rest hrest hb ha ih =>
    obtain ⟨hx, ha⟩ := hexValue?_eq_some_iff.1 ha
    obtain ⟨hy, hb⟩ := hexValue?_eq_some_iff.1 hb
    cases h
    rw [hexChars_cons hx hy, List.map_cons, List.map_cons, ha, hb, ih hrest]
  | case3 a b cs h ih => cases h
  | case4 c => cases h

/-- Digits stand for bytes if and only if they are those of the bytes in some case. -/
theorem hexBytes?_eq_some_iff {cs : List Char} {bs : List UInt8} :
    hexBytes? cs = some bs ↔ cs.map lowerAscii = hexChars bs := by
  refine ⟨map_lowerAscii_of_hexBytes?, fun h => ?_⟩
  rw [← hexBytes?_map_lowerAscii, h, hexBytes?_hexChars]

/-- Any digits stand for bytes, if there are two for each of them. -/
theorem exists_hexChars {n : Nat} {cs : List Char} (hl : cs.length = 2 * n) (hd : ∀ c ∈ cs, c ∈ hexAlphabet) :
    ∃ bs : List UInt8, bs.length = n ∧ cs = hexChars bs := by
  induction n generalizing cs with
  | zero => exact ⟨[], rfl, List.length_eq_zero_iff.1 hl⟩
  | succ n ih =>
    match cs, hl, hd with
    | a :: b :: cs, hl, hd =>
      obtain ⟨x, hx, rfl⟩ := mem_hexAlphabet_iff.1 (hd a List.mem_cons_self)
      obtain ⟨y, hy, rfl⟩ := mem_hexAlphabet_iff.1 (hd b (List.mem_cons_of_mem _ List.mem_cons_self))
      simp only [List.length_cons] at hl
      have hrest : ∀ c ∈ cs, c ∈ hexAlphabet := fun c hc =>
        hd c (List.mem_cons_of_mem _ (List.mem_cons_of_mem _ hc))
      obtain ⟨bs, hbs, rfl⟩ := ih (by omega) hrest
      refine ⟨(x * 16 + y).toUInt8 :: bs, by rw [List.length_cons, hbs], ?_⟩
      rw [hexChars_cons hx hy]

/-! ## The mark -/

theorem eq_append_dropHexMark (cs : List Char) : ∃ mark ∈ [] :: hexMarks, cs = mark ++ dropHexMark cs := by
  unfold dropHexMark
  split
  · exact ⟨['0', 'x'], by decide, rfl⟩
  · exact ⟨['0', 'X'], by decide, rfl⟩
  · exact ⟨[], by decide, rfl⟩

/-- Among digits there is no mark. -/
theorem take_not_mem_hexMarks {cs : List Char} {bs : List UInt8} (h : cs.map lowerAscii = hexChars bs) :
    cs.take 2 ∉ hexMarks := by
  intro hm
  have hx : 'x' ∈ (cs.take 2).map lowerAscii := by
    simp only [hexMarks, List.mem_cons, List.not_mem_nil, or_false] at hm
    rcases hm with hm | hm <;> rw [hm] <;> decide
  rw [List.map_take, h] at hx
  obtain ⟨n, hn, he⟩ := mem_hexAlphabet_iff.1 (mem_hexAlphabet_of_mem_hexChars (List.mem_of_mem_take hx))
  exact hexDigit_ne_x hn he.symm

theorem take_two_of_mem_hexMarks {mark : List Char} (hm : mark ∈ hexMarks) (cs : List Char) :
    (mark ++ cs).take 2 = mark ∧ dropHexMark (mark ++ cs) = cs ∧ mark.map lowerAscii = ['0', 'x'] := by
  simp only [hexMarks, List.mem_cons, List.not_mem_nil, or_false] at hm
  rcases hm with rfl | rfl
  · exact ⟨rfl, rfl, by decide⟩
  · exact ⟨rfl, rfl, by decide⟩

theorem dropHexMark_append {mark digits : List Char} {bs : List UInt8} (hm : mark ∈ [] :: hexMarks)
    (h : digits.map lowerAscii = hexChars bs) : dropHexMark (mark ++ digits) = digits := by
  rcases List.mem_cons.1 hm with rfl | hm
  · obtain ⟨mark, hm, he⟩ := eq_append_dropHexMark digits
    rcases List.mem_cons.1 hm with rfl | hm
    · exact he.symm
    · refine absurd ?_ (take_not_mem_hexMarks h)
      rw [he, (take_two_of_mem_hexMarks hm _).1]
      exact hm
  · exact (take_two_of_mem_hexMarks hm digits).2.1

/-! ## Texts -/

/-- A text is read as bytes if and only if it spells them. -/
theorem readHex?_eq_some_iff {s : String} {bs : List UInt8} : readHex? s = some bs ↔ Spells s bs := by
  rw [readHex?, hexBytes?_eq_some_iff]
  constructor
  · intro h
    obtain ⟨mark, hm, hs⟩ := eq_append_dropHexMark s.toList
    exact ⟨mark, hm, _, hs, h⟩
  · rintro ⟨mark, hm, digits, hs, h⟩
    rwa [hs, dropHexMark_append hm h]

/-- The texts that spell `n` bytes have two digits for each of them, and nothing else but a mark in front. -/
theorem exists_spells_iff {n : Nat} {s : String} : (∃ bs : List UInt8, bs.length = n ∧ Spells s bs) ↔
    ∃ mark ∈ [] :: hexMarks, ∃ digits, s.toList = mark ++ digits ∧ digits.length = 2 * n ∧
      ∀ c ∈ digits, lowerAscii c ∈ hexAlphabet := by
  constructor
  · rintro ⟨bs, hl, mark, hm, digits, hs, hd⟩
    refine ⟨mark, hm, digits, hs, ?_, fun c hc => ?_⟩
    · rw [← hl, ← length_hexChars, ← hd, List.length_map]
    · exact mem_hexAlphabet_of_mem_hexChars (hd ▸ List.mem_map_of_mem hc)
  · rintro ⟨mark, hm, digits, hs, hl, hd⟩
    have hlow : ∀ c ∈ digits.map lowerAscii, c ∈ hexAlphabet := by
      simpa only [List.forall_mem_map] using hd
    obtain ⟨bs, hbs, he⟩ := exists_hexChars (by rw [List.length_map, hl]) hlow
    exact ⟨bs, hbs, mark, hm, digits, hs, he⟩

theorem ascii_of_lowerAscii {c : Char} (h : lowerAscii c ∈ hexAlphabet) : c.toNat < 0x80 := by
  obtain ⟨n, hn, he⟩ := mem_hexAlphabet_iff.1 h
  have hlow := toNat_lowerAscii c
  rw [he, toNat_hexDigit hn] at hlow
  split at hlow <;> split at hlow <;> omega

theorem Spells.ascii {s : String} {bs : List UInt8} (h : Spells s bs) : ∀ c ∈ s.toList, c.toNat < 0x80 := by
  obtain ⟨mark, hm, digits, hs, hd⟩ := h
  intro c hc
  rw [hs] at hc
  rcases List.mem_append.1 hc with hc | hc
  · have hmarks : ∀ mark ∈ [] :: hexMarks, ∀ c ∈ mark, c.toNat < 0x80 := by simp [hexMarks]
    exact hmarks mark hm c hc
  · exact ascii_of_lowerAscii (mem_hexAlphabet_of_mem_hexChars (hd ▸ List.mem_map_of_mem hc))

/-- In small letters, and with the mark in front if it is not there, the text is the one that is written. -/
theorem Spells.writeHex_eq {s : String} {bs : List UInt8} (h : Spells s bs) :
    writeHex bs = if IsMarked s then lowercase s else "0x" ++ lowercase s := by
  have hlower := lowercase_of_ascii h.ascii
  obtain ⟨mark, hm, digits, hs, hd⟩ := h
  rw [hs, List.map_append, hd] at hlower
  rcases List.mem_cons.1 hm with rfl | hm
  · have hno : ¬ IsMarked s := by
      rw [IsMarked, hs]
      exact take_not_mem_hexMarks hd
    rw [if_neg hno, hlower, ← String.toList_inj, String.toList_append]
    simp [writeHex]
  · obtain ⟨htake, -, hlow⟩ := take_two_of_mem_hexMarks hm digits
    have hyes : IsMarked s := by
      rw [IsMarked, hs, htake]
      exact hm
    rw [if_pos hyes, hlower, hlow]
    rfl

/-! ## Quantities -/

/-- The number that a digit makes of the number in front of it. -/
def hexAfter? (n : Nat) (c : Char) : Option Nat := (hexValue? c).map fun d => 16 * n + d

/-- The number of a quantity. It has a digit at least, and of several digits the first is no zero. -/
def quantity? (s : String) : Option Nat :=
  match s.toList with
  | ['0', 'x', c] => hexAfter? 0 c
  | '0' :: 'x' :: c :: cs => if c = '0' then none else (c :: cs).foldlM hexAfter? 0
  | _ => none

theorem hexValue?_digitChar {d : Nat} (h : d < 16) : hexValue? d.digitChar = some d := by
  decide +revert

theorem hexAfter?_digitChar (n : Nat) {d : Nat} (h : d < 16) : hexAfter? n d.digitChar = some (16 * n + d) := by
  rw [hexAfter?, hexValue?_digitChar h, Option.map_some]

/-- A digit behind the others. -/
theorem toDigits_snoc {n d : Nat} (hn : 0 < n) (hd : d < 16) :
    Nat.toDigits 16 (16 * n + d) = Nat.toDigits 16 n ++ [d.digitChar] := by
  rw [← Nat.toDigits_append_toDigits (by decide) hn hd, Nat.toDigits_of_lt_base hd]

theorem foldlM_toDigits (n : Nat) : (Nat.toDigits 16 n).foldlM hexAfter? 0 = some n := by
  induction n using Nat.base_induction 16 (by decide) with
  | single d hd =>
    rw [Nat.toDigits_of_lt_base hd, List.foldlM_cons, hexAfter?_digitChar 0 hd]
    simp
  | digit n d hd hn ih =>
    rw [toDigits_snoc hn hd, List.foldlM_append, ih]
    simp [hexAfter?_digitChar n hd]

/-- A number other than zero does not start with one. -/
theorem head?_toDigits {n : Nat} (hn : 0 < n) : (Nat.toDigits 16 n).head? ≠ some '0' := by
  induction n using Nat.base_induction 16 (by decide) with
  | single d hd =>
    rw [Nat.toDigits_of_lt_base hd]
    decide +revert
  | digit n d hd h ih =>
    obtain ⟨c, cs, hcs⟩ := List.exists_cons_of_ne_nil (Nat.toDigits_ne_nil (n := n) (b := 16))
    rw [toDigits_snoc h hd, hcs, List.cons_append, List.head?_cons]
    simpa only [hcs, List.head?_cons] using ih h

theorem quantity?_writeQuantity (n : Nat) : quantity? (writeQuantity n) = some n := by
  rcases Nat.eq_zero_or_pos n with rfl | hn
  · decide
  · have hread := foldlM_toDigits n
    have hhead := head?_toDigits hn
    obtain ⟨c, cs, hcs⟩ := List.exists_cons_of_ne_nil (Nat.toDigits_ne_nil (n := n) (b := 16))
    rw [hcs] at hread hhead
    have hc : c ≠ '0' := fun h => hhead (congrArg some h)
    rw [quantity?, writeQuantity, String.toList_ofList, hcs]
    cases cs with
    | nil => simpa using hread
    | cons d ds => simpa only [if_neg hc] using hread

end DonationLedger.Text
