import DonationLedger.Text.Utf8

/-!
# UTF-8 reads back

The bytes of a text are those that the standard prescribes (`utf8Bytes_toList`), and reading them with replacement
gives the text again (`utf8Lossy_utf8Bytes`): no character's bytes are ever taken for a faulty stretch. Reading goes
by the lead byte, so there is one lemma for each length of a character.
-/

namespace DonationLedger.Text

theorem toNat_toUInt8 {n : Nat} (h : n < 256) : n.toUInt8.toNat = n := UInt8.toNat_ofNat_of_lt' h

/-- A character is no half of a surrogate pair. -/
theorem scalar_toNat (c : Char) : c.toNat < 0xD800 ∨ 0xDFFF < c.toNat ∧ c.toNat < 0x110000 := c.valid

/-- The bytes of a character are the standard ones. -/
theorem charBytes_eq (c : Char) : charBytes c = String.utf8EncodeChar c := by
  have hc : c.toNat < 0x110000 := by
    rcases scalar_toNat c with h | h <;> omega
  unfold charBytes String.utf8EncodeChar
  rw [show c.val.toNat = c.toNat from rfl]
  generalize c.toNat = n at hc
  -- The two differ in strict and weak bounds, and in the order and the reduction of the sums.
  simp only [← Nat.lt_succ_iff, Nat.succ_eq_add_one, Nat.reduceAdd, Nat.add_comm 0x80]
  split
  · rfl
  split
  · rw [show 0xC0 + n / 64 = n / 64 % 32 + 192 by omega]
  split
  · rw [show 0xE0 + n / 4096 = n / 4096 % 16 + 224 by omega]
  · rw [show 0xF0 + n / 262144 = n / 262144 % 8 + 240 by omega]

theorem utf8Bytes_toList (s : String) : utf8Bytes s.toList = s.toUTF8.data.toList := by
  have h : utf8Bytes s.toList = s.toList.flatMap String.utf8EncodeChar := by
    rw [utf8Bytes, funext charBytes_eq]
  rw [h, String.toUTF8, ← String.utf8Encode_toList, List.utf8Encode, List.data_toByteArray]

/-! ## One character -/

/-- A byte that follows the lead holds six bits. -/
theorem toNat_following (n : Nat) : (0x80 + n % 64).toUInt8.toNat = 0x80 + n % 64 := toNat_toUInt8 (by omega)

theorem within_following (lo hi : UInt8) (n : Nat) :
    (decide (lo ≤ (0x80 + n % 64).toUInt8) && decide ((0x80 + n % 64).toUInt8 ≤ hi)) = true ↔
      lo.toNat ≤ 0x80 + n % 64 ∧ 0x80 + n % 64 ≤ hi.toNat := by
  rw [Bool.and_eq_true, decide_eq_true_eq, decide_eq_true_eq, UInt8.le_iff_toNat_le, UInt8.le_iff_toNat_le,
    toNat_following]

theorem isContinuation_following (n : Nat) : isContinuation (0x80 + n % 64).toUInt8 = true :=
  (within_following 0x80 0xBF n).2 ⟨Nat.le_add_right _ _, show 0x80 + n % 64 ≤ 0xBF by omega⟩

section
variable {n : Nat} (rest : List UInt8)

/-- Neither the overlong forms nor the surrogates are among the numbers of three bytes. -/
theorem followsThree_following (h : 0x800 ≤ n) (h' : n < 0x10000) (hs : n < 0xD800 ∨ 0xDFFF < n) :
    followsThree (0xE0 + n / 4096).toUInt8 (0x80 + n / 64 % 64).toUInt8 = true := by
  have hl : (0xE0 + n / 4096).toUInt8.toNat = 0xE0 + n / 4096 := toNat_toUInt8 (by omega)
  unfold followsThree
  split
  · next he =>
    have hlead : 0xE0 + n / 4096 = 0xE0 := hl ▸ congrArg UInt8.toNat (eq_of_beq he)
    exact (within_following 0xA0 0xBF (n / 64)).2 ⟨show 0xA0 ≤ _ by omega, show _ ≤ 0xBF by omega⟩
  split
  · next he =>
    have hlead : 0xE0 + n / 4096 = 0xED := hl ▸ congrArg UInt8.toNat (eq_of_beq he)
    exact (within_following 0x80 0x9F (n / 64)).2 ⟨show 0x80 ≤ _ by omega, show _ ≤ 0x9F by omega⟩
  · exact isContinuation_following (n / 64)

/-- Neither the overlong forms nor what lies beyond the last character are among the numbers of four bytes. -/
theorem followsFour_following (h : 0x10000 ≤ n) (h' : n < 0x110000) :
    followsFour (0xF0 + n / 262144).toUInt8 (0x80 + n / 4096 % 64).toUInt8 = true := by
  have hl : (0xF0 + n / 262144).toUInt8.toNat = 0xF0 + n / 262144 := toNat_toUInt8 (by omega)
  unfold followsFour
  split
  · next he =>
    have hlead : 0xF0 + n / 262144 = 0xF0 := hl ▸ congrArg UInt8.toNat (eq_of_beq he)
    exact (within_following 0x90 0xBF (n / 4096)).2 ⟨show 0x90 ≤ _ by omega, show _ ≤ 0xBF by omega⟩
  split
  · next he =>
    have hlead : 0xF0 + n / 262144 = 0xF4 := hl ▸ congrArg UInt8.toNat (eq_of_beq he)
    exact (within_following 0x80 0x8F (n / 4096)).2 ⟨show 0x80 ≤ _ by omega, show _ ≤ 0x8F by omega⟩
  · exact isContinuation_following (n / 4096)

theorem utf8Step_one (h : n < 0x80) : utf8Step n.toUInt8 rest = .character (Char.ofNat n) 1 := by
  have hl : n.toUInt8.toNat = n := toNat_toUInt8 (by omega)
  unfold utf8Step
  simp only [UInt8.lt_iff_toNat_lt, hl, UInt8.reduceToNat, h, if_true]

theorem utf8Step_two (h : 0x80 ≤ n) (h' : n < 0x800) :
    utf8Step (0xC0 + n / 64).toUInt8 ((0x80 + n % 64).toUInt8 :: rest) = .character (Char.ofNat n) 2 := by
  have hl : (0xC0 + n / 64).toUInt8.toNat = 0xC0 + n / 64 := toNat_toUInt8 (by omega)
  have hn : (0xC0 + n / 64 - 0xC0) * 64 + (0x80 + n % 64 - 0x80) = n := by omega
  unfold utf8Step
  simp only [UInt8.lt_iff_toNat_lt, UInt8.le_iff_toNat_le, Bool.and_eq_true, decide_eq_true_eq, UInt8.reduceToNat,
    hl, toNat_following, hn, isContinuation_following, if_true]
  rw [if_neg (by omega), if_pos (by omega)]

theorem utf8Step_three (h : 0x800 ≤ n) (h' : n < 0x10000) (hs : n < 0xD800 ∨ 0xDFFF < n) :
    utf8Step (0xE0 + n / 4096).toUInt8
      ((0x80 + n / 64 % 64).toUInt8 :: (0x80 + n % 64).toUInt8 :: rest) = .character (Char.ofNat n) 3 := by
  have hl : (0xE0 + n / 4096).toUInt8.toNat = 0xE0 + n / 4096 := toNat_toUInt8 (by omega)
  have hn : (0xE0 + n / 4096 - 0xE0) * 4096 + (0x80 + n / 64 % 64 - 0x80) * 64 + (0x80 + n % 64 - 0x80) = n := by
    omega
  unfold utf8Step
  simp only [UInt8.lt_iff_toNat_lt, UInt8.le_iff_toNat_le, Bool.and_eq_true, decide_eq_true_eq, UInt8.reduceToNat,
    hl, toNat_following, hn, isContinuation_following, followsThree_following h h' hs, if_true]
  rw [if_neg (by omega), if_neg (by omega), if_pos (by omega)]

theorem utf8Step_four (h : 0x10000 ≤ n) (h' : n < 0x110000) :
    utf8Step (0xF0 + n / 262144).toUInt8 ((0x80 + n / 4096 % 64).toUInt8 :: (0x80 + n / 64 % 64).toUInt8 ::
      (0x80 + n % 64).toUInt8 :: rest) = .character (Char.ofNat n) 4 := by
  have hl : (0xF0 + n / 262144).toUInt8.toNat = 0xF0 + n / 262144 := toNat_toUInt8 (by omega)
  have hn : (0xF0 + n / 262144 - 0xF0) * 262144 + (0x80 + n / 4096 % 64 - 0x80) * 4096 +
      (0x80 + n / 64 % 64 - 0x80) * 64 + (0x80 + n % 64 - 0x80) = n := by omega
  unfold utf8Step
  simp only [UInt8.lt_iff_toNat_lt, UInt8.le_iff_toNat_le, Bool.and_eq_true, decide_eq_true_eq, UInt8.reduceToNat,
    hl, toNat_following, hn, isContinuation_following, followsFour_following h h', if_true]
  rw [if_neg (by omega), if_neg (by omega), if_neg (by omega), if_pos (by omega)]

/-- Whatever follows, the bytes of a character are read as this character. -/
theorem utf8Step_charBytes (c : Char) : ∃ lead tail, charBytes c = lead :: tail ∧
    utf8Step lead (tail ++ rest) = .character c (tail.length + 1) := by
  have hs := scalar_toNat c
  have hc : c = Char.ofNat c.toNat := (Char.ofNat_toNat c).symm
  unfold charBytes
  generalize c.toNat = n at hs hc
  subst hc
  show ∃ lead tail, (if n < 0x80 then _ else _) = _ ∧ _
  split
  · next h => exact ⟨_, _, rfl, utf8Step_one rest h⟩
  split
  · next h h' => exact ⟨_, _, rfl, utf8Step_two rest (by omega) h'⟩
  split
  · next h h' => exact ⟨_, _, rfl, utf8Step_three rest (by omega) h' (by omega)⟩
  · next h => exact ⟨_, _, rfl, utf8Step_four rest (by omega) (by omega)⟩

end

/-! ## Whole texts -/

theorem lossyFrom_length (tail rest : List UInt8) : lossyFrom tail.length (tail ++ rest) = lossyFrom 0 rest := by
  induction tail with
  | nil => rfl
  | cons b tail ih => exact ih

theorem lossyFrom_utf8Bytes (cs : List Char) : lossyFrom 0 (utf8Bytes cs) = cs := by
  induction cs with
  | nil => rfl
  | cons c cs ih =>
    obtain ⟨lead, tail, hb, hs⟩ := utf8Step_charBytes (utf8Bytes cs) c
    have hcons : utf8Bytes (c :: cs) = lead :: (tail ++ utf8Bytes cs) := by
      rw [utf8Bytes, List.flatMap_cons, hb]
      rfl
    rw [hcons, lossyFrom, hs]
    show c :: lossyFrom tail.length (tail ++ utf8Bytes cs) = c :: cs
    rw [lossyFrom_length, ih]

/-- Reading with replacement replaces nothing in the bytes of a text. -/
theorem utf8Lossy_utf8Bytes (s : String) : utf8Lossy (utf8Bytes s.toList) = s := by
  rw [utf8Lossy, lossyFrom_utf8Bytes, String.ofList_toList]

end DonationLedger.Text
