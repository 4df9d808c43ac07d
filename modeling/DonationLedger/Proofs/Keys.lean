import DonationLedger.Proofs.Matching
import DonationLedger.Proofs.Text.Hex

/-!
# Spellings are keys

Chains speak of bytes, and the ledger knows addresses and hashes by text. A text is read as the value whose digits it
has, in whatever case and with or without the mark (`parse?_eq_some_iff`), and every such text is stored, and looked
for, under one spelling, from which the value is read again. Users are looked for in lower case, which turns any
spelling with the mark into that one. A spelling without the mark has to be read first: looked for as it stands, it is
nobody's address (`findUser_unmarked`).
-/

namespace DonationLedger

namespace FixedBytes

variable {n : Nat} {s : String} {v : FixedBytes n}

theorem ofBytes?_eq_some_iff {bs : List UInt8} : ofBytes? n bs = some v ↔ bs = v.bytes := by
  constructor
  · intro h
    unfold ofBytes? at h
    split at h <;> cases h
    rfl
  · rintro rfl
    exact ofBytes?_bytes v

/-- A text is read as the value that it spells. -/
theorem parse?_eq_some_iff : parse? n s = some v ↔ Text.Spells s v.bytes := by
  rw [parse?, Option.bind_eq_some_iff]
  constructor
  · rintro ⟨bs, hbs, h⟩
    obtain rfl := ofBytes?_eq_some_iff.1 h
    exact Text.readHex?_eq_some_iff.1 hbs
  · exact fun h => ⟨v.bytes, Text.readHex?_eq_some_iff.2 h, ofBytes?_bytes v⟩

/-- Two digits for each byte are read, behind a mark or without one, and nothing else is. -/
theorem exists_parse?_iff : (∃ v, parse? n s = some v) ↔ ∃ mark ∈ [] :: Text.hexMarks, ∃ digits,
    s.toList = mark ++ digits ∧ digits.length = 2 * n ∧ ∀ c ∈ digits, Text.lowerAscii c ∈ Text.hexAlphabet := by
  rw [← Text.exists_spells_iff]
  constructor
  · rintro ⟨v, h⟩
    exact ⟨v.bytes, v.length_eq, parse?_eq_some_iff.1 h⟩
  · rintro ⟨bs, hl, h⟩
    exact ⟨⟨bs, hl⟩, parse?_eq_some_iff.2 h⟩

theorem spelling_injective : Function.Injective (spelling : FixedBytes n → String) := by
  intro v w h
  have hread := parse?_spelling v
  rw [h, parse?_spelling] at hread
  exact (Option.some.inj hread).symm

theorem isMarked_spelling (v : FixedBytes n) : v.spelling.toList.take 2 = ['0', 'x'] := by
  rw [spelling, Text.writeHex, String.toList_ofList]
  rfl

theorem length_spelling (v : FixedBytes n) : v.spelling.length = 2 + 2 * n := by
  rw [spelling, Text.writeHex, ← String.length_toList, String.toList_ofList, List.length_cons, List.length_cons,
    Text.length_hexChars, v.length_eq]
  omega

section
variable (h : parse? n s = some v)
include h

/-- The spelling of what is read is the text in small letters, with the mark in front. -/
theorem spelling_of_parse? :
    v.spelling = if Text.IsMarked s then Text.lowercase s else "0x" ++ Text.lowercase s :=
  (parse?_eq_some_iff.1 h).writeHex_eq

/-- Of all texts that are read as a value, the spelling is the one in small letters with a small mark. -/
theorem eq_spelling_iff : s = v.spelling ↔ s.toList.take 2 = ['0', 'x'] ∧ Text.lowercase s = s := by
  constructor
  · rintro rfl
    exact ⟨isMarked_spelling v, lowercase_spelling v⟩
  · rintro ⟨hm, hl⟩
    have hmarked : Text.IsMarked s := by
      rw [Text.IsMarked, hm]
      decide
    rw [spelling_of_parse? h, if_pos hmarked, hl]

theorem lowercase_of_marked (hm : Text.IsMarked s) : Text.lowercase s = v.spelling := by
  rw [spelling_of_parse? h, if_pos hm]

/-- Without the mark a text is too short for a spelling. -/
theorem lowercase_ne_spelling (hm : ¬ Text.IsMarked s) (w : FixedBytes n) : Text.lowercase s ≠ w.spelling := by
  intro he
  have hlength := congrArg String.length (spelling_of_parse? h)
  rw [if_neg hm, he, String.length_append, length_spelling, length_spelling] at hlength
  exact absurd hlength (by simp)

end

end FixedBytes

section
variable {x x' : Session} {t : String} {v w : Address} {id : Option Id}

/-- Only the address that was added has another user now. -/
theorem Work.yields_findUser_addUser : (Work.findUser w.spelling).Yields (x.addUser v).2 id x' ↔
    id = (if w = v then some (x.addUser v).1 else x.ledger.user? w.spelling) ∧ x' = (x.addUser v).2 := by
  have huser : (x.addUser v).2.ledger.user? w.spelling =
      if w.spelling = v.spelling then some (x.addUser v).1 else x.ledger.user? w.spelling :=
    Ledger.user?_addUser x.ledger v.spelling _ w.spelling
  simp only [FixedBytes.spelling_injective.eq_iff] at huser
  rw [Work.yields_findUser, FixedBytes.lowercase_spelling, huser]

theorem Work.findUser_marked (h : FixedBytes.parse? 20 t = some w) (hm : Text.IsMarked t) :
    Work.findUser t = Work.findUser w.spelling := by
  unfold Work.findUser
  rw [FixedBytes.lowercase_of_marked h hm, FixedBytes.lowercase_spelling]

theorem Session.Filed.findUser_unmarked (hf : x.Filed) (h : FixedBytes.parse? 20 t = some w) (hm : ¬ Text.IsMarked t) :
    (Work.findUser t).Yields x none x := by
  refine Work.yields_findUser.2 ⟨(Option.eq_none_iff_forall_ne_some.2 fun id hu => ?_).symm, rfl⟩
  obtain ⟨v, hv⟩ := hf.spelled _ (List.mem_map_of_mem (f := Prod.fst) (Ledger.user?_mem hu))
  exact FixedBytes.lowercase_ne_spelling h hm v hv

/-- The user of an address is the one whose address on file is read as that address. -/
theorem Session.Filed.yields_findUser_iff (hf : x.Filed) {id : Id} :
    (Work.findUser w.spelling).Yields x (some id) x ↔ (x.ledger.address? id).bind (FixedBytes.parse? 20) = some w := by
  rw [Work.yields_findUser, ← hf.user_iff, and_iff_left rfl, eq_comm]

end

/-- A row is found under the hash that it was stored with, and that hash is read from it. -/
theorem Work.byHash?_of_created {x x' : Session} {d : BlockchainDraft Id} {b : BlockchainTransaction} {v : Hash}
    (hd : d.hash = v.spelling) (hy : (Work.createBlockchainTransaction d).Yields x (some b) x') (w : Hash) :
    FixedBytes.parse? 32 b.hash = some v ∧ x'.ledger.byHash? d.chain w.spelling =
      if w = v then some b else x.ledger.byHash? d.chain w.spelling := by
  rcases Work.yields_createBlockchainTransaction.1 hy with ⟨-, ⟨-, h, -⟩ | ⟨hnew, c, rfl, h, rfl⟩⟩
  · cases h
  · obtain rfl := Option.some.inj h
    refine ⟨?_, ?_⟩
    · rw [BlockchainDraft.row, hd, FixedBytes.parse?_spelling]
    · rw [Session.ledger_write, Session.ledger_issue, Ledger.byHash?_addBlockchainTransaction _ _ _ _ hnew]
      simp only [BlockchainDraft.row, hd, true_and, FixedBytes.spelling_injective.eq_iff]

/-- The spelling of a value is read as that value, and no two values share one. What is read is two digits for each
byte, in either case, with or without a mark; its value is spelled as the text is in small letters, the mark put in
front where it is missing, and no other text in small letters with a small mark has that value. So addresses and
hashes may be given in any spelling: a user who was added is found, and a row that was stored, under whatever spells
the same value and under nothing else, and the value is read from what is on file. A look-up of users takes the text
itself too, as long as it has a mark; without the mark it finds nobody. -/
theorem spelling_is_key :
    (∀ (n : Nat) (v : FixedBytes n), FixedBytes.parse? n v.spelling = some v) ∧
    (∀ n : Nat, Function.Injective (FixedBytes.spelling : FixedBytes n → String)) ∧
    (∀ (n : Nat) (s : String), (∃ v, FixedBytes.parse? n s = some v) ↔ ∃ mark ∈ [] :: Text.hexMarks, ∃ digits,
      s.toList = mark ++ digits ∧ digits.length = 2 * n ∧ ∀ c ∈ digits, Text.lowerAscii c ∈ Text.hexAlphabet) ∧
    (∀ (n : Nat) (s : String) (v : FixedBytes n), FixedBytes.parse? n s = some v →
      v.spelling = (if Text.IsMarked s then Text.lowercase s else "0x" ++ Text.lowercase s) ∧
      (s = v.spelling ↔ s.toList.take 2 = ['0', 'x'] ∧ Text.lowercase s = s)) ∧
    (∀ (x : Session) (s t : String) (v w : Address), FixedBytes.parse? 20 s = some v → FixedBytes.parse? 20 t = some w →
      (Work.findUser w.spelling).Yields (x.addUser v).2
        (if w = v then some (x.addUser v).1 else x.ledger.user? w.spelling) (x.addUser v).2 ∧
      (x.Filed → ∀ id, (Work.findUser w.spelling).Yields x (some id) x ↔
        (x.ledger.address? id).bind (FixedBytes.parse? 20) = some w) ∧
      (Text.IsMarked t → Work.findUser t = Work.findUser w.spelling) ∧
      (¬ Text.IsMarked t → x.Filed → (Work.findUser t).Yields x none x)) ∧
    (∀ (x x' : Session) (d : BlockchainDraft Id) (b : BlockchainTransaction) (s t : String) (v w : Hash),
      FixedBytes.parse? 32 s = some v → FixedBytes.parse? 32 t = some w → d.hash = v.spelling →
      (Work.createBlockchainTransaction d).Yields x (some b) x' →
      FixedBytes.parse? 32 b.hash = some v ∧ x'.ledger.byHash? d.chain w.spelling =
        if w = v then some b else x.ledger.byHash? d.chain w.spelling) := by
  refine ⟨fun n => FixedBytes.parse?_spelling, fun n => FixedBytes.spelling_injective, fun n s =>
    FixedBytes.exists_parse?_iff, fun n s v h => ⟨FixedBytes.spelling_of_parse? h, FixedBytes.eq_spelling_iff h⟩,
    fun x s t v w hs ht => ⟨?_, ?_, ?_, ?_⟩, fun x x' d b s t v w hs ht hd hy => Work.byHash?_of_created hd hy w⟩
  · exact Work.yields_findUser_addUser.2 ⟨rfl, rfl⟩
  · exact fun hf id => hf.yields_findUser_iff
  · exact Work.findUser_marked ht
  · exact fun hm hf => hf.findUser_unmarked ht hm

namespace Donation

/-- An address whose digits are letters. -/
def lettered : Address := address 0xAB

/-- Its user is on file. -/
def letteredFiled : Session := (Session.start.addUser lettered).2

end Donation

/-- In capital letters the address is found. -/
theorem capitals_found :
    FixedBytes.parse? 20 "0XABABABABABABABABABABABABABABABABABABABAB" = some Donation.lettered ∧
    Text.IsMarked "0XABABABABABABABABABABABABABABABABABABABAB" ∧
    (Work.findUser "0XABABABABABABABABABABABABABABABABABABABAB").Yields Donation.letteredFiled
      (some (.issued .user 1)) Donation.letteredFiled := by
  have hread : FixedBytes.parse? 20 "0XABABABABABABABABABABABABABABABABABABABAB" = some Donation.lettered := by
    decide +kernel
  have hmarked : Text.IsMarked "0XABABABABABABABABABABABABABABABABABABABAB" := by decide +kernel
  obtain ⟨-, -, -, -, husers, -⟩ := spelling_is_key
  obtain ⟨hfound, -, hsame, -⟩ := husers Session.start _ _ _ _ hread hread
  refine ⟨hread, hmarked, ?_⟩
  rw [hsame hmarked]
  exact hfound

/-- Without the mark the text is read as the same address, and the user is not found. -/
theorem unmarked_not_found :
    FixedBytes.parse? 20 "ABABABABABABABABABABABABABABABABABABABAB" =
      FixedBytes.parse? 20 "0xABABABABABABABABABABABABABABABABABABABAB" ∧
    FixedBytes.parse? 20 "ABABABABABABABABABABABABABABABABABABABAB" = some Donation.lettered ∧
    (Donation.letteredFiled.commit (Work.findUser "0xABABABABABABABABABABABABABABABABABABABAB")).1.toOption =
      some (some (.issued .user 1)) ∧
    (Donation.letteredFiled.commit (Work.findUser "ABABABABABABABABABABABABABABABABABABABAB")).1.toOption =
      some none := by
  refine ⟨?_, ?_, ?_, ?_⟩
  · decide +kernel
  · decide +kernel
  · decide +kernel
  · decide +kernel

end DonationLedger
