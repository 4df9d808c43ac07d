import DonationLedger.Proofs.Decimal.Value
import DonationLedger.Proofs.System.Run
import DonationLedger.Proofs.Text.Utf8
import Mathlib.Data.List.Forall2

/-!
# Decoding undoes encoding

What the contract announces is written into a log: the addresses into topics, each behind twelve zeros, the text and
the amount into the data. Decoding gives it back, whatever stands in the places that it does not look at: in front of
the addresses, and behind the text (`Emission.Written.ofLog`). As each shape has a number of topics of its own, a log
of one shape is never taken for the other.
-/

namespace DonationLedger

/-! ## Words -/

theorem natOfBytes_concat (bs : List UInt8) (b : UInt8) : natOfBytes (bs ++ [b]) = natOfBytes bs * 256 + b.toNat := by
  simp only [natOfBytes, List.foldl_append, List.foldl_cons, List.foldl_nil]

namespace Abi

theorem natOfBytes_bigEndian {k n : Nat} (h : n < 256 ^ k) : natOfBytes (bigEndian k n) = n := by
  induction k generalizing n with
  | zero =>
    obtain rfl : n = 0 := by simpa using h
    rfl
  | succ k ih =>
    have hhigh : n / 256 < 256 ^ k := Nat.div_lt_of_lt_mul (by rwa [Nat.pow_succ, Nat.mul_comm] at h)
    rw [bigEndian, natOfBytes_concat, ih hhigh, Text.toNat_toUInt8 (Nat.mod_lt n (by decide))]
    exact Nat.div_add_mod' n 256

/-- A word is read wherever it stands. -/
theorem wordAt?_word {n offset : Nat} (h : n < 2 ^ 256) {before : List UInt8} (hb : before.length = offset)
    (rest : List UInt8) : wordAt? (before ++ (word n ++ rest)) offset = some n := by
  subst hb
  have hbytes : ((before ++ (word n ++ rest)).drop before.length).take wordSize = word n := by
    rw [List.drop_left, List.take_left' (length_word n)]
  simp only [wordAt?, hbytes, length_word, if_true]
  rw [word, natOfBytes_bigEndian h]

/-- The data up to the end of the text. -/
def unfilled (text : List UInt8) (amount : Nat) : List UInt8 :=
  word (2 * wordSize) ++ word amount ++ word text.length ++ text

theorem encode_eq (text : List UInt8) (amount : Nat) :
    encode text amount = unfilled text amount ++ filling text.length := rfl

/-- Nothing behind the text is looked at. -/
theorem decode?_unfilled {text : List UInt8} {amount : Nat} (ht : text.length < 2 ^ 256) (ha : amount < 2 ^ 256)
    (rest : List UInt8) : decode? (unfilled text amount ++ rest) = some (text, amount) := by
  have h₀ : unfilled text amount ++ rest =
      [] ++ (word (2 * wordSize) ++ (word amount ++ word text.length ++ text ++ rest)) := by
    simp only [unfilled, List.append_assoc, List.nil_append]
  have h₁ : unfilled text amount ++ rest =
      word (2 * wordSize) ++ (word amount ++ (word text.length ++ text ++ rest)) := by
    simp only [unfilled, List.append_assoc]
  have h₂ : unfilled text amount ++ rest =
      (word (2 * wordSize) ++ word amount) ++ (word text.length ++ (text ++ rest)) := by
    simp only [unfilled, List.append_assoc]
  have h₃ : unfilled text amount ++ rest =
      (word (2 * wordSize) ++ word amount ++ word text.length) ++ (text ++ rest) := by
    simp only [unfilled, List.append_assoc]
  have hoffset : wordAt? (unfilled text amount ++ rest) 0 = some (2 * wordSize) := by
    rw [h₀]
    exact wordAt?_word (by decide) rfl _
  have hamount : wordAt? (unfilled text amount ++ rest) wordSize = some amount := by
    rw [h₁]
    exact wordAt?_word ha (length_word _) _
  have hsize : wordAt? (unfilled text amount ++ rest) (2 * wordSize) = some text.length := by
    rw [h₂]
    exact wordAt?_word ht (by rw [List.length_append, length_word, length_word, Nat.two_mul]) _
  have htext : ((unfilled text amount ++ rest).drop (2 * wordSize + wordSize)).take text.length = text := by
    rw [h₃, List.drop_left' (by simp only [List.length_append, length_word]; rfl), List.take_left]
  simp only [decode?, hoffset, hamount, hsize, htext, if_true]

end Abi

/-! ## Logs of the contract -/

theorem EventShape.topicCount_injective : Function.Injective EventShape.topicCount := by
  intro s s' h
  revert h
  cases s <;> cases s' <;> decide

/-- An address as a topic, with bytes in front that make up a word. -/
def Address.topic (a : Address) (front : FixedBytes 12) : Hash :=
  ⟨front.bytes ++ a.bytes, by rw [List.length_append, front.length_eq, a.length_eq]⟩

theorem Address.address_topic (a : Address) (front : FixedBytes 12) : (a.topic front).address = a := by
  have h : (front.bytes ++ a.bytes).drop 12 = a.bytes := List.drop_left' front.length_eq
  unfold topic Hash.address
  simp only [h]

/-- What the contract writes a log about. The amount and the length of the text are words. -/
structure Emission where
  curator : Address
  creator : Address
  token : Option Address
  uri : String
  amount : Nat
  size_lt : uri.toUTF8.size < 2 ^ 256
  amount_lt : amount < 2 ^ 256

namespace Emission

def shape (e : Emission) : EventShape := if e.token.isSome then .token else .coin

/-- The addresses that stand in topics. -/
def parties (e : Emission) : List Address := e.curator :: e.creator :: e.token.toList

def text (e : Emission) : List UInt8 := e.uri.toUTF8.data.toList

/-- The log that the contract writes, in its place on the chain. -/
def log (e : Emission) (place : Log) : Log :=
  { place with
    topics := e.shape.topic :: e.parties.map fun a => a.topic (FixedBytes.zero 12)
    data := Abi.encode e.text e.amount }

/-- The log says the same up to the bytes that stand in front of the addresses and behind the text. -/
structure Written (e : Emission) (log : Log) : Prop where
  topics : ∃ ts, log.topics = e.shape.topic :: ts ∧
    List.Forall₂ (fun a t => ∃ front, t = Address.topic a front) e.parties ts
  data : ∃ rest, log.data = Abi.unfilled e.text e.amount ++ rest

/-- The event of an announcement, with the amount as it is kept. -/
def event (e : Emission) (amount : Decimal) : Event := ⟨e.curator, e.creator, e.token, e.uri, amount⟩

variable (e : Emission)

theorem length_parties : e.parties.length + 1 = e.shape.topicCount := by
  unfold parties shape
  cases e.token <;> rfl

theorem utf8Lossy_text : Text.utf8Lossy e.text = e.uri := by
  rw [text, ← Text.utf8Bytes_toList, Text.utf8Lossy_utf8Bytes]

theorem length_text_lt : e.text.length < 2 ^ 256 := e.size_lt

theorem written_log (place : Log) : e.Written (e.log place) where
  topics := ⟨_, rfl, List.forall₂_map_right_iff.2 (List.forall₂_same.2 fun _ _ => ⟨_, rfl⟩)⟩
  data := ⟨Abi.filling e.text.length, Abi.encode_eq e.text e.amount⟩

theorem assemble_topics {ts : List Hash}
    (h : List.Forall₂ (fun a t => ∃ front, t = Address.topic a front) e.parties ts) (amount : Decimal) :
    Event.assemble e.shape ts e.text amount = some (e.event amount) := by
  have huri := e.utf8Lossy_text
  unfold parties at h
  unfold shape event
  cases he : e.token with
  | none =>
    rw [he] at h
    obtain _ | ⟨⟨f₁, rfl⟩, _ | ⟨⟨f₂, rfl⟩, _ | _⟩⟩ := h
    simp only [Event.assemble, Option.isSome_none, Bool.false_eq_true, if_false, Address.address_topic, huri]
  | some token =>
    rw [he] at h
    obtain _ | ⟨⟨f₁, rfl⟩, _ | ⟨⟨f₂, rfl⟩, _ | ⟨⟨f₃, rfl⟩, _ | _⟩⟩⟩ := h
    simp only [Event.assemble, Option.isSome_some, if_true, Address.address_topic, huri]

end Emission

namespace Event

section
variable {log : Log} {shape : EventShape} {ts : List Hash}

/-- The shape is told by the first topic, and then has to have the right number of topics. -/
theorem ofLog_of_length_ne (ht : log.topics = shape.topic :: ts) (hn : ts.length + 1 ≠ shape.topicCount) :
    ofLog log = .error (.topicCount (ts.length + 1)) := by
  simp only [ofLog, ht, EventShape.ofTopic?_topic, List.length_cons, ne_eq, hn, not_false_eq_true, if_true]

variable {text : List UInt8} {units : Nat}

theorem ofLog_of_decoded (ht : log.topics = shape.topic :: ts) (hn : ts.length + 1 = shape.topicCount)
    (hd : Abi.decode? log.data = some (text, units)) {amount : Decimal} (ha : Decimal.ofNat? units = some amount)
    {e : Event} (he : assemble shape ts text amount = some e) : ofLog log = .ok e := by
  simp only [ofLog, ht, EventShape.ofTopic?_topic, List.length_cons, ne_eq, hn, not_true_eq_false, if_false, hd, ha, he]

theorem ofLog_of_overflow (ht : log.topics = shape.topic :: ts) (hn : ts.length + 1 = shape.topicCount)
    (hd : Abi.decode? log.data = some (text, units)) (ha : Decimal.ofNat? units = none) :
    ofLog log = .error .amountOverflow := by
  simp only [ofLog, ht, EventShape.ofTopic?_topic, List.length_cons, ne_eq, hn, not_true_eq_false, if_false, hd, ha]

end

end Event

namespace Emission

section
variable {e : Emission} {log : Log} (h : e.Written log)
include h

/-- Whatever stands in the places that are not looked at, all that is written is found. -/
theorem Written.parts : ∃ ts, log.topics = e.shape.topic :: ts ∧ ts.length + 1 = e.shape.topicCount ∧
    Abi.decode? log.data = some (e.text, e.amount) ∧
    ∀ amount, Event.assemble e.shape ts e.text amount = some (e.event amount) := by
  obtain ⟨ts, ht, hparties⟩ := h.topics
  obtain ⟨rest, hd⟩ := h.data
  refine ⟨ts, ht, ?_, ?_, e.assemble_topics hparties⟩
  · rw [← hparties.length_eq, e.length_parties]
  · rw [hd, Abi.decode?_unfilled e.length_text_lt e.amount_lt]

theorem Written.ofLog (ha : e.amount < 2 ^ 96) : Event.ofLog log = .ok (e.event (.whole e.amount ha)) := by
  obtain ⟨ts, ht, hn, hd, he⟩ := h.parts
  exact Event.ofLog_of_decoded ht hn hd (Decimal.ofNat?_whole ha) (he _)

theorem Written.ofLog_overflow (ha : 2 ^ 96 ≤ e.amount) : Event.ofLog log = .error .amountOverflow := by
  obtain ⟨ts, ht, hn, hd, -⟩ := h.parts
  exact Event.ofLog_of_overflow ht hn hd (Decimal.ofNat?_eq_none ha)

theorem Written.ofLog_congr {log' : Log} (h' : e.Written log') : Event.ofLog log' = Event.ofLog log := by
  rcases Nat.lt_or_ge e.amount (2 ^ 96) with ha | ha
  · rw [h.ofLog ha, h'.ofLog ha]
  · rw [h.ofLog_overflow ha, h'.ofLog_overflow ha]

end

end Emission

/-- An emission written into a log in any place is decoded to just what was written, unless the amount does not fit.
Decoding does not depend on the bytes in front of the addresses, on the filling behind the text or on anything that
follows it. With the first topic of the other shape, or with topics left out or added after the first, their number
gives the log away, and it is refused. -/
theorem decoding_undoes_encoding (e : Emission) (place : Log) :
    (∀ h : e.amount < 2 ^ 96,
      Event.ofLog (e.log place) = .ok ⟨e.curator, e.creator, e.token, e.uri, .whole e.amount h⟩) ∧
    (2 ^ 96 ≤ e.amount → Event.ofLog (e.log place) = .error .amountOverflow) ∧
    (∀ log, e.Written log → Event.ofLog log = Event.ofLog (e.log place)) ∧
    (∀ (log : Log) (shape : EventShape), shape ≠ e.shape → log.topics = shape.topic :: (e.log place).topics.tail →
      Event.ofLog log = .error (.topicCount (e.log place).topics.length)) ∧
    ∀ (log : Log) (ts : List Hash), log.topics = e.shape.topic :: ts → ts.length ≠ e.parties.length →
      Event.ofLog log = .error (.topicCount (ts.length + 1)) := by
  have hw := e.written_log place
  have hlength : (e.log place).topics.length = e.shape.topicCount := by
    rw [← e.length_parties, Emission.log, List.length_cons, List.length_map]
  refine ⟨hw.ofLog, hw.ofLog_overflow, fun log h => hw.ofLog_congr h, fun log shape hs ht => ?_,
    fun log ts ht hn => ?_⟩
  · have htail : (e.log place).topics.tail.length + 1 = (e.log place).topics.length := rfl
    rw [Event.ofLog_of_length_ne ht, htail]
    rw [htail, hlength]
    exact fun h => hs (EventShape.topicCount_injective h).symm
  · refine Event.ofLog_of_length_ne ht ?_
    rw [← e.length_parties]
    exact fun h => hn (Nat.succ.inj h)

namespace Donation

/-- What the contract announces of the donation. -/
def emission : Emission := ⟨curator, creator, none, "ipfs://a", power 10 18, by decide +kernel, by decide⟩

/-- The log of the donation with other bytes in front of the curator and behind the text. -/
def soiled : Log :=
  { log with
    topics := [EventShape.coin.topic, curator.topic ⟨List.replicate 12 7, List.length_replicate⟩, topic creator]
    data := Abi.unfilled emission.text emission.amount ++ [1, 2, 3] }

theorem soiled_written : emission.Written soiled where
  topics := ⟨_, rfl, .cons ⟨_, rfl⟩ (.cons ⟨.zero 12, rfl⟩ .nil)⟩
  data := ⟨[1, 2, 3], rfl⟩

end Donation

/-- The log of the donation, and the one with other bytes, are decoded to the donation. -/
theorem donation_decoded :
    Donation.emission.log Donation.log = Donation.log ∧ Event.ofLog Donation.log = .ok Donation.event ∧
    Donation.soiled ≠ Donation.log ∧ Event.ofLog Donation.soiled = .ok Donation.event := by
  have hlog : Donation.emission.log Donation.log = Donation.log := by decide +kernel
  have hne : Donation.soiled ≠ Donation.log := by decide +kernel
  obtain ⟨hok, -, hwritten, -⟩ := decoding_undoes_encoding Donation.emission Donation.log
  have hdecoded : Event.ofLog Donation.log = .ok Donation.event := by
    rw [← hlog]
    exact hok (by decide)
  refine ⟨hlog, hdecoded, hne, ?_⟩
  rw [hwritten Donation.soiled Donation.soiled_written, hlog, hdecoded]

end DonationLedger
