import DonationLedger.Proofs.Text.Hex
import DonationLedger.Rpc
import Mathlib.Data.List.Forall2

/-!
# Replies are taken whole

Over any line, whatever state it is in and whatever it replies, a question is one request. The request for logs selects
the contract, its two shapes and the bounds, and nothing else. A reply becomes an answer log by log, each log with its
place and all else unchanged, or it is a failure of the chain's reader as a whole: no log is left out of an answer. Only
a receipt that is still without a block is none at all.
-/

namespace DonationLedger.Rpc

/-! ## Logs -/

/-- The node has told where the log stands. -/
structure WireLog.Placed (w : WireLog) : Prop where
  block : w.block.isSome
  hash : w.hash.isSome
  index : w.index.isSome

/-- The log with its place, and all else as the node has sent it. -/
structure WireLog.Carries (w : WireLog) (l : Log) : Prop where
  address : l.address = w.address
  topics : l.topics = w.topics
  data : l.data = w.data
  block : w.block = some l.block
  hash : w.hash = some l.hash
  index : w.index = some l.index
  removed : l.removed = w.removed

theorem log_eq_ok_iff {w : WireLog} {l : Log} : log w = .ok l ↔ w.Carries l := by
  constructor
  · intro h
    cases hb : w.block with
    | none => simp [log, hb] at h
    | some block =>
      cases hh : w.hash with
      | none => simp [log, hb, hh] at h
      | some hash =>
        cases hi : w.index with
        | none => simp [log, hb, hh, hi] at h
        | some index =>
          simp only [log, hb, hh, hi, Except.ok.injEq] at h
          subst h
          exact ⟨rfl, rfl, rfl, hb, hh, hi, rfl⟩
  · rintro ⟨ha, ht, hd, hb, hh, hi, hr⟩
    simp only [log, hb, hh, hi, ← ha, ← ht, ← hd, ← hr]

theorem WireLog.Carries.placed {w : WireLog} {l : Log} (h : w.Carries l) : w.Placed :=
  ⟨by simp [h.block], by simp [h.hash], by simp [h.index]⟩

theorem WireLog.Placed.carries {w : WireLog} (h : w.Placed) : ∃ l, w.Carries l := by
  obtain ⟨block, hb⟩ := Option.isSome_iff_exists.1 h.block
  obtain ⟨hash, hh⟩ := Option.isSome_iff_exists.1 h.hash
  obtain ⟨index, hi⟩ := Option.isSome_iff_exists.1 h.index
  exact ⟨⟨w.address, w.topics, w.data, block, hash, index, w.removed⟩, rfl, rfl, rfl, hb, hh, hi, rfl⟩

theorem logs_eq_ok_iff {ws : List WireLog} {ls : List Log} :
    logs ws = .ok ls ↔ List.Forall₂ WireLog.Carries ws ls := by
  induction ws generalizing ls with
  | nil => simp [logs, eq_comm]
  | cons w ws ih =>
    simp only [logs, bind_eq_ok_iff, log_eq_ok_iff, ih, List.forall₂_cons_left_iff, Except.ok.injEq]
    constructor
    · rintro ⟨l, hl, rest, hs, rfl⟩
      exact ⟨l, rest, hl, hs, rfl⟩
    · rintro ⟨l, rest, hl, hs, rfl⟩
      exact ⟨l, hl, rest, hs, rfl⟩

/-- A reply has an answer if and only if the place of each of its logs is known. -/
theorem exists_carries_iff {ws : List WireLog} :
    (∃ ls, List.Forall₂ WireLog.Carries ws ls) ↔ ∀ w ∈ ws, w.Placed := by
  constructor
  · rintro ⟨ls, h⟩
    exact ((List.forall₂_and_left ws ls).1 (h.imp fun _ _ hc => ⟨hc.placed, hc⟩)).1
  · intro h
    induction ws with
    | nil => exact ⟨[], .nil⟩
    | cons w ws ih =>
      obtain ⟨l, hl⟩ := (h w List.mem_cons_self).carries
      obtain ⟨ls, hls⟩ := ih fun v hv => h v (List.mem_cons_of_mem w hv)
      exact ⟨l :: ls, .cons hl hls⟩

/-- One log without its place spoils the reply. -/
theorem logs_eq_error {ws : List WireLog} (h : ∃ w ∈ ws, ¬ w.Placed) : ∃ text, logs ws = .error text := by
  cases hs : logs ws with
  | error text => exact ⟨text, rfl⟩
  | ok ls =>
    obtain ⟨w, hw, hn⟩ := h
    exact absurd (exists_carries_iff.1 ⟨ls, logs_eq_ok_iff.1 hs⟩ w hw) hn

/-! ## Receipts -/

/-- The receipt with its block and all of its logs. -/
structure WireReceipt.Reports (w : WireReceipt) (r : Receipt) : Prop where
  hash : r.hash = w.hash
  reverted : r.reverted = !w.succeeded
  sender : r.sender = w.sender
  recipient : r.recipient = w.recipient
  block : w.block = some r.block
  logs : List.Forall₂ WireLog.Carries w.logs r.logs

theorem receipt_eq_ok_none_iff {w : WireReceipt} : receipt w = .ok none ↔ w.block = none := by
  cases hb : w.block with
  | none => simp [receipt, hb]
  | some block => simp [receipt, hb, bind_eq_ok_iff]

theorem receipt_eq_ok_some_iff {w : WireReceipt} {r : Receipt} : receipt w = .ok (some r) ↔ w.Reports r := by
  cases hb : w.block with
  | none =>
    refine ⟨fun h => ?_, fun h => ?_⟩
    · simp [receipt, hb] at h
    · exact absurd (hb.symm.trans h.block) (by simp)
  | some block =>
    simp only [receipt, hb, bind_eq_ok_iff, logs_eq_ok_iff, Except.ok.injEq, Option.some.injEq]
    constructor
    · rintro ⟨ls, hls, rfl⟩
      exact ⟨rfl, rfl, rfl, rfl, hb, hls⟩
    · obtain ⟨hash, reverted, sender, recipient, number, ls⟩ := r
      rintro ⟨rfl, rfl, rfl, rfl, hn, hls⟩
      cases hb.symm.trans hn
      exact ⟨ls, hls, rfl⟩

theorem exists_reports {w : WireReceipt} (hb : w.block ≠ none) (hw : ∀ l ∈ w.logs, l.Placed) :
    ∃ r, w.Reports r := by
  obtain ⟨block, hb⟩ := Option.ne_none_iff_exists'.1 hb
  obtain ⟨ls, hls⟩ := exists_carries_iff.2 hw
  exact ⟨⟨w.hash, !w.succeeded, w.sender, w.recipient, block, ls⟩, rfl, rfl, rfl, rfl, hb, hls⟩

/-- One log without its place spoils the receipt, unless it is without a block. -/
theorem receipt_eq_error {w : WireReceipt} (hb : w.block ≠ none) (h : ∃ l ∈ w.logs, ¬ l.Placed) :
    ∃ text, receipt w = .error text := by
  obtain ⟨block, hb⟩ := Option.ne_none_iff_exists'.1 hb
  obtain ⟨text, hs⟩ := logs_eq_error h
  exact ⟨text, by rw [receipt, hb, hs]; rfl⟩

/-! ## The filter for logs -/

/-- A bound is a quantity, and there is none if nothing bounds. -/
def Bounds : Option Nat → Option Json → Prop
  | some n, j => ∃ s, j = some (.string s) ∧ Text.quantity? s = some n
  | none, j => j = none

/-- The filter selects what a contract has written in one of the two shapes and within the bounds. It says nothing
else. -/
structure Selects (contract : Address) (first last : Option Nat) (filter : Json) : Prop where
  address : filter.get? "address" = some (.string contract.spelling)
  topics : ∃ alternatives, filter.get? "topics" = some (.array [.array alternatives]) ∧
    alternatives.Perm [.string EventShape.token.topic.spelling, .string EventShape.coin.topic.spelling]
  first : Bounds first (filter.get? "fromBlock")
  last : Bounds last (filter.get? "toBlock")
  others : ∀ key, key ∉ ["address", "topics", "fromBlock", "toBlock"] → filter.get? key = none

theorem lookup_bound (key other : String) (n : Option Nat) :
    Json.lookup key (bound other n) = if other = key then n.map fun n => .string (Text.writeQuantity n) else none := by
  cases n with
  | none => simp [bound, Json.lookup]
  | some n => simp [bound, Json.lookup]

theorem bounds_writeQuantity (n : Option Nat) : Bounds n (n.map fun n => .string (Text.writeQuantity n)) := by
  cases n with
  | none => rfl
  | some n => exact ⟨_, rfl, Text.quantity?_writeQuantity n⟩

theorem get?_filter (contract : Address) (first last : Option Nat) (key : String) :
    (filter contract first last).get? key =
      (Json.lookup key [("address", .string contract.spelling),
        ("topics", .array [.array (EventShape.all.map fun s => .string s.topic.spelling)])]).or
      ((if "toBlock" = key then last.map fun n => .string (Text.writeQuantity n) else none).or
        (if "fromBlock" = key then first.map fun n => .string (Text.writeQuantity n) else none)) := by
  rw [filter, Json.get?, Json.lookup_append, Json.lookup_append, lookup_bound, lookup_bound]

theorem selects_filter (contract : Address) (first last : Option Nat) :
    Selects contract first last (filter contract first last) where
  address := by
    rw [get?_filter]
    rfl
  topics := by
    refine ⟨_, ?_, .refl _⟩
    rw [get?_filter]
    rfl
  first := by
    rw [get?_filter]
    exact bounds_writeQuantity first
  last := by
    rw [get?_filter]
    simpa [Json.lookup] using bounds_writeQuantity last
  others key hk := by
    simp only [List.mem_cons, List.not_mem_nil, or_false, not_or, eq_comm (a := key)] at hk
    obtain ⟨ha, ht, hf, hl⟩ := hk
    simp [get?_filter, Json.lookup, ha, ht, hf, hl]

/-! ## Questions over a line -/

/-- One request and what came of it. -/
structure Exchange where
  query : Query
  request : Request
  reply : Except String (Wire query)

variable {σ : Type}

/-- The line with a record of what has gone over it. -/
def Line.recorded (line : Line (StateM σ)) : Line (StateM (σ × List Exchange)) := fun q request s =>
  let (reply, after) := (line q request).run s.1
  (reply, after, s.2 ++ [⟨q, request, reply⟩])

namespace Reader

/-- All that goes over a line for a question, and the answer. -/
def conversation (r : Reader) (line : Line (StateM σ)) (s : σ) (q : Query) : List Exchange × Except Failure q.Answer :=
  let (answer, _, exchanges) := (r.askOn line.recorded q).run (s, [])
  (exchanges, answer)

/-- The answer is a failure of the chain's reader. -/
def Fails {α : Type} (r : Reader) (answer : Except Failure α) : Prop :=
  ∃ f, answer = .error f ∧ f.code = "CHAIN_READER_ERROR" ∧ ∃ text, f = .node r.chain text

/-- Logs are answered all and in order, or not at all. -/
structure TakesLogs (r : Reader) (reply : Except String (List WireLog))
    (answer : Except Failure (List Log)) : Prop where
  whole : ∀ ws, reply = .ok ws → (∀ w ∈ ws, w.Placed) → ∃ ls, answer = .ok ls ∧ List.Forall₂ WireLog.Carries ws ls
  spoiled : ∀ ws, reply = .ok ws → (∃ w ∈ ws, ¬ w.Placed) → r.Fails answer
  lost : ∀ text, reply = .error text → r.Fails answer

/-- A receipt is none exactly until it has a block. From then on it is answered with all of its logs, or not at all. -/
structure TakesReceipt (r : Reader) (reply : Except String (Option WireReceipt))
    (answer : Except Failure (Option Receipt)) : Prop where
  missing : answer = .ok none ↔ reply = .ok none ∨ ∃ w, reply = .ok (some w) ∧ w.block = none
  whole : ∀ w, reply = .ok (some w) → w.block ≠ none → (∀ l ∈ w.logs, l.Placed) →
    ∃ x, answer = .ok (some x) ∧ w.Reports x
  spoiled : ∀ w, reply = .ok (some w) → w.block ≠ none → (∃ l ∈ w.logs, ¬ l.Placed) → r.Fails answer
  lost : ∀ text, reply = .error text → r.Fails answer

variable {r : Reader} {q : Query} {wire : Wire q}

theorem fails_node {α : Type} (r : Reader) (text : String) :
    r.Fails (.error (.node r.chain text) : Except Failure α) :=
  ⟨_, rfl, rfl, text, rfl⟩

theorem read_eq_ok_iff {answer : q.Answer} : r.read q (.ok wire) = .ok answer ↔ meaning q wire = .ok answer := by
  cases h : meaning q wire with
  | ok a => simp [read, h]
  | error text => simp [read, h]

theorem fails_read (r : Reader) {text : String} (h : meaning q wire = .error text) : r.Fails (r.read q (.ok wire)) := by
  rw [read, h]
  exact r.fails_node text

theorem takesLogs (r : Reader) (first last : Option Nat) (reply : Except String (List WireLog)) :
    r.TakesLogs reply (r.read (.logs first last) reply) where
  whole := by
    rintro ws rfl hw
    obtain ⟨ls, hls⟩ := exists_carries_iff.2 hw
    exact ⟨ls, (read_eq_ok_iff (q := .logs first last)).2 (logs_eq_ok_iff.2 hls), hls⟩
  spoiled := by
    rintro ws rfl hw
    obtain ⟨text, he⟩ := logs_eq_error hw
    exact r.fails_read (q := .logs first last) he
  lost := by
    rintro text rfl
    exact r.fails_node _

theorem takesReceipt (r : Reader) (hash : Hash) (reply : Except String (Option WireReceipt)) :
    r.TakesReceipt reply (r.read (.receipt hash) reply) where
  missing := by
    match reply with
    | .error text => exact ⟨nofun, fun h => by simp at h⟩
    | .ok none => exact ⟨fun _ => .inl rfl, fun _ => rfl⟩
    | .ok (some w) =>
      refine (read_eq_ok_iff (q := .receipt hash)).trans (receipt_eq_ok_none_iff.trans ?_)
      simp
  whole := by
    rintro w rfl hb hw
    obtain ⟨x, hx⟩ := exists_reports hb hw
    exact ⟨x, (read_eq_ok_iff (q := .receipt hash)).2 (receipt_eq_ok_some_iff.2 hx), hx⟩
  spoiled := by
    rintro w rfl hb hw
    obtain ⟨text, he⟩ := receipt_eq_error hb hw
    exact r.fails_read (q := .receipt hash) he
  lost := by
    rintro text rfl
    exact r.fails_node _

/-- The request goes over the line once, and the answer is what its reply gives. -/
theorem conversation_eq (r : Reader) (line : Line (StateM σ)) (s : σ) (q : Query) :
    r.conversation line s q =
      let reply := ((line q (request r.contract q)).run s).1
      ([⟨q, request r.contract q, reply⟩], r.read q reply) :=
  rfl

/-- A question for logs or for a receipt is one request, and its reply is taken whole. -/
theorem replies_taken_whole (r : Reader) (line : Line (StateM σ)) (s : σ) :
    (∀ first last, ∃ filter reply,
      (r.conversation line s (.logs first last)).1 =
        [⟨.logs first last, ⟨"eth_getLogs", some (.array [filter])⟩, reply⟩] ∧
      Selects r.contract first last filter ∧ r.TakesLogs reply (r.conversation line s (.logs first last)).2) ∧
    ∀ hash, ∃ reply,
      (r.conversation line s (.receipt hash)).1 =
        [⟨.receipt hash, ⟨"eth_getTransactionReceipt", some (.array [.string hash.spelling])⟩, reply⟩] ∧
      r.TakesReceipt reply (r.conversation line s (.receipt hash)).2 := by
  constructor
  · intro first last
    rw [conversation_eq]
    exact ⟨_, _, rfl, selects_filter r.contract first last, r.takesLogs first last _⟩
  · intro hash
    rw [conversation_eq]
    exact ⟨_, rfl, r.takesReceipt hash _⟩

end Reader

/-- A log of a block that is mined. -/
def WireLog.settled (index : Nat) : WireLog :=
  ⟨.zero 20, [EventShape.coin.topic], [], some 7, some (.zero 32), some index, false⟩

/-- A log whose block is pending. -/
def WireLog.pending : WireLog := { settled 1 with block := none, index := none }

/-- The line to a node that knows of two logs, the second one pending when the node is asked first. -/
def Line.settling : Line (StateM Bool) := fun q _ mined => match q with
  | .logs _ _ => (.ok [.settled 0, if mined then .settled 1 else .pending], true)
  | _ => (.error "not found", mined)

/-- While the block of one of two logs is pending there is no answer, and once it is mined both are answered. -/
theorem pending_log_answered_later :
    (Reader.mk .optimism (.zero 20)).Fails
      ((Reader.mk .optimism (.zero 20)).conversation Line.settling false (.logs none none)).2 ∧
    ∃ ls, ((Reader.mk .optimism (.zero 20)).conversation Line.settling true (.logs none none)).2 = .ok ls ∧
      List.Forall₂ WireLog.Carries [.settled 0, .settled 1] ls := by
  have h := Reader.replies_taken_whole (Reader.mk .optimism (.zero 20)) Line.settling
  constructor
  · obtain ⟨filter, reply, sent, -, takes⟩ := (h false).1 none none
    cases (sent : [_] = [_])
    exact takes.spoiled _ rfl ⟨.pending, by simp, fun hp => by simpa [WireLog.pending] using hp.block⟩
  · obtain ⟨filter, reply, sent, -, takes⟩ := (h true).1 none none
    cases (sent : [_] = [_])
    refine takes.whole _ rfl fun w hw => ?_
    obtain rfl | rfl : w = .settled 0 ∨ w = .settled 1 := by simpa using hw
    · exact ⟨rfl, rfl, rfl⟩
    · exact ⟨rfl, rfl, rfl⟩

end DonationLedger.Rpc
