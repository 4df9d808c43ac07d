import DonationLedger.Proofs.Replay
import DonationLedger.Proofs.Resolution.Decision

/-!
# Logs that nobody waits for

A log of a blockchain transaction that no transaction settles through or expects is decided at once, without asking
a node. `Log.Decides` lists what comes of it by what the log and the rows say: an event that is refused, or whose
creator is nobody's address, changes no transaction; any other pays for the oldest transaction that waits for just
such a payment, and where none does it is a new donation. In each case the blockchain transaction is stored, and the
event is recorded unless there was a record of the log (`Log.Noted`).
-/

namespace DonationLedger

/-! ## Rows in their places -/

/-- Where one key finds something else and all others what they found, one entry was replaced. -/
theorem eq_replaced_of_find?_key {α κ : Type} [DecidableEq κ] (key : α → κ) {before after bs : List α} {a a' : α}
    (ha : key a' = key a) (h : ((before ++ a :: after).map key).Nodup)
    (hk : bs.map key = (before ++ a :: after).map key)
    (hf : ∀ i, bs.find? (fun x => key x == i) =
      if i = key a' then some a' else (before ++ a :: after).find? fun x => key x == i) :
    bs = before ++ a' :: after := by
  have hmap : (before ++ a' :: after).map key = (before ++ a :: after).map key := by simp [ha]
  have hnd : ((before ++ a' :: after).map key).Nodup := hmap ▸ h
  refine eq_of_find?_key key hnd (hk.trans hmap.symm) fun i => ?_
  rw [hf]
  split
  · rename_i hi
    rw [hi]
    exact (find?_key_of_mem key hnd (by simp)).symm
  · rename_i hi
    have ha' : (key a' == i) = false := by simpa using fun e => hi e.symm
    simp only [List.find?_append, List.find?_cons, ha', ha ▸ ha']

namespace Ledger

variable {l l' : Ledger} {u v : Transaction} {b c : BlockchainTransaction} {rs : List AuditRecord}

/-- The blockchain transaction that was noted stands in its place. -/
theorem Notes.replaced {before after : List BlockchainTransaction} (h : l.Notes c rs l') (hi : c.id = b.id)
    (hl : l.blockchainTransactions = before ++ b :: after)
    (hk : (l.blockchainTransactions.map BlockchainTransaction.id).Nodup) :
    l'.blockchainTransactions = before ++ c :: after := by
  refine eq_replaced_of_find?_key BlockchainTransaction.id hi (hl ▸ hk) (hl ▸ h.ids') fun i => ?_
  rw [← hl]
  exact h.blockchainTransaction i

/-- The transaction that was rewritten stands in its place. -/
theorem Rewrites.replaced {before after : List Transaction} (h : l.Rewrites u c rs l') (hi : u.id = v.id)
    (hl : l.transactions = before ++ v :: after) (hk : (l.transactions.map Transaction.id).Nodup) :
    l'.transactions = before ++ u :: after := by
  refine eq_replaced_of_find?_key Transaction.id hi (hl ▸ hk) (hl ▸ h.ids) fun i => ?_
  rw [← hl]
  exact h.transaction i

/-- The transaction that was added and rewritten stands last. -/
theorem Rewrites.appended (h : (l.addTransaction v).Rewrites u c rs l') (hi : u.id = v.id)
    (hk : (l'.transactions.map Transaction.id).Nodup) : l'.transactions = l.transactions ++ [u] :=
  h.replaced hi (show (l.addTransaction v).transactions = l.transactions ++ v :: [] from rfl) (h.ids ▸ hk)

/-! ## What decides -/

/-- No transaction settles through a blockchain transaction of the hash, or expects one. -/
def Unclaimed (l : Ledger) (chain : Chain) (hash : String) : Prop :=
  ∀ c ∈ l.blockchainTransactions, c.chain = chain → c.hash = hash → c.transaction = none ∧
    ∀ u ∈ l.transactions, u.provider = .blockchain → u.blockchainTransaction ≠ some c.id

end Ledger

/-- The transaction waits for the payment to the recipient, wherever on the chain it will be made. -/
structure Transaction.Matches (u : Transaction) (p : Payment) (recipient : Id) : Prop where
  pending : u.state = .pending
  provider : u.provider = .blockchain
  unassigned : u.blockchainTransaction = none
  recipient : u.recipient = recipient
  target : u.target = some p.content
  currency : u.currency = p.currency
  amount : u.amount.same p.amount = true

/-- What is noted of a log that tells of an event. Its blockchain transaction is stored as `c`, which has succeeded and
settles `settled`; there is a record of it, perhaps an older one; and of all else but transactions nothing changes. -/
structure Log.Noted (log : Log) (d : Deployment) (e : Event) (settled : Option Id) (l : Ledger)
    (c : BlockchainTransaction) (l' : Ledger) : Prop where
  onChain : (∃ before c₀ after, l.blockchainTransactions = before ++ c₀ :: after ∧ c₀.chain = d.chain ∧
      c₀.hash = log.hash.spelling ∧ l'.blockchainTransactions = before ++ c :: after ∧
      c = { c₀ with transaction := settled, state := .succeeded, block := c₀.block <|> some (log.block : Int) }) ∨
    ((∀ c₀ ∈ l.blockchainTransactions, c₀.chain = d.chain → c₀.hash ≠ log.hash.spelling) ∧
      (∀ c₀ ∈ l.blockchainTransactions, c₀.id ≠ c.id) ∧
      l'.blockchainTransactions = l.blockchainTransactions ++ [c] ∧
      c = ⟨c.id, settled, d.chain, log.hash.spelling, .succeeded, none, none, some log.block⟩)
  records : (l'.records = l.records ∧ ∃ q ∈ l.records, q.place = (c.id, (log.index : Int))) ∨
    (l'.records = l.records ++ [e.record c.id log.index] ∧ ∀ q ∈ l.records, q.place ≠ (c.id, (log.index : Int)))
  checkpoints : l'.checkpoints = l.checkpoints
  users : l'.users = l.users
  contents : l'.contents = l.contents

/-- What comes of a log that tells of an event and that nobody waits for, and the ledger then. -/
inductive Log.Decides (log : Log) (d : Deployment) (e : Event) (l : Ledger) : Applied → Ledger → Prop
  | refused {reason : InvalidReason} {c : BlockchainTransaction} {l' : Ledger}
    (hs : Payment.screen d.settings l.content? e = .error reason)
    (noted : log.Noted d e none l c l') (rows : l'.transactions = l.transactions) :
    Decides log d e l (.invalid reason) l'
  | unknown {p : Payment} {c : BlockchainTransaction} {l' : Ledger}
    (hs : Payment.screen d.settings l.content? e = .ok p) (hr : l.user? e.creator.spelling = none)
    (noted : log.Noted d e none l c l') (rows : l'.transactions = l.transactions) :
    Decides log d e l (.invalid .unknownCreator) l'
  | linked {p : Payment} {recipient : Id} {before after : List Transaction} {u : Transaction}
    {c : BlockchainTransaction} {l' : Ledger}
    (hs : Payment.screen d.settings l.content? e = .ok p) (hr : l.user? e.creator.spelling = some recipient)
    (place : l.transactions = before ++ u :: after) (waits : u.Matches p recipient)
    (oldest : ∀ v ∈ before, ¬ v.Matches p recipient) (noted : log.Noted d e (some u.id) l c l')
    (rows : l'.transactions = before ++ { u with
      blockchainTransaction := some c.id
      state := .succeeded
      sender := u.sender <|> l.user? e.curator.spelling } :: after) :
    Decides log d e l (.linked u.id) l'
  | created {p : Payment} {recipient t : Id} {c : BlockchainTransaction} {l' : Ledger}
    (hs : Payment.screen d.settings l.content? e = .ok p) (hr : l.user? e.creator.spelling = some recipient)
    (unmatched : ∀ v ∈ l.transactions, ¬ v.Matches p recipient) (fresh : ∀ v ∈ l.transactions, v.id ≠ t)
    (noted : log.Noted d e (some t) l c l')
    (rows : l'.transactions = l.transactions ++ [{
      id := t
      amount := p.amount
      currency := p.currency
      purpose := "donation"
      provider := .blockchain
      blockchainTransaction := some c.id
      sender := l.user? e.curator.spelling
      recipient := recipient
      target := some p.content
      targetType := some "article"
      state := .succeeded
      remark := none }]) :
    Decides log d e l (.created t) l'

section
variable {s s' s₁ : Session} {d : Deployment} {log : Log} {e : Event} {l' : Ledger} {c : BlockchainTransaction}
  {chain : Chain} {hash : String} {block : Int} {settled : Option Id}

theorem Payment.admits_criteria_iff {p : Payment} {recipient : Id} {u : Transaction} :
    (p.criteria recipient).admits u = true ↔ u.Matches p recipient := by
  simp only [PaymentCriteria.admits, criteria, Transaction.isPending, Bool.and_eq_true, beq_iff_eq,
    Option.isNone_iff_eq_none]
  constructor
  · rintro ⟨⟨⟨⟨⟨⟨h₁, h₂⟩, h₃⟩, h₄⟩, h₅⟩, h₆⟩, h₇⟩
    exact ⟨h₂, h₁, h₇, h₃, h₄, h₅, h₆⟩
  · rintro ⟨h₂, h₁, h₇, h₃, h₄, h₅, h₆⟩
    exact ⟨⟨⟨⟨⟨⟨h₁, h₂⟩, h₃⟩, h₄⟩, h₅⟩, h₆⟩, h₇⟩

/-- What is found is the oldest transaction that waits for the payment. -/
theorem Ledger.pendingMatch?_eq_some_iff {l : Ledger} {p : Payment} {recipient : Id} {u : Transaction} :
    l.pendingMatch? (p.criteria recipient) = some u ↔ IsFirst (·.Matches p recipient) l.transactions u := by
  simp only [pendingMatch?, find?_eq_some_iff_isFirst, Payment.admits_criteria_iff]

theorem Ledger.pendingMatch?_eq_none_iff {l : Ledger} {p : Payment} {recipient : Id} :
    l.pendingMatch? (p.criteria recipient) = none ↔ ∀ v ∈ l.transactions, ¬ v.Matches p recipient := by
  simp only [pendingMatch?, List.find?_eq_none, Payment.admits_criteria_iff]

/-- Addresses are looked up as they are spelled, which is in small letters. -/
theorem Ledger.user?_spelling_of_users {l l' : Ledger} (h : l'.users = l.users) (a : Address) :
    l'.user? (Text.lowercase a.spelling) = l.user? a.spelling := by
  rw [FixedBytes.lowercase_spelling]
  exact user?_of_users h _

/-! ## The blockchain transaction -/

/-- One that is stored and that nobody claims is not linked, and not expected. -/
theorem Ledger.Unclaimed.of_byHash? {l : Ledger} (hn : l.Unclaimed chain hash) (hc : l.byHash? chain hash = some c) :
    c.transaction = none ∧ l.expecting? c.id = none := by
  obtain ⟨hm, hch, hh⟩ := byHash?_some hc
  obtain ⟨hct, hu⟩ := hn c hm hch hh
  refine ⟨hct, Option.eq_none_iff_forall_ne_some.2 fun u he => ?_⟩
  obtain ⟨hmem, hp, hb⟩ := expecting?_some he
  exact hu u hmem hp hb

/-- A blockchain transaction that nobody claims was not reverted, and is not expected. -/
theorem Obtained.unclaimed (h : Obtained s chain hash block c s₁) (hs : s.Proper)
    (hn : s.ledger.Unclaimed chain hash) :
    c.transaction = none ∧ c.state ≠ .reverted ∧ s.ledger.expecting? c.id = none := by
  cases h with
  | found hc =>
    obtain ⟨hct, hex⟩ := hn.of_byHash? hc
    have hb := Ledger.blockchainTransaction?_of_mem hs.keyed.blockchainTransactions (Ledger.byHash?_some hc).1
    exact ⟨hct, hs.sound.unlinked _ _ hb hct, hex⟩
  | stored _ hc =>
    subst hc
    refine ⟨rfl, nofun, Option.eq_none_iff_forall_ne_some.2 fun u he => ?_⟩
    -- what is expected is stored already
    obtain ⟨hmem, -, hb⟩ := Ledger.expecting?_some he
    have hsome := hs.sound.expected _ _ _ (Ledger.transaction?_of_mem hs.keyed.transactions hmem) hb
    rw [hs.keyed.blockchainTransaction?_next] at hsome
    cases hsome

/-- What was noted, in terms of the ledger from before the blockchain transaction was found or stored. -/
theorem Obtained.noted (h : Obtained s d.chain log.hash.spelling log.block c s₁) (hk : s.Keyed)
    (hr : c.state ≠ .reverted)
    (hl : s₁.ledger.Notes { c.seen log.block with transaction := settled } [e.record c.id log.index] l')
    (hl' : (l'.blockchainTransactions.map BlockchainTransaction.id).Nodup) :
    log.Noted d e settled s.ledger { c.seen log.block with transaction := settled } l' := by
  have hk₁ : (s₁.ledger.blockchainTransactions.map BlockchainTransaction.id).Nodup := hl.ids' ▸ hl'
  have hrecords : l'.records = (s.ledger.addRecord (e.record c.id log.index)).records :=
    hl.records.trans (Ledger.records_addRecord_congr h.records _)
  have hseen : (c.seen log.block).state = .succeeded := if_neg hr
  have hrest : s₁.ledger.checkpoints = s.ledger.checkpoints ∧ s₁.ledger.users = s.ledger.users ∧
      s₁.ledger.contents = s.ledger.contents := by
    cases h with
    | found _ h₁ => rw [h₁]; exact ⟨rfl, rfl, rfl⟩
    | stored _ _ h₁ => rw [h₁]; exact ⟨rfl, rfl, rfl⟩
  refine ⟨?_, ?_, hl.checkpoints.trans hrest.1, hl.users.trans hrest.2.1, hl.contents.trans hrest.2.2⟩
  · cases h with
    | found hc h₁ =>
      obtain ⟨hm, hch, hh⟩ := Ledger.byHash?_some hc
      obtain ⟨before, after, hsplit⟩ := List.append_of_mem hm
      refine .inl ⟨before, c, after, hsplit, hch, hh, hl.replaced (b := c) rfl (h₁ ▸ hsplit)
        hk₁, ?_⟩
      rw [← hseen]
      simp [BlockchainTransaction.seen, Work.filled]
    | stored hno hc h₁ =>
      have hsplit : s₁.ledger.blockchainTransactions = s.ledger.blockchainTransactions ++ c :: [] := by
        rw [h₁]
        rfl
      refine .inr ⟨fun c₀ hm hch hh => ?_, fun c₀ hm hi => ?_,
        hl.replaced (b := c) rfl hsplit hk₁, ?_⟩
      · have := List.find?_eq_none.1 hno c₀ hm
        simp [hch, hh] at this
      · have hnext := hk.blockchainTransaction?_next .blockchainTransaction
        have hid : c₀.id = s.supply.next .blockchainTransaction := by
          rw [hi, hc]
          rfl
        rw [← hid, Ledger.blockchainTransaction?_of_mem hk.blockchainTransactions hm] at hnext
        cases hnext
      · rw [hc]
        rfl
  · rw [hrecords]
    rcases s.ledger.records_addRecord_cases (e.record c.id log.index) with ⟨hold, hrec⟩ | ⟨hnone, hrec⟩
    · exact .inl ⟨hrec, hold⟩
    · exact .inr ⟨hrec, hnone⟩

/-! ## The ledger transaction -/

/-- Nothing keeps a log that nobody claims from being applied. -/
theorem Work.clean_applyEvent_unclaimed (block index : Int) (e : Event) (verdict : Except InvalidReason Payment)
    (hk : s.Keyed) (hn : s.ledger.Unclaimed chain hash) : (applyEvent chain hash block index e verdict).Clean s := by
  refine (failsBy_applyEvent hk).clean fun err he => ?_
  cases he with
  | mk hc ht _ =>
    obtain ⟨hm, hch, hh⟩ := Ledger.byHash?_some hc
    exact nomatch (hn _ hm hch hh).1.symm.trans ht

/-- Whatever the ledger transaction of a log that nobody claims comes to, the log decides it. -/
theorem Log.decides_applied {verdict : Except InvalidReason Payment} {r : LogStep} (hs : s.Proper)
    (hn : s.ledger.Unclaimed d.chain log.hash.spelling)
    (hv : Payment.screen d.settings s.ledger.content? e = verdict)
    (hy : (Work.applyEvent d.chain log.hash.spelling log.block log.index e verdict).Yields s r s') :
    ∃ a, r = .applied a ∧ log.Decides d e s.ledger a s'.ledger := by
  have hk' := ((Work.lasting_applyEvent _ _ _ _ _ _).later hy).keyed hs.keyed
  obtain ⟨c, s₁, s₂, ho, hk₂, -, ht₂, hnotes, hcr⟩ := Work.applyEvent_credited hs.keyed hy
  obtain ⟨hct, hrev, hex⟩ := ho.unclaimed hs hn
  have ht : s₂.ledger.transactions = s.ledger.transactions := ht₂.trans ho.transactions
  have huser := Ledger.user?_spelling_of_users (hnotes.users.trans ho.users)
  have hnone : s₂.ledger.linked? (c.seen log.block) = none :=
    (Ledger.linked?_seen ht c log.block).trans (Ledger.linked?_eq_none hct hex)
  have hunlinked : { c.seen log.block with transaction := none } = c.seen log.block :=
    congrArg (fun t => { c.seen log.block with transaction := t }) hct.symm
  cases hcr with
  | expected hu =>
    rw [hnone] at hu
    cases hu
  | settled hu =>
    rw [hnone] at hu
    cases hu
  | invalid _ _ hverdict =>
    exact ⟨_, rfl, .refused (hv.trans hverdict)
      (ho.noted hs.keyed hrev (hunlinked ▸ hnotes) hk'.blockchainTransactions) ht⟩
  | unknown _ _ hverdict hr =>
    exact ⟨_, rfl, .unknown (hv.trans hverdict) (huser _ ▸ hr)
      (ho.noted hs.keyed hrev (hunlinked ▸ hnotes) hk'.blockchainTransactions) ht⟩
  | @matched p recipient u _ _ _ hverdict hr hm hl =>
    obtain ⟨before, after, hsplit, hwaits, holdest⟩ := Ledger.pendingMatch?_eq_some_iff.1 hm
    rw [huser] at hr hl
    exact ⟨_, rfl, .linked (hv.trans hverdict) hr (ht ▸ hsplit) hwaits holdest
      (ho.noted hs.keyed hrev (hnotes.trans hl.toNotes rfl) hk'.blockchainTransactions)
      (hl.replaced (v := u) rfl hsplit hk₂.transactions)⟩
  | @created p recipient u _ _ _ hverdict hr hm hu hl =>
    rw [huser] at hr hu
    have hrows := hl.appended rfl hk'.transactions
    have hnotes' : s₂.ledger.Notes ((c.seen log.block).linkedTo u.id) [] s'.ledger :=
      ⟨hl.blockchainTransaction, hl.ids', hl.records, hl.checkpoints, hl.users, hl.contents⟩
    refine ⟨_, rfl, .created (hv.trans hverdict) hr (ht ▸ Ledger.pendingMatch?_eq_none_iff.1 hm) (fun v hm' hi => ?_)
      (ho.noted hs.keyed hrev (hnotes.trans hnotes' rfl) hk'.blockchainTransactions) ?_⟩
    · have hnext := hk₂.transaction?_next .transaction
      have hid : v.id = s₂.supply.next .transaction := by
        rw [hi, hu]
        rfl
      rw [← hid, Ledger.transaction?_of_mem hk₂.transactions (ht ▸ hm')] at hnext
      cases hnext
    · rw [hrows, ht, hu]
      rfl

/-! ## The whole log -/

theorem Log.Tells.applicable? {index : Int} (ht : log.Tells d index e) (hb : log.block ≤ Text.maxSigned64) :
    d.applicable? log = some ((log.block : Int), (log.index : Int), e) :=
  Deployment.applicable?_eq_some_iff.2 ⟨ht.stands, ht.emitter, storedNumber?_eq_some_iff.2 ⟨hb, rfl⟩,
    storedNumber?_eq_some_iff.2 ⟨ht.range, rfl⟩, ht.event⟩

/-- A log that nobody claims is decided by what it tells and by what is on file. -/
theorem Log.decides_unclaimed {reader : Reader} {index : Int} (hs : s.Proper) (hf : s.faults = .none)
    (hn : s.ledger.Unclaimed d.chain log.hash.spelling) (ht : log.Tells d index e)
    (hb : log.block ≤ Text.maxSigned64) :
    ∃ a s', (applyLog d log).alone reader s = (.ok a, s') ∧ log.Decides d e s.ledger a s'.ledger := by
  obtain ⟨r, s', hy, -⟩ := Work.clean_applyEvent_unclaimed log.block log.index e
    (Payment.screen d.settings s.ledger.content? e) hs.keyed hn hf
  obtain ⟨a, rfl, hdec⟩ := Log.decides_applied hs hn rfl hy
  have ha := ht.applicable? hb
  exact ⟨a, s', (Process.alone_applyLog_of_applied ha hy).1, hdec⟩

/-- The session where contents are those of a table. -/
def Session.knowing (s : Session) (contents : List (String × Id)) : Session :=
  { s with ledger := { s.ledger with contents := contents } }

theorem Session.Proper.knowing (hs : s.Proper) (contents : List (String × Id)) : (s.knowing contents).Proper where
  keyed := ⟨hs.keyed.transactions, hs.keyed.blockchainTransactions, hs.keyed.taken, hs.keyed.taken'⟩
  sound := ⟨hs.sound.linked, hs.sound.unlinked, hs.sound.expected, hs.sound.ended, hs.sound.remarked⟩

end

namespace Donation

/-- A donation for the content, promised before it is known where on the chain it will be made. -/
def promise : TransactionDraft Id := { draft with target := some (.issued .content 1) }

/-- The donation is promised. -/
def promised : System := ⟨(filed.session.commit (Work.createTransaction promise)).2, [], []⟩

theorem promised_reachable (r : Registry) : promised.Reachable r :=
  .tail (filed_reachable r) (.create promise ⟨rfl, nofun⟩)

end Donation

namespace System

variable {r : Registry} {w : System} {d : Deployment} {log : Log} {e : Event} {index : Int}

/-- Whatever happened before and whatever contents there are, a log that tells of an event and that no transaction
settles through or expects is decided in one of four ways: its event is refused, or its creator is unknown, and no
transaction changes; or it pays for the oldest transaction that waits for such a payment; or it is a new donation. -/
theorem unclaimed_log_decided (hw : w.Reachable r) (contents : List (String × Id)) (reader : Reader)
    (hn : w.session.ledger.Unclaimed d.chain log.hash.spelling) (ht : log.Tells d index e)
    (hb : log.block ≤ Text.maxSigned64) :
    ∃ a s', (applyLog d log).alone reader (w.session.calm.knowing contents) = (.ok a, s') ∧
      log.Decides d e (w.session.calm.knowing contents).ledger a s'.ledger :=
  Log.decides_unclaimed (hw.ready.toProper.knowing contents) rfl hn ht hb

/-- The log pays for the donation that was promised. -/
theorem promised_donation_decided : Donation.promised.Reachable [] ∧
    ∃ s', (applyLog Donation.deployment Donation.log).alone Donation.node
      (Donation.promised.session.calm.knowing [("a", .issued .content 1)]) =
        (.ok (.linked (.issued .transaction 1)), s') := by
  have hw := Donation.promised_reachable []
  have hunclaimed : Donation.promised.session.ledger.Unclaimed Donation.deployment.chain
      Donation.log.hash.spelling := fun c hc => by cases hc
  obtain ⟨a, s', hrun, hdec⟩ := unclaimed_log_decided hw [("a", .issued .content 1)] Donation.node hunclaimed
    Donation.log_tells (by decide)
  have hscreen : Payment.screen Donation.deployment.settings
      (Donation.promised.session.calm.knowing [("a", .issued .content 1)]).ledger.content? Donation.event =
        .ok Donation.payment := by rfl
  have hcreator : (Donation.promised.session.calm.knowing [("a", .issued .content 1)]).ledger.user?
      Donation.event.creator.spelling = some (.issued .user 1) := by decide +kernel
  refine ⟨hw, s', ?_⟩
  cases hdec with
  | refused hs => exact nomatch hscreen.symm.trans hs
  | unknown _ hr => exact nomatch hcreator.symm.trans hr
  | @linked _ _ before after u _ _ _ _ place =>
    have hids : ∀ v ∈ Donation.promised.session.ledger.transactions, v.id = .issued .transaction 1 := by
      decide +kernel
    have hu : u ∈ Donation.promised.session.ledger.transactions := by
      rw [show Donation.promised.session.ledger.transactions = _ from place]
      simp
    rw [← hids u hu]
    exact hrun
  | created hs hr hnone =>
    obtain rfl := Except.ok.inj (hscreen.symm.trans hs)
    obtain rfl := Option.some.inj (hcreator.symm.trans hr)
    have hwaits : Donation.promised.session.ledger.transactions.any
        (Donation.payment.criteria (.issued .user 1)).admits = true := by decide +kernel
    obtain ⟨v, hv, ha⟩ := List.any_eq_true.1 hwaits
    exact absurd (Payment.admits_criteria_iff.1 ha) (hnone v hv)

end System

end DonationLedger
