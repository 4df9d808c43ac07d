import DonationLedger.Proofs.Follow.Walk
import DonationLedger.Proofs.Text.Spelling

/-!
# No credit without payment

A transaction succeeds only by an event that pays for it. Two ways lead there, and one of them creates the
transaction: a receipt is searched for the first event that pays what is expected, or a log is matched
with what is pending. The second never looks at the recipient's address. It is right because no user has two
addresses and no address two users (`Session.Filed`). Nothing else is asked of the rows (`Session.Keyed` says
that ids are keys), so this holds of ledgers that are not sound, too.
-/

namespace DonationLedger

/-- The deployment is the one that an operation works with, where it is about a blockchain transaction of `chain`. A
job asks the node of that chain. -/
def Operation.Uses (r : Registry) (chain : Chain) : Operation → Deployment → Prop
  | resolve d _ _, e => e = d
  | settle _, e => e.chain = chain ∧ r.find? chain = some e
  | apply d _, e => e = d
  | follow followed, e => r.find? followed = some e

/-- The log is the one, or one of those, that an operation is to apply. -/
inductive Operation.Given (heard : List Told) : Operation → Deployment → Log → Prop
  | apply (d : Deployment) (log : Log) : Given heard (.apply d log) d log
  | follow {d : Deployment} {first last : Option Nat} {logs : List Log} {log : Log}
    (ht : Told.node d.chain (.logs first last) (.ok logs) ∈ heard) (hl : log ∈ logs) :
    Given heard (.follow d.chain) d log

theorem Operation.Given.subset {heard heard' : List Told} {op : Operation} {d : Deployment} {log : Log}
    (h : op.Given heard d log) (hh : heard ⊆ heard') : op.Given heard' d log := by
  cases h with
  | apply => exact .apply d log
  | follow ht hl => exact .follow (hh ht) hl

/-- The log pays for `t`: it stands, the contract wrote it, its event is accepted as the payment `p`, and `p` is
what `t` is about. It is the given log of the blockchain transaction `b` that settles `t`, or one of the receipt
of `b`, and is on record. -/
structure Paid (r : Registry) (op : Operation) (heard : List Told) (l : Ledger) (t : Transaction)
    (b : BlockchainTransaction) (d : Deployment) (log : Log) (e : Event) (contents : String → Option Id)
    (p : Payment) : Prop where
  settles : b ∈ l.blockchainTransactions ∧ b.transaction = some t.id
  deployment : op.Uses r b.chain d
  source : (op.Given heard d log ∧ log.hash.spelling = b.hash) ∨
    ∃ hash, ∃ receipt : Receipt, FixedBytes.parse? 32 b.hash = some hash ∧
      Told.node d.chain (.receipt hash) (.ok (some receipt)) ∈ heard ∧ log ∈ receipt.logs
  stands : log.removed = false
  emitter : log.address = d.contract
  event : Event.ofLog log = .ok e
  known : ∀ ref id, contents ref = some id → Told.content ref (.ok (some id)) ∈ heard
  accepted : Payment.screen d.settings contents e = .ok p
  recipient : l.address? t.recipient = some e.creator.spelling
  currency : Text.sameAscii t.currency p.currency = true
  amount : t.amount.same p.amount = true
  target : t.target = none ∨ t.target = some p.content
  recorded : ∃ q ∈ l.records, q.blockchainTransaction = b.id ∧ q.index = log.index

/-- Every transaction that succeeded between `l` and `l'` is paid for. -/
def Ledger.PaidSince (r : Registry) (op : Operation) (heard : List Told) (l l' : Ledger) : Prop :=
  ∀ t ∈ l'.transactions, t.state = .succeeded →
    (∀ u ∈ l.transactions, u.id = t.id → u.state = .pending) →
    ∃ b d log e contents p, Paid r op heard l' t b d log e contents p

/-! ## What the checks check -/

theorem Payment.mismatch?_none {t : Transaction} {address : Option String} {e : Event} {p : Payment}
    (h : Payment.mismatch? t address e p = none) :
    address.bind (FixedBytes.parse? 20) = some e.creator ∧ Text.sameAscii t.currency p.currency = true ∧
      t.amount.same p.amount = true ∧ (t.target = none ∨ t.target = some p.content) := by
  unfold mismatch? at h
  split at h
  · cases h
  · rename_i hr
    split at h
    · cases h
    · rename_i hc
      split at h
      · cases h
      · rename_i ha
        refine ⟨Decidable.not_not.1 hr, by simpa using hc, by simpa using ha, ?_⟩
        split at h
        · rename_i target ht
          split at h
          · rename_i hp
            exact .inr (by rw [ht, hp])
          · cases h
        · rename_i ht
          exact .inl ht

theorem Observed.paying?_some {os : List Observed} {t : Transaction} {address : Option String} {o : Observed}
    (h : Observed.paying? os t address = some o) :
    o ∈ os ∧ ∃ p, o.verdict = .ok p ∧ Payment.mismatch? t address o.event p = none := by
  refine ⟨List.mem_of_find?_eq_some h, ?_⟩
  have hn := List.find?_some h
  unfold rejection? at hn
  split at hn
  · cases hn
  · rename_i p hp
    exact ⟨p, hp, by simpa using hn⟩

/-- A verdict that accepts comes from a table of the contents that were told. -/
theorem Event.Screened.accepted {d : Deployment} {heard : List Told} {e : Event} {p : Payment}
    (h : e.Screened d (fun ref found => Told.content ref (.ok found) ∈ heard) (.ok p)) :
    ∃ contents : String → Option Id,
      (∀ ref id, contents ref = some id → Told.content ref (.ok (some id)) ∈ heard) ∧
      Payment.screen d.settings contents e = .ok p := by
  unfold Event.Screened at h
  split at h
  · cases h
  · rename_i ref hr
    obtain ⟨found, hf, hv⟩ := h
    refine ⟨fun ref' => if ref' = ref then found else none, fun ref' id hi => ?_, ?_⟩
    · simp only at hi
      split at hi
      · rename_i he
        rw [he, ← hi]
        exact hf
      · cases hi
    · unfold Payment.screen
      rw [hr, hv]
      show Payment.priced d.settings e (if ref = ref then found else none) = _
      rw [if_pos rfl]

/-! ## Ledger transactions -/

theorem Stored.not_succeeded {c : BlockchainTransaction} {u v : Transaction} {o : Option Outcome}
    (h : Stored c u o v) (hu : u.state = .pending) : v.state ≠ .succeeded := by
  cases h with
  | ended ho =>
    rw [hu] at ho
    cases ho
  | reverted => simp
  | undecided => simp [hu]

namespace Ledger

variable {r : Registry} {op : Operation} {heard : List Told} {l l' : Ledger}

theorem PaidSince.of_transactions (h : l'.transactions = l.transactions) : l.PaidSince r op heard l' := by
  intro t ht hs hn
  have := hn t (h ▸ ht) rfl
  rw [hs] at this
  cases this

theorem PaidSince.congr_left {l₁ : Ledger} (h : l₁.transactions = l.transactions)
    (hp : l₁.PaidSince r op heard l') : l.PaidSince r op heard l' := by
  intro t ht hs hn
  exact hp t ht hs fun u hu => hn u (h ▸ hu)

/-- Only the rewritten transaction can have succeeded. -/
theorem PaidSince.of_rewritten {v : Transaction} (hk : (l'.transactions.map Transaction.id).Nodup)
    (ht : ∀ i, l'.transaction? i = if i = v.id then some v else l.transaction? i)
    (hv : v.state = .succeeded → (∀ u, l.transaction? v.id = some u → u.state = .pending) →
      ∃ b d log e contents p, Paid r op heard l' v b d log e contents p) : l.PaidSince r op heard l' := by
  intro t hm hs hn
  have htt := ht t.id
  rw [transaction?_of_mem hk hm] at htt
  split at htt
  · rename_i hi
    obtain rfl := Option.some.inj htt
    refine hv hs fun u hu => ?_
    obtain ⟨hum, hui⟩ := transaction?_mem hu
    exact hn u hum hui
  · have := hn t (transaction?_mem htt.symm).1 rfl
    rw [hs] at this
    cases this

theorem exists_record_addRecords (l : Ledger) {rs : List AuditRecord} {q : AuditRecord} (h : q ∈ rs) :
    ∃ q' ∈ (l.addRecords rs).records,
      q'.blockchainTransaction = q.blockchainTransaction ∧ q'.index = q.index := by
  induction rs generalizing l with
  | nil => simp at h
  | cons x rs ih =>
    rcases List.mem_cons.1 h with rfl | h
    · obtain ⟨q', hq', hk⟩ := exists_record_addRecord l q
      exact ⟨q', mem_records_addRecords rs hq', hk⟩
    · exact ih (l.addRecord x) h

end Ledger

section
variable {s s' : Session} {b t : Id} {r : Registry} {op : Operation} {heard : List Told} {d : Deployment}

/-- The address on file of a user. -/
theorem Session.Filed.address (h : s.Filed) {id : Id} {a : String} (ha : s.ledger.address? id = some a)
    {v : Address} (hv : FixedBytes.parse? 20 a = some v) : a = v.spelling := by
  obtain ⟨v', rfl⟩ := h.spelled a (List.mem_map_of_mem (f := Prod.fst) (Ledger.address?_mem ha))
  rw [FixedBytes.parse?_spelling] at hv
  rw [Option.some.inj hv]

/-- A user who is found by an address has it on file. -/
theorem Session.Filed.user (h : s.Filed) {id : Id} {v : Address}
    (hu : s.ledger.user? (Text.lowercase v.spelling) = some id) : s.ledger.address? id = some v.spelling := by
  rw [FixedBytes.lowercase_spelling] at hu
  exact Ledger.address?_of_mem h.owners (Ledger.user?_mem hu)

/-- What is stored never pays for anything. -/
theorem paidSince_openPair {p : BlockchainTransaction × Option Outcome} (hk : s'.Keyed)
    (hy : (Work.openPair b t).Yields s p s') : s.ledger.PaidSince r op heard s'.ledger := by
  obtain ⟨c, u, v, hp, -, hv, hl⟩ := Work.openPair_rewrites hy
  refine .of_rewritten hk.transactions hl.transaction fun hs hn => ?_
  exact absurd hs (hv.not_succeeded (hn u (hv.id ▸ (Ledger.transaction?_mem hp.transaction).2 ▸ hp.transaction)))

/-- A receipt pays by the event that was picked. -/
theorem paidSince_closePair {hash : Hash} {receipt : Receipt} {block : Int} {os : List Observed} {o : Outcome}
    (hf : s.Filed) (hk : s'.Keyed)
    (hb : ∀ c, s.ledger.blockchainTransaction? b = some c →
      op.Uses r c.chain d ∧ FixedBytes.parse? 32 c.hash = some hash)
    (hr : Told.node d.chain (.receipt hash) (.ok (some receipt)) ∈ heard)
    (ho : Observes d (fun ref found => Told.content ref (.ok found) ∈ heard)
      (if receipt.reverted then [] else receipt.logs) os)
    (hy : (Work.closePair b t receipt block os).Yields s o s') :
    s.ledger.PaidSince r op heard s'.ledger := by
  obtain ⟨c, u, v, e, rs, hp, hc, hl⟩ := Work.closePair_rewrites hy
  have hut := (Ledger.transaction?_mem hp.transaction).2
  refine .of_rewritten hk.transactions hl.transaction fun hs hn => ?_
  have hu : u.state = .pending := hn u (by rw [hc.id, hut]; exact hp.transaction)
  have hm := (Ledger.blockchainTransaction?_mem hl.blockchainTransaction_self).1
  cases hc with
  | stored hv => exact absurd hs (hv.not_succeeded hu)
  | reverted => cases hs
  | unpaid => cases hs
  | @paid o _ _ hrev ho' =>
    obtain ⟨hos, p, hv, hmis⟩ := Observed.paying?_some ho'
    obtain ⟨log, hlog, hobs, hscr⟩ := ho.mem hos
    obtain ⟨hrem, hem, hidx, hev⟩ := observable?_eq_some_iff.1 hobs
    obtain ⟨-, hidx⟩ := storedNumber?_eq_some_iff.1 hidx
    obtain ⟨hadr, hcur, ham, htar⟩ := Payment.mismatch?_none hmis
    rw [hv] at hscr
    obtain ⟨contents, hknown, hacc⟩ := hscr.accepted
    rw [hrev] at hlog
    obtain ⟨a, ha, hpa⟩ := Option.bind_eq_some_iff.1 hadr
    obtain ⟨q, hq, hqb, hqi⟩ := s.ledger.exists_record_addRecords
      (List.mem_map_of_mem (f := fun o : Observed => o.event.record c.id o.index) hos)
    obtain ⟨hd, hparse⟩ := hb c hp.blockchainTransaction
    refine ⟨_, d, log, o.event, contents, p, ⟨⟨hm, ?_⟩, hd, .inr ⟨hash, receipt, hparse, hr, hlog⟩, hrem, hem, hev,
      hknown, hacc, ?_, ?_, ?_, ?_, q, ?_, hqb, hqi.trans hidx⟩⟩
    · simp [BlockchainTransaction.told, BlockchainTransaction.linkedTo, Work.filled, hut]
    · show s'.ledger.address? _ = _
      unfold Ledger.address? at ha ⊢
      rw [hl.users]
      simpa [hf.address ha hpa] using ha
    · simpa using hcur
    · simpa using ham
    · simpa using htar
    · rw [hl.records]
      exact hq

/-- A log that is credited pays by its own event. -/
theorem paidSince_applyEvent {log : Log} {block index : Int} {e : Event} {verdict : Except InvalidReason Payment}
    {x : LogStep} (hk : s.Keyed) (hf : s.Filed) (hk' : s'.Keyed) (hd : ∀ chain, op.Uses r chain d)
    (hg : op.Given heard d log)
    (hrem : log.removed = false) (hem : log.address = d.contract) (hx : storedNumber? log.index = some index)
    (he : Event.ofLog log = .ok e)
    (hv : e.Screened d (fun ref found => Told.content ref (.ok found) ∈ heard) verdict)
    (hy : (Work.applyEvent d.chain log.hash.spelling block index e verdict).Yields s x s') :
    s.ledger.PaidSince r op heard s'.ledger := by
  obtain ⟨c, s₁, s₂, hc, hk₂, -, ht, hn, hcr⟩ := Work.applyEvent_credited hk hy
  have hf₂ : s₂.ledger.users = s.ledger.users := hn.users.trans hc.users
  obtain ⟨q, hq, hqb, hqi⟩ := s₁.ledger.exists_record_addRecords
    (List.mem_singleton_self (e.record c.id index))
  rw [← hn.records] at hq
  have howner {id : Id} (hu : s₂.ledger.user? (Text.lowercase e.creator.spelling) = some id) :
      s₂.ledger.address? id = some e.creator.spelling := by
    rw [Ledger.user?_of_users hf₂] at hu
    rw [Ledger.address?_of_users hf₂]
    exact hf.user hu
  -- What is paid for is paid by this log, and only the link and the state are new.
  have hpaid {v : Transaction} {p : Payment} {l : Ledger}
      (hl : l.Rewrites v ((c.seen block).linkedTo v.id) [] s'.ledger)
      (hlr : l.records = s₂.ledger.records) (hlu : l.users = s₂.ledger.users) (hp : verdict = .ok p)
      (hrec : s₂.ledger.address? v.recipient = some e.creator.spelling)
      (hcur : Text.sameAscii v.currency p.currency = true) (ham : v.amount.same p.amount = true)
      (htar : v.target = some p.content) :
      ∃ b d log e contents p, Paid r op heard s'.ledger v b d log e contents p := by
    subst hp
    obtain ⟨contents, hknown, hacc⟩ := hv.accepted
    have hm := (Ledger.blockchainTransaction?_mem hl.blockchainTransaction_self).1
    refine ⟨_, d, log, e, contents, p, ⟨⟨hm, rfl⟩, hd _, .inl ⟨hg, hc.hash_eq.symm⟩, hrem, hem, he, hknown, hacc, ?_,
      hcur, ham, .inr htar, q, ?_, hqb, hqi.trans (storedNumber?_eq_some_iff.1 hx).2⟩⟩
    · rw [Ledger.address?_of_users (hl.users.trans hlu)]
      exact hrec
    · rw [hl.records, show (l.addRecords []).records = l.records from rfl, hlr]
      exact hq
  refine .congr_left (ht.trans hc.transactions) ?_
  cases hcr with
  | expected => exact .of_transactions rfl
  | settled => exact .of_transactions rfl
  | invalid => exact .of_transactions rfl
  | unknown => exact .of_transactions rfl
  | @matched p recipient u _ hnone hex hok hr hm hl =>
    refine .of_rewritten hk'.transactions hl.transaction fun _ _ => ?_
    have hadm := (Ledger.pendingMatch?_some hm).2
    simp only [PaymentCriteria.admits, Payment.criteria, Bool.and_eq_true, beq_iff_eq] at hadm
    obtain ⟨⟨⟨⟨⟨⟨-, -⟩, hrec⟩, htar⟩, hcur⟩, ham⟩, -⟩ := hadm
    exact hpaid hl rfl rfl hok (hrec ▸ howner hr) (hcur ▸ Text.sameAscii_refl _) ham htar
  | @created p recipient u _ hnone hex hok hr hm hu hl =>
    have hnew : s₂.ledger.transaction? u.id = none := by
      rw [hu]
      exact hk₂.transaction?_next _
    refine .of_rewritten hk'.transactions (v := u) (fun i => ?_) fun _ _ => ?_
    · rw [hl.transaction, Ledger.transaction?_addTransaction _ _ _ hnew]
      split <;> rfl
    · subst hu
      exact hpaid hl rfl rfl hok (howner hr) (Text.sameAscii_refl _) (Decimal.same_refl _) rfl

end

/-! ## Operations -/

/-- No operation lets a transaction succeed that is not paid for. -/
def paying (o : Outside) : Regime o where
  others := Session.Later
  own op heard s s' :=
    s.Later s' ∧ (s.Keyed → s.Filed → s.ledger.PaidSince o.registry op heard s'.ledger)
  post _ := Process.anyEnd
  refl := .refl
  trans := .trans
  expected := And.left

section
variable {o : Outside} {op : Operation} {s : Session} {h : List Told} {d : Deployment}

theorem paying_idles : ((paying o).terms op).Idles := fun _ _ _ hl hs =>
  ⟨.of_ledger_eq hl hs, fun _ _ => .of_transactions (by rw [hl])⟩

/-- The deployment has to be the right one for what is under the id of the blockchain transaction later. -/
theorem paying_resolveReceipt {b t : Id} (hk : s.Keyed)
    (hd : ∀ s', s.Later s' → ∀ c, s'.ledger.blockchainTransaction? b = some c → op.Uses o.registry c.chain d) :
    (resolveReceipt d b t).Meets ((paying o).terms op) Process.anyEnd h s := by
  refine Process.meets_resolveReceipt
    (fun c s₁ => s₁.Keyed ∧ s.Later s₁ ∧ ∃ e, s₁.ledger.blockchainTransaction? b = some e ∧ e.hash = c.hash)
    paying_idles ?_ ?_
  · intro s₁ p s₂ hs₁ hy
    have hl := (Work.lasting_openPair b t).later hy
    have hk₂ := hl.keyed (hs₁.keyed hk)
    refine ⟨⟨hl, fun _ _ => paidSince_openPair hk₂ hy⟩, fun _ => ⟨hk₂, hs₁.trans hl, ?_⟩⟩
    obtain ⟨c, u, v, hp, hpc, hv, hr⟩ := Work.openPair_rewrites hy
    refine ⟨c.linkedTo t, ?_, by rw [hpc]⟩
    rw [← (Ledger.blockchainTransaction?_mem hp.blockchainTransaction).2]
    exact hr.blockchainTransaction_self
  · intro s₁ c hash receipt block os h' s₂ out s₃ ⟨hk₁, hs₁, e, he, hec⟩ hp _ hr hob _ hs₂ hy
    have hl := (Work.lasting_closePair b t receipt block os).later hy
    refine ⟨hl, fun hk₂ hf₂ => paidSince_closePair hf₂ (hl.keyed hk₂) (fun c' hc' => ?_) hr hob hy⟩
    refine ⟨hd s₂ (hs₁.trans hs₂) c' hc', ?_⟩
    -- The hash that was asked for is still the hash of the row that is closed.
    obtain ⟨e', he', hee⟩ := hs₂.follows.blockchainTransactions b e he
    obtain rfl : e' = c' := Option.some.inj (he'.symm.trans hc')
    rw [hee.hash, hec]
    exact hp

theorem paying_applyLog {log : Log} (hk : s.Keyed) (hd : ∀ chain, op.Uses o.registry chain d) (hg : op.Given h d log) :
    (applyLog d log).Meets ((paying o).terms op) Process.anyEnd h s := by
  refine Process.meets_applyLog paying_idles ?_
  intro s₁ block index e verdict h' r s₂ hrem hem _ hx he hh hv hs₁ hy
  have hl := (Work.lasting_applyEvent _ _ _ _ _ _).later hy
  refine ⟨⟨hl, fun hk₁ hf₁ => ?_⟩, fun b t _ => paying_resolveReceipt (hl.keyed (hs₁.keyed hk)) fun _ _ _ _ => hd _⟩
  exact paidSince_applyEvent hk₁ hf₁ (hl.keyed hk₁) hd (hg.subset hh) hrem hem hx he hv hy

theorem paying_process (hk : s.Keyed) :
    (op.process o.registry).Meets ((paying o).terms op) Process.anyEnd h s := by
  cases op with
  | resolve d b t => exact paying_resolveReceipt hk fun _ _ _ _ => rfl
  | settle t =>
    refine Process.meets_settle paying_idles fun d c s₁ hs₁ hy hd => paying_resolveReceipt (hs₁.keyed hk) ?_
    -- The row that the transaction names is of the chain that was looked up, and stays on it.
    obtain ⟨-, _, _, -, -, -, -, hc⟩ := Work.yields_findExpected.1 hy
    rw [← (Ledger.blockchainTransaction?_mem hc).2] at hc
    intro s₂ hs₂ c' hc'
    obtain ⟨c'', hc'', hf⟩ := hs₂.follows.blockchainTransactions c.id c hc
    obtain rfl : c'' = c' := Option.some.inj (hc''.symm.trans hc')
    rw [hf.chain]
    exact ⟨Registry.chain_of_find? hd, hd⟩
  | apply d log => exact paying_applyLog hk (fun _ => rfl) (.apply d log)
  | follow chain =>
    refine Process.meets_follow paying_idles And.left ?_ ?_
    · intro d first last logs log h' s' hd ht hl hs'
      have := Registry.chain_of_find? hd
      subst this
      exact paying_applyLog (hs'.keyed hk) (fun _ => hd) (.follow ht hl)
    · intro block h' s₁ s₂ _ hy
      refine ⟨(Work.lasting_raiseCheckpoint chain block).later hy, fun _ _ => .of_transactions ?_⟩
      rw [(Work.yields_raiseCheckpoint.1 hy).2]
      rfl

theorem paying_callers : (paying o).Callers := Regime.callers_of_later fun _ _ => id

end

/-- No credit without payment. Begin with any rows under ids that are keys, and no users but those added later.
Whatever is asked for and answered, in whatever order: where a step of an operation lets a transaction
succeed, or creates one that has succeeded, some log pays for it. -/
theorem System.credited_only_if_paid (o : Outside) {w₀ w w' : System} {k : Nat} {t : Transaction}
    (hk : w₀.session.Keyed) (hu : w₀.session.ledger.users = []) (ht : w₀.tasks = []) (hr : w₀.Reaches o w)
    (ha : w.Advance o k w') (hm : t ∈ w'.session.ledger.transactions) (hs : t.state = .succeeded)
    (hn : ∀ u ∈ w.session.ledger.transactions, u.id = t.id → u.state = .pending) :
    ∃ task, w'.tasks[k]? = some task ∧ ∃ b d log e contents p,
      Paid o.registry task.operation task.heard w'.session.ledger t b d log e contents p := by
  have hf : w₀.session.Filed := by
    refine ⟨?_, ?_, ?_, ?_⟩ <;> simp [hu]
  obtain ⟨hkept, hl⟩ := Regime.kept_reaches (m := paying o) Session.Keyed paying_callers
    (fun hk hs => hs.keyed hk) (fun op s _ hk => paying_process hk) (fun x hx => by simp [ht] at hx) hk hr
  rcases (Regime.kept_advance hkept ha).2 with he | ⟨task, htask, -, hpaid⟩
  · rw [he] at hm
    have := hn t hm rfl
    rw [hs] at this
    cases this
  · exact ⟨task, htask, hpaid (hl.keyed hk) (hl.filed hf) t hm hs hn⟩

/-- A donation that was not waited for is paid by the log that it was created for. -/
theorem System.donation_paid : Donation.transaction ∈ Donation.credited.session.ledger.transactions ∧
    ∃ task, Donation.credited.tasks[0]? = some task ∧ ∃ b d log e contents p,
      Paid [Donation.deployment] task.operation task.heard Donation.credited.session.ledger
        Donation.transaction b d log e contents p := by
  have hk : System.empty.session.Keyed := ⟨List.nodup_nil, List.nodup_nil, nofun, nofun⟩
  have hm : Donation.transaction ∈ Donation.credited.session.ledger.transactions := by decide +kernel
  have hn : Donation.noticed.session.ledger.transactions = [] := rfl
  exact ⟨hm, System.credited_only_if_paid (.any [Donation.deployment]) hk rfl rfl
    (Donation.noticed_reachable _) (Donation.noticed_advance _) hm rfl (by simp [hn])⟩

end DonationLedger
