import DonationLedger.Proofs.Resolution.Failing
import DonationLedger.Proofs.Resolution.Resume
import DonationLedger.Proofs.Text.Spelling

/-!
# What a receipt decides

A pending transaction and the blockchain transaction that it may be settled by are decided by the receipt, whatever
else is on file. `Receipt.Decides` lists the four ends by what the receipt and its logs say, without the steps that
lead there: a reverted receipt fails the transaction, unless a log of it was seen before; any other settles it by the
first of its events that pays (`Log.Pays`), and cancels it where none does. Logs that were taken back, that are of
another contract or tell of no event decide nothing and leave no record.
-/

namespace DonationLedger

/-! ## The first of a list -/

section
variable {α β : Type} {P : α → Prop}

/-- The first of the list that has the property. -/
def IsFirst (P : α → Prop) (as : List α) (a : α) : Prop :=
  ∃ before after, as = before ++ a :: after ∧ P a ∧ ∀ x ∈ before, ¬ P x

theorem not_isFirst_nil (a : α) : ¬ IsFirst P [] a := by
  rintro ⟨before, after, h, -⟩
  simp at h

theorem isFirst_cons {x a : α} {as : List α} :
    IsFirst P (x :: as) a ↔ (P x ∧ x = a) ∨ (¬ P x ∧ IsFirst P as a) := by
  constructor
  · rintro ⟨before, after, h, ha, hn⟩
    cases before with
    | nil =>
      obtain ⟨rfl, rfl⟩ := List.cons.inj h
      exact .inl ⟨ha, rfl⟩
    | cons y before =>
      obtain ⟨rfl, rfl⟩ := List.cons.inj h
      exact .inr ⟨hn x List.mem_cons_self, before, after, rfl, ha, fun z hz => hn z (List.mem_cons_of_mem _ hz)⟩
  · rintro (⟨hx, rfl⟩ | ⟨hx, before, after, rfl, ha, hn⟩)
    · exact ⟨[], as, rfl, hx, by simp⟩
    · refine ⟨x :: before, after, rfl, ha, fun z hz => ?_⟩
      rcases List.mem_cons.1 hz with rfl | hz
      · exact hx
      · exact hn z hz

theorem IsFirst.holds {as : List α} {a : α} (h : IsFirst P as a) : P a := by
  obtain ⟨_, _, -, ha, -⟩ := h
  exact ha

theorem exists_isFirst {as : List α} (h : ∃ a ∈ as, P a) : ∃ a, IsFirst P as a := by
  induction as with
  | nil =>
    obtain ⟨a, ha, -⟩ := h
    exact nomatch ha
  | cons x as ih =>
    by_cases hx : P x
    · exact ⟨x, isFirst_cons.2 (.inl ⟨hx, rfl⟩)⟩
    · obtain ⟨a, ha, hp⟩ := h
      have hmem : a ∈ as := (List.mem_cons.1 ha).resolve_left fun he => hx (he ▸ hp)
      obtain ⟨b, hb⟩ := ih ⟨a, hmem, hp⟩
      exact ⟨b, isFirst_cons.2 (.inr ⟨hx, hb⟩)⟩

theorem find?_eq_some_iff_isFirst {p : α → Bool} {as : List α} {a : α} :
    as.find? p = some a ↔ IsFirst (fun x => p x = true) as a := by
  rw [List.find?_eq_some_iff_append]
  constructor
  · rintro ⟨ha, before, after, rfl, hn⟩
    exact ⟨before, after, rfl, ha, fun x hx => by simpa using hn x hx⟩
  · rintro ⟨before, after, rfl, ha, hn⟩
    exact ⟨ha, before, after, rfl, fun x hx => by simpa using hn x hx⟩

/-- What is first of the images is the image of what is first to have such an image. -/
theorem isFirst_filterMap {f : α → Option β} {P : β → Prop} {as : List α} {b : β} :
    IsFirst P (as.filterMap f) b ↔ ∃ a, IsFirst (fun x => ∃ y, f x = some y ∧ P y) as a ∧ f a = some b := by
  induction as with
  | nil => simp [not_isFirst_nil]
  | cons x as ih =>
    rw [List.filterMap_cons]
    simp only [isFirst_cons]
    cases hx : f x with
    | none => simp [ih]
    | some y =>
      simp only [isFirst_cons, ih, Option.some.injEq, exists_eq_left']
      constructor
      · rintro (⟨hy, rfl⟩ | ⟨hy, a, ha, hf⟩)
        · exact ⟨x, .inl ⟨hy, rfl⟩, hx⟩
        · exact ⟨a, .inr ⟨hy, ha⟩, hf⟩
      · rintro ⟨a, ⟨hy, rfl⟩ | ⟨hy, ha⟩, hf⟩
        · exact .inl ⟨hy, Option.some.inj (hx.symm.trans hf)⟩
        · exact .inr ⟨hy, a, ha, hf⟩

end

/-! ## Records -/

/-- Of several records for one log the first is stored, unless there is one already. -/
theorem Ledger.records_addRecords (l : Ledger) (rs : List AuditRecord) :
    ∃ news, (l.addRecords rs).records = l.records ++ news ∧ (news.map AuditRecord.place).Nodup ∧
      ∀ q, q ∈ news ↔ IsFirst (fun r => r.place = q.place) rs q ∧ ∀ p ∈ l.records, p.place ≠ q.place := by
  induction rs generalizing l with
  | nil => exact ⟨[], by simp [addRecords], List.nodup_nil, fun q => by simp [not_isFirst_nil]⟩
  | cons r rs ih =>
    obtain ⟨news, hrec, hnd, hmem⟩ := ih (l.addRecord r)
    rcases l.records_addRecord_cases r with ⟨⟨p, hp, he⟩, hsame⟩ | ⟨hnone, hnew⟩
    · refine ⟨news, hrec.trans (by rw [hsame]), hnd, fun q => ?_⟩
      rw [hmem, hsame, isFirst_cons]
      constructor
      · rintro ⟨hq, hn⟩
        exact ⟨.inr ⟨fun hr => hn p hp (he.trans hr), hq⟩, hn⟩
      · rintro ⟨⟨-, rfl⟩ | ⟨-, hq⟩, hn⟩
        · exact absurd he (hn p hp)
        · exact ⟨hq, hn⟩
    · simp only [hnew, List.mem_append, List.mem_singleton] at hmem
      refine ⟨r :: news, hrec.trans (by rw [hnew, List.append_assoc, List.singleton_append]), ?_, fun q => ?_⟩
      · rw [List.map_cons, List.nodup_cons]
        refine ⟨fun hr => ?_, hnd⟩
        obtain ⟨q, hq, he⟩ := List.mem_map.1 hr
        exact ((hmem q).1 hq).2 r (.inr rfl) he.symm
      · rw [List.mem_cons, hmem, isFirst_cons]
        constructor
        · rintro (rfl | ⟨hq, hn⟩)
          · exact ⟨.inl ⟨rfl, rfl⟩, hnone⟩
          · exact ⟨.inr ⟨hn r (.inr rfl), hq⟩, fun p hp => hn p (.inl hp)⟩
        · rintro ⟨⟨-, rfl⟩ | ⟨hr, hq⟩, hn⟩
          · exact .inl rfl
          · exact .inr ⟨hq, fun p hp => hp.elim (hn p) fun he => he ▸ hr⟩

/-! ## Logs -/

/-- The log stands, is of the contract and tells of an event, under an index that can be stored. -/
structure Log.Tells (log : Log) (d : Deployment) (index : Int) (e : Event) : Prop where
  stands : log.removed = false
  emitter : log.address = d.contract
  range : log.index ≤ Text.maxSigned64
  index : index = log.index
  event : Event.ofLog log = .ok e

/-- By the settings of the deployment and by what is on file, the event pays for what the transaction expects. -/
def Ledger.Accepts (l : Ledger) (d : Deployment) (u : Transaction) (e : Event) : Prop :=
  ∃ p, Payment.screen d.settings l.content? e = .ok p ∧
    Payment.mismatch? u (l.address? u.recipient) e p = none

/-- The log tells of an event that pays for what the transaction expects. -/
def Log.Pays (log : Log) (d : Deployment) (l : Ledger) (u : Transaction) (e : Event) : Prop :=
  (∃ index, log.Tells d index e) ∧ l.Accepts d u e

/-- The records that a receipt adds: for each index under which an event is told the first one, unless there is a
record for the index already. -/
structure Receipt.Adds (r : Receipt) (d : Deployment) (b : Id) (l : Ledger) (news : List AuditRecord) : Prop where
  mem_iff : ∀ q, q ∈ news ↔ (∃ log e, IsFirst (fun log => ∃ e, log.Tells d q.index e) r.logs log ∧
    log.Tells d q.index e ∧ q = e.record b q.index) ∧ ∀ p ∈ l.records, p.place ≠ (b, q.index)
  distinct : (news.map AuditRecord.place).Nodup
  covered : ∀ log ∈ r.logs, ∀ index e, log.Tells d index e → ∃ q ∈ l.records ++ news, q.place = (b, index)

/-- What a receipt decides about a pair that waits for it, and the ledger then. -/
inductive Receipt.Decides (r : Receipt) (d : Deployment) (t : Id) (c : BlockchainTransaction) (u : Transaction)
    (l : Ledger) : Except Failure Outcome → Ledger → Prop
  | failed {l' : Ledger} (hr : r.reverted = true) (hc : c.state = .pending)
    (rows : l.Rewrites { u.joined c with state := .failed }
      { (c.linkedTo t).told r r.block with state := .reverted } [] l') :
    Decides r d t c u l (.ok .failed) l'
  | refused {l' : Ledger} (hr : r.reverted = true) (hc : c.state = .succeeded)
    (rows : l.Rewrites (u.joined c) (c.linkedTo t) [] l') :
    Decides r d t c u l (.error (.settlement (.invalidTransition "Succeeded" "Reverted"))) l'
  | succeeded {l' : Ledger} {log : Log} {e : Event} {rs news : List AuditRecord} (hr : r.reverted = false)
    (first : IsFirst (fun log => ∃ e, log.Pays d l u e) r.logs log) (pays : log.Pays d l u e)
    (rows : l.Rewrites { u.joined c with state := .succeeded, sender := l.user? e.curator.spelling }
      { (c.linkedTo t).told r r.block with state := .succeeded } rs l')
    (records : l'.records = l.records ++ news) (adds : r.Adds d c.id l news) :
    Decides r d t c u l (.ok .succeeded) l'
  | canceled {l' : Ledger} {rs news : List AuditRecord} (hr : r.reverted = false)
    (unpaid : ∀ log ∈ r.logs, ∀ e, ¬ log.Pays d l u e)
    (rows : l.Rewrites { u.joined c with state := .canceled, remark := some "invalid" }
      { (c.linkedTo t).told r r.block with state := .succeeded } rs l')
    (records : l'.records = l.records ++ news) (adds : r.Adds d c.id l news) :
    Decides r d t c u l (.ok .canceled) l'

section
variable {d : Deployment} {l l' : Ledger} {u : Transaction} {c : BlockchainTransaction} {r : Receipt} {log : Log}
  {index : Int} {e : Event} {b t : Id}

theorem observable?_iff_tells : observable? d log = some (index, e) ↔ log.Tells d index e := by
  rw [observable?_eq_some_iff, storedNumber?_eq_some_iff]
  exact ⟨fun ⟨h₁, h₂, ⟨h₃, h₄⟩, h₅⟩ => ⟨h₁, h₂, h₃, h₄, h₅⟩,
    fun ⟨h₁, h₂, h₃, h₄, h₅⟩ => ⟨h₁, h₂, ⟨h₃, h₄⟩, h₅⟩⟩

/-- The events of a receipt that stands, with what they pay for by what is on file. -/
def Receipt.observed (r : Receipt) (d : Deployment) (l : Ledger) : List Observed :=
  r.logs.filterMap (Observed.ofLog? d l.content?)

theorem Observed.ofLog?_eq_some_iff {content : String → Option Id} {o : Observed} :
    Observed.ofLog? d content log = some o ↔ log.Tells d o.index o.event ∧
      o.verdict = Payment.screen d.settings content o.event := by
  obtain ⟨index, event, verdict⟩ := o
  simp only [ofLog?, Option.map_eq_some_iff, Prod.exists, Observed.mk.injEq, observable?_iff_tells]
  constructor
  · rintro ⟨i, e, h, rfl, rfl, rfl⟩
    exact ⟨h, rfl⟩
  · rintro ⟨h, rfl⟩
    exact ⟨index, event, h, rfl, rfl, rfl⟩

theorem Observed.rejection?_eq_none_iff {o : Observed} {address : Option String} :
    o.rejection? u address = none ↔ ∃ p, o.verdict = .ok p ∧ Payment.mismatch? u address o.event p = none := by
  unfold rejection?
  split
  · rename_i hv
    simp [hv]
  · rename_i p hv
    simp [hv]

/-- An event of the receipt pays exactly if its log does. -/
theorem Log.exists_pays_iff : (∃ e, log.Pays d l u e) ↔
    ∃ o, Observed.ofLog? d l.content? log = some o ∧ (o.rejection? u (l.address? u.recipient)).isNone = true := by
  simp only [Option.isNone_iff_eq_none, Observed.rejection?_eq_none_iff, Observed.ofLog?_eq_some_iff]
  constructor
  · rintro ⟨e, ⟨index, ht⟩, p, hv, hm⟩
    exact ⟨⟨index, e, .ok p⟩, ⟨ht, hv.symm⟩, p, rfl, hm⟩
  · rintro ⟨o, ⟨ht, hv⟩, p, hp, hm⟩
    exact ⟨o.event, ⟨o.index, ht⟩, p, hv.symm.trans hp, hm⟩

/-- The first event that pays is that of the first log that does. -/
theorem Receipt.paying?_some {o : Observed}
    (h : Observed.paying? (r.observed d l) u (l.address? u.recipient) = some o) :
    ∃ log, IsFirst (fun log => ∃ e, log.Pays d l u e) r.logs log ∧ log.Pays d l u o.event := by
  obtain ⟨log, hfirst, ho⟩ := isFirst_filterMap.1 (find?_eq_some_iff_isFirst.1 h)
  obtain ⟨ht, hv⟩ := Observed.ofLog?_eq_some_iff.1 ho
  have hn := List.find?_some h
  obtain ⟨p, hp, hm⟩ := Observed.rejection?_eq_none_iff.1 (Option.isNone_iff_eq_none.1 hn)
  simp only [← Log.exists_pays_iff] at hfirst
  exact ⟨log, hfirst, ⟨_, ht⟩, p, hv.symm.trans hp, hm⟩

theorem Receipt.paying?_none (h : Observed.paying? (r.observed d l) u (l.address? u.recipient) = none) :
    ∀ log ∈ r.logs, ∀ e, ¬ log.Pays d l u e := by
  intro log hlog e he
  obtain ⟨o, ho, hn⟩ := Log.exists_pays_iff.1 ⟨e, he⟩
  exact List.find?_eq_none.1 h o (List.mem_filterMap.2 ⟨log, hlog, ho⟩) hn

/-- The record of a log, if it has one. -/
def Log.record? (d : Deployment) (b : Id) (log : Log) : Option AuditRecord :=
  (observable? d log).map fun p => p.2.record b p.1

theorem Log.record?_eq_some_iff {q : AuditRecord} :
    log.record? d b = some q ↔ ∃ e, log.Tells d q.index e ∧ q = e.record b q.index := by
  simp only [record?, Option.map_eq_some_iff, Prod.exists, observable?_iff_tells]
  constructor
  · rintro ⟨i, e, h, rfl⟩
    exact ⟨e, h, rfl⟩
  · rintro ⟨e, h, hq⟩
    exact ⟨q.index, e, h, hq.symm⟩

theorem Receipt.records_observed (r : Receipt) (d : Deployment) (l : Ledger) (b : Id) :
    (r.observed d l).map (fun o => o.event.record b o.index) = r.logs.filterMap (Log.record? d b) := by
  rw [observed, List.map_filterMap]
  refine congrArg (List.filterMap · r.logs) (funext fun log => ?_)
  rw [Observed.ofLog?, Option.map_map]
  rfl

/-- What is stored of the events of a receipt. -/
theorem Receipt.exists_adds (r : Receipt) (d : Deployment) (b : Id) (l : Ledger) :
    ∃ news, (l.addRecords (r.logs.filterMap (Log.record? d b))).records = l.records ++ news ∧
      r.Adds d b l news := by
  obtain ⟨news, hrec, hnd, hmem⟩ := l.records_addRecords (r.logs.filterMap (Log.record? d b))
  -- a log has a record for an index exactly if it tells of an event under it
  have htells (index : Int) (log : Log) : (∃ p, log.record? d b = some p ∧ p.place = (b, index)) ↔
      ∃ e, log.Tells d index e := by
    simp only [Log.record?_eq_some_iff]
    constructor
    · rintro ⟨p, ⟨e, ht, -⟩, hpl⟩
      obtain rfl : p.index = index := (Prod.mk.inj hpl).2
      exact ⟨e, ht⟩
    · rintro ⟨e, ht⟩
      exact ⟨e.record b index, ⟨e, ht, rfl⟩, rfl⟩
  have hiff (q : AuditRecord) : q ∈ news ↔
      (∃ log e, IsFirst (fun log => ∃ e, log.Tells d q.index e) r.logs log ∧
        log.Tells d q.index e ∧ q = e.record b q.index) ∧ ∀ p ∈ l.records, p.place ≠ (b, q.index) := by
    rw [hmem, isFirst_filterMap]
    constructor
    · rintro ⟨⟨log, hfirst, hq⟩, hn⟩
      obtain ⟨e, ht, he⟩ := Log.record?_eq_some_iff.1 hq
      have hpl : q.place = (b, q.index) := congrArg AuditRecord.place he
      simp only [hpl, htells] at hfirst hn
      exact ⟨⟨log, e, hfirst, ht, he⟩, hn⟩
    · rintro ⟨⟨log, e, hfirst, ht, he⟩, hn⟩
      have hpl : q.place = (b, q.index) := congrArg AuditRecord.place he
      simp only [hpl, htells]
      exact ⟨⟨log, hfirst, Log.record?_eq_some_iff.2 ⟨e, ht, he⟩⟩, hn⟩
  refine ⟨news, hrec, ⟨hiff, hnd, fun log hlog index e ht => ?_⟩⟩
  by_cases hold : ∃ p ∈ l.records, p.place = (b, index)
  · obtain ⟨p, hp, hpl⟩ := hold
    exact ⟨p, List.mem_append_left _ hp, hpl⟩
  · obtain ⟨log₁, hfirst⟩ := exists_isFirst (P := fun log => ∃ e, log.Tells d index e) ⟨log, hlog, e, ht⟩
    obtain ⟨e₁, ht₁⟩ := hfirst.holds
    refine ⟨e₁.record b index, List.mem_append_right _ ((hiff _).2 ⟨⟨log₁, e₁, hfirst, ht₁, rfl⟩, ?_⟩), rfl⟩
    exact fun p hp he => hold ⟨p, hp, he⟩

end

/-! ## The two ledger transactions -/

section
variable {s s' : Session} {d : Deployment} {l l' : Ledger} {u v : Transaction} {c : BlockchainTransaction}
  {r : Receipt} {rs : List AuditRecord} {b t : Id}

theorem Ledger.Rewrites.pair (h : l.Rewrites u c rs l') (hc : c.transaction = some u.id) :
    l'.Pair c.id u.id c u := ⟨h.blockchainTransaction_self, h.transaction_self, .inr hc⟩

theorem Stored.not_some {o : Outcome} (h : Stored c u (some o) v) (hu : u.state = .pending)
    (hc : c.state ≠ .reverted) : False := by
  cases h with
  | ended ho =>
    rw [hu] at ho
    cases ho
  | reverted _ hrev => exact hc hrev

/-- A pair that waits is linked when it is opened, and nothing else is done to it. -/
theorem Work.openPair_undecided (hf : s.faults = .none) (hp : s.ledger.Pair b t c u) (hu : u.state = .pending)
    (hc : c.state ≠ .reverted) : ∃ s', Yields (openPair b t) s (c.linkedTo t, none) s' ∧ s'.faults = .none ∧
      s.ledger.Rewrites (u.joined c) (c.linkedTo t) [] s'.ledger := by
  obtain ⟨⟨c', o⟩, s', hy, hf'⟩ := clean_openPair hp hf
  obtain ⟨c₁, u₁, v, hp', hc', hv, hl⟩ := openPair_rewrites hy
  obtain ⟨rfl, rfl⟩ := hp'.unique hp.blockchainTransaction hp.transaction
  obtain rfl : c' = c₁.linkedTo t := hc'
  rcases o with _ | o
  · cases hv
    exact ⟨s', hy, hf', hl⟩
  · exact (hv.not_some hu hc).elim

@[simp] theorem Payment.mismatch?_joined (a : Option String) (e : Event) (p : Payment) :
    Payment.mismatch? (u.joined c) a e p = Payment.mismatch? u a e p := by
  simp [mismatch?]

@[simp] theorem Observed.paying?_joined (os : List Observed) (a : Option String) :
    Observed.paying? os (u.joined c) a = Observed.paying? os u a := by
  simp [paying?, rejection?]

/-- What closing a pair that was opened on `l` made of it is what the receipt decides. -/
theorem Closed.decides {m : Ledger} {o : Outcome} {x : BlockchainTransaction}
    (h : Closed m t r r.block (if r.reverted then [] else r.observed d l) (c.linkedTo t) (u.joined c) o v x rs)
    (hl : l.Rewrites (u.joined c) (c.linkedTo t) [] m) (hl' : m.Rewrites v x rs l') (hu : u.state = .pending)
    (hc : c.state ≠ .reverted) : r.Decides d t c u l (.ok o) l' := by
  have hjoin : (u.joined c).joined (c.linkedTo t) = u.joined c := Transaction.joined_of_linked _ rfl
  have haddr : m.address? u.recipient = l.address? u.recipient := Ledger.address?_of_users hl.users _
  have huser (a : String) : m.user? a = l.user? a := Ledger.user?_of_users hl.users a
  have hrows := hl.trans hl' h.id h.id'
  obtain ⟨news, hrec, hadds⟩ := r.exists_adds d c.id l
  rw [← r.records_observed d l c.id] at hrec
  cases h with
  | stored hv => exact (hv.not_some ((u.joined_state c).trans hu) hc).elim
  | reverted _ hpend hr =>
    rw [hjoin] at hrows
    exact .failed hr hpend hrows
  | paid _ _ hr ho =>
    rw [hr, if_neg Bool.false_ne_true] at hrows ho
    rw [hjoin, huser, FixedBytes.lowercase_spelling] at hrows
    rw [Observed.paying?_joined, Transaction.joined_recipient, haddr] at ho
    obtain ⟨log, hfirst, hpays⟩ := Receipt.paying?_some ho
    exact .succeeded hr hfirst hpays hrows (hrows.records.trans hrec) hadds
  | unpaid _ _ hr ho =>
    rw [hr, if_neg Bool.false_ne_true] at hrows ho
    rw [hjoin] at hrows
    rw [Observed.paying?_joined, Transaction.joined_recipient, haddr] at ho
    exact .canceled hr (Receipt.paying?_none ho) hrows (hrows.records.trans hrec) hadds

/-- What keeps an opened pair from being closed is that the receipt takes back a log that was seen. -/
theorem Ledger.Unclosed.decides {m : Ledger} {e : Failure} (h : m.Unclosed b t r e)
    (hp : m.Pair b t (c.linkedTo t) (u.joined c)) (hl : l.Rewrites (u.joined c) (c.linkedTo t) [] m) :
    r.Decides d t c u l (.error e) m := by
  cases h with
  | unpaired h => exact (hp.not_unpaired h).elim
  | reverted hp' _ hsucc hr =>
    obtain ⟨rfl, rfl⟩ := hp'.unique hp.blockchainTransaction hp.transaction
    exact .refused hr hsucc hl

/-- Whatever closing an opened pair comes to, the receipt decides it. -/
theorem Receipt.decides_close (hf : s.faults = .none) (hl : l.Rewrites (u.joined c) (c.linkedTo t) [] s.ledger)
    (hp : l.Pair b t c u) (hu : u.state = .pending) (hc : c.state ≠ .reverted) :
    let closed := s.commit (Work.closePair b t r r.block (if r.reverted then [] else r.observed d l))
    r.Decides d t c u l closed.1 closed.2.ledger := by
  intro closed
  obtain ⟨-, rfl⟩ := Ledger.transaction?_mem hp.transaction
  obtain ⟨-, rfl⟩ := Ledger.blockchainTransaction?_mem hp.blockchainTransaction
  have hp₁ : s.ledger.Pair c.id u.id (c.linkedTo u.id) (u.joined c) :=
    u.joined_id c ▸ hl.pair (congrArg some (u.joined_id c).symm)
  rcases Work.commit_cases s (Work.closePair c.id u.id r r.block (if r.reverted then [] else r.observed d l))
    with ⟨o, s', hy, hcommit⟩ | ⟨e, he, hcommit⟩
  · rw [show closed = (.ok o, s') from hcommit]
    obtain ⟨c₁, u₁, v, x, rs, hp₂, hclosed, hl'⟩ := Work.closePair_rewrites hy
    obtain ⟨rfl, rfl⟩ := hp₂.unique hp₁.blockchainTransaction hp₁.transaction
    exact hclosed.decides hl hl' hu hc
  · rw [show closed = (.error e, s.dropped _) from hcommit]
    rcases (Work.failsBy_closePair c.id u.id r r.block _).cause e he with hcause | hunclosed
    · rw [hf] at hcause
      exact (Faults.not_causes_none e hcause).elim
    · exact hunclosed.decides hp₁ hl

/-- The receipt of a pair that waits decides on it, by what the receipt and its logs say: one that was reverted fails
the transaction, or is refused where a log was seen before, and any other settles it by the first of its logs that
pays, or cancels it if none does. Of the rows only the two of the pair are changed, and records are only added. -/
theorem Receipt.decides_pair {reader : Reader} {hash : Hash} (hf : s.faults = .none)
    (hp : s.ledger.Pair b t c u) (hu : u.state = .pending) (hc : c.state ≠ .reverted)
    (hh : FixedBytes.parse? 32 c.hash = some hash) (hr : reader d.chain (.receipt hash) = .ok (some r))
    (hb : r.block ≤ Text.maxSigned64) :
    ∃ result s', (resolveReceipt d b t).alone reader s = (result, s') ∧
      r.Decides d t c u s.ledger result s'.ledger := by
  obtain ⟨s₁, hy, hf₁, hl⟩ := Work.openPair_undecided hf hp hu hc
  refine ⟨_, _, ?_, r.decides_close hf₁ hl hp hu hc⟩
  have hasked : (Process.ask d.chain (.receipt hash)).alone reader s₁ = (.ok (some r), s₁) :=
    congrArg (·, s₁) hr
  have hopened : (Process.closeOpened d b t (c.linkedTo t, none)).alone reader s₁ =
      (Process.observeReceipt d r >>= Process.closeObserved b t r).alone reader s₁ := by
    unfold Process.closeOpened BlockchainTransaction.linkedTo
    simp only [hh]
    exact Process.alone_bind hasked
  have hobserved : (Process.observeReceipt d r).alone reader s₁ =
      (.ok (if r.reverted then [] else r.observed d s.ledger), s₁) := by
    rw [Process.alone_observeReceipt, Receipt.observed, Ledger.content?_of_contents hl.contents]
  rw [Process.resolveReceipt_eq, Process.alone_bind (Process.alone_commit hy), hopened,
    Process.alone_bind hobserved, Process.closeObserved, storedNumber?_eq_some_iff.2 ⟨hb, rfl⟩]
  rfl

/-- The donation that is waited for. -/
def Donation.expected : Transaction :=
  { draft.row (.issued .transaction 1) with blockchainTransaction := some (.issued .blockchainTransaction 1) }

/-- Where the donation is expected. -/
def Donation.expectedOnChain : BlockchainTransaction :=
  ⟨.issued .blockchainTransaction 1, some (.issued .transaction 1), .optimism, hash.spelling, .pending, none, none,
    none⟩

theorem Donation.log_tells : log.Tells deployment 0 event := ⟨rfl, rfl, by decide, rfl, by rfl⟩

/-- The donation that is waited for succeeds by its receipt. -/
theorem Receipt.decides_donation : Donation.awaited.session.faults = .none ∧
    Donation.awaited.session.ledger.Pair (.issued .blockchainTransaction 1) (.issued .transaction 1)
      Donation.expectedOnChain Donation.expected ∧
    ∃ s', (resolveReceipt Donation.deployment (.issued .blockchainTransaction 1) (.issued .transaction 1)).alone
      Donation.node Donation.awaited.session = (.ok .succeeded, s') := by
  have hf : Donation.awaited.session.faults = .none := by decide +kernel
  have hp : Donation.awaited.session.ledger.Pair (.issued .blockchainTransaction 1) (.issued .transaction 1)
      Donation.expectedOnChain Donation.expected := ⟨by decide +kernel, by decide +kernel, .inr rfl⟩
  have hread : FixedBytes.parse? 32 Donation.expectedOnChain.hash = some Donation.hash := by decide +kernel
  have hmined : Donation.node Donation.deployment.chain (.receipt Donation.hash) = .ok (some Donation.receipt) := rfl
  obtain ⟨result, s', hrun, hdec⟩ := Receipt.decides_pair hf hp rfl (by decide) hread hmined (by decide)
  refine ⟨hf, hp, s', ?_⟩
  cases hdec with
  | failed hr => cases hr
  | refused hr => cases hr
  | succeeded => exact hrun
  | canceled _ hunpaid =>
    have haccepts : Donation.awaited.session.ledger.Accepts Donation.deployment Donation.expected Donation.event :=
      ⟨Donation.payment, by rfl, by decide +kernel⟩
    exact absurd ⟨⟨0, Donation.log_tells⟩, haccepts⟩ (hunpaid _ List.mem_cons_self Donation.event)

end

end DonationLedger
