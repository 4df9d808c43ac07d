import DonationLedger.Proofs.Follow.Walk
import DonationLedger.Proofs.Resolution.Sound

/-!
# Links and states in a running system

In whatever order jobs, logs and cycles go on over one ledger, with whatever answers and failing writes,
every step keeps the ledger sound and every link that is set (`Session.Upholds`). From this follow, for all
ledgers that the system can come to, that links are mutual and permanent, and that linked rows are in states
that belong together.
-/

namespace DonationLedger

/-- `s'` is a later session than `s`, and is sound with all links kept if `s` is sound. -/
structure Session.Upholds (s s' : Session) : Prop where
  later : s.Later s'
  sound : s.Keyed → s.ledger.Sound → s'.ledger.Sound ∧ s.ledger.KeepsLinks s'.ledger

/-- Ids are keys and the ledger is sound. -/
structure Session.Proper (s : Session) : Prop where
  keyed : s.Keyed
  sound : s.ledger.Sound

namespace Session

variable {s s' s'' : Session}

theorem Upholds.refl (s : Session) : s.Upholds s := ⟨.refl s, fun _ h => ⟨h, .refl _⟩⟩

theorem Upholds.trans (h : s.Upholds s') (k : s'.Upholds s'') : s.Upholds s'' := by
  refine ⟨h.later.trans k.later, fun hk hs => ?_⟩
  obtain ⟨hs', hl⟩ := h.sound hk hs
  obtain ⟨hs'', hl'⟩ := k.sound (h.later.keyed hk) hs'
  exact ⟨hs'', hl.trans hl'⟩

theorem Proper.upholds (hs : s.Proper) (h : s.Upholds s') : s'.Proper :=
  ⟨h.later.keyed hs.keyed, (h.sound hs.keyed hs.sound).1⟩

theorem Proper.expects (hs : s.Proper) (h : s.Upholds s') {b t : Id} (he : s.ledger.Expects b t) :
    s'.ledger.Expects b t := (h.sound hs.keyed hs.sound).2.expects he

/-- The rows are looked up as before. -/
theorem Upholds.of_rows (h : s.Later s') (ht : s'.ledger.transactions = s.ledger.transactions)
    (hb : s'.ledger.blockchainTransactions = s.ledger.blockchainTransactions) : s.Upholds s' :=
  ⟨h, fun _ hs => hs.congr (fun i => by unfold Ledger.transaction?; rw [ht])
    fun i => by unfold Ledger.blockchainTransaction?; rw [hb]⟩

theorem Upholds.of_ledger_eq (hl : s'.ledger = s.ledger) (hs : ∀ kind, s.supply.count kind ≤ s'.supply.count kind) :
    s.Upholds s' := .of_rows (.of_ledger_eq hl hs) (by rw [hl]) (by rw [hl])

theorem Upholds.commit {α : Type} {w : Work α} (hw : w.Lasting)
    (hy : ∀ a s', w.Yields s a s' → s.Keyed → s.ledger.Sound →
      s'.ledger.Sound ∧ s.ledger.KeepsLinks s'.ledger) : s.Upholds (s.commit w).2 := by
  rcases Work.commit_cases s w with ⟨a, s', hya, hc⟩ | ⟨e, -, hc⟩
  · rw [hc]
    exact ⟨hw.later hya, hy a s' hya⟩
  · rw [hc]
    exact .of_rows (hw.dropped s) rfl rfl

theorem Upholds.openPair {b t : Id} {p : BlockchainTransaction × Option Outcome} (he : s.ledger.Expects b t)
    (hy : (Work.openPair b t).Yields s p s') : s.Upholds s' :=
  ⟨(Work.lasting_openPair b t).later hy, fun _ hs => Work.sound_openPair hs he hy⟩

theorem Upholds.closePair {b t : Id} {r : Receipt} {block : Int} {os : List Observed} {o : Outcome}
    (he : s.ledger.Expects b t) (hy : (Work.closePair b t r block os).Yields s o s') : s.Upholds s' :=
  ⟨(Work.lasting_closePair b t r block os).later hy, fun _ hs => Work.sound_closePair hs he hy⟩

theorem Upholds.applyEvent {chain : Chain} {hash : String} {block index : Int} {e : Event}
    {verdict : Except InvalidReason Payment} {r : LogStep}
    (hy : (Work.applyEvent chain hash block index e verdict).Yields s r s') : s.Upholds s' :=
  ⟨(Work.lasting_applyEvent chain hash block index e verdict).later hy, fun hk hs => Work.sound_applyEvent hk hs hy⟩

theorem Upholds.raiseCheckpoint {chain : Chain} {block : Int}
    (hy : (Work.raiseCheckpoint chain block).Yields s () s') : s.Upholds s' := by
  refine .of_rows ((Work.lasting_raiseCheckpoint chain block).later hy) ?_ ?_
  · rw [(Work.yields_raiseCheckpoint.1 hy).2]
    rfl
  · rw [(Work.yields_raiseCheckpoint.1 hy).2]
    rfl

end Session

/-! ## Operations on a sound ledger -/

/-- Others uphold what is sound, and whatever is done to a sound ledger is within the terms of who does it. -/
structure Regime.Upholding {r : Registry} (m : Regime (.any r)) : Prop where
  others : ∀ {s s' : Session}, m.others s s' → s.Upholds s'
  idles : ∀ op, (m.terms op).Idles
  openPair : ∀ {op : Operation} {h : List Told} {s s' : Session} {b t : Id}
    {p : BlockchainTransaction × Option Outcome}, s.Proper → s.ledger.Expects b t →
    (Work.openPair b t).Yields s p s' → m.own op h s s'
  closePair : ∀ {op : Operation} {h : List Told} {s s' : Session} {b t : Id} {r : Receipt} {block : Int}
    {os : List Observed} {o : Outcome}, s.Proper → s.ledger.Expects b t →
    (Work.closePair b t r block os).Yields s o s' → m.own op h s s'
  applyEvent : ∀ {op : Operation} {h : List Told} {s s' : Session} {chain : Chain} {hash : String}
    {block index : Int} {e : Event} {verdict : Except InvalidReason Payment} {x : LogStep}, s.Proper →
    (Work.applyEvent chain hash block index e verdict).Yields s x s' → m.own op h s s'
  raiseCheckpoint : ∀ {op : Operation} {h : List Told} {s s' : Session} {chain : Chain} {block : Int},
    s.Proper → (Work.raiseCheckpoint chain block).Yields s () s' → m.own op h s s'

namespace Regime.Upholding

variable {r : Registry} {m : Regime (.any r)} {op : Operation} {s : Session} {h : List Told}

theorem resolveReceipt (hm : m.Upholding) {d : Deployment} {b t : Id} (hs : s.Proper) (he : s.ledger.Expects b t) :
    (resolveReceipt d b t).Meets (m.terms op) Process.anyEnd h s := by
  refine Process.meets_resolveReceipt (fun _ s => s.Proper ∧ s.ledger.Expects b t) (hm.idles op) ?_ ?_
  · intro s₁ p s₂ hs₁ hy
    have he₁ := hs.expects (hm.others hs₁) he
    have hp₁ := hs.upholds (hm.others hs₁)
    have ho : s₁.Upholds s₂ := .openPair he₁ hy
    exact ⟨hm.openPair hp₁ he₁ hy, fun _ => ⟨hp₁.upholds ho, hp₁.expects ho he₁⟩⟩
  · intro s₁ c hash receipt block os h' s₂ o s₃ ⟨hp₁, he₁⟩ _ _ _ _ _ hs₂ hy
    have ho := hm.others hs₂
    exact hm.closePair (hp₁.upholds ho) (hp₁.expects ho he₁) hy

theorem applyLog (hm : m.Upholding) {d : Deployment} {log : Log} (hs : s.Proper) :
    (applyLog d log).Meets (m.terms op) Process.anyEnd h s := by
  refine Process.meets_applyLog (hm.idles op) ?_
  intro s₁ block index e verdict h' x s₂ _ _ _ _ _ _ _ hs₁ hy
  have hp₁ := hs.upholds (hm.others hs₁)
  have ho : s₁.Upholds s₂ := .applyEvent hy
  refine ⟨hm.applyEvent hp₁ hy, fun b t hx => ?_⟩
  subst hx
  exact hm.resolveReceipt (hp₁.upholds ho) (Work.applyEvent_expects hp₁.keyed hp₁.sound hy)

theorem process (hm : m.Upholding) (hop : (Outside.any r).starts op) (hs : s.Proper) :
    (op.process r).Meets (m.terms op) Process.anyEnd h s := by
  cases op with
  | resolve d b t => exact hop.elim
  | settle t =>
    refine Process.meets_settle (hm.idles _) fun d c s₁ hs₁ hy _ => ?_
    obtain ⟨-, u, b, hu, -, -, hb, hc⟩ := Work.yields_findExpected.1 hy
    have hid := (Ledger.blockchainTransaction?_mem hc).2
    exact hm.resolveReceipt (hs.upholds (hm.others hs₁)) ⟨u, hu, by rw [hb, hid]⟩
  | apply d log => exact hm.applyLog hs
  | follow chain =>
    refine Process.meets_follow (hm.idles _) m.expected
      (fun d first last logs log h' s' _ _ _ hs' => hm.applyLog (hs.upholds (hm.others hs'))) ?_
    exact fun block h' s₁ s₂ hs₁ hy => hm.raiseCheckpoint (hs.upholds (hm.others hs₁)) hy

end Regime.Upholding

/-- All operations uphold what is sound. -/
def upholding (r : Registry) : Regime (.any r) where
  others := Session.Upholds
  own _ _ := Session.Upholds
  post _ := Process.anyEnd
  refl := Session.Upholds.refl
  trans := Session.Upholds.trans
  expected := id

section
variable {r : Registry} {op : Operation} {s : Session} {h : List Told}

theorem upholding_upholding : (upholding r).Upholding where
  others := id
  idles _ _ _ _ hl hs := .of_ledger_eq hl hs
  openPair _ he hy := .openPair he hy
  closePair _ he hy := .closePair he hy
  applyEvent _ hy := .applyEvent hy
  raiseCheckpoint _ hy := .raiseCheckpoint hy

theorem upholding_process (hop : (Outside.any r).starts op) (hs : s.Proper) :
    (op.process r).Meets ((upholding r).terms op) Process.anyEnd h s := upholding_upholding.process hop hs

theorem upholding_callers : (upholding r).Callers where
  faults s f := .of_rows (s.later_faults f) rfl rfl
  addUser s a := .of_rows (s.later_addUser a) rfl rfl
  addContent s ref := .of_rows (s.later_addContent ref) rfl rfl
  seed _ chain hash d hd := .commit (Work.lasting_seedPayment chain hash d) fun _ _ hy hk hs =>
    Work.sound_seedPayment hk hs hd hy
  create _ d hd := .commit (Work.lasting_createTransaction d) fun _ _ hy hk hs =>
    Work.sound_createTransaction hk hs hd.pending hd.stored hy

end

namespace System

variable {r : Registry} {w w' : System}

theorem proper_empty : System.empty.session.Proper :=
  ⟨⟨List.nodup_nil, List.nodup_nil, nofun, nofun⟩, Ledger.sound_empty⟩

theorem Reachable.kept (h : w.Reachable r) : (upholding r).Kept w ∧ w.session.Proper := by
  obtain ⟨hk, ho⟩ := Regime.kept_reaches (m := upholding r) Session.Proper upholding_callers
    (fun hs ho => hs.upholds ho) (fun op s hop hs => upholding_process hop hs) Regime.kept_empty proper_empty h
  exact ⟨hk, proper_empty.upholds ho⟩

/-- Between any two moments of a run the session is upheld. -/
theorem Reachable.upholds (h : w.Reachable r) (h' : w.Reaches (.any r) w') :
    w.session.Upholds w'.session := by
  obtain ⟨hk, hp⟩ := h.kept
  exact (Regime.kept_reaches (m := upholding r) Session.Proper upholding_callers
    (fun hs ho => hs.upholds ho) (fun op s hop hs => upholding_process hop hs) hk hp h').2

theorem Reachable.hashed (h : w.Reachable r) : w.session.Hashed :=
  (Reachable.upholds (w := empty) .refl h).later.hashed List.nodup_nil

theorem Reachable.transaction? (h : w.Reachable r) {t : Transaction}
    (ht : t ∈ w.session.ledger.transactions) : w.session.ledger.transaction? t.id = some t :=
  Ledger.transaction?_of_mem h.kept.2.keyed.transactions ht

theorem Reachable.blockchainTransaction? (h : w.Reachable r) {b : BlockchainTransaction}
    (hb : b ∈ w.session.ledger.blockchainTransactions) :
    w.session.ledger.blockchainTransaction? b.id = some b :=
  Ledger.blockchainTransaction?_of_mem h.kept.2.keyed.blockchainTransactions hb

/-! ## What holds of all runs -/

/-- A blockchain transaction and the transaction that it settles name each other, a transaction that ended is
settled by the blockchain transaction that it names and shares it with no other that ended, and no link that
is set is ever set otherwise. -/
theorem links_mutual_permanent (hw : w.Reachable r) :
    (∀ b ∈ w.session.ledger.blockchainTransactions, ∀ t, b.transaction = some t →
      ∃ u ∈ w.session.ledger.transactions, u.id = t ∧ u.blockchainTransaction = some b.id) ∧
    (∀ t ∈ w.session.ledger.transactions, t.state ≠ .pending →
      ∃ b ∈ w.session.ledger.blockchainTransactions,
        t.blockchainTransaction = some b.id ∧ b.transaction = some t.id) ∧
    (∀ t ∈ w.session.ledger.transactions, ∀ u ∈ w.session.ledger.transactions,
      t.state ≠ .pending → u.state ≠ .pending → t.blockchainTransaction = u.blockchainTransaction → t = u) ∧
    ∀ w', w.Reaches (.any r) w' →
      (∀ b ∈ w.session.ledger.blockchainTransactions, ∀ t, b.transaction = some t →
        (∃ c ∈ w'.session.ledger.blockchainTransactions, c.id = b.id) ∧
        ∀ c ∈ w'.session.ledger.blockchainTransactions, c.id = b.id → c.transaction = some t) ∧
      (∀ t ∈ w.session.ledger.transactions, ∀ b, t.blockchainTransaction = some b →
        (∃ u ∈ w'.session.ledger.transactions, u.id = t.id) ∧
        ∀ u ∈ w'.session.ledger.transactions, u.id = t.id → u.blockchainTransaction = some b) := by
  obtain ⟨hk, hs⟩ := hw.kept.2
  have hended (t) (ht : t ∈ w.session.ledger.transactions) (hp : t.state ≠ .pending) :
      ∃ b ∈ w.session.ledger.blockchainTransactions,
        t.blockchainTransaction = some b.id ∧ b.transaction = some t.id := by
    obtain ⟨b, c, htb, hc, hct⟩ := hs.ended t.id t (hw.transaction? ht) hp
    obtain ⟨hm, rfl⟩ := Ledger.blockchainTransaction?_mem hc
    exact ⟨c, hm, htb, hct⟩
  refine ⟨?_, hended, ?_, ?_⟩
  · intro b hb t ht
    obtain ⟨u, hu, hub, -⟩ := hs.linked b.id b t (hw.blockchainTransaction? hb) ht
    exact ⟨u, (Ledger.transaction?_mem hu).1, (Ledger.transaction?_mem hu).2, hub⟩
  · intro t ht u hu htp hup he
    obtain ⟨b, hb, htb, hbt⟩ := hended t ht htp
    obtain ⟨c, hc, huc, hcu⟩ := hended u hu hup
    have hbc : b.id = c.id := Option.some.inj (htb.symm.trans (he.trans huc))
    have hbc := hw.blockchainTransaction? hb ▸ hbc ▸ hw.blockchainTransaction? hc
    obtain rfl : b = c := Option.some.inj hbc
    have hid : u.id = t.id := Option.some.inj (hcu.symm.trans hbt)
    exact Option.some.inj ((hw.transaction? ht).symm.trans (hid ▸ hw.transaction? hu))
  · intro w' hr
    have hw' : w'.Reachable r := hw.trans hr
    obtain ⟨hkb, hkt⟩ := ((hw.upholds hr).sound hk hs).2
    refine ⟨?_, ?_⟩
    · intro b hb t ht
      obtain ⟨d, hd, hdt⟩ := hkb b.id b t (hw.blockchainTransaction? hb) ht
      refine ⟨⟨d, Ledger.blockchainTransaction?_mem hd⟩, fun c hc hi => ?_⟩
      obtain rfl : c = d := Option.some.inj ((hw'.blockchainTransaction? hc).symm.trans (hi ▸ hd))
      exact hdt
    · intro t ht b hb
      obtain ⟨v, hv, hvb⟩ := hkt t.id t b (hw.transaction? ht) hb
      refine ⟨⟨v, Ledger.transaction?_mem hv⟩, fun u hu hi => ?_⟩
      obtain rfl : u = v := Option.some.inj ((hw'.transaction? hu).symm.trans (hi ▸ hv))
      exact hvb

theorem donation_linked : Donation.credited.Reachable [] ∧
    ∃ b ∈ Donation.credited.session.ledger.blockchainTransactions,
      Donation.transaction.blockchainTransaction = some b.id ∧ b.transaction = some Donation.transaction.id :=
  ⟨Donation.credited_reachable [],
    (links_mutual_permanent (Donation.credited_reachable [])).2.1 _ (by decide +kernel) (by decide)⟩

/-- Linked rows are in states that belong together, a blockchain transaction that settles nothing is not
reverted, and the remark tells the canceled transactions. So none succeeds by a reverted blockchain
transaction. -/
theorem states_agree (hw : w.Reachable r) :
    (∀ b ∈ w.session.ledger.blockchainTransactions, ∀ t ∈ w.session.ledger.transactions,
      b.transaction = some t.id → (t.state, b.state) ∈
        [(.pending, .pending), (.pending, .succeeded), (.succeeded, .succeeded), (.canceled, .succeeded),
          (.failed, .reverted)]) ∧
    (∀ b ∈ w.session.ledger.blockchainTransactions, b.transaction = none → b.state ≠ .reverted) ∧
    (∀ t ∈ w.session.ledger.transactions,
      t.remark = if t.state = .canceled then some "invalid" else none) ∧
    ∀ t ∈ w.session.ledger.transactions, ∀ b ∈ w.session.ledger.blockchainTransactions,
      t.state = .succeeded → b.transaction = some t.id ∨ t.blockchainTransaction = some b.id →
      b.state ≠ .reverted := by
  obtain ⟨-, hs⟩ := hw.kept.2
  have hpair (b) (hb : b ∈ w.session.ledger.blockchainTransactions) (t)
      (ht : t ∈ w.session.ledger.transactions) (hbt : b.transaction = some t.id) :
      (t.state, b.state) ∈ agreedStates := by
    obtain ⟨u, hu, -, hst⟩ := hs.linked b.id b t.id (hw.blockchainTransaction? hb) hbt
    obtain rfl : t = u := Option.some.inj ((hw.transaction? ht).symm.trans hu)
    exact hst
  refine ⟨hpair, fun b hb => hs.unlinked b.id b (hw.blockchainTransaction? hb),
    fun t ht => hs.remarked t.id t (hw.transaction? ht), fun t ht b hb hts hl hr => ?_⟩
  have hbt : b.transaction = some t.id := by
    refine hl.elim id fun htb => ?_
    obtain ⟨b', c, htb', hc, hct⟩ := hs.ended t.id t (hw.transaction? ht) (by simp [hts])
    obtain rfl : b.id = b' := Option.some.inj (htb.symm.trans htb')
    obtain rfl : b = c := Option.some.inj ((hw.blockchainTransaction? hb).symm.trans hc)
    exact hct
  have := hpair b hb t ht hbt
  rw [hts, hr] at this
  simp [agreedStates] at this

theorem donation_agrees : Donation.credited.Reachable [] ∧ Donation.transaction.remark = none ∧
    ∀ b ∈ Donation.credited.session.ledger.blockchainTransactions,
      b.transaction = some Donation.transaction.id → b.state ≠ .reverted := by
  have hm : Donation.transaction ∈ Donation.credited.session.ledger.transactions := by decide +kernel
  obtain ⟨-, -, hremark, hreverted⟩ := states_agree (Donation.credited_reachable [])
  exact ⟨Donation.credited_reachable [], hremark _ hm, fun b hb hl => hreverted _ hm b hb rfl (.inl hl)⟩

end System

end DonationLedger
