import DonationLedger.Proofs.Follow.Walk
import DonationLedger.Proofs.Resolution.Failing
import DonationLedger.Proofs.Resolution.Valid

/-!
# References in a running system

Whoever stores payments, in whatever state, and whatever goes wrong with the ledger: no operation stores a second row
for a hash or a log, or refers to a row that is not there (`Session.Refers`). So no operation ever comes upon a
reference that leads nowhere (`Failure.Broken`), and a writer that was slower than another goes on with the row of
the other.
-/

namespace DonationLedger

/-- Something that is stored is not as it should be. -/
inductive Failure.Broken : Failure → Prop
  | linksMissing (b t : Id) : Broken (.ledger (.linksMissing b t))
  | storedHash (text : String) : Broken (.settlement (.malformedPayload (.storedHash text)))
  | negativeCheckpoint (block : Int) : Broken (.ledger (.negativeCheckpoint block))

/-- `s'` is a later session than `s`, and its references are valid if those of `s` are. -/
structure Session.Refers (s s' : Session) : Prop where
  later : s.Later s'
  valid : s.Keyed → s.ledger.Valid → s'.ledger.Valid

/-- Ids are keys and references lead somewhere. -/
structure Session.Referring (s : Session) : Prop where
  keyed : s.Keyed
  valid : s.ledger.Valid

namespace Session

variable {s s' s'' : Session}

namespace Refers

theorem refl (s : Session) : s.Refers s := ⟨.refl s, fun _ h => h⟩

theorem trans (h : s.Refers s') (k : s'.Refers s'') : s.Refers s'' :=
  ⟨h.later.trans k.later, fun hk hv => k.valid (h.later.keyed hk) (h.valid hk hv)⟩

theorem of_ledger_eq (hl : s'.ledger = s.ledger) (hs : ∀ kind, s.supply.count kind ≤ s'.supply.count kind) :
    s.Refers s' := ⟨.of_ledger_eq hl hs, fun _ hv => hl ▸ hv⟩

theorem commit {α : Type} {w : Work α} (hw : w.Lasting)
    (hy : ∀ a s', w.Yields s a s' → s.Keyed → s.ledger.Valid → s'.ledger.Valid) : s.Refers (s.commit w).2 := by
  rcases Work.commit_cases s w with ⟨a, s', hya, hc⟩ | ⟨e, -, hc⟩
  · rw [hc]
    exact ⟨hw.later hya, hy a s' hya⟩
  · rw [hc]
    exact .of_ledger_eq rfl (hw s).supply

end Refers

theorem Referring.refers (hs : s.Referring) (h : s.Refers s') : s'.Referring :=
  ⟨h.later.keyed hs.keyed, h.valid hs.keyed hs.valid⟩

/-- A log whose blockchain transaction names a transaction finds it. -/
theorem Referring.not_dangling (hs : s.Referring) {chain : Chain} {hash : String} {e : Failure} :
    ¬ s.ledger.Dangling chain hash e := by
  rintro ⟨hc, ht, hn⟩
  obtain ⟨hm, -⟩ := Ledger.byHash?_some hc
  have hl := hs.valid.linked _ _ _ (Ledger.blockchainTransaction?_of_mem hs.keyed.blockchainTransactions hm) ht
  rw [hn] at hl
  cases hl

end Session

theorem Faults.Causes.not_broken {f : Faults} {e : Failure} (h : f.Causes e) : ¬ e.Broken := by
  cases h with
  | write => exact nofun
  | lookup => exact nofun

theorem Ledger.Unpaired.not_broken {l : Ledger} {b t : Id} {e : Failure} (h : l.Unpaired b t e) : ¬ e.Broken := by
  cases h with
  | blockchainTransaction => exact nofun
  | transaction => exact nofun
  | elsewhere => exact nofun

theorem Ledger.Unclosed.not_broken {l : Ledger} {b t : Id} {r : Receipt} {e : Failure} (h : l.Unclosed b t r e) :
    ¬ e.Broken := by
  cases h with
  | unpaired h => exact h.not_broken
  | reverted => exact nofun

theorem Ledger.Unexpected.not_broken {l : Ledger} {t : Id} {e : Failure} (h : l.Unexpected t e) : ¬ e.Broken := by
  cases h with
  | ended => exact nofun
  | queue => exact nofun
  | unnamed => exact nofun

/-! ## Operations on valid references -/

/-- Nothing broken is found by oneself, only told by others. -/
def brokenHeard (h : List Told) (e : Failure) : Prop := e.Broken → Heard h e

/-- All operations keep references valid and find none that is not. -/
def referring (o : Outside) : Regime o where
  others := Session.Refers
  own _ _ := Session.Refers
  post _ := Process.ending brokenHeard fun _ _ _ => True
  refl := Session.Refers.refl
  trans := Session.Refers.trans
  expected := id

section
variable {o : Outside} {op : Operation} {s : Session} {h : List Told}

theorem referring_idles : ((referring o).terms op).Idles := fun _ _ _ hl hs => .of_ledger_eq hl hs

theorem brokenHeard_of_heard (h : List Told) (e : Failure) (he : Heard h e) : brokenHeard h e := fun _ => he

theorem brokenHeard_of_not {e : Failure} (he : ¬ e.Broken) : brokenHeard h e := fun hb => absurd hb he

/-- Neither the faults of the ledger nor the reasons that the work has of its own are broken. -/
theorem Work.FailsBy.brokenHeard {α : Type} {w : Work α} {P : Failure → Prop} {e : Failure} (hw : w.FailsBy P s)
    (hp : ∀ e, P e → ¬ e.Broken) (he : (w.result s).1 = .error e) : brokenHeard h e := by
  rcases hw.cause e he with hc | hc
  · exact brokenHeard_of_not hc.not_broken
  · exact brokenHeard_of_not (hp e hc)

theorem referring_resolveReceipt {d : Deployment} {b t : Id} (hs : s.Referring) : (resolveReceipt d b t).Meets
    ((referring o).terms op) (Process.ending brokenHeard fun _ _ _ => True) h s := by
  have hr : Process.Resolves ((referring o).terms op) brokenHeard (fun _ _ _ => True)
      (fun c s => s.Referring ∧ ∃ hash : Hash, c.hash = hash.spelling) d b t h s := {
    opens := fun s₁ p s₂ hs₁ hy => by
      have hr := hs.refers hs₁
      have ho : s₁.Refers s₂ := ⟨(Work.lasting_openPair b t).later hy, fun _ hv => Work.valid_openPair hv hy⟩
      refine ⟨ho, fun _ _ _ _ => trivial, fun _ => ⟨hr.refers ho, ?_⟩⟩
      obtain ⟨c, u, v, hp, hc, -, -⟩ := Work.openPair_rewrites hy
      rw [hc]
      exact hr.valid.spelled b c hp.blockchainTransaction
    unopened := fun _ _ _ he => (Work.failsBy_openPair b t).brokenHeard (fun _ hc => hc.not_broken) he
    unreadable := fun s₁ c ⟨_, hash, hc⟩ hn => by
      rw [hc, FixedBytes.parse?_spelling] at hn
      cases hn
    unmined := fun _ _ _ _ _ _ => brokenHeard_of_not nofun
    beyond := fun _ _ _ _ _ _ _ _ => brokenHeard_of_not nofun
    closes := fun _ _ _ _ _ _ _ _ _ _ _ _ _ _ _ hy =>
      ⟨⟨(Work.lasting_closePair _ _ _ _ _).later hy, fun _ hv => Work.valid_closePair hv hy⟩, fun _ _ => trivial⟩
    unclosed := fun _ _ _ receipt block os _ _ _ _ _ _ he =>
      (Work.failsBy_closePair b t receipt block os).brokenHeard (fun _ hc => hc.not_broken) he }
  exact Process.meets_resolveReceipt_ending brokenHeard_of_heard referring_idles hr

theorem referring_applyLog {d : Deployment} {log : Log} (hs : s.Referring) : (applyLog d log).Meets
    ((referring o).terms op) (Process.ending brokenHeard fun _ _ _ => True) h s := by
  refine Process.meets_applyLog_ending brokenHeard_of_heard referring_idles (fun _ _ _ => trivial) ?_ ?_
  · intro s₁ block index e verdict h' err _ _ hs₁ he
    have hr := hs.refers hs₁
    exact (Work.failsBy_applyEvent hr.keyed).brokenHeard (fun _ hc => absurd hc hr.not_dangling) he
  · intro s₁ block index e verdict h' r s₂ _ _ _ hs₁ hy
    have hr := hs.refers hs₁
    have ho : s₁.Refers s₂ :=
      ⟨(Work.lasting_applyEvent _ _ _ _ _ _).later hy, fun hk hv => Work.valid_applyEvent hk hv hy⟩
    refine ⟨ho, ?_⟩
    cases r with
    | applied result => exact fun _ _ => trivial
    | needsReceipt b t =>
      refine Process.meets_bind_ending ((referring_resolveReceipt (hr.refers ho)).imp fun h₂ x s₃ hx => ?_)
      cases x with
      | ok outcome => exact fun _ _ => trivial
      | error err => exact hx

theorem referring_cycle {d : Deployment} (hs : s.Referring) : (cycle d).Meets
    ((referring o).terms op) (Process.ending brokenHeard fun _ _ _ => True) h s := by
  have hc : Process.Cycles ((referring o).terms op) brokenHeard (fun _ _ _ => True) ((referring o).terms op).others
      (fun _ _ => True) d h s := {
    within := id
    lasts := fun _ _ _ _ _ => trivial
    unread := fun s₁ e hs₁ he => by
      refine (Work.failsBy_findFollowed d.chain).brokenHeard (fun _ hc => ?_) he
      obtain ⟨c, hc, hneg, -⟩ := hc
      have hbounds := (hs.refers hs₁).valid.followed d.chain c hc
      omega
    applies := fun previous f log h' s₁ s₂ hp _ hs₂ => by
      have hr := (hs.refers hp.others).refers hs₂
      refine ((referring_applyLog hr).tracked id).imp fun h₂ x s₃ ⟨hx, hh, hs₃⟩ => ?_
      cases x with
      | ok result => exact ⟨hh, hs₃, trivial⟩
      | error err => exact hx
    stays := fun _ _ _ _ _ _ _ _ _ _ _ => trivial
    beyond := fun _ _ _ _ _ _ => brokenHeard_of_not nofun
    raises := fun previous f tally stored h' s₁ s₂ s₃ _ _ _ _ _ hb hy =>
      ⟨⟨(Work.lasting_raiseCheckpoint _ _).later hy, fun _ hv => Work.valid_raiseCheckpoint hv hb hy⟩,
        fun _ _ => trivial⟩
    unraised := fun _ _ _ _ _ _ _ _ _ he =>
      (Work.failsBy_change (P := fun _ => False)).brokenHeard (fun _ hc => hc.elim) he }
  exact Process.meets_cycle_ending brokenHeard_of_heard referring_idles hc

theorem referring_process (hs : s.Referring) :
    (op.process o.registry).Meets ((referring o).terms op) ((referring o).post op) h s := by
  cases op with
  | resolve d b t => exact referring_resolveReceipt hs
  | settle t =>
    refine Process.meets_settle_ending referring_idles (fun s₁ e _ he => ?_) (fun _ _ _ _ _ => brokenHeard_of_not nofun)
      fun d c s₁ hs₁ _ _ => referring_resolveReceipt (hs.refers hs₁)
    exact (Work.failsBy_findExpected t).brokenHeard (fun _ hc => hc.not_broken) he
  | apply d log => exact referring_applyLog hs
  | follow chain =>
    exact Process.meets_follow_ending (fun _ => brokenHeard_of_not nofun) (fun _ _ => trivial)
      fun d s₁ _ hs₁ => referring_cycle (hs.refers hs₁)

theorem refers_seedPayment (s : Session) (chain : Chain) (hash : Hash) (d : TransactionDraft Id) :
    s.Refers (s.commit (Work.seedPayment chain hash d)).2 :=
  .commit (Work.lasting_seedPayment chain hash d) fun _ _ hy hk hv => Work.valid_seedPayment hk hv hy

theorem refers_createTransaction (s : Session) (d : TransactionDraft Id) :
    s.Refers (s.commit (Work.createTransaction d)).2 :=
  .commit (Work.lasting_createTransaction d) fun _ _ hy _ hv => Work.valid_createTransaction hv hy

/-- Callers may store what they like. -/
theorem referring_hosts : (referring o).Hosts where
  faults s f := ⟨s.later_faults f, fun _ hv => hv⟩
  addUser s a := ⟨s.later_addUser a, fun _ hv => ⟨hv.spelled, hv.linked, hv.recorded, hv.noted, hv.followed⟩⟩
  addContent s ref := ⟨s.later_addContent ref, fun _ hv => ⟨hv.spelled, hv.linked, hv.recorded, hv.noted, hv.followed⟩⟩
  seed s chain hash d _ := refers_seedPayment s chain hash d
  create s d _ := refers_createTransaction s d
  seedAny := refers_seedPayment
  createAny := refers_createTransaction

end

namespace System

variable {o : Outside} {w w' : System}

theorem referring_empty : System.empty.session.Referring :=
  ⟨⟨List.nodup_nil, List.nodup_nil, nofun, nofun⟩, Ledger.valid_empty⟩

/-- Whatever happens after the empty system, references stay valid. -/
theorem referring_happened (h : Relation.ReflTransGen (System.Happens o) System.empty w) :
    (referring o).Kept w ∧ w.session.Referring ∧ w.session.Hashed := by
  obtain ⟨hk, hs⟩ := Regime.kept_happened (m := referring o) Session.Referring referring_hosts
    (fun hr hs => hr.refers hs) (fun _ _ _ hr => referring_process hr) Regime.kept_empty referring_empty h
  exact ⟨hk, referring_empty.refers hs, hs.later.hashed List.nodup_nil⟩

/-- Between any two moments references stay valid and nothing is lost. -/
theorem refers_happened (h : Relation.ReflTransGen (System.Happens o) System.empty w)
    (h' : Relation.ReflTransGen (System.Happens o) w w') : w.session.Refers w'.session := by
  obtain ⟨hk, hr, -⟩ := referring_happened h
  exact (Regime.kept_happened (m := referring o) Session.Referring referring_hosts
    (fun hr hs => hr.refers hs) (fun _ _ _ hr => referring_process hr) hk hr h').2

theorem Reachable.happened {r : Registry} (h : w.Reachable r) :
    Relation.ReflTransGen (System.Happens (.any r)) System.empty w :=
  Relation.ReflTransGen.mono (fun _ _ h => System.Happens.step h) _ _ h

/-- No two blockchain transactions have the same hash on a chain, every hash that is stored is one that is spelled, no
two records are of the same log, and all that rows refer to is stored. So no operation comes upon a reference that leads
nowhere. Whoever looks for a hash that another writer has stored gets the row of the other, and stores none. -/
theorem references_valid (hw : Relation.ReflTransGen (System.Happens o) System.empty w) :
    (w.session.ledger.blockchainTransactions.map fun b => (b.chain, b.hash)).Nodup ∧
    (∀ b ∈ w.session.ledger.blockchainTransactions, ∃ hash : Hash, b.hash = hash.spelling) ∧
    (w.session.ledger.records.map fun r => (r.blockchainTransaction, r.index)).Nodup ∧
    (∀ r ∈ w.session.ledger.records, ∃ b ∈ w.session.ledger.blockchainTransactions, b.id = r.blockchainTransaction) ∧
    (∀ b ∈ w.session.ledger.blockchainTransactions, ∀ t, b.transaction = some t →
      ∃ u ∈ w.session.ledger.transactions, u.id = t) ∧
    (∀ t ∈ w.tasks, ∀ e, t.rest = .finish (.error e) → e.Broken → Heard t.heard e) ∧
    ∀ b ∈ w.session.ledger.blockchainTransactions, ∀ (f : Faults) (block : Int),
      (∀ c s', (Work.obtainBlockchainTransaction b.chain b.hash block).Yields { w.session with faults := f } c s' →
        c = b ∧ s'.ledger = w.session.ledger) ∧
      (f.allows = true → f.hiddenLookups = 1 → ∃ s',
        (Work.obtainBlockchainTransaction b.chain b.hash block).Yields { w.session with faults := f } b s' ∧
        s'.ledger = w.session.ledger) := by
  obtain ⟨hk, hr, hh⟩ := referring_happened hw
  have hrow {b} (hb : b ∈ w.session.ledger.blockchainTransactions) :=
    Ledger.blockchainTransaction?_of_mem hr.keyed.blockchainTransactions hb
  refine ⟨hh, fun b hb => hr.valid.spelled b.id b (hrow hb), hr.valid.noted, fun r hm => ?_, fun b hb t ht => ?_,
    fun t ht e he => ?_, fun b hb f block => ⟨fun c s' hy => ?_, fun ha hm => ?_⟩⟩
  · obtain ⟨b, hb⟩ := Option.isSome_iff_exists.1 (hr.valid.recorded r hm)
    exact ⟨b, Ledger.blockchainTransaction?_mem hb⟩
  · obtain ⟨u, hu⟩ := Option.isSome_iff_exists.1 (hr.valid.linked b.id b t (hrow hb) ht)
    exact ⟨u, Ledger.transaction?_mem hu⟩
  · have hend := hk t ht
    rw [he] at hend
    exact hend w.session (.refl _)
  · exact Work.obtainBlockchainTransaction_found (s := { w.session with faults := f }) (hh.byHash? hb) hy
  · exact Work.yields_obtain_missed (s := { w.session with faults := f }) (hh.byHash? hb) ha hm

/-- The row that the donation is waited for with is missed once, and found all the same. -/
theorem donation_raced : Relation.ReflTransGen (System.Happens (.any [])) System.empty Donation.awaited ∧
    ∃ b ∈ Donation.awaited.session.ledger.blockchainTransactions, b.place = (.optimism, Donation.hash.spelling) ∧
      ∃ s', (Work.obtainBlockchainTransaction b.chain b.hash 7).Yields
          { Donation.awaited.session with faults := ⟨false, none, 1⟩ } b s' ∧
        s'.ledger = Donation.awaited.session.ledger := by
  have hw := (Donation.awaited_reachable []).happened
  let b : BlockchainTransaction := ⟨.issued .blockchainTransaction 1, some (.issued .transaction 1), .optimism,
    Donation.hash.spelling, .pending, none, none, none⟩
  have hb : b ∈ Donation.awaited.session.ledger.blockchainTransactions := by decide +kernel
  obtain ⟨-, -, -, -, -, -, hraced⟩ := references_valid hw
  exact ⟨hw, b, hb, rfl, (hraced b hb ⟨false, none, 1⟩ 7).2 rfl rfl⟩

end System

end DonationLedger
