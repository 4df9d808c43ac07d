import DonationLedger.Proofs.Checkpoint
import DonationLedger.Proofs.References
import DonationLedger.Proofs.Resolution.Proceeds
import DonationLedger.Proofs.System.Ends

/-!
# No log stops a cycle

Whatever logs a node tells, a cycle that nobody disturbs goes through all of them and moves the checkpoint, unless a
node, the contents or the ledger failed, a pending transaction has waited for the receipt of one of the logs and the
receipt cannot be had or used, or the checkpoint would leave its range (`Session.Stops`). All other failures of a
resolution need a ledger that no system comes to.
-/

namespace DonationLedger

/-- The stored checkpoint of a chain as a block number. -/
def Ledger.followed? (l : Ledger) (chain : Chain) : Option Nat := (l.checkpoint? chain).map fun c => c.block.toNat

/-- The node told the log. -/
def Log.Returned (log : Log) (d : Deployment) (h : List Told) : Prop :=
  ∃ first last, ∃ logs : List Log, Told.node d.chain (.logs first last) (.ok logs) ∈ h ∧ log ∈ logs

/-- The node told a log and then of a receipt for it, and a pending transaction of `s` waits for that receipt. -/
structure Session.Consults (s : Session) (d : Deployment) (h : List Told) (log : Log) (answer : Option Receipt) :
    Prop where
  returned : log.Returned d h
  waits : s.ledger.WaitsFor d.chain log.hash
  told : Told.node d.chain (.receipt log.hash) (.ok answer) ∈ h

/-- Why a cycle that began with `s` and was told `h` fails. -/
inductive Session.Stops (s : Session) (d : Deployment) (h : List Told) : Failure → Prop
  | told {e : Failure} (he : Heard h e) : Stops s d h e
  | ledger {e : Failure} (hc : s.faults.Causes e) : Stops s d h e
  | unmined {log : Log} (hc : s.Consults d h log none) : Stops s d h (.settlement (.notMined log.hash.spelling))
  | reverted {log : Log} {receipt : Receipt} (hc : s.Consults d h log (some receipt))
    (hr : receipt.reverted = true) : Stops s d h (.settlement
      (.invalidTransition BlockchainState.succeeded.title BlockchainState.reverted.title))
  | beyond {log : Log} {receipt : Receipt} (hc : s.Consults d h log (some receipt))
    (hb : Text.maxSigned64 < receipt.block) : Stops s d h
      (.settlement (.malformedPayload (.blockNumber receipt.block)))
  | checkpoint {height : Nat} {window : Window} (ht : Told.node d.chain .height (.ok height) ∈ h)
    (hw : window = .plan (s.ledger.followed? d.chain) height d.settings.confirmationDepth d.settings.windowSize)
    (hb : Text.maxSigned64 < window.checkpoint) : Stops s d h
      (.settlement (.malformedPayload (.checkpoint window.checkpoint)))

/-- A cycle that began with `s` and was told `h` has gone through a window: all its logs were applied, and the
checkpoint is its end. -/
structure Session.Sweeps (s s' : Session) (d : Deployment) (h : List Told) (f : FetchedWindow) (tally : Tally) :
    Prop where
  fetched : d.Fetches (fun q a => Told.node d.chain q (.ok a) ∈ h) (s.ledger.followed? d.chain) f
  total : tally.total = f.logs.length
  noted : ∀ log ∈ f.logs, s'.Noted d log
  checkpoint : s'.ledger.checkpoint? d.chain = some ⟨d.chain, f.window.checkpoint⟩

/-- Ids and places are keys, and the ledger is sound. -/
structure Session.Orderly (s : Session) : Prop extends s.Proper where
  hashed : s.Hashed

theorem Session.Orderly.proceeds {s s' : Session} (hs : s.Orderly) (h : s.Proceeds s') : s'.Orderly :=
  ⟨hs.toProper.upholds h.upholds, h.upholds.later.hashed hs.hashed⟩

theorem Log.Returned.subset {log : Log} {d : Deployment} {h h' : List Told} (hr : log.Returned d h) (hh : h ⊆ h') :
    log.Returned d h' := by
  obtain ⟨first, last, logs, ht, hl⟩ := hr
  exact ⟨first, last, logs, hh ht, hl⟩

theorem lt_of_storedNumber?_eq_none {n : Nat} (h : storedNumber? n = none) : Text.maxSigned64 < n := by
  by_cases hn : n ≤ Text.maxSigned64
  · exact nomatch h.symm.trans (storedNumber?_eq_some_iff.2 ⟨hn, rfl⟩)
  · omega

/-! ## Windows -/

/-- The end of a window is not below the checkpoint. -/
theorem Window.le_checkpoint {c : Nat} (hc : c ≤ Text.maxSigned64) (height depth size : Nat) :
    c ≤ (Window.plan (some c) height depth size).checkpoint := by
  rcases Window.plan_some hc height depth size with hp | ⟨last, hp⟩
  · rw [hp]
    exact Nat.le_refl c
  · obtain ⟨hle, -⟩ := Window.plan_range hp
    rw [hp]
    simp only [Window.checkpoint]
    omega

/-- The checkpoint that a cycle reads. -/
theorem followed?_of_yields {s : Session} {chain : Chain} {previous : Option Nat}
    (hy : (Work.findFollowed chain).Yields s previous s) : previous = s.ledger.followed? chain := by
  unfold Ledger.followed?
  rcases (Work.yields_findFollowed.1 hy).2 with ⟨hc, rfl⟩ | ⟨c, hc, -, rfl⟩
  · rw [hc]
    rfl
  · rw [hc]
    rfl

theorem checkpoint?_of_followed? {l : Ledger} (hv : l.Valid) {chain : Chain} {n : Nat}
    (h : l.followed? chain = some n) : l.checkpoint? chain = some ⟨chain, n⟩ := by
  obtain ⟨c, hc, rfl⟩ := Option.map_eq_some_iff.1 h
  obtain ⟨hpos, -⟩ := hv.followed chain c hc
  have hchain : c.chain = chain := by simpa using List.find?_some hc
  rw [hc, Int.toNat_of_nonneg hpos, ← hchain]

/-- A checkpoint that is raised to the end of the window after it is that end. -/
theorem raised_eq {l : Ledger} (hv : l.Valid) {chain : Chain} {window : Window} {height depth size : Nat}
    (hw : window = .plan (l.followed? chain) height depth size) :
    ((match l.checkpoint? chain with
      | some c => max c.block window.checkpoint
      | none => window.checkpoint : Int)) = window.checkpoint := by
  split
  · rename_i c hc
    obtain ⟨hpos, hmax⟩ := hv.followed chain c hc
    have hle := Window.le_checkpoint (c := c.block.toNat) (by omega) height depth size
    rw [hw, Ledger.followed?, hc, Option.map_some]
    omega
  · rfl

/-! ## Operations that nobody disturbs -/

/-- Anything may be answered, and nobody else does anything. -/
def undisturbed (r : Registry) : Terms := ⟨.any r, Eq, fun _ _ _ => True⟩

instance (r : Registry) : IsPreorder Session (undisturbed r).others where
  refl _ := rfl
  trans _ _ _ := Eq.trans

section
variable {r : Registry} {s₀ s : Session} {d : Deployment} {log : Log} {h : List Told}

theorem undisturbed_idles : (undisturbed r).Idles := fun _ _ _ _ _ => trivial

/-- Work that is done later fails by what was wrong at the beginning, or for a reason of its own. -/
theorem Work.FailsBy.stops {α : Type} {w : Work α} {P : Failure → Prop} {e : Failure} (hw : w.FailsBy P s)
    (hs : s₀.Proceeds s) (hp : P e → s₀.Stops d h e) (he : (w.result s).1 = .error e) : s₀.Stops d h e := by
  rcases hw.cause e he with hc | hc
  · exact .ledger (hs.eases.causes hc)
  · exact hp hc

/-- The receipt that is read for an open pair is that of its log, and the pair has waited for it from the beginning. -/
theorem Ledger.Open.consults {b t : Id} {c : BlockchainTransaction} {u : Transaction} {h' : List Told} {hash : Hash}
    {answer : Option Receipt} (ho : s.ledger.Open d.chain log.hash b t c u) (h₀ : s₀.Proper) (hs : s₀.Proceeds s)
    (hr : log.Returned d h) (hread : Process.Reads d h h' c hash answer) :
    hash = log.hash ∧ s₀.Consults d h' log answer := by
  have hhash : hash = log.hash := by
    have hparsed := hread.parsed
    rw [(Prod.mk.inj ho.place).2, FixedBytes.parse?_spelling] at hparsed
    exact (Option.some.inj hparsed).symm
  exact ⟨hhash, hr.subset hread.heard, hs.waitsFor h₀ ho, hhash ▸ hread.told⟩

theorem undisturbed_resolveReceipt {b t : Id} {c : BlockchainTransaction} {u : Transaction} (h₀ : s₀.Proper)
    (hs : s₀.Proceeds s) (ho : s.ledger.Open d.chain log.hash b t c u) (hr : log.Returned d h) :
    (resolveReceipt d b t).Meets (undisturbed r)
      (Process.ending (s₀.Stops d) fun _ _ s' => s.Proceeds s') h s := by
  have hres : Process.Resolves (undisturbed r) (s₀.Stops d) (fun _ _ s' => s.Proceeds s')
      (fun c' s₁ => s.Proceeds s₁ ∧ s₁.ledger.Open d.chain log.hash b t c' u) d b t h s := {
    opens := fun s₁ p s₂ hs₁ hy => by
      obtain rfl : s = s₁ := hs₁
      obtain ⟨hp, hopen⟩ := ho.openPair hy
      exact ⟨trivial, fun o s₃ _ hs₃ => hs₃ ▸ hp, fun hn => ⟨hp, hopen hn⟩⟩
    unopened := fun s₁ e hs₁ he => by
      obtain rfl : s = s₁ := hs₁
      exact (Work.failsBy_openPair b t).stops hs (fun hc => absurd hc ho.not_unpaired) he
    unreadable := fun s₁ c' hw hn => by
      rw [(Prod.mk.inj hw.2.place).2, FixedBytes.parse?_spelling] at hn
      cases hn
    unmined := fun s₁ c' hash h' hw hread => by
      obtain ⟨rfl, hc⟩ := hw.2.consults h₀ (hs.trans hw.1) hr hread
      exact .unmined hc
    beyond := fun s₁ c' hash receipt h' hw hread hb => by
      obtain ⟨rfl, hc⟩ := hw.2.consults h₀ (hs.trans hw.1) hr hread
      exact .beyond hc (lt_of_storedNumber?_eq_none hb)
    closes := fun s₁ c' hash receipt block os h' s₂ o s₃ hw hread _ _ hs₂ hy => by
      obtain rfl : s₁ = s₂ := hs₂
      exact ⟨trivial, fun s₄ hs₄ => hs₄ ▸ hw.1.trans (hw.2.closePair hy)⟩
    unclosed := fun s₁ c' hash receipt block os h' s₂ e hw hread hs₂ he => by
      obtain rfl : s₁ = s₂ := hs₂
      obtain ⟨-, hc⟩ := hw.2.consults h₀ (hs.trans hw.1) hr hread
      refine (Work.failsBy_closePair b t receipt block os).stops (hs.trans hw.1) (fun hp => ?_) he
      cases hp with
      | unpaired hp => exact absurd hp hw.2.not_unpaired
      | reverted _ _ _ hrev => exact .reverted hc hrev }
  exact Process.meets_resolveReceipt_ending (fun _ _ => .told) undisturbed_idles hres

theorem undisturbed_applyLog (h₀ : s₀.Orderly) (hs : s₀.Proceeds s) (hr : log.Returned d h) :
    (applyLog d log).Meets (undisturbed r)
      (Process.ending (s₀.Stops d) fun _ _ s' => s.Proceeds s' ∧ s'.Noted d log) h s := by
  have ho := h₀.proceeds hs
  refine Process.meets_applyLog_ending (fun _ _ => .told) undisturbed_idles ?_ ?_ ?_
  · intro ha s₁ hs₁
    obtain rfl : s = s₁ := hs₁
    exact ⟨.refl s, fun block index e he => nomatch ha.symm.trans he⟩
  · intro s₁ block index e verdict h' err _ _ hs₁ he
    obtain rfl : s = s₁ := hs₁
    exact (Work.failsBy_applyEvent ho.keyed).stops hs (fun hc => absurd hc ho.not_dangling) he
  · intro s₁ block index e verdict h' x s₂ ha hh _ hs₁ hy
    obtain rfl : s = s₁ := hs₁
    have hp : s.Proceeds s₂ := Work.proceeds_applyEvent ho.keyed hy
    have ho₂ := ho.proceeds hp
    have hnoted : s₂.Noted d log := by
      intro block' index' e' ha'
      cases Option.some.inj (ha.symm.trans ha')
      exact Work.seen_applyEvent ho.keyed ho.hashed hy
    refine ⟨trivial, ?_⟩
    cases x with
    | applied result => exact fun s₃ hs₃ => hs₃ ▸ ⟨hp, hnoted⟩
    | needsReceipt b t =>
      obtain ⟨c, u, hopen⟩ := Work.open_applyEvent ho.keyed ho.sound hy
      refine Process.meets_bind_ending ((undisturbed_resolveReceipt h₀.toProper (hs.trans hp) hopen
        (hr.subset hh)).imp fun h₂ o s₃ hend => ?_)
      cases o with
      | error err => exact hend
      | ok outcome =>
        have hlater : s₂.Later s₃ := hend.upholds.later
        exact fun s₄ hs₄ => hs₄ ▸ ⟨hp.trans hend, hnoted.later ho₂.keyed ho₂.hashed hlater⟩

/-- How a cycle ends that began with `s₀`. -/
def Session.sweepEnd (s₀ : Session) (d : Deployment) : List Told → Except Failure CycleReport → Session → Prop :=
  Process.ending (s₀.Stops d) fun h report s => ∃ f tally,
    report = Process.cycleReport d (s₀.ledger.followed? d.chain) f tally ∧ s₀.Sweeps s d h f tally

/-- A window that was picked has been gone through when its logs were applied and the checkpoint is its end. -/
theorem Process.Picks.sweeps {h' : List Told} {s₁ s₂ s₃ : Session} {previous : Option Nat} {f : FetchedWindow}
    {tally : Tally} (hp : Process.Picks (undisturbed r) d h h' s₀ s₁ previous f) (htotal : tally.total = f.logs.length)
    (happlied : ∀ log ∈ f.logs, s₂.Orderly ∧ s₂.Noted d log) (hlater : s₂.Later s₃)
    (hc : s₃.ledger.checkpoint? d.chain = some ⟨d.chain, f.window.checkpoint⟩) : s₀.Sweeps s₃ d h' f tally := by
  obtain rfl : s₀ = s₁ := hp.others
  obtain rfl := followed?_of_yields hp.read
  refine ⟨hp.fetched.imp fun _ _ ha => ha.1, htotal, fun log hl => ?_, hc⟩
  obtain ⟨ho, hnoted⟩ := happlied log hl
  exact hnoted.later ho.keyed ho.hashed hlater

/-- The checkpoint is the end of the window that was picked, once it is raised to it. -/
theorem Process.Picks.raised {h' : List Told} {s₁ s₂ s₃ : Session} {previous : Option Nat} {f : FetchedWindow}
    {stored : Int} (hv : s₀.ledger.Valid) (hp : Process.Picks (undisturbed r) d h h' s₀ s₁ previous f)
    (hs : s₀.Proceeds s₂) (hb : storedNumber? f.window.checkpoint = some stored)
    (hy : (Work.raiseCheckpoint d.chain stored).Yields s₂ () s₃) :
    s₃.ledger.checkpoint? d.chain = some ⟨d.chain, f.window.checkpoint⟩ := by
  obtain rfl : s₀ = s₁ := hp.others
  obtain rfl := followed?_of_yields hp.read
  obtain ⟨-, rfl⟩ := storedNumber?_eq_some_iff.1 hb
  obtain ⟨height, -, hw⟩ := hp.fetched.window
  rw [(Work.yields_raiseCheckpoint.1 hy).2, Session.ledger_write, Ledger.checkpoint?_setCheckpoint,
    hs.beside.checkpoint?]
  exact congrArg some (congrArg (Checkpoint.mk d.chain) (raised_eq hv hw))

theorem undisturbed_cycle (h₀ : s₀.Orderly) (hv : s₀.ledger.Valid) :
    (cycle d).Meets (undisturbed r) (s₀.sweepEnd d) h s₀ := by
  let goes (s s' : Session) : Prop := s.Proceeds s'
  have hpre : IsPreorder Session goes := { refl := .refl, trans := fun _ _ _ => .trans }
  have hc : Process.Cycles (undisturbed r) (s₀.Stops d)
      (fun h' report s' => ∃ f tally, report = Process.cycleReport d (s₀.ledger.followed? d.chain) f tally ∧
        s₀.Sweeps s' d h' f tally)
      goes (fun log s => s.Orderly ∧ s.Noted d log) d h s₀ := {
    within := fun hs => hs ▸ .refl _
    lasts := fun log s s' heff hs => ⟨heff.1.proceeds hs, heff.2.later heff.1.keyed heff.1.hashed hs.upholds.later⟩
    unread := fun s₁ e hs₁ he => by
      obtain rfl : s₀ = s₁ := hs₁
      refine (Work.failsBy_findFollowed d.chain).stops (.refl s₀) (fun hp => ?_) he
      obtain ⟨c, hc, hneg, -⟩ := hp
      have hbounds := hv.followed d.chain c hc
      omega
    applies := fun previous f log h' s₁ s₂ hp hl hs₂ => by
      obtain rfl : s₀ = s₁ := hp.others
      obtain ⟨first, last, logs, ht, hm⟩ := hp.fetched.mem hl
      refine (undisturbed_applyLog h₀ hs₂ ⟨first, last, logs, ht.1, hm⟩).heard.imp fun h₂ x s₃ ⟨hx, hh⟩ => ?_
      cases x with
      | ok result => exact ⟨hh, hx.1, (h₀.proceeds hs₂).proceeds hx.1, hx.2⟩
      | error err => exact hx
    stays := fun previous f tally h' s₁ s₂ hp hs₂ heffs htotal hprev => by
      obtain rfl : s₀ = s₁ := hp.others
      obtain rfl := followed?_of_yields hp.read
      exact ⟨f, tally, rfl, hp.sweeps htotal heffs (.refl s₂)
        ((hs₂.beside.checkpoint? d.chain).trans (checkpoint?_of_followed? hv hprev))⟩
    beyond := fun previous f h' s₁ hp hb => by
      obtain rfl : s₀ = s₁ := hp.others
      obtain rfl := followed?_of_yields hp.read
      obtain ⟨height, ht, hw⟩ := hp.fetched.window
      exact .checkpoint ht.1 hw (lt_of_storedNumber?_eq_none hb)
    raises := fun previous f tally stored h' s₁ s₂ s₃ hp hs₂ heffs htotal hne hb hy => by
      obtain rfl : s₀ = s₁ := hp.others
      obtain rfl := followed?_of_yields hp.read
      have hlater := (Work.lasting_raiseCheckpoint _ _).later hy
      exact ⟨trivial, fun s₄ hs₄ => hs₄ ▸
        ⟨f, tally, rfl, hp.sweeps htotal heffs hlater (hp.raised hv hs₂ hb hy)⟩⟩
    unraised := fun previous f stored h' s₁ s₂ e hp hs₂ he => by
      obtain rfl : s₀ = s₁ := hp.others
      exact (Work.failsBy_change (P := fun _ => False)).stops hs₂ (fun hp => hp.elim) he }
  exact Process.meets_cycle_ending (fun _ _ => .told) undisturbed_idles hc

theorem undisturbed_guardedCycle {chain : Chain} (h₀ : s₀.Orderly) (hv : s₀.ledger.Valid) :
    (guardedCycle d chain).Meets (undisturbed r) (s₀.sweepEnd d) h s₀ := by
  refine Process.meets_andThen ((undisturbed_cycle h₀ hv).stays.imp fun h' x s₁ hx s₂ hs₂ s₃ hs₃ => ?_)
  exact hx s₃ (hs₂.trans hs₃)

end

/-- A cycle that nobody disturbs is about to ask for its chain, which is free, or goes on and will end as said. -/
inductive System.Sweeping (r : Registry) (chain : Chain) (d : Deployment) (s₀ : Session) : System → Prop
  | begins : Sweeping r chain d s₀ ⟨s₀, [], [(Operation.follow chain).task r]⟩
  | runs {w : System} {rest : Process CycleReport} {h : List Told} (ht : w.tasks = [⟨.follow chain, rest, h⟩])
    (hm : rest.Meets (undisturbed r) (s₀.sweepEnd d) h w.session) : Sweeping r chain d s₀ w

/-- The rows of a pair are not as they should be. -/
inductive Failure.Unfit : Failure → Prop
  | linkedElsewhere (b t : Id) : Unfit (.settlement (.linkedElsewhere b t))
  | transactionNotFound (t : Id) : Unfit (.settlement (.transactionNotFound t))
  | blockchainTransactionNotFound (t : Id) : Unfit (.settlement (.blockchainTransactionNotFound t))
  | transition (x y : TransactionState) : Unfit (.settlement (.invalidTransition x.title y.title))

/-- None of the reasons to stop is that rows are not as they should be. -/
theorem Session.Stops.heard {s : Session} {d : Deployment} {h : List Told} {e : Failure} (hs : s.Stops d h e)
    (he : e.Unfit) : Heard h e := by
  cases hs with
  | told hh => exact hh
  | ledger hc => cases hc with
    | write => cases he
    | lookup => cases he
  | unmined => cases he
  | reverted =>
    generalize hf : Failure.settlement _ = e at he
    cases he with
    | transition x y => cases x <;> cases y <;> simp [TransactionState.title, BlockchainState.title] at hf
    | _ => cases hf
  | beyond => cases he
  | checkpoint => cases he

theorem Outside.any_answers (r : Registry) : (Outside.any r).Answers :=
  ⟨fun _ _ => ⟨.error default, trivial⟩, fun _ _ => ⟨.error default, trivial⟩⟩

namespace System

variable {r : Registry} {chain : Chain} {d : Deployment} {w w' : System} {k : Nat} {s₀ : Session}

theorem Sweeping.advance (hd : r.find? chain = some d) (h₀ : s₀.Orderly) (hv : s₀.ledger.Valid)
    (hw : w.Sweeping r chain d s₀) (h : w.Advance (.any r) k w') : w'.Sweeping r chain d s₀ := by
  obtain @⟨t, s, held, rest, told, ht, hn⟩ := h
  cases hw with
  | begins =>
    obtain ⟨hk, -⟩ := List.getElem?_eq_some_iff.1 ht
    obtain rfl : k = 0 := by simpa using hk
    obtain rfl := Option.some.inj ht
    have hn : (follow r chain).Next (.any r) s₀ [] s held rest told := hn
    rw [follow_eq hd] at hn
    cases hn
    exact .runs rfl (undisturbed_guardedCycle h₀ hv)
  | runs htasks hm =>
    rw [htasks] at ht
    obtain ⟨hk, -⟩ := List.getElem?_eq_some_iff.1 ht
    obtain rfl : k = 0 := by simpa using hk
    obtain rfl := Option.some.inj ht
    refine .runs (by rw [htasks]; rfl) (hm.next hn).1

/-- Whatever logs the node tells, a cycle that nobody disturbs goes through its window and moves the checkpoint, unless
somebody who was asked failed, the ledger refused a write, a pending transaction waits for the receipt of a log and the
receipt is missing, reverted or beyond the range of blocks, or the checkpoint would be. That rows are not as they should
be never stops it. -/
theorem logs_never_block (hw : w.Reachable r) (hd : r.find? chain = some d) :
    System.Inevitably (.any r)
      (fun w' => ∃ result heard, w'.tasks = [⟨.follow chain, .finish result, heard⟩] ∧
        (∀ e, result = .error e → w.session.Stops d heard e ∧ (e.Unfit → Heard heard e)) ∧
        ∀ report, result = .ok report → ∃ f tally,
          report = Process.cycleReport d (w.session.ledger.followed? d.chain) f tally ∧
          w.session.Sweeps w'.session d heard f tally)
      ⟨w.session, [], [(Operation.follow chain).task r]⟩ := by
  obtain ⟨-, hr, hh⟩ := referring_happened hw.happened
  have h₀ : w.session.Orderly := ⟨hw.kept.2, hh⟩
  refine (inevitably_of_invariant (Outside.any_answers r) (Sweeping.advance hd h₀ hr.valid) .begins).imp ?_
  rintro w' ⟨hs, hends⟩
  cases hs with
  | begins =>
    obtain ⟨result, hresult⟩ := hends _ List.mem_cons_self
    have hresult : follow r chain = .finish result := hresult
    rw [follow_eq hd] at hresult
    cases hresult
  | @runs _ rest heard ht hm =>
    obtain ⟨result, rfl⟩ : ∃ result : Except Failure CycleReport, rest = .finish result :=
      hends ⟨.follow chain, rest, heard⟩ (by rw [ht]; exact List.mem_cons_self)
    have hend := hm w'.session rfl
    refine ⟨result, heard, ht, ?_, ?_⟩
    · rintro e rfl
      have hstops : w.session.Stops d heard e := hend
      exact ⟨hstops, hstops.heard⟩
    · rintro report rfl
      exact hend

end System

/-! ## A cycle over one donation -/

/-- The report that a cycle ended with. -/
def Task.report? : Task → Option CycleReport
  | ⟨.follow _, .finish (.ok report), _⟩ => some report
  | _ => none

theorem Task.eq_of_report? {task : Task} {report : CycleReport} (h : task.report? = some report) :
    ∃ chain heard, task = ⟨.follow chain, .finish (.ok report), heard⟩ := by
  unfold report? at h
  split at h <;> cases h
  exact ⟨_, _, rfl⟩

namespace Donation

/-- A cycle is begun while the donation is waited for. -/
def cycling : System := ⟨awaited.session, [], [(Operation.follow .optimism).task [deployment]]⟩

/-- The cycle has had its turns. -/
def cycled : System := cycling.turns ahead (List.replicate 20 0)

end Donation

/-- The cycle comes to its end: it sweeps the blocks up to the donation's, and links its log. -/
theorem System.donation_unblocked : Donation.awaited.Reachable [Donation.deployment] ∧
    Relation.ReflTransGen (fun w w' => ∃ k, w.Advance (.any [Donation.deployment]) k w') Donation.cycling
      Donation.cycled ∧
    ∃ report heard f tally, Donation.cycled.tasks = [⟨.follow .optimism, .finish (.ok report), heard⟩] ∧
      report.checkpoint = some 7 ∧ report.tally.linked = 1 ∧
      report = Process.cycleReport Donation.deployment
        (Donation.awaited.session.ledger.followed? Donation.deployment.chain) f tally ∧
      Donation.awaited.session.Sweeps Donation.cycled.session Donation.deployment heard f tally := by
  have hw := Donation.awaited_reachable [Donation.deployment]
  have hends := logs_never_block hw (rfl : Registry.find? _ .optimism = some Donation.deployment)
  have hr : Relation.ReflTransGen (fun w w' => ∃ k, w.Advance (.any [Donation.deployment]) k w') Donation.cycling
      Donation.cycled := turns_advances (fun _ _ => trivial) (fun _ _ => trivial) _ _
  have hreports : Donation.cycled.tasks.map (fun t => t.report?.map fun r => (r.checkpoint, r.tally.linked)) =
      [some (some 7, 1)] := by decide +kernel
  obtain ⟨task, tasks, htasks, htask, hrest⟩ := List.map_eq_cons_iff.1 hreports
  obtain rfl := List.map_eq_nil_iff.1 hrest
  obtain ⟨report, hreport, hlinked⟩ := Option.map_eq_some_iff.1 htask
  obtain ⟨chain, heard, rfl⟩ := Task.eq_of_report? hreport
  have hended : ∀ t ∈ Donation.cycled.tasks, t.Ended := by
    rw [htasks]
    rintro t ht
    obtain rfl := List.mem_singleton.1 ht
    exact ⟨_, rfl⟩
  obtain ⟨result, heard', ht, -, hswept⟩ := hends.of_reached hr hended
  rw [htasks] at ht
  cases ht
  obtain ⟨f, tally, hf, hsweeps⟩ := hswept report rfl
  obtain ⟨hcheckpoint, hone⟩ := Prod.mk.inj hlinked
  exact ⟨hw, hr, report, heard, f, tally, htasks, hcheckpoint, hone, hf, hsweeps⟩

end DonationLedger
