import DonationLedger.Proofs.Follow.Requests
import DonationLedger.Proofs.Follow.Sparing

/-!
# Cycles that hold their chain

While a cycle holds its chain, others leave the checkpoint alone. So the checkpoint that it finds and the height that it
is told decide which logs it asks for and where it leaves the checkpoint (`Deployment.Cycled`), exactly, although the
bounds are computed in words of 64 bits.
-/

namespace DonationLedger

/-- The logs that a node was asked for. -/
def Told.logs? : Told → Option (Chain × Option Nat × Option Nat)
  | .node chain (.logs first last) _ => some (chain, first, last)
  | _ => none

/-- The height that a node told. -/
def Told.height? : Told → Option (Chain × Nat)
  | .node chain .height (.ok height) => some (chain, height)
  | _ => none

/-- The logs that were asked for, one request after another. -/
def askedLogs (h : List Told) : List (Chain × Option Nat × Option Nat) := h.filterMap Told.logs?

/-- The heights that were told, one after another. -/
def toldHeights (h : List Told) : List (Chain × Nat) := h.filterMap Told.height?

theorem Told.of_isReceipt {t : Told} (h : t.About Query.IsReceipt) : t.logs? = none ∧ t.height? = none := by
  cases t with
  | content ref r => exact ⟨rfl, rfl⟩
  | node chain q r =>
    cases q with
    | height => exact h.elim
    | logs first last => exact h.elim
    | receipt hash => exact ⟨rfl, rfl⟩

/-- Receipts are neither logs nor heights. -/
theorem filterMap_append_receipts {α : Type} {f : Told → Option α} {h told : List Told}
    (hf : ∀ t : Told, t.About Query.IsReceipt → f t = none) (ht : ∀ t ∈ told, t.About Query.IsReceipt) :
    (h ++ told).filterMap f = h.filterMap f := by
  have hnone : told.filterMap f = [] := List.filterMap_eq_nil_iff.2 fun t hm => hf t (ht t hm)
  rw [List.filterMap_append, hnone, List.append_nil]

/-! ## Windows -/

namespace Deployment

/-- The last final block at a height. -/
def final (d : Deployment) (height : Nat) : Nat := height - d.settings.confirmationDepth

/-- How many blocks a window has at most. -/
def span (d : Deployment) : Nat := max d.settings.windowSize 1

/-- Where the window after a checkpoint ends. -/
def reach (d : Deployment) (c height : Nat) : Nat := min (c + d.span) (d.final height)

/-- The window of a deployment after a checkpoint. -/
def window (d : Deployment) (checkpoint : Option Nat) (height : Nat) : Window :=
  .plan checkpoint height d.settings.confirmationDepth d.settings.windowSize

/-- What a cycle does that finds the checkpoint at a block: the heights it is told, the logs it asks for, whether it
succeeds, and the block where it leaves the checkpoint. -/
inductive Cycled (d : Deployment) (c : Nat) :
    List (Chain × Nat) → List (Chain × Option Nat × Option Nat) → Bool → Nat → Prop
  | heightless : Cycled d c [] [] false c
  | upToDate {height : Nat} (hc : d.final height ≤ c) : Cycled d c [(d.chain, height)] [] true c
  | failed {height : Nat} (hc : c < d.final height) :
    Cycled d c [(d.chain, height)] [(d.chain, some (c + 1), some (d.reach c height))] false c
  | swept {height : Nat} (hc : c < d.final height) (hmax : d.reach c height ≤ Text.maxSigned64) :
    Cycled d c [(d.chain, height)] [(d.chain, some (c + 1), some (d.reach c height))] true (d.reach c height)

/-- The stored checkpoint is at a block. -/
structure StartsAt (d : Deployment) (before : Option Checkpoint) (c : Nat) : Prop where
  found : before = some ⟨d.chain, c⟩
  range : c ≤ Text.maxSigned64

variable {d : Deployment} {c height : Nat} {told : List Told} {r : Except Failure FetchedWindow}

theorem lt_reach (hc : c < d.final height) : c < d.reach c height := by
  unfold reach span
  omega

/-- No sum of the window shows that it is one of words. -/
theorem window_some (hc : c ≤ Text.maxSigned64) (hh : height ≤ Text.maxWord64) : d.window (some c) height =
    if d.final height ≤ c then .upToDate c else .range (c + 1) (d.reach c height) := by
  have hmax : Text.maxSigned64 + 1 ≤ Text.maxWord64 := by decide
  have hnext : Window.plus c 1 = c + 1 := Window.plus_eq (by omega)
  simp only [window, Window.plan, hnext]
  unfold reach span final Window.safeHeight Window.plus
  split
  · rw [if_pos (by omega)]
  · rw [if_neg (by omega)]
    congr 1
    omega

/-- A window without bounds ends where the checkpoint is. -/
theorem window_unbounded {checkpoint : Option Nat} (hb : (d.window checkpoint height).bounds? = none) :
    checkpoint = some (d.window checkpoint height).checkpoint := by
  cases checkpoint with
  | none => exact nomatch hb
  | some c =>
    unfold window Window.plan at hb ⊢
    simp only at hb ⊢
    split at hb
    · rename_i hc
      rw [if_pos hc]
      rfl
    · exact nomatch hb

/-- A window without bounds: what is final was gone through. -/
theorem window_bounds_none (hc : c ≤ Text.maxSigned64) (hh : height ≤ Text.maxWord64)
    (hb : (d.window (some c) height).bounds? = none) : d.final height ≤ c := by
  rw [window_some hc hh] at hb
  split at hb
  · assumption
  · cases hb

/-- A window with bounds: they are the next block and where the window ends. -/
theorem window_bounds_some {first last : Option Nat} (hc : c ≤ Text.maxSigned64) (hh : height ≤ Text.maxWord64)
    (hb : (d.window (some c) height).bounds? = some (first, last)) : c < d.final height ∧
      (d.window (some c) height).checkpoint = d.reach c height ∧ first = some (c + 1) ∧
      last = some (d.reach c height) := by
  rw [window_some hc hh] at hb ⊢
  split at hb
  · cases hb
  · rename_i hlt
    cases hb
    rw [if_neg hlt]
    exact ⟨Nat.lt_of_not_le hlt, rfl, rfl, rfl⟩

end Deployment

/-! ## The cycle -/

namespace Deployment

/-- A cycle that begins at a block reads that. -/
theorem StartsAt.read {d : Deployment} {c : Nat} {s s' : Session} {previous : Option Nat}
    (hc : d.StartsAt (s.ledger.checkpoint? d.chain) c)
    (hy : (Work.findFollowed d.chain).Yields s previous s') : previous = some c := by
  rcases (Work.yields_findFollowed.1 hy).2 with ⟨hno, -⟩ | ⟨c', hc', -, rfl⟩
  · exact nomatch hno.symm.trans hc.found
  · cases Option.some.inj (hc'.symm.trans hc.found)
    rfl

/-- If the cycle began at a block, the checkpoint is at one that was final at a height it was told. -/
def Bounded (d : Deployment) (before : Option Checkpoint) (h : List Told) (s : Session) : Prop :=
  ∀ c, d.StartsAt before c → ∃ height c' : Nat, (d.chain, height) ∈ toldHeights h ∧
    s.ledger.checkpoint? d.chain = some ⟨d.chain, c'⟩ ∧ c' ≤ d.final height

/-- How a cycle ends that found the checkpoint `before`. -/
def cycleEnd (d : Deployment) (before : Option Checkpoint) (h : List Told) (r : Except Failure CycleReport)
    (s : Session) : Prop :=
  ∀ c, d.StartsAt before c → ∃ c' : Nat, s.ledger.checkpoint? d.chain = some ⟨d.chain, c'⟩ ∧
    d.Cycled c (toldHeights h) (askedLogs h) r.isOk c'

/-- Where the checkpoint was not moved. -/
theorem cycleEnd_of_spared {d : Deployment} {before : Option Checkpoint} {h : List Told}
    {r : Except Failure CycleReport} {s : Session} (hs : s.ledger.checkpoint? d.chain = before)
    (hc : ∀ c, d.StartsAt before c → d.Cycled c (toldHeights h) (askedLogs h) r.isOk c) : d.cycleEnd before h r s :=
  fun c hstart => ⟨c, hs.trans hstart.found, hc c hstart⟩

end Deployment

/-- Others leave the checkpoint alone, and the cycle moves it within what is final. -/
def holding (o : Outside) (d : Deployment) (before : Option Checkpoint) : Terms where
  outside := o
  others s s' := s.Spares d.chain s'
  own h s s' := s.Later s' ∧ (s.Spares d.chain s' ∨ d.Bounded before h s')

instance (o : Outside) (d : Deployment) (before : Option Checkpoint) :
    IsPreorder Session (holding o d before).others where
  refl s := .refl s d.chain
  trans _ _ _ := .trans

section
variable {o : Outside} {d : Deployment} {before : Option Checkpoint} {h : List Told} {s : Session}

theorem holding_idles : (holding o d before).Idles := fun _ _ _ hl hs =>
  have hs := Session.Spares.of_ledger_eq hl hs
  ⟨hs.later, .inl hs⟩

/-- Logs are applied without moving the checkpoint, and for them only receipts are asked for. -/
theorem holding_applyLogs {tally : Tally} {logs : List Log} (hk : s.Keyed) :
    (d.applyLogs tally logs).Meets (holding o d before) (fun h' _ s' => s.Spares d.chain s' ∧
      toldHeights h' = toldHeights h ∧ askedLogs h' = askedLogs h) h s := by
  have hspares := (sparing_applyLogs hk : (d.applyLogs tally logs).Meets (sparing o d.chain) _ h s).spares
  have htold := hspares.confined (Process.confined_applyLogs d tally logs : Process.Confined _ (fun _ => False) _)
  have hheld : (d.applyLogs tally logs).Meets (holding o d before) _ h s :=
    htold.mono rfl id fun hs => ⟨hs.later, .inl hs⟩
  refine hheld.imp fun h' r s' ⟨hs', told, he, ht⟩ => ?_
  subst he
  have ht : ∀ t ∈ told, t.About Query.IsReceipt := fun t hm => (ht t hm).1
  exact ⟨hs', filterMap_append_receipts (fun t h => (Told.of_isReceipt h).2) ht,
    filterMap_append_receipts (fun t h => (Told.of_isReceipt h).1) ht⟩

/-- The checkpoint is moved to the end of the window, or stays. -/
theorem holding_moveCheckpoint {previous : Option Nat} {block : Nat} (hs : s.ledger.checkpoint? d.chain = before)
    (hp : ∀ c, d.StartsAt before c → previous = some c)
    (hb : ∀ c, d.StartsAt before c → c < block ∧
      ∃ height, (d.chain, height) ∈ toldHeights h ∧ block ≤ d.final height) :
    (moveCheckpoint d.chain previous block).Meets (holding o d before) (fun h' r s' => h' = h ∧ match r with
      | .error _ => s'.ledger.checkpoint? d.chain = before
      | .ok _ => ∀ c, d.StartsAt before c → block ≤ Text.maxSigned64 ∧
          s'.ledger.checkpoint? d.chain = some ⟨d.chain, block⟩) h s := by
  unfold moveCheckpoint
  split
  · rename_i he
    intro s₁ _
    refine ⟨rfl, fun c hc => ?_⟩
    have hblock : c = block := Option.some.inj ((hp c hc).symm.trans he)
    have hlt := (hb c hc).1
    omega
  · split
    · exact fun s₁ hs₁ => ⟨rfl, hs₁.checkpoint.trans hs⟩
    · rename_i stored hstored
      obtain ⟨hmax, rfl⟩ := storedNumber?_eq_some_iff.1 hstored
      refine Process.meets_ledger (fun s₁ u s₂ hs₁ hy => ?_) (fun s₁ e hs₁ _ => ?_)
      · have hlater := (Work.lasting_raiseCheckpoint d.chain block).later hy
        have hraised : ∀ c, d.StartsAt before c → s₂.ledger.checkpoint? d.chain = some ⟨d.chain, block⟩ := by
          intro c hc
          have hlt := (hb c hc).1
          rw [(Work.yields_raiseCheckpoint.1 hy).2, Session.ledger_write, Ledger.checkpoint?_setCheckpoint,
            hs₁.checkpoint, hs, hc.found]
          simp only [Option.some.injEq, Checkpoint.mk.injEq, true_and]
          omega
        refine ⟨⟨hlater, .inr fun c hc => ?_⟩, fun s₃ hs₃ => ⟨rfl, fun c hc => ?_⟩⟩
        · obtain ⟨-, height, ht, hle⟩ := hb c hc
          exact ⟨height, block, ht, hraised c hc, hle⟩
        · exact ⟨hmax, hs₃.checkpoint.trans (hraised c hc)⟩
      · refine ⟨holding_idles _ _ _ rfl ((Work.lasting_raiseCheckpoint d.chain block) s₁).supply, ?_⟩
        exact fun s₃ hs₃ => ⟨rfl, hs₃.checkpoint.trans (hs₁.checkpoint.trans hs)⟩

/-- What a cycle does whose window has no bounds. -/
theorem holding_sweep_none {previous : Option Nat} {height : Nat} {window : Window}
    (hs : s.ledger.checkpoint? d.chain = before) (hp : previous = some window.checkpoint)
    (hf : ∀ c, d.StartsAt before c → d.final height ≤ c) (hh : toldHeights h = [(d.chain, height)])
    (ha : askedLogs h = []) : (Process.sweep d previous ⟨window, []⟩).Meets (holding o d before)
      (d.cycleEnd before) h s := by
  have hmove : moveCheckpoint d.chain previous window.checkpoint = pure () := if_pos hp
  show (moveCheckpoint d.chain previous window.checkpoint >>=
    fun _ => pure (Process.cycleReport d previous ⟨window, []⟩ .zero)).Meets _ _ _ _
  rw [hmove]
  intro s₁ hs₁
  refine Deployment.cycleEnd_of_spared (hs₁.checkpoint.trans hs) fun c hc => ?_
  rw [hh, ha]
  exact .upToDate (hf c hc)

/-- What a cycle does once it knows the logs of a window with bounds. -/
theorem holding_sweep_some {previous : Option Nat} (height : Nat) {f : FetchedWindow} (hk : s.Keyed)
    (hs : s.ledger.checkpoint? d.chain = before) (hp : ∀ c, d.StartsAt before c → previous = some c)
    (hf : ∀ c, d.StartsAt before c → c < d.final height ∧ f.window.checkpoint = d.reach c height ∧
      askedLogs h = [(d.chain, some (c + 1), some (d.reach c height))])
    (hh : toldHeights h = [(d.chain, height)]) : (Process.sweep d previous f).Meets (holding o d before)
      (d.cycleEnd before) h s := by
  have hfailed {h' : List Told} {s' : Session} (e : Failure) (hs' : s'.ledger.checkpoint? d.chain = before)
      (hth : toldHeights h' = toldHeights h) (hal : askedLogs h' = askedLogs h) :
      d.cycleEnd before h' (.error e) s' := by
    refine Deployment.cycleEnd_of_spared hs' fun c hc => ?_
    rw [hth, hal, hh, (hf c hc).2.2]
    exact .failed (hf c hc).1
  refine Process.meets_bind ((holding_applyLogs hk).imp fun h₁ r s₁ ⟨hs₁, hth, hal⟩ => ?_)
  have hb₁ := hs₁.checkpoint.trans hs
  cases r with
  | error e => exact fun s₂ hs₂ => hfailed e (hs₂.checkpoint.trans hb₁) hth hal
  | ok tally =>
    refine Process.meets_bind ((holding_moveCheckpoint hb₁ hp fun c hc => ?_).imp fun h₂ r s₂ ⟨he, hr⟩ => ?_)
    · obtain ⟨hlt, hblock, -⟩ := hf c hc
      rw [hblock]
      refine ⟨Deployment.lt_reach hlt, height, ?_, Nat.min_le_right _ _⟩
      rw [hth, hh]
      exact List.mem_singleton_self _
    · subst he
      cases r with
      | error e => exact fun s₃ hs₃ => hfailed e (hs₃.checkpoint.trans hr) hth hal
      | ok u =>
        intro s₃ hs₃ c hc
        obtain ⟨hlt, hblock, hlogs⟩ := hf c hc
        obtain ⟨hmax, hstored⟩ := hr c hc
        rw [hblock] at hmax hstored
        refine ⟨d.reach c height, hs₃.checkpoint.trans hstored, ?_⟩
        rw [hth, hal, hh, hlogs]
        exact .swept hlt hmax

/-- What a cycle does once it has asked for the window after its checkpoint. -/
theorem holding_fetched {previous : Option Nat} {r : Except Failure FetchedWindow} (hk : s.Keyed)
    (hs : s.ledger.checkpoint? d.chain = before) (hp : ∀ c, d.StartsAt before c → previous = some c)
    (hword : ∀ height : Nat, Told.node d.chain .height (.ok height) ∈ h → height ≤ Text.maxWord64)
    (hf : d.Fetching previous h r) : match r with
      | .ok f => (Process.sweep d previous f).Meets (holding o d before) (d.cycleEnd before) h s
      | .error e => ∀ s', s.Spares d.chain s' → d.cycleEnd before h (.error e) s' := by
  cases hf with
  | heightless e =>
    exact fun s₁ hs₁ => Deployment.cycleEnd_of_spared (hs₁.checkpoint.trans hs) fun c _ => .heightless
  | @unbounded height window hw hb =>
    subst hw
    refine holding_sweep_none hs (Deployment.window_unbounded hb) (fun c hc => ?_) rfl rfl
    obtain rfl := hp c hc
    exact Deployment.window_bounds_none hc.range (hword height List.mem_cons_self) hb
  | @logless height window first last e hw hb =>
    subst hw
    refine fun s₁ hs₁ => Deployment.cycleEnd_of_spared (hs₁.checkpoint.trans hs) fun c hc => ?_
    obtain rfl := hp c hc
    obtain ⟨hlt, -, rfl, rfl⟩ := Deployment.window_bounds_some hc.range (hword height List.mem_cons_self) hb
    exact .failed hlt
  | @fetched height window first last logs hw hb =>
    subst hw
    refine holding_sweep_some height hk hs hp (fun c hc => ?_) rfl
    obtain rfl := hp c hc
    obtain ⟨hlt, hend, rfl, rfl⟩ := Deployment.window_bounds_some hc.range (hword height List.mem_cons_self) hb
    exact ⟨hlt, hend, rfl⟩

/-- A cycle that holds its chain does what its checkpoint and the height that it is told decide. -/
theorem holding_cycle (hword : ∀ height : Nat, o.answers d.chain .height (.ok height) → height ≤ Text.maxWord64)
    (hk : s.Keyed) (hs : s.ledger.checkpoint? d.chain = before) :
    (cycle d).Meets (holding o d before) (d.cycleEnd before) [] s := by
  rw [Process.cycle_eq]
  refine Process.meets_ledger (fun s₁ previous s₂ hs₁ hread => ?_) (fun s₁ e hs₁ _ => ?_)
  · obtain rfl := (Work.yields_findFollowed.1 hread).1
    have hb₁ := hs₁.checkpoint.trans hs
    have hp : ∀ c, d.StartsAt before c → previous = some c := by
      rw [← hb₁]
      exact fun c hc => hc.read hread
    refine ⟨holding_idles _ _ _ rfl fun _ => Nat.le_refl _, ?_⟩
    refine Process.meets_bind ((Process.meets_fetchWindow_told previous).imp
      fun h₁ r s₃ ⟨hs₃, told, he, htold, hf⟩ => ?_)
    rw [List.nil_append] at he
    subst he
    have hfetched := holding_fetched (o := o) ((hs₁.trans hs₃).later.keyed hk) (hs₃.checkpoint.trans hb₁) hp
      (fun height ht => hword height (htold _ ht)) hf
    cases r with
    | ok f => exact hfetched
    | error e => exact hfetched
  · refine ⟨holding_idles _ _ _ rfl ((Work.lasting_findFollowed d.chain) s₁).supply, fun s₂ hs₂ => ?_⟩
    exact Deployment.cycleEnd_of_spared (hs₂.checkpoint.trans (hs₁.checkpoint.trans hs)) fun c _ => .heightless

end

end DonationLedger
