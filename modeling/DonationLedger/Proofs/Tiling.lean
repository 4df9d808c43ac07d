import DonationLedger.Proofs.Checkpoint
import DonationLedger.Proofs.Exclusion
import Mathlib.Data.List.Chain

/-!
# Windows tile the chain

Cycles come one after another, and each begins where the one before left the checkpoint
(`CycleRun.Consecutive`). So the windows of those that succeed are laid side by side: between the first checkpoint and
the last there is no block that is in none of them, and none that is in two.
-/

namespace DonationLedger

namespace CycleRun

/-- The heights that the cycle was told. -/
def heights (run : CycleRun) : List (Chain × Nat) := toldHeights run.heard

/-- The logs that the cycle asked for. -/
def asked (run : CycleRun) : List (Chain × Option Nat × Option Nat) := askedLogs run.heard

def succeeded (run : CycleRun) : Bool := run.result.isOk

/-- The blocks whose logs the cycle asked for, if it asked for any and succeeded. -/
def swept? (run : CycleRun) : Option (Nat × Nat) :=
  match run.succeeded, run.asked with
  | true, [(_, some first, some last)] => some (first, last)
  | _, _ => none

/-- The cycle found the checkpoint at `c`, did what that and the height decide, and left it at `c'`. -/
structure Moves (run : CycleRun) (d : Deployment) (c c' : Nat) : Prop where
  before : run.before = some ⟨d.chain, c⟩
  after : run.after = some ⟨d.chain, c'⟩
  cycled : d.Cycled c run.heights run.asked run.succeeded c'

/-- Each cycle found the checkpoint where the one before left it, the first at `c₀`, and the last left it at `c`. -/
inductive Consecutive (d : Deployment) (c₀ : Nat) : List CycleRun → Nat → Prop
  | start : Consecutive d c₀ [] c₀
  | next {runs : List CycleRun} {run : CycleRun} {c c' : Nat} (h : Consecutive d c₀ runs c) (hm : run.Moves d c c') :
    Consecutive d c₀ (runs ++ [run]) c'

variable {d : Deployment} {c₀ c c' : Nat} {run : CycleRun} {runs : List CycleRun}

/-- A cycle sweeps the blocks between the two checkpoints, or leaves the checkpoint where it is. -/
theorem Moves.swept? (hm : run.Moves d c c') :
    (run.swept? = none ∧ c' = c) ∨ (run.swept? = some (c + 1, c') ∧ c < c') := by
  have hc := hm.cycled
  unfold CycleRun.swept?
  generalize run.heights = heights, run.asked = asked, run.succeeded = succeeded at hc ⊢
  cases hc with
  | heightless => exact .inl ⟨rfl, rfl⟩
  | upToDate => exact .inl ⟨rfl, rfl⟩
  | failed => exact .inl ⟨rfl, rfl⟩
  | swept hlt => exact .inr ⟨rfl, Deployment.lt_reach hlt⟩

/-- What a cycle asks for is never empty and never more than a window. -/
theorem Moves.sized (hm : run.Moves d c c') {chain : Chain} {bounds : Option Nat × Option Nat}
    (ha : (chain, bounds) ∈ run.asked) : chain = d.chain ∧
      ∃ first last, bounds = (some first, some last) ∧ first ≤ last ∧ last < first + d.span := by
  have hc := hm.cycled
  have hsized {height : Nat} (hlt : c < d.final height) :
      c + 1 ≤ d.reach c height ∧ d.reach c height < c + 1 + d.span := by
    have hle : d.reach c height ≤ c + d.span := Nat.min_le_left _ _
    have hreach := Deployment.lt_reach hlt
    omega
  generalize run.heights = heights, run.asked = asked, run.succeeded = succeeded at hc ha
  cases hc with
  | heightless => cases ha
  | upToDate => cases ha
  | failed hlt =>
    cases List.mem_singleton.1 ha
    exact ⟨rfl, _, _, rfl, hsized hlt⟩
  | swept hlt =>
    cases List.mem_singleton.1 ha
    exact ⟨rfl, _, _, rfl, hsized hlt⟩

/-- A cycle leaves the checkpoint where it is, or at a block that was final at the height it was told. -/
theorem Moves.final (hm : run.Moves d c c') :
    c' = c ∨ ∃ height, (d.chain, height) ∈ run.heights ∧ c' ≤ d.final height := by
  have hc := hm.cycled
  generalize run.heights = heights, run.asked = asked, run.succeeded = succeeded at hc ⊢
  cases hc with
  | heightless => exact .inl rfl
  | upToDate => exact .inl rfl
  | failed => exact .inl rfl
  | swept => exact .inr ⟨_, List.mem_singleton_self _, Nat.min_le_right _ _⟩

/-- A cycle that succeeds goes as far as a window reaches and the height allows, and one that fails goes nowhere. -/
theorem Moves.advanced {height : Nat} (hm : run.Moves d c c')
    (hh : run.succeeded = true → run.heights = [(d.chain, height)]) :
    c' = if run.succeeded then max c (d.reach c height) else c := by
  have hc := hm.cycled
  generalize run.heights = heights, run.asked = asked, run.succeeded = succeeded at hc hh ⊢
  cases hc with
  | heightless => rfl
  | failed => rfl
  | upToDate hle =>
    cases hh rfl
    have hreach : d.reach c height ≤ d.final height := Nat.min_le_right _ _
    rw [if_pos rfl]
    omega
  | swept hlt =>
    cases hh rfl
    have hreach := Deployment.lt_reach hlt
    rw [if_pos rfl]
    omega

/-- Where a cycle leaves the checkpoint, another one can begin. -/
theorem Moves.startsAt (hm : run.Moves d c c') (hc : c ≤ Text.maxSigned64) : d.StartsAt run.after c' := by
  refine ⟨hm.after, ?_⟩
  have hcycled := hm.cycled
  generalize run.heights = heights, run.asked = asked, run.succeeded = succeeded at hcycled
  cases hcycled with
  | heightless => exact hc
  | upToDate => exact hc
  | failed => exact hc
  | swept _ hmax => exact hmax

/-! ## Many cycles -/

/-- The blocks that were swept, one window after another. -/
def sweptRanges (runs : List CycleRun) : List (Nat × Nat) := runs.filterMap CycleRun.swept?

/-- What one more cycle adds to the windows. -/
theorem Moves.sweptRanges_append (hm : run.Moves d c c') (runs : List CycleRun) :
    (sweptRanges (runs ++ [run]) = sweptRanges runs ∧ c' = c) ∨
      (sweptRanges (runs ++ [run]) = sweptRanges runs ++ [(c + 1, c')] ∧ c < c') := by
  unfold sweptRanges
  rw [List.filterMap_append]
  rcases hm.swept? with ⟨hs, hc⟩ | ⟨hs, hc⟩
  · exact .inl ⟨by simp [hs], hc⟩
  · exact .inr ⟨by simp [hs], hc⟩

namespace Consecutive

theorem le (h : Consecutive d c₀ runs c) : c₀ ≤ c := by
  induction h with
  | start => exact Nat.le_refl _
  | next _ hm ih =>
    rcases hm.swept? with ⟨-, rfl⟩ | ⟨-, hlt⟩
    · exact ih
    · omega

/-- The windows have no block up to the first checkpoint, none behind the last, and all between. -/
theorem union (h : Consecutive d c₀ runs c) (n : Nat) :
    (∃ r ∈ sweptRanges runs, r.1 ≤ n ∧ n ≤ r.2) ↔ c₀ < n ∧ n ≤ c := by
  induction h with
  | start =>
    constructor
    · rintro ⟨r, hr, -⟩
      cases hr
    · omega
  | @next runs run c c' h hm ih =>
    have hle := h.le
    rcases hm.sweptRanges_append runs with ⟨hs, rfl⟩ | ⟨hs, hlt⟩
    · rw [hs]
      exact ih
    · rw [hs]
      constructor
      · rintro ⟨r, hr, hn⟩
        rcases List.mem_append.1 hr with hr | hr
        · have := ih.1 ⟨r, hr, hn⟩
          omega
        · cases List.mem_singleton.1 hr
          simp only at hn
          omega
      · intro hn
        by_cases hc : n ≤ c
        · obtain ⟨r, hr, hn⟩ := ih.2 ⟨hn.1, hc⟩
          exact ⟨r, List.mem_append_left _ hr, hn⟩
        · exact ⟨(c + 1, c'), List.mem_append_right _ (List.mem_singleton_self _), by omega, hn.2⟩

/-- Each window begins right behind the one before. -/
theorem adjacent (h : Consecutive d c₀ runs c) : (sweptRanges runs).IsChain (fun a b => b.1 = a.2 + 1) ∧
    ∀ r ∈ (sweptRanges runs).getLast?, r.2 = c := by
  induction h with
  | start => exact ⟨.nil, nofun⟩
  | @next runs run c c' _ hm ih =>
    rcases hm.sweptRanges_append runs with ⟨hs, rfl⟩ | ⟨hs, -⟩
    · rw [hs]
      exact ih
    · rw [hs]
      refine ⟨ih.1.append (.singleton _) fun x hx y hy => ?_, fun r hr => ?_⟩
      · obtain rfl : (c + 1, c') = y := Option.some.inj hy
        rw [ih.2 x hx]
      · rw [List.getLast?_concat] at hr
        obtain rfl : (c + 1, c') = r := Option.some.inj hr
        rfl

/-- No window is met by a later one. -/
theorem apart (h : Consecutive d c₀ runs c) : (sweptRanges runs).Pairwise (fun a b => a.2 < b.1) ∧
    ∀ r ∈ sweptRanges runs, r.2 ≤ c := by
  induction h with
  | start => exact ⟨.nil, nofun⟩
  | @next runs run c c' _ hm ih =>
    rcases hm.sweptRanges_append runs with ⟨hs, rfl⟩ | ⟨hs, hlt⟩
    · rw [hs]
      exact ih
    · rw [hs]
      refine ⟨List.pairwise_append.2 ⟨ih.1, List.pairwise_singleton _ _, fun x hx y hy => ?_⟩, fun r hr => ?_⟩
      · cases List.mem_singleton.1 hy
        exact Nat.lt_succ_of_le (ih.2 x hx)
      · rcases List.mem_append.1 hr with hr | hr
        · exact Nat.le_trans (ih.2 r hr) (Nat.le_of_lt hlt)
        · cases List.mem_singleton.1 hr
          exact Nat.le_refl _

theorem sized (h : Consecutive d c₀ runs c) (hr : run ∈ runs) {chain : Chain} {bounds : Option Nat × Option Nat}
    (ha : (chain, bounds) ∈ run.asked) : chain = d.chain ∧
      ∃ first last, bounds = (some first, some last) ∧ first ≤ last ∧ last < first + d.span := by
  induction h with
  | start => cases hr
  | next _ hm ih =>
    rcases List.mem_append.1 hr with hr | hr
    · exact ih hr
    · cases List.mem_singleton.1 hr
      exact hm.sized ha

/-- The checkpoint is where it was at first, or at a block that was final at some height that was told. -/
theorem final (h : Consecutive d c₀ runs c) :
    c = c₀ ∨ ∃ run ∈ runs, ∃ height, (d.chain, height) ∈ run.heights ∧ c ≤ d.final height := by
  induction h with
  | start => exact .inl rfl
  | @next runs run c c' _ hm ih =>
    rcases hm.final with rfl | ⟨height, hh, hle⟩
    · exact ih.imp_right fun ⟨r, hr, h⟩ => ⟨r, List.mem_append_left _ hr, h⟩
    · exact .inr ⟨run, List.mem_append_right _ (List.mem_singleton_self _), height, hh, hle⟩

/-- Where all cycles that succeed are told the same height, each goes one window further, up to what is final. -/
theorem steady {height : Nat} (h : Consecutive d c₀ runs c)
    (hh : ∀ run ∈ runs, run.succeeded = true → run.heights = [(d.chain, height)]) :
    c = max c₀ (min (c₀ + runs.countP CycleRun.succeeded * d.span) (d.final height)) := by
  induction h with
  | start =>
    rw [List.countP_nil, Nat.zero_mul]
    omega
  | @next runs run c c' _ hm ih =>
    have hc := ih fun r hr => hh r (List.mem_append_left _ hr)
    have hc' := hm.advanced (hh run (List.mem_append_right _ (List.mem_singleton_self _)))
    rw [List.countP_append, List.countP_singleton]
    split at hc'
    · rename_i hs
      rw [if_pos hs, Nat.add_mul, Nat.one_mul]
      unfold Deployment.reach at hc'
      omega
    · rename_i hs
      rw [if_neg hs, Nat.add_zero]
      exact hc'.trans hc

end Consecutive

/-- What cycles do together that took the checkpoint from `c₀` to `c`: each goes on from the one before, the windows of
those that succeeded lie side by side and are all of the blocks behind `c₀` up to `c`, and `c` was final. -/
structure Tiles (d : Deployment) (c₀ : Nat) (runs : List CycleRun) (c : Nat) : Prop where
  consecutive : Consecutive d c₀ runs c
  sized : ∀ run ∈ runs, ∀ chain bounds, (chain, bounds) ∈ run.asked → chain = d.chain ∧
    ∃ first last, bounds = (some first, some last) ∧ first ≤ last ∧ last < first + d.span
  adjacent : (sweptRanges runs).IsChain fun a b => b.1 = a.2 + 1
  apart : (sweptRanges runs).Pairwise fun a b => a.2 < b.1
  union : ∀ n, (∃ r ∈ sweptRanges runs, r.1 ≤ n ∧ n ≤ r.2) ↔ c₀ < n ∧ n ≤ c
  final : c = c₀ ∨ ∃ run ∈ runs, ∃ height, (d.chain, height) ∈ run.heights ∧ c ≤ d.final height
  steady : ∀ height, (∀ run ∈ runs, run.succeeded = true → run.heights = [(d.chain, height)]) →
    c = max c₀ (min (c₀ + runs.countP CycleRun.succeeded * d.span) (d.final height))

theorem Consecutive.tiles (h : Consecutive d c₀ runs c) : Tiles d c₀ runs c where
  consecutive := h
  sized _ hr _ _ := h.sized hr
  adjacent := h.adjacent.1
  apart := h.apart.1
  union := h.union
  final := h.final
  steady _ := h.steady

end CycleRun

namespace System

variable {o : Outside} {d : Deployment} {w₀ w : System} {begun : Option (Option Checkpoint)} {runs : List CycleRun}
  {c₀ : Nat}

/-- The cycles of a run go on from each other. The last one left the checkpoint where the one that is on found it, or
where it is now. -/
theorem Ran.consecutive (hd : o.registry.find? d.chain = some d)
    (hword : ∀ height : Nat, o.answers d.chain .height (.ok height) → height ≤ Text.maxWord64)
    (hg : w₀.Guarded o d none) (hc₀ : d.StartsAt (w₀.session.ledger.checkpoint? d.chain) c₀)
    (hr : w₀.Ran o d.chain runs begun w) : ∃ c, CycleRun.Consecutive d c₀ runs c ∧
      d.StartsAt (begun.getD (w.session.ledger.checkpoint? d.chain)) c := by
  induction hr with
  | start => exact ⟨c₀, .start, hc₀⟩
  | @aside runs begun w w' h hs hh ih =>
    obtain ⟨c, hc, hstart⟩ := ih
    refine ⟨c, hc, ?_⟩
    cases begun with
    | none =>
      have hkept := ((h.guarded hd hword hg).aside hd hword hs hh).2.1 rfl
      exact ⟨hkept.trans hstart.found, hstart.range⟩
    | some before => exact hstart
  | begins _ _ _ _ ih => exact ih
  | @ends runs before w w' k result heard h hs _ hf he ih =>
    obtain ⟨c, hc, hstart⟩ := ih
    obtain ⟨c', hc', hcycled⟩ := ((h.guarded hd hword hg).ends hd hword hs hf he).2 c hstart
    have hm : CycleRun.Moves ⟨k, before, heard, result, w'.session.ledger.checkpoint? d.chain⟩ d c c' :=
      ⟨hstart.found, hc', hcycled⟩
    exact ⟨c', .next hc hm, hm.startsAt hstart.range⟩

/-- Windows tile the chain. Begin at any moment when nobody has the chain and its checkpoint is at a block that can be
stored, and let nodes tell heights that are words. Whatever happens, the system has cycles on the chain one after
another, and these are all that have ended, but for those that found the chain taken. Each of them asks for the logs
that its checkpoint and its height decide, stores the end of its window if it succeeds, and nothing if it fails, and
together they tile what lies behind the first checkpoint (`CycleRun.Tiles`). At any moment the stored checkpoint is the
one that they left, or at a block that is final at a height that the cycle was told which has the chain. -/
theorem windows_tile (o : Outside) {d : Deployment} {s : Session} {w₀ w : System} {c₀ : Nat}
    (hd : o.registry.find? d.chain = some d)
    (hword : ∀ height : Nat, o.answers d.chain .height (.ok height) → height ≤ Text.maxWord64)
    (hk : s.Keyed) (h₀ : System.Reaches o ⟨s, [], []⟩ w₀) (hfree : d.chain ∉ w₀.held)
    (hc₀ : w₀.session.ledger.checkpoint? d.chain = some ⟨d.chain, c₀⟩) (hmax : c₀ ≤ Text.maxSigned64)
    (hr : w₀.Reaches o w) :
    (∃ runs begun, w₀.Ran o d.chain runs begun w) ∧ ∀ runs begun, w₀.Ran o d.chain runs begun w →
      (∃ c, CycleRun.Tiles d c₀ runs c ∧ c ≤ Text.maxSigned64 ∧
        begun.getD (w.session.ledger.checkpoint? d.chain) = some ⟨d.chain, c⟩ ∧
        (w.session.ledger.checkpoint? d.chain = some ⟨d.chain, c⟩ ∨
          ∃ t ∈ w.tasks, ∃ height c' : Nat, (d.chain, height) ∈ toldHeights t.heard ∧
            w.session.ledger.checkpoint? d.chain = some ⟨d.chain, c'⟩ ∧ c' ≤ d.final height)) ∧
      (begun = none ↔ d.chain ∉ w.held) ∧
      ∀ k result heard, w.Ended d.chain k result heard → w₀.Ended d.chain k result heard ∨
        result = .ok (.occupied d.chain) ∨ ∃ run ∈ runs, run.task = k ∧ run.heard = heard ∧ run.result = result := by
  have hg₀ : w₀.Guarded o d none := by
    obtain ⟨-, begun, -, hg⟩ := exists_ran hd hword (guarded_start hk) h₀
    cases hg.shared with
    | free => exact hg
    | taken hheld => exact absurd hheld hfree
  obtain ⟨runs, begun, hran, -⟩ := exists_ran hd hword hg₀ hr
  refine ⟨⟨runs, begun, hran⟩, fun runs begun hran => ?_⟩
  have hg := hran.guarded hd hword hg₀
  obtain ⟨c, hc, hstart⟩ := hran.consecutive hd hword hg₀ ⟨hc₀, hmax⟩
  refine ⟨⟨c, hc.tiles, hstart.range, hstart.found, ?_⟩, ?_, fun k result heard he =>
    hran.complete hd hword hg₀ he⟩
  · cases hg.shared with
    | free => exact .inl hstart.found
    | @taken before k t hheld ht hh _ =>
      obtain ⟨-, -, hb⟩ := hh
      rcases hb with hb | hb
      · exact .inl (hb.trans hstart.found)
      · exact .inr ⟨_, List.mem_of_getElem? ht, hb c hstart⟩
  · rw [hg.held_iff, not_not]

end System

/-! ## Two windows -/

namespace Donation

/-- The contract, followed block by block. -/
def narrow : Deployment := ⟨{ ChainSettings.standard .optimism "" contract with windowSize := 1 }, contract⟩

/-- Anything may be begun, and the block of the log is final. -/
def narrowOutside : Outside := { Outside.flaky [narrow] ahead with starts := fun _ => True }

/-- The blocks up to the second one before that of the log were followed. -/
def behind : System :=
  ⟨{ filed.session with ledger := filed.session.ledger.setCheckpoint .optimism 5 }, [], []⟩

/-- The system after one more cycle. -/
def cycleMore (w : System) : System :=
  System.turns ahead { w with tasks := w.tasks ++ [(Operation.follow .optimism).task [narrow]] }
    (List.replicate 20 w.tasks.length)

theorem cycleMore_reaches (w : System) : w.Reaches narrowOutside (cycleMore w) := by
  have hstart : w.Step narrowOutside { w with tasks := w.tasks ++ [(Operation.follow .optimism).task [narrow]] } :=
    .start trivial
  have hcontents : ∀ l ref, narrowOutside.contents l ref (.ok (l.content? ref)) := fun _ _ => .inl rfl
  have hanswers : ∀ chain q, narrowOutside.answers chain q (ahead chain q) := fun _ _ => .inl rfl
  exact .head hstart (System.turns_reaches hcontents hanswers _ _)

/-- Two cycles, one after another. -/
def caughtUp : System := cycleMore (cycleMore behind)

theorem caughtUp_reached : behind.Reaches narrowOutside caughtUp :=
  (cycleMore_reaches behind).trans (cycleMore_reaches _)

end Donation

/-- Where no window has more than a block, each block behind the first checkpoint is a window of its own. -/
theorem CycleRun.Tiles.single {d : Deployment} {c₀ c n : Nat} {runs : List CycleRun} (h : CycleRun.Tiles d c₀ runs c)
    (hd : d.span = 1) (hn : c₀ < n) (hn' : n ≤ c) : (n, n) ∈ CycleRun.sweptRanges runs := by
  obtain ⟨⟨first, last⟩, hr, hle⟩ := (h.union n).2 ⟨hn, hn'⟩
  have hwindow : last < first + 1 := by
    obtain ⟨run, hrun, hswept⟩ := List.mem_filterMap.1 hr
    unfold CycleRun.swept? at hswept
    split at hswept
    · rename_i chain first' last' _ hasked
      cases hswept
      obtain ⟨-, first', last', he, -, hlt⟩ := h.sized run hrun chain _ (hasked ▸ List.mem_singleton_self _)
      cases he
      rwa [hd] at hlt
    · cases hswept
  obtain ⟨hfirst, hlast⟩ := hle
  simp only at hfirst hlast
  obtain rfl : first = n := by omega
  obtain rfl : last = first := by omega
  exact hr

/-- Two cycles sweep a block each, up to the one of the donation. -/
theorem System.donation_tiled : Donation.behind.Reaches Donation.narrowOutside Donation.caughtUp ∧
    ∃ runs, Donation.behind.Ran Donation.narrowOutside .optimism runs none Donation.caughtUp ∧
      CycleRun.Tiles Donation.narrow 5 runs 7 ∧ (6, 6) ∈ CycleRun.sweptRanges runs ∧
      (7, 7) ∈ CycleRun.sweptRanges runs := by
  have hr := Donation.caughtUp_reached
  have hd : Donation.narrowOutside.registry.find? Donation.narrow.chain = some Donation.narrow := rfl
  have hword : ∀ height : Nat, Donation.narrowOutside.answers Donation.narrow.chain .height (.ok height) →
      height ≤ Text.maxWord64 := by
    rintro height (hh | hh)
    · cases hh
      decide
    · cases hh
  have hkeyed : Donation.behind.session.Keyed := ⟨.nil, .nil, nofun, nofun⟩
  have hs : Donation.behind.session.ledger.checkpoint? Donation.narrow.chain =
      some ⟨Donation.narrow.chain, (5 : Nat)⟩ := by decide +kernel
  have hc : Donation.caughtUp.session.ledger.checkpoint? .optimism = some ⟨.optimism, 7⟩ := by decide +kernel
  have hfree : Chain.optimism ∉ Donation.caughtUp.held := by decide +kernel
  obtain ⟨⟨runs, begun, hran⟩, hall⟩ := windows_tile Donation.narrowOutside hd hword hkeyed .refl List.not_mem_nil hs
    (by decide) hr
  obtain ⟨⟨c, htiles, -, hstored, -⟩, hbegun, -⟩ := hall runs begun hran
  obtain rfl : begun = none := hbegun.2 hfree
  obtain rfl : 7 = c := by
    have hstored : Donation.caughtUp.session.ledger.checkpoint? .optimism = some ⟨.optimism, (c : Int)⟩ := hstored
    rw [hc] at hstored
    simp only [Option.some.injEq, Checkpoint.mk.injEq, true_and] at hstored
    omega
  exact ⟨hr, runs, hran, htiles, htiles.single rfl (by decide) (by decide), htiles.single rfl (by decide) (by decide)⟩

end DonationLedger
