import DonationLedger.Proofs.Follow.Counts
import DonationLedger.Proofs.Progress

/-!
# Reports account for the ledger

The tally of a cycle is made of the results of logs, while the transactions are changed deeper down, some of them when
a receipt is read. Still, whoever compares the ledgers before and after a cycle counts what its report says
(`Ledger.Accounted`).
-/

namespace DonationLedger

/-- What a report says can be read off the ledgers before and after the cycle. Of all logs that were neither linked nor
rejected nor created, none has changed a transaction. -/
structure Ledger.Accounted (l : Ledger) (report : CycleReport) (l' : Ledger) : Prop where
  total : report.tally.total = report.logs
  created : report.tally.created = l.added l'
  linked : report.tally.linked = l.turned l' [.succeeded]
  rejected : report.tally.rejected = l.turned l' [.failed, .canceled]
  changed : report.tally.linked + report.tally.rejected = l.changed l'
  previous : report.previous.map Int.ofNat = (l.checkpoint? report.chain).map Checkpoint.block
  checkpoint : report.checkpoint.map Int.ofNat = (l'.checkpoint? report.chain).map Checkpoint.block

/-- What a cycle reports that has its chain. -/
structure Ledger.Reported (l : Ledger) (chain : Chain) (report : CycleReport) (l' : Ledger) : Prop
    extends l.Accounted report l' where
  busy : report.busy = false
  chain : report.chain = chain

theorem Tally.Counts.accounted {l l' : Ledger} {report : CycleReport} (h : Tally.zero.Counts report.tally l l')
    (ht : report.tally.total = report.logs)
    (hp : report.previous.map Int.ofNat = (l.checkpoint? report.chain).map Checkpoint.block)
    (hc : report.checkpoint.map Int.ofNat = (l'.checkpoint? report.chain).map Checkpoint.block) :
    l.Accounted report l' where
  total := ht
  created := h.created.trans (Nat.zero_add _)
  linked := h.linked.trans (Nat.zero_add _)
  rejected := h.rejected.trans (Nat.zero_add _)
  changed := h.changed.trans (Nat.zero_add _)
  previous := hp
  checkpoint := hc

/-- Only the checkpoint of a chain was moved. -/
theorem Tally.Counts.setCheckpoint {tally tally' : Tally} {l l' : Ledger} (h : tally.Counts tally' l l')
    (chain : Chain) (block : Int) : tally.Counts tally' l (l'.setCheckpoint chain block) :=
  ⟨h.created, h.linked, h.rejected, h.changed⟩

section
variable {r : Registry} {d : Deployment} {chain : Chain} {h : List Told} {s : Session}

theorem keeping_applyLogs (hk : s.Keyed) (tally : Tally) (logs : List Log) :
    (d.applyLogs tally logs).Meets (keeping r fun _ => True) (Process.ending (fun _ _ => True) fun _ tally' s' =>
      s.Later s' ∧ ∃ as, s.ledger.Takes d logs as s'.ledger ∧ tally' = as.foldl Tally.add tally) h s := by
  induction logs generalizing tally h s with
  | nil =>
    intro s' hs
    refine ⟨Session.later_of_calm hs, [], ?_, rfl⟩
    rw [keeping_others hs]
    exact .nil s.ledger
  | cons log logs ih =>
    have hlog : (applyLog d log).Meets (keeping r (s.ledger.Applies d log)) _ h s := keeping_applyLog hk
    have hlog : (applyLog d log).Meets (keeping r fun _ => True) _ h s :=
      hlog.lasts.mono rfl id fun ho => ⟨ho.1, fun _ => trivial⟩
    refine Process.meets_bind_ending (hlog.imp fun h₁ x s₁ ⟨hx, _, hl⟩ => ?_)
    cases x with
    | error e => trivial
    | ok a =>
      refine (ih (hl.keyed hk) (tally.add a)).imp fun h₂ y s₂ hy => ?_
      cases y with
      | error e => trivial
      | ok tally' =>
        obtain ⟨hl', as, htakes, rfl⟩ := hy
        exact ⟨hl.trans hl', a :: as, .cons (hx a rfl) htakes, rfl⟩

/-- The checkpoint that a cycle reads is the stored one. -/
theorem Ledger.Valid.followed?_eq {l : Ledger} (hv : l.Valid) (chain : Chain) :
    (l.followed? chain).map Int.ofNat = (l.checkpoint? chain).map Checkpoint.block := by
  unfold followed?
  rw [Option.map_map]
  refine Option.map_congr fun c hc => ?_
  exact Int.toNat_of_nonneg (hv.followed chain c hc).1

/-- The logs of the window after the stored checkpoint are applied and the checkpoint is moved. -/
theorem keeping_sweep {f : FetchedWindow} {height : Nat} (hk : s.Keyed) (hv : s.ledger.Valid)
    (hw : f.window = .plan (s.ledger.followed? d.chain) height d.settings.confirmationDepth d.settings.windowSize) :
    (Process.sweep d (s.ledger.followed? d.chain) f).Meets (keeping r fun _ => True)
      (Process.ending (fun _ _ => True) fun _ report s' => s.ledger.Reported d.chain report s'.ledger) h s := by
  refine Process.meets_bind_ending ((keeping_applyLogs hk .zero f.logs).imp fun h₁ x s₁ hx => ?_)
  cases x with
  | error e => trivial
  | ok tally =>
    obtain ⟨hlater, as, htakes, rfl⟩ := hx
    have hcounts := htakes.counts (hlater.keyed hk).transactions .zero
    have htotal : (as.foldl Tally.add .zero).total = f.logs.length := by
      rw [Tally.total_foldl, htakes.length]
      exact Nat.zero_add _
    have hreported {l' : Ledger} (hc : Tally.zero.Counts (as.foldl Tally.add .zero) s.ledger l')
        (hl' : l'.checkpoint? d.chain = some ⟨d.chain, f.window.checkpoint⟩) : s.ledger.Reported d.chain
          (Process.cycleReport d (s.ledger.followed? d.chain) f (as.foldl Tally.add .zero)) l' :=
      ⟨hc.accounted htotal (hv.followed?_eq d.chain) (hl' ▸ rfl), rfl, rfl⟩
    refine Process.meets_bind_ending (Process.meets_moveCheckpoint_ending keeping_idles ?_ (fun _ _ => trivial) ?_
      fun _ _ _ _ _ _ _ => trivial)
    · intro he s₂ hs₂ s₃ hs₃
      have hl : s₃.ledger = s₁.ledger := (keeping_others hs₃).trans (keeping_others hs₂)
      show s.ledger.Reported d.chain _ s₃.ledger
      rw [hl]
      refine hreported hcounts ?_
      rw [htakes.beside.checkpoint?]
      exact checkpoint?_of_followed? hv he
    · intro stored s₂ s₃ hne hb hs₂ hy
      refine ⟨⟨(Work.lasting_raiseCheckpoint _ _).later hy, fun _ => trivial⟩, fun s₄ hs₄ s₅ hs₅ => ?_⟩
      obtain ⟨-, rfl⟩ := storedNumber?_eq_some_iff.1 hb
      have hl : s₅.ledger = s₁.ledger.setCheckpoint d.chain f.window.checkpoint := by
        rw [keeping_others hs₅, keeping_others hs₄, (Work.yields_raiseCheckpoint.1 hy).2, Session.ledger_write,
          keeping_others hs₂]
      show s.ledger.Reported d.chain _ s₅.ledger
      rw [hl]
      refine hreported (hcounts.setCheckpoint _ _) ?_
      rw [Ledger.checkpoint?_setCheckpoint, htakes.beside.checkpoint?]
      exact congrArg some (congrArg (Checkpoint.mk d.chain) (raised_eq hv hw))

theorem keeping_cycle (hk : s.Keyed) (hv : s.ledger.Valid) :
    (cycle d).Meets (keeping r fun _ => True)
      (Process.ending (fun _ _ => True) fun _ report s' => s.ledger.Reported d.chain report s'.ledger) h s := by
  rw [Process.cycle_eq]
  refine Process.meets_commit_ending keeping_idles (Work.lasting_findFollowed d.chain) (fun s₁ previous s₂ hs₁ hy => ?_)
    fun _ _ _ _ => trivial
  obtain rfl := (Work.yields_findFollowed.1 hy).1
  obtain rfl := followed?_of_yields hy
  refine ⟨⟨.refl _, id⟩, ?_⟩
  refine Process.meets_bind_ending ((Process.meets_fetchWindow _).imp fun h₁ x s₃ ⟨_, hs₃, hx⟩ => ?_)
  cases x with
  | error e => trivial
  | ok f =>
    have hs : (keeping r fun _ => True).others s s₃ := trans_of (keeping r fun _ => True).others hs₁ hs₃
    have hl : s₃.ledger = s.ledger := keeping_others hs
    obtain ⟨height, -, hw⟩ := hx.window
    rw [keeping_others hs₁, ← hl] at hw ⊢
    exact keeping_sweep ((Session.later_of_calm hs).keyed hk) (hl ▸ hv) hw

theorem keeping_guardedCycle (hk : s.Keyed) (hv : s.ledger.Valid) :
    (guardedCycle d chain).Meets (keeping r fun _ => True)
      (Process.ending (fun _ _ => True) fun _ report s' => s.ledger.Reported d.chain report s'.ledger) h s := by
  refine Process.meets_andThen ((keeping_cycle hk hv).stays.imp fun h' x s₁ hx s₂ hs₂ s₃ hs₃ => ?_)
  exact hx s₃ (trans_of (keeping r fun _ => True).others hs₂ hs₃)

end

/-- The process asks a node next. -/
def Process.AsksNode {α : Type} (p : Process α) : Prop := ∃ chain query next, p = .node chain query next

section
variable {r : Registry} {d : Deployment} {chain : Chain} {s s' : Session} {held held' : List Chain}
  {report : CycleReport}

/-- A cycle whose chain is free is not told that it is taken, and what it reports accounts for the ledger. -/
theorem reported_of_free (hk : s.Keyed) (hv : s.ledger.Valid) (hd : r.find? chain = some d) (hc : chain ∉ held)
    (hg : (follow r chain).Goes (.any r) s held s' held' (.finish (.ok report))) :
    s.ledger.Reported chain report s'.ledger := by
  rw [follow_eq hd] at hg
  obtain ⟨hq, -⟩ | ⟨s₀, hs₀, hg⟩ := hg.of_acquire hc
  · cases hq
  have hl : s₀.ledger = s.ledger := Session.ledger_eq_of_calm hs₀
  have hcycle : (guardedCycle d chain).Meets (keeping r fun _ => True) _ [] s₀ :=
    keeping_guardedCycle ((Session.later_of_calm hs₀).keyed hk) (hl ▸ hv)
  obtain ⟨-, hend⟩ := hcycle.keeps trivial hg
  obtain ⟨h', hr⟩ := hend _ rfl
  have hr : s₀.ledger.Reported d.chain report s'.ledger := hr
  rwa [hl, Registry.chain_of_find? hd] at hr

/-- A cycle whose chain is taken waits for it or is told so. -/
theorem goes_of_taken {q : Process CycleReport} (hd : r.find? chain = some d) (hc : chain ∈ held)
    (hg : (follow r chain).Goes (.any r) s held s' held' q) :
    s'.ledger = s.ledger ∧ ¬ q.AsksNode ∧ ∀ report, q = .finish (.ok report) → report = .occupied chain := by
  rw [follow_eq hd] at hg
  obtain ⟨rfl | rfl, -, hs⟩ := hg.of_taken hc rfl
  · exact ⟨Session.ledger_eq_of_calm hs, nofun, nofun⟩
  · refine ⟨Session.ledger_eq_of_calm hs, nofun, ?_⟩
    rintro report ⟨⟩
    rfl

end

namespace System

variable {r : Registry} {w : System} {chain : Chain} {held held' : List Chain} {s' : Session} {report : CycleReport}

/-- Whatever was stored and whatever is answered, the report of a cycle that nobody disturbs accounts for the ledger. A
cycle that finds its chain taken asks no node and leaves all rows as they are. -/
theorem reports_account (hw : w.Reachable r)
    (hg : (follow r chain).Goes (.any r) w.session held s' held' (.finish (.ok report))) :
    (report.busy = false → report.chain = chain ∧ w.session.ledger.Accounted report s'.ledger) ∧
    (report.busy = true → s'.ledger = w.session.ledger ∧
      ∀ s₁ held₁ q, (follow r chain).Goes (.any r) w.session held s₁ held₁ q → ¬ q.AsksNode) := by
  cases hd : r.find? chain with
  | none =>
    have hfollow : follow r chain = .finish (.error (.settlement (.unsupportedChain chain.id))) := by
      unfold follow Registry.require
      rw [hd]
      rfl
    have hfails : (follow r chain).Meets (keeping r fun _ => True) (fun _ x _ => x.toOption = none) [] w.session :=
      hfollow ▸ fun _ _ => rfl
    obtain ⟨-, hend⟩ := hfails.keeps trivial hg
    obtain ⟨h', hnone⟩ := hend _ rfl
    cases hnone
  | some d =>
    by_cases hc : chain ∈ held
    · obtain ⟨hl, -, hoccupied⟩ := goes_of_taken hd hc hg
      obtain rfl := hoccupied report rfl
      exact ⟨nofun, fun _ => ⟨hl, fun s₁ held₁ q hg' => (goes_of_taken hd hc hg').2.1⟩⟩
    · have hr := reported_of_free hw.kept.2.keyed (referring_happened hw.happened).2.1.valid hd hc hg
      refine ⟨fun _ => ⟨hr.chain, hr.toAccounted⟩, fun hb => ?_⟩
      rw [hr.busy] at hb
      cases hb

/-- A cycle settles the donation that is waited for and reports one that was linked. Another cycle meanwhile is told
that the chain is taken. -/
theorem donation_accounted : Donation.awaited.Reachable [Donation.deployment] ∧
    (∃ s' held report, (follow [Donation.deployment] .optimism).Goes (.any [Donation.deployment])
        Donation.awaited.session [] s' held (.finish (.ok report)) ∧ report.busy = false ∧ report.tally.linked = 1 ∧
      Donation.awaited.session.ledger.turned s'.ledger [.succeeded] = 1) ∧
    ∃ s' held report, (follow [Donation.deployment] .optimism).Goes (.any [Donation.deployment])
        Donation.awaited.session [.optimism] s' held (.finish (.ok report)) ∧ report.busy = true ∧
      s'.ledger = Donation.awaited.session.ledger := by
  have hw := Donation.awaited_reachable [Donation.deployment]
  have hbegun (held : List Chain) : (follow [Donation.deployment] .optimism).Goes (.any [Donation.deployment])
      Donation.awaited.session held Donation.awaited.session held (follow [Donation.deployment] .optimism) := .start
  refine ⟨hw, ?_, ?_⟩
  · obtain ⟨held, hg⟩ := (hbegun []).follow_alone Donation.ahead (fun _ _ => trivial) (fun _ _ => trivial)
      (rfl : Registry.find? [Donation.deployment] .optimism = _)
    have hreport : (((follow [Donation.deployment] .optimism).alone Donation.ahead
        Donation.awaited.session).1.toOption.map fun report => (report.busy, report.tally.linked)) =
          some (false, 1) := by decide +kernel
    obtain ⟨report, hr, hpair⟩ := Option.map_eq_some_iff.1 hreport
    obtain ⟨hbusy, hlinked⟩ := Prod.mk.inj hpair
    have hg := hg.of_toOption hr
    obtain ⟨-, haccounted⟩ := (reports_account hw hg).1 hbusy
    exact ⟨_, held, report, hg, hbusy, hlinked, haccounted.linked.symm.trans hlinked⟩
  · have hg := (hbegun [.optimism]).next (.acquire .optimism _ _ _)
    exact ⟨_, _, .occupied .optimism, hg, rfl, ((reports_account hw hg).2 rfl).1⟩

end System

end DonationLedger
