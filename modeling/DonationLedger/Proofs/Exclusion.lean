import DonationLedger.Proofs.Follow.Held
import DonationLedger.Proofs.System.Ends

/-!
# One cycle at a time

Whoever asks for a cycle, at any moment at most one of them has the chain, and from the moment it takes the chain to the
moment it gives it free, nobody else moves the checkpoint (`System.Guarded`). So a run of the system has its cycles one
after another (`System.Ran`), each with the checkpoint that it found and the one that it left. Cycles that found the
chain taken are not among them: they are told so and do nothing.
-/

namespace DonationLedger

namespace Process

variable {α : Type} {chain : Chain}

/-- The process that gives a chain free in the end. -/
def guarded (chain : Chain) (p : Process α) : Process α := p.andThen fun r => .release chain (.finish r)

/-- A guarded process goes on as it would unguarded, and gives the chain free where that ends. -/
theorem guarded_next {o : Outside} {p q : Process α} {s s' : Session} {held held' : List Chain} {told : List Told}
    (hn : (p.guarded chain).Next o s held s' held' q told) :
    (∃ r, p = .finish r ∧ s' = s ∧ held' = held.erase chain ∧ q = .finish r ∧ told = []) ∨
      ∃ p', p.Next o s held s' held' p' told ∧ q = p'.guarded chain := by
  cases p with
  | finish r =>
    cases hn
    exact .inl ⟨r, rfl, rfl, rfl, rfl, rfl⟩
  | ledger w next =>
    cases hn
    exact .inr ⟨_, .ledger w next s held, rfl⟩
  | content ref next =>
    cases hn with
    | content h => exact .inr ⟨_, .content h, rfl⟩
  | node c q next =>
    cases hn with
    | node h => exact .inr ⟨_, .node h, rfl⟩
  | acquire c next =>
    cases hn
    exact .inr ⟨_, .acquire c next s held, rfl⟩
  | release c next =>
    cases hn
    exact .inr ⟨_, .release c next s held, rfl⟩

/-- Whoever asks for a chain gets it if it is free, and is told so if not. -/
theorem acquire_next {o : Outside} {next : Bool → Process α} {q : Process α} {s s' : Session}
    {held held' : List Chain} {told : List Told} (hn : (acquire chain next).Next o s held s' held' q told) :
    s' = s ∧ told = [] ∧ ((chain ∈ held ∧ held' = held ∧ q = next false) ∨
      (chain ∉ held ∧ held' = chain :: held ∧ q = next true)) := by
  cases hn
  refine ⟨rfl, rfl, ?_⟩
  by_cases hc : chain ∈ held
  · exact .inl ⟨hc, if_pos hc, by simp only [hc, not_true_eq_false, decide_false]⟩
  · exact .inr ⟨hc, if_neg hc, by simp only [hc, not_false_eq_true, decide_true]⟩

theorem guarded_ne_finish {p : Process α} {r : Except Failure α} : p.guarded chain ≠ .finish r := by
  cases p <;> exact nofun

end Process

/-! ## Tasks -/

/-- The task leaves a chain alone: it has still to ask for it, or is a cycle that has ended, or is something else. -/
inductive Task.Aside (o : Outside) (chain : Chain) (s : Session) : Task → Prop
  | waits : Aside o chain s ((Operation.follow chain).task o.registry)
  | ended (result : Except Failure CycleReport) (heard : List Told) :
    Aside o chain s ⟨.follow chain, .finish result, heard⟩
  | passes {t : Task} (hop : t.operation ≠ .follow chain) (hc : t.rest.Confined (fun _ => True) (· ≠ chain))
    (hm : t.rest.Meets (sparing o chain) Process.anyEnd t.heard s) : Aside o chain s t

/-- The task is a cycle that has its chain, found the checkpoint `before` and will give the chain free. -/
inductive Task.Holds (o : Outside) (d : Deployment) (before : Option Checkpoint) (s : Session) : Task → Prop
  | mk {p : Process CycleReport} {heard : List Told} (hc : p.Confined (fun _ => True) (· ≠ d.chain))
    (hm : (p.guarded d.chain).Meets (holding o d before) (d.cycleEnd before) heard s)
    (hb : s.ledger.checkpoint? d.chain = before ∨ d.Bounded before heard s) :
    Holds o d before s ⟨.follow d.chain, p.guarded d.chain, heard⟩

section
variable {o : Outside} {d : Deployment} {chain : Chain} {before : Option Checkpoint} {s s' : Session} {t : Task}
  {held held' : List Chain} {rest : Process t.operation.Result} {told : List Told}

theorem Task.Aside.later (ht : t.Aside o chain s) (hs : s.Later s') : t.Aside o chain s' := by
  cases ht with
  | waits => exact .waits
  | ended result heard => exact .ended result heard
  | passes hop hc hm => exact .passes hop hc (hm.later hs)

theorem Deployment.Bounded.spared {h h' : List Told} (hb : d.Bounded before h s) (hh : h ⊆ h')
    (hs : s.Spares d.chain s') : d.Bounded before h' s' := by
  intro c hc
  obtain ⟨height, c', ht, hc', hle⟩ := hb c hc
  obtain ⟨x, hx, he⟩ := List.mem_filterMap.1 ht
  exact ⟨height, c', List.mem_filterMap.2 ⟨x, hh hx, he⟩, hs.checkpoint.trans hc', hle⟩

theorem Task.Holds.spared (ht : t.Holds o d before s) (hs : s.Spares d.chain s') : t.Holds o d before s' := by
  obtain ⟨hc, hm, hb⟩ := ht
  exact ⟨hc, hm.later hs, hb.imp hs.checkpoint.trans (·.spared (fun _ h => h) hs)⟩

/-- A cycle that has its chain has not ended. -/
theorem Task.Holds.not_ended (ht : t.Holds o d before s) : ¬ t.Ended := by
  obtain ⟨-, -, -⟩ := ht
  rintro ⟨r, hr⟩
  exact Process.guarded_ne_finish hr

/-- An operation that begins leaves the chain alone. -/
theorem Operation.aside (hk : s.Keyed) (op : Operation) : (op.task o.registry).Aside o chain s := by
  have hnever {α : Type} {p : Process α} (hp : p.Confined Query.IsReceipt fun _ => False) :
      p.Confined (fun _ => True) (· ≠ chain) := hp.imp (fun _ _ => trivial) fun _ => False.elim
  cases op with
  | resolve e b t => exact .passes nofun (hnever (Process.confined_resolveReceipt e b t)) sparing_resolveReceipt
  | settle t => exact .passes nofun (hnever (Process.confined_settle o.registry t)) sparing_settle
  | apply e log => exact .passes nofun (hnever (Process.confined_applyLog e log)) (sparing_applyLog hk)
  | follow c =>
    by_cases hc : c = chain
    · subst hc
      exact .waits
    · refine .passes (fun he => hc (Operation.follow.inj he)) ?_ (sparing_follow hk hc)
      exact (Process.confined_follow o.registry c).imp (fun _ => id) fun _ he => he ▸ hc

/-- What a step of a task does that leaves the chain alone: it goes on so, or it is a cycle that takes the chain. -/
theorem Task.Aside.next (hd : o.registry.find? d.chain = some d)
    (hword : ∀ height : Nat, o.answers d.chain .height (.ok height) → height ≤ Text.maxWord64) (hk : s.Keyed)
    (ht : t.Aside o d.chain s) (hn : t.rest.Next o s held s' held' rest told) :
    (s.Spares d.chain s' ∧ (d.chain ∈ held' ↔ d.chain ∈ held) ∧
      (⟨t.operation, rest, t.heard ++ told⟩ : Task).Aside o d.chain s' ∧
      ∀ result heard, (⟨t.operation, rest, t.heard ++ told⟩ : Task) = ⟨.follow d.chain, .finish result, heard⟩ →
        result = .ok (.occupied d.chain)) ∨
    (s' = s ∧ d.chain ∉ held ∧ held' = d.chain :: held ∧
      (⟨t.operation, rest, t.heard ++ told⟩ : Task).Holds o d (s.ledger.checkpoint? d.chain) s) := by
  cases ht with
  | ended result heard => exact nomatch hn
  | passes hop hc hm =>
    obtain ⟨hc', hheld⟩ := hc.next hn
    obtain ⟨hm', hs⟩ := hm.next hn
    refine .inl ⟨?_, hheld d.chain fun h => h rfl, .passes hop hc' hm', ?_⟩
    · rcases hs with rfl | hs
      · exact .refl _ _
      · exact hs
    · rintro result heard he
      exact absurd (congrArg Task.operation he) hop
  | waits =>
    have hn : (follow o.registry d.chain).Next o s held s' held' rest told := hn
    rw [follow_eq hd] at hn
    obtain ⟨rfl, rfl, ⟨hheld, rfl, rfl⟩ | ⟨hfree, rfl, rfl⟩⟩ := Process.acquire_next hn
    · refine .inl ⟨.refl _ _, .rfl, .ended _ _, ?_⟩
      rintro result heard he
      cases he
      rfl
    · refine .inr ⟨rfl, hfree, rfl, .mk (Process.confined_cycle d) ?_ (.inl rfl)⟩
      exact Process.meets_andThen ((holding_cycle hword hk rfl).stays.imp fun h r s₁ hr s₂ hs₂ s₃ hs₃ =>
        hr s₃ (hs₂.trans hs₃))

/-- What a step of a cycle does that has its chain: it goes on so, or it gives the chain free and has ended. -/
theorem Task.Holds.next (ht : t.Holds o d before s) (hn : t.rest.Next o s held s' held' rest told) :
    s.Later s' ∧
    (((⟨t.operation, rest, t.heard ++ told⟩ : Task).Holds o d before s' ∧ (d.chain ∈ held' ↔ d.chain ∈ held)) ∨
      ∃ result, s' = s ∧ held' = held.erase d.chain ∧
        (⟨t.operation, rest, t.heard ++ told⟩ : Task) = ⟨.follow d.chain, .finish result, t.heard⟩ ∧
        d.cycleEnd before t.heard result s) := by
  obtain @⟨p, heard, hc, hm, hb⟩ := ht
  have hn : Process.Next (α := CycleReport) o s held (p.guarded d.chain) s' held' rest told := hn
  rcases Process.guarded_next hn with ⟨r, rfl, rfl, rfl, rfl, rfl⟩ | ⟨p', hn', rfl⟩
  · have hended : Task.mk (.follow d.chain) (.finish r) (heard ++ []) = ⟨.follow d.chain, .finish r, heard⟩ :=
      congrArg (Task.mk _ _) (List.append_nil heard)
    refine ⟨.refl _, .inr ⟨r, rfl, rfl, hended, ?_⟩⟩
    exact hm s' (.refl _ _) s' (.refl _ _)
  · obtain ⟨hc', hheld⟩ := hc.next hn'
    obtain ⟨hm', hs⟩ := hm.next hn
    have hkept (hs : s.Spares d.chain s') :
        s'.ledger.checkpoint? d.chain = before ∨ d.Bounded before (heard ++ told) s' :=
      hb.imp hs.checkpoint.trans (·.spared (List.subset_append_left _ _) hs)
    have hheld := hheld d.chain fun h => h rfl
    rcases hs with rfl | ⟨hl, hs | hbound⟩
    · exact ⟨.refl _, .inl ⟨.mk hc' hm' (hkept (.refl _ _)), hheld⟩⟩
    · exact ⟨hl, .inl ⟨.mk hc' hm' (hkept hs), hheld⟩⟩
    · exact ⟨hl, .inl ⟨.mk hc' hm' (.inr hbound), hheld⟩⟩

end

/-! ## The system -/

/-- The task is a cycle on a chain that has ended. -/
def System.Ended (w : System) (chain : Chain) (k : Nat) (result : Except Failure CycleReport) (heard : List Told) :
    Prop := w.tasks[k]? = some ⟨.follow chain, .finish result, heard⟩

/-- Nobody has the chain, or one cycle has it, and found the checkpoint `before`. -/
inductive System.Shared (o : Outside) (d : Deployment) (w : System) : Option (Option Checkpoint) → Prop
  | free (hf : d.chain ∉ w.held) (ht : ∀ (k : Nat) t, w.tasks[k]? = some t → t.Aside o d.chain w.session) :
    Shared o d w none
  | taken {before : Option Checkpoint} {k : Nat} {t : Task} (hf : d.chain ∈ w.held) (ht : w.tasks[k]? = some t)
    (hh : t.Holds o d before w.session)
    (ho : ∀ (j : Nat) u, j ≠ k → w.tasks[j]? = some u → u.Aside o d.chain w.session) : Shared o d w (some before)

/-- Ids and places are keys, no chain is held twice, and at most one cycle has the chain. -/
structure System.Guarded (o : Outside) (d : Deployment) (begun : Option (Option Checkpoint)) (w : System) : Prop where
  keyed : w.session.Keyed
  nodup : w.held.Nodup
  shared : w.Shared o d begun

/-- What an answer to a task does to the cycles on a chain: nothing, or one begins, or the one that is on ends. -/
inductive System.Turns (o : Outside) (d : Deployment) (w : System) (k : Nat) (w' : System) :
    Option (Option Checkpoint) → Prop
  | aside {begun : Option (Option Checkpoint)} (hg : w'.Guarded o d begun)
    (hc : begun = none → w'.session.ledger.checkpoint? d.chain = w.session.ledger.checkpoint? d.chain)
    (he : ∀ result heard, w'.Ended d.chain k result heard → result = .ok (.occupied d.chain)) : Turns o d w k w' begun
  | begins (hg : w'.Guarded o d (some (w.session.ledger.checkpoint? d.chain)))
    (he : ∀ result heard, ¬ w'.Ended d.chain k result heard) : Turns o d w k w' none
  | ends {before : Option Checkpoint} {result : Except Failure CycleReport} {heard : List Told}
    (hg : w'.Guarded o d none) (he : w'.Ended d.chain k result heard)
    (hend : d.cycleEnd before heard result w'.session) : Turns o d w k w' (some before)

namespace System

variable {o : Outside} {d : Deployment} {begun : Option (Option Checkpoint)} {before : Option Checkpoint}
  {w w' : System} {k : Nat}

theorem Guarded.held_iff (hg : w.Guarded o d begun) : d.chain ∈ w.held ↔ begun ≠ none := by
  cases hg.shared with
  | free hf => simp [hf]
  | taken hf => simp [hf]

/-- What callers do leaves the chain to whom it is. -/
theorem Guarded.spared (hg : w.Guarded o d begun) {s : Session} (hs : w.session.Spares d.chain s) :
    Guarded o d begun { w with session := s } := by
  refine ⟨hs.later.keyed hg.keyed, hg.nodup, ?_⟩
  cases hg.shared with
  | free hf ht => exact .free hf fun k t hk => (ht k t hk).later hs.later
  | taken hf ht hh ho => exact .taken hf ht (hh.spared hs) fun j u hj hu => (ho j u hj hu).later hs.later

/-- An operation that begins is the last one. -/
theorem getElem?_append_task {ts : List Task} {t u : Task} (h : (ts ++ [u])[k]? = some t) :
    ts[k]? = some t ∨ t = u := by
  by_cases hlt : k < ts.length
  · rw [List.getElem?_append_left hlt] at h
    exact .inl h
  · rw [List.getElem?_append_right (Nat.le_of_not_lt hlt)] at h
    exact .inr (List.mem_singleton.1 (List.mem_of_getElem? h))

/-- An operation that begins leaves the chain to whom it is. -/
theorem Guarded.start (hg : w.Guarded o d begun) (op : Operation) :
    Guarded o d begun { w with tasks := w.tasks ++ [op.task o.registry] } := by
  refine ⟨hg.keyed, hg.nodup, ?_⟩
  cases hg.shared with
  | free hf ht =>
    refine .free hf fun k t hk => ?_
    rcases getElem?_append_task hk with hk | rfl
    · exact ht k t hk
    · exact op.aside hg.keyed
  | @taken before k t hf ht hh ho =>
    have hlt := (List.getElem?_eq_some_iff.1 ht).1
    refine .taken hf ((List.getElem?_append_left hlt).trans ht) hh fun j u hj hu => ?_
    rcases getElem?_append_task hu with hu | rfl
    · exact ho j u hj hu
    · exact op.aside hg.keyed

/-- The tasks after one of them went on. -/
theorem getElem?_set_task {ts : List Task} {t u : Task} {j : Nat} (h : (ts.set k u)[j]? = some t) :
    j = k ∧ t = u ∨ j ≠ k ∧ ts[j]? = some t := by
  by_cases hj : j = k
  · subst hj
    have hlt : j < ts.length := by simpa using (List.getElem?_eq_some_iff.1 h).1
    exact .inl ⟨rfl, Option.some.inj (h.symm.trans (List.getElem?_set_self hlt))⟩
  · exact .inr ⟨hj, (List.getElem?_set_ne (Ne.symm hj)).symm.trans h⟩

section
variable {s : Session} {held : List Chain} {t u : Task} {rest : Process t.operation.Result} {told : List Told}

/-- A cycle that has ended with a step is the task that went on. -/
theorem Ended.of_set {result : Except Failure CycleReport} {heard : List Told}
    (he : System.Ended ⟨s, held, w.tasks.set k u⟩ d.chain k result heard) :
    u = ⟨.follow d.chain, .finish result, heard⟩ := by
  rcases getElem?_set_task he with ⟨-, h⟩ | ⟨h, -⟩
  · exact h.symm
  · exact absurd rfl h

/-- Nobody has the chain: a task goes on that leaves it alone, or a cycle takes it. -/
theorem Guarded.turns_free (hd : o.registry.find? d.chain = some d)
    (hword : ∀ height : Nat, o.answers d.chain .height (.ok height) → height ≤ Text.maxWord64)
    (hg : w.Guarded o d none) (hf : d.chain ∉ w.held)
    (haside : ∀ (j : Nat) v, w.tasks[j]? = some v → v.Aside o d.chain w.session) (ht : w.tasks[k]? = some t)
    (hn : t.rest.Next o w.session w.held s held rest told) :
    w.Turns o d k ⟨s, held, w.tasks.set k ⟨t.operation, rest, t.heard ++ told⟩⟩ none := by
  have hnodup := hn.nodup hg.nodup
  rcases (haside k t ht).next hd hword hg.keyed hn with ⟨hs, hheld, hnew, hended⟩ | ⟨rfl, -, rfl, hholds⟩
  · refine .aside ⟨hs.later.keyed hg.keyed, hnodup, .free (fun hm => hf (hheld.1 hm)) fun j v hv => ?_⟩
      (fun _ => hs.checkpoint) fun result heard he => hended result heard he.of_set
    rcases getElem?_set_task hv with ⟨-, rfl⟩ | ⟨-, hv⟩
    · exact hnew
    · exact (haside j v hv).later hs.later
  · have hself := List.getElem?_set_self (a := ⟨t.operation, rest, t.heard ++ told⟩) (List.getElem?_eq_some_iff.1 ht).1
    refine .begins ⟨hg.keyed, hnodup, .taken List.mem_cons_self hself hholds fun j v hj hv => ?_⟩
      fun result heard he => hholds.not_ended (he.of_set ▸ ⟨result, rfl⟩)
    rcases getElem?_set_task hv with ⟨rfl, -⟩ | ⟨-, hv⟩
    · exact absurd rfl hj
    · exact haside j v hv

/-- The cycle goes on that has the chain: it keeps it, or ends and gives it free. -/
theorem Guarded.turns_holder (hg : w.Guarded o d (some before)) (hf : d.chain ∈ w.held)
    (ht : w.tasks[k]? = some t) (hholds : t.Holds o d before w.session)
    (haside : ∀ (j : Nat) v, j ≠ k → w.tasks[j]? = some v → v.Aside o d.chain w.session)
    (hn : t.rest.Next o w.session w.held s held rest told) :
    w.Turns o d k ⟨s, held, w.tasks.set k ⟨t.operation, rest, t.heard ++ told⟩⟩ (some before) := by
  have hnodup := hn.nodup hg.nodup
  have hself := List.getElem?_set_self (a := ⟨t.operation, rest, t.heard ++ told⟩) (List.getElem?_eq_some_iff.1 ht).1
  obtain ⟨hl, ⟨hnew, hheld⟩ | ⟨result, rfl, rfl, hended, hend⟩⟩ := hholds.next hn
  · refine .aside ⟨hl.keyed hg.keyed, hnodup, .taken (hheld.2 hf) hself hnew fun j v hj hv => ?_⟩ nofun
      fun result heard he => absurd (he.of_set ▸ ⟨result, rfl⟩) hnew.not_ended
    rcases getElem?_set_task hv with ⟨rfl, -⟩ | ⟨-, hv⟩
    · exact absurd rfl hj
    · exact (haside j v hj hv).later hl
  · refine .ends ⟨hg.keyed, hnodup, .free hg.nodup.not_mem_erase fun j v hv => ?_⟩
      (hself.trans (congrArg some hended)) hend
    rcases getElem?_set_task hv with ⟨-, rfl⟩ | ⟨hj, hv⟩
    · exact hended ▸ .ended _ _
    · exact haside j v hj hv

/-- One cycle has the chain and another task goes on: it leaves the chain alone. -/
theorem Guarded.turns_other {i : Nat} {v : Task} (hd : o.registry.find? d.chain = some d)
    (hword : ∀ height : Nat, o.answers d.chain .height (.ok height) → height ≤ Text.maxWord64)
    (hg : w.Guarded o d (some before)) (hf : d.chain ∈ w.held) (hv : w.tasks[i]? = some v)
    (hholds : v.Holds o d before w.session)
    (haside : ∀ (j : Nat) x, j ≠ i → w.tasks[j]? = some x → x.Aside o d.chain w.session) (hk : k ≠ i)
    (ht : w.tasks[k]? = some t) (hn : t.rest.Next o w.session w.held s held rest told) :
    w.Turns o d k ⟨s, held, w.tasks.set k ⟨t.operation, rest, t.heard ++ told⟩⟩ (some before) := by
  rcases (haside k t hk ht).next hd hword hg.keyed hn with ⟨hs, hheld, hnew, hended⟩ | ⟨-, hfree, -, -⟩
  · have hholder : (w.tasks.set k ⟨t.operation, rest, t.heard ++ told⟩)[i]? = some v :=
      (List.getElem?_set_ne hk).trans hv
    refine .aside ⟨hs.later.keyed hg.keyed, hn.nodup hg.nodup, .taken (hheld.2 hf) hholder (hholds.spared hs)
      fun j x hj hx => ?_⟩ nofun fun result heard he => hended result heard he.of_set
    rcases getElem?_set_task hx with ⟨-, rfl⟩ | ⟨-, hx⟩
    · exact hnew
    · exact (haside j x hj hx).later hs.later
  · exact absurd hf hfree

end

/-- An answer to a task turns the chain over, or leaves it to whom it is. -/
theorem Guarded.advance (hd : o.registry.find? d.chain = some d)
    (hword : ∀ height : Nat, o.answers d.chain .height (.ok height) → height ≤ Text.maxWord64)
    (hg : w.Guarded o d begun) (h : w.Advance o k w') : w.Turns o d k w' begun := by
  obtain ⟨ht, hn⟩ := h
  cases hg.shared with
  | free hf haside => exact hg.turns_free hd hword hf haside ht hn
  | @taken before i v hf hv hholds haside =>
    by_cases hk : k = i
    · subst hk
      obtain rfl := Option.some.inj (ht.symm.trans hv)
      exact hg.turns_holder hf ht hholds haside hn
    · exact hg.turns_other hd hword hf hv hholds haside hk ht hn

/-- The other tasks stay as they are. -/
theorem Advance.ended_of_ne {chain : Chain} {j : Nat} {result : Except Failure CycleReport} {heard : List Told}
    (h : w.Advance o k w') (hj : j ≠ k) (he : w'.Ended chain j result heard) : w.Ended chain j result heard := by
  obtain ⟨ht, hn⟩ := h
  exact (List.getElem?_set_ne hj.symm).symm.trans he

/-! ## Runs -/

end System

/-- A cycle that had its chain: which operation it is, the checkpoint when it took the chain, what it was told, how it
ended, and the checkpoint when it gave the chain free. -/
structure CycleRun where
  task : Nat
  before : Option Checkpoint
  heard : List Told
  result : Except Failure CycleReport
  after : Option Checkpoint

/-- From `w₀` to `w` these cycles on a chain have ended, in this order. Last is the checkpoint that the cycle found that
has the chain now, if one has. -/
inductive System.Ran (o : Outside) (chain : Chain) (w₀ : System) :
    List CycleRun → Option (Option Checkpoint) → System → Prop
  | start : Ran o chain w₀ [] none w₀
  | aside {runs : List CycleRun} {begun : Option (Option Checkpoint)} {w w' : System} (h : Ran o chain w₀ runs begun w)
    (hs : w.Step o w') (hh : chain ∈ w'.held ↔ chain ∈ w.held) : Ran o chain w₀ runs begun w'
  | begins {runs : List CycleRun} {w w' : System} (h : Ran o chain w₀ runs none w) (hs : w.Step o w')
    (hf : chain ∉ w.held) (hh : chain ∈ w'.held) :
    Ran o chain w₀ runs (some (w.session.ledger.checkpoint? chain)) w'
  | ends {runs : List CycleRun} {before : Option Checkpoint} {w w' : System} {k : Nat}
    {result : Except Failure CycleReport} {heard : List Told} (h : Ran o chain w₀ runs (some before) w)
    (hs : w.Advance o k w') (hh : chain ∈ w.held) (hf : chain ∉ w'.held) (he : w'.Ended chain k result heard) :
    Ran o chain w₀ (runs ++ [⟨k, before, heard, result, w'.session.ledger.checkpoint? chain⟩]) none w'

namespace System

section
variable {o : Outside} {d : Deployment} {begun : Option (Option Checkpoint)} {before : Option Checkpoint}
  {w₀ w w' : System} {k : Nat} {runs : List CycleRun} (hd : o.registry.find? d.chain = some d)
  (hword : ∀ height : Nat, o.answers d.chain .height (.ok height) → height ≤ Text.maxWord64)
include hd hword

/-- A step that is none of a task leaves the chain to whom it is, and no cycle ends. -/
theorem Guarded.step (hg : w.Guarded o d begun) (h : w.Step o w') :
    (∃ k, w.Advance o k w' ∧ w.Turns o d k w' begun) ∨ (w'.Guarded o d begun ∧ w'.held = w.held ∧
      w'.session.ledger.checkpoint? d.chain = w.session.ledger.checkpoint? d.chain ∧
      ∀ k result heard, w'.Ended d.chain k result heard → w.Ended d.chain k result heard) := by
  rcases h.cases with ⟨k, ha⟩ | ⟨op, -, rfl⟩ | ⟨s, hs, rfl⟩
  · exact .inl ⟨k, ha, hg.advance hd hword ha⟩
  · refine .inr ⟨hg.start op, rfl, rfl, fun k result heard he => ?_⟩
    rcases getElem?_append_task he with he | he
    · exact he
    · cases op with
      | follow chain =>
        obtain ⟨hop, hrest, -⟩ := Task.mk.inj he
        cases hop
        have hrest : Process.finish result = follow o.registry d.chain := eq_of_heq hrest
        rw [follow_eq hd] at hrest
        cases hrest
      | _ => cases (Task.mk.inj he).1
  · exact .inr ⟨hg.spared (hs d.chain), rfl, (hs d.chain).checkpoint, fun _ _ _ => id⟩

/-- Where a step leaves it whether the chain is held, the chain stays with whom it is. -/
theorem Guarded.aside (hg : w.Guarded o d begun) (h : w.Step o w') (hh : d.chain ∈ w'.held ↔ d.chain ∈ w.held) :
    w'.Guarded o d begun ∧
    (begun = none → w'.session.ledger.checkpoint? d.chain = w.session.ledger.checkpoint? d.chain) ∧
    ∀ k result heard, w'.Ended d.chain k result heard →
      w.Ended d.chain k result heard ∨ result = .ok (.occupied d.chain) := by
  rcases hg.step hd hword h with ⟨k, ha, ht⟩ | ⟨hg', -, hc, he⟩
  · cases ht with
    | aside hg' hc hbusy =>
      refine ⟨hg', hc, fun j result heard he => ?_⟩
      by_cases hj : j = k
      · subst hj
        exact .inr (hbusy result heard he)
      · exact .inl (ha.ended_of_ne hj he)
    | begins hg' => exact absurd rfl (hg.held_iff.1 (hh.1 (hg'.held_iff.2 nofun)))
    | ends hg' => exact absurd rfl (hg'.held_iff.1 (hh.2 (hg.held_iff.2 nofun)))
  · exact ⟨hg', fun _ => hc, fun k result heard hk => .inl (he k result heard hk)⟩

/-- Where a step takes the chain, a cycle begins. -/
theorem Guarded.begins (hg : w.Guarded o d none) (h : w.Step o w') (hh : d.chain ∈ w'.held) :
    w'.Guarded o d (some (w.session.ledger.checkpoint? d.chain)) ∧
    ∀ k result heard, w'.Ended d.chain k result heard → w.Ended d.chain k result heard := by
  rcases hg.step hd hword h with ⟨k, ha, ht⟩ | ⟨hg', -, -, -⟩
  · cases ht with
    | aside hg' => exact absurd rfl (hg'.held_iff.1 hh)
    | begins hg' hnone =>
      refine ⟨hg', fun j result heard he => ?_⟩
      by_cases hj : j = k
      · subst hj
        exact absurd he (hnone result heard)
      · exact ha.ended_of_ne hj he
  · exact absurd rfl (hg'.held_iff.1 hh)

/-- Where a step gives the chain free, the cycle that had it has ended. -/
theorem Guarded.ends {result : Except Failure CycleReport} {heard : List Told} (hg : w.Guarded o d (some before))
    (h : w.Advance o k w') (hf : d.chain ∉ w'.held) (he : w'.Ended d.chain k result heard) :
    w'.Guarded o d none ∧ d.cycleEnd before heard result w'.session := by
  cases hg.advance hd hword h with
  | aside hg' => exact absurd (hg'.held_iff.2 nofun) hf
  | ends hg' he' hend =>
    cases Option.some.inj (he.symm.trans he')
    exact ⟨hg', hend⟩

theorem Ran.guarded (hg : w₀.Guarded o d none) (hr : w₀.Ran o d.chain runs begun w) : w.Guarded o d begun := by
  induction hr with
  | start => exact hg
  | aside _ hs hh ih => exact (ih.aside hd hword hs hh).1
  | begins _ hs _ hh ih => exact (ih.begins hd hword hs hh).1
  | ends _ hs _ hf he ih => exact (ih.ends hd hword hs hf he).1

/-- However the system came to `w`, it had its cycles one after another. -/
theorem exists_ran (hg : w₀.Guarded o d none) (hr : w₀.Reaches o w) :
    ∃ runs begun, w₀.Ran o d.chain runs begun w ∧ w.Guarded o d begun := by
  induction hr with
  | refl => exact ⟨[], none, .start, hg⟩
  | tail _ hs ih =>
    obtain ⟨runs, begun, hran, hg⟩ := ih
    rcases hg.step hd hword hs with ⟨k, ha, ht⟩ | ⟨hg', hheld, -, -⟩
    · cases ht with
      | aside hg' => exact ⟨runs, begun, .aside hran hs (hg'.held_iff.trans hg.held_iff.symm), hg'⟩
      | begins hg' =>
        have hfree := fun hm => hg.held_iff.1 hm rfl
        exact ⟨runs, _, .begins hran hs hfree (hg'.held_iff.2 nofun), hg'⟩
      | ends hg' he =>
        have hfree := fun hm => hg'.held_iff.1 hm rfl
        exact ⟨_, none, .ends hran ha (hg.held_iff.2 nofun) hfree he, hg'⟩
    · exact ⟨runs, begun, .aside hran hs (by rw [hheld]), hg'⟩

/-- Each cycle that has ended since is one of these, or found the chain taken. -/
theorem Ran.complete {result : Except Failure CycleReport} {heard : List Told} (hg : w₀.Guarded o d none)
    (hr : w₀.Ran o d.chain runs begun w) (he : w.Ended d.chain k result heard) :
    w₀.Ended d.chain k result heard ∨ result = .ok (.occupied d.chain) ∨
      ∃ run ∈ runs, run.task = k ∧ run.heard = heard ∧ run.result = result := by
  induction hr generalizing k result heard with
  | start => exact .inl he
  | aside h hs hh ih =>
    rcases ((h.guarded hd hword hg).aside hd hword hs hh).2.2 k result heard he with he | he
    · exact ih he
    · exact .inr (.inl he)
  | begins h hs _ hh ih => exact ih (((h.guarded hd hword hg).begins hd hword hs hh).2 k result heard he)
  | @ends runs before w w' j result' heard' _ hs _ _ he' ih =>
    by_cases hj : k = j
    · subst hj
      cases Option.some.inj (he.symm.trans he')
      exact .inr (.inr ⟨_, List.mem_append_right _ List.mem_cons_self, rfl, rfl, rfl⟩)
    · exact (ih (hs.ended_of_ne hj he)).imp_right fun h => h.imp_right fun ⟨run, hm, h⟩ =>
        ⟨run, List.mem_append_left _ hm, h⟩

end

/-- Where there are no operations yet, nobody has the chain. -/
theorem guarded_start {o : Outside} {d : Deployment} {s : Session} (hk : s.Keyed) : Guarded o d none ⟨s, [], []⟩ :=
  ⟨hk, .nil, .free List.not_mem_nil nofun⟩

end System

end DonationLedger
