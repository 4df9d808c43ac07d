import DonationLedger.Proofs.Resolution.Walk

/-!
# Walking through a cycle

A cycle meets its terms if applying each log of its window does, and if moving the checkpoint does. When the
checkpoint is moved, the window is the one after the checkpoint that was read, all its logs were applied, and
they are what the node answered for it (`Deployment.Fetches`). What decides how a cycle ends is listed once
(`Process.Cycles`).
-/

namespace DonationLedger

theorem Registry.chain_of_find? {r : Registry} {chain : Chain} {d : Deployment}
    (h : r.find? chain = some d) : d.chain = chain := by
  simpa using List.find?_some h

namespace Deployment

theorem mem_confirmed_iff {last : Nat} {logs : List Log} {log : Log} :
    log ∈ confirmed last logs ↔ log ∈ logs ∧ log.block ≤ last := by
  simp [confirmed]

/-- The window follows a checkpoint at some height, and its logs are those up to its end that the node told of
it. -/
structure Fetches (d : Deployment) (told : (q : Query) → q.Answer → Prop) (checkpoint : Option Nat)
    (f : FetchedWindow) : Prop where
  window : ∃ height, told .height height ∧
    f.window = Window.plan checkpoint height d.settings.confirmationDepth d.settings.windowSize
  logs : match f.window.bounds? with
    | none => f.logs = []
    | some (first, last) => ∃ logs : List Log, told (.logs first last) logs ∧
        f.logs = confirmed f.window.checkpoint logs

theorem Fetches.imp {d : Deployment} {told told' : (q : Query) → q.Answer → Prop} {checkpoint : Option Nat}
    {f : FetchedWindow} (h : d.Fetches told checkpoint f) (hi : ∀ q a, told q a → told' q a) :
    d.Fetches told' checkpoint f := by
  obtain ⟨⟨height, hh, hw⟩, hl⟩ := h
  refine ⟨⟨height, hi _ _ hh, hw⟩, ?_⟩
  split at hl
  · exact hl
  · obtain ⟨logs, ht, hl⟩ := hl
    exact ⟨logs, hi _ _ ht, hl⟩

/-- The logs of a window are among those of one answer. -/
theorem Fetches.mem {d : Deployment} {told : (q : Query) → q.Answer → Prop} {checkpoint : Option Nat}
    {f : FetchedWindow} (h : d.Fetches told checkpoint f) {log : Log} (hl : log ∈ f.logs) :
    ∃ first last, ∃ logs : List Log, told (.logs first last) logs ∧ log ∈ logs := by
  have hf := h.logs
  split at hf
  · simp [hf] at hl
  · obtain ⟨logs, ht, hf⟩ := hf
    rw [hf, mem_confirmed_iff] at hl
    exact ⟨_, _, logs, ht, hl.1⟩

/-- What the node was asked for the window after a checkpoint, with its answers, and what came of it. -/
inductive Fetching (d : Deployment) (checkpoint : Option Nat) : List Told → Except Failure FetchedWindow → Prop
  | heightless (e : Failure) : Fetching d checkpoint [.node d.chain .height (.error e)] (.error e)
  | unbounded {height : Nat} {window : Window}
    (hw : window = .plan checkpoint height d.settings.confirmationDepth d.settings.windowSize)
    (hb : window.bounds? = none) : Fetching d checkpoint [.node d.chain .height (.ok height)] (.ok ⟨window, []⟩)
  | logless {height : Nat} {window : Window} {first last : Option Nat} (e : Failure)
    (hw : window = .plan checkpoint height d.settings.confirmationDepth d.settings.windowSize)
    (hb : window.bounds? = some (first, last)) : Fetching d checkpoint
      [.node d.chain .height (.ok height), .node d.chain (.logs first last) (.error e)] (.error e)
  | fetched {height : Nat} {window : Window} {first last : Option Nat} (logs : List Log)
    (hw : window = .plan checkpoint height d.settings.confirmationDepth d.settings.windowSize)
    (hb : window.bounds? = some (first, last)) : Fetching d checkpoint
      [.node d.chain .height (.ok height), .node d.chain (.logs first last) (.ok logs)]
      (.ok ⟨window, confirmed window.checkpoint logs⟩)

end Deployment

/-- The node may have answered so. -/
def Outside.Tells (o : Outside) : Told → Prop
  | .content .. => True
  | .node chain q r => o.answers chain q r

/-- The node answered so, and the operation was told. -/
def Terms.Answered (m : Terms) (h : List Told) (chain : Chain) (q : Query) (a : q.Answer) : Prop :=
  Told.node chain q (.ok a) ∈ h ∧ m.outside.answers chain q (.ok a)

namespace Process

theorem finish_andThen {α β : Type} (r : Except Failure α) (k : Except Failure α → Process β) :
    (finish r).andThen k = k r := rfl

variable {m : Terms} {h : List Told} {s : Session} {d : Deployment} {fails : List Told → Failure → Prop}

theorem meets_moveCheckpoint_ending {chain : Chain} {previous : Option Nat} {block : Nat}
    {ends : List Told → Unit → Session → Prop} (hi : m.Idles)
    (hstays : previous = some block → ∀ s₁, m.others s s₁ → ends h () s₁)
    (hbeyond : previous ≠ some block → storedNumber? block = none →
      fails h (.settlement (.malformedPayload (.checkpoint block))))
    (hraises : ∀ stored s₁ s₂, previous ≠ some block → storedNumber? block = some stored → m.others s s₁ →
      (Work.raiseCheckpoint chain stored).Yields s₁ () s₂ → m.own h s₁ s₂ ∧ ∀ s₃, m.others s₂ s₃ → ends h () s₃)
    (hunraised : ∀ stored s₁ e, previous ≠ some block → storedNumber? block = some stored → m.others s s₁ →
      ((Work.raiseCheckpoint chain stored).result s₁).1 = .error e → fails h e) :
    (moveCheckpoint chain previous block).Meets m (ending fails ends) h s := by
  unfold moveCheckpoint
  split
  · rename_i he
    exact hstays he
  · rename_i hne
    split
    · rename_i hb
      exact fun _ _ => hbeyond hne hb
    · rename_i stored hb
      exact meets_commit_end_ending hi (Work.lasting_raiseCheckpoint chain stored)
        (fun s₁ _ s₂ => hraises stored s₁ s₂ hne hb) fun s₁ e => hunraised stored s₁ e hne hb

/-- The cycle has read the checkpoint and fetched the window after it. -/
structure Picks (m : Terms) (d : Deployment) (h h' : List Told) (s s₁ : Session) (previous : Option Nat)
    (f : FetchedWindow) : Prop where
  others : m.others s s₁
  read : (Work.findFollowed d.chain).Yields s₁ previous s₁
  heard : h ⊆ h'
  fetched : d.Fetches (m.Answered h' d.chain) previous f

theorem Picks.subset {h' h'' : List Told} {s₁ : Session} {previous : Option Nat} {f : FetchedWindow}
    (hp : Picks m d h h' s s₁ previous f) (hh : h' ⊆ h'') : Picks m d h h'' s s₁ previous f :=
  ⟨hp.others, hp.read, fun _ ht => hh (hp.heard ht), hp.fetched.imp fun _ _ ha => ⟨hh ha.1, ha.2⟩⟩

/-- What a cycle that went through a window reports. -/
def cycleReport (d : Deployment) (previous : Option Nat) (f : FetchedWindow) (tally : Tally) : CycleReport where
  chain := d.chain
  busy := false
  previous := previous
  checkpoint := some f.window.checkpoint
  window := some f.window
  logs := f.logs.length
  tally := tally

/-- What follows once the window is fetched. -/
def sweep (d : Deployment) (previous : Option Nat) (f : FetchedWindow) : Process CycleReport := do
  let tally ← d.applyLogs .zero f.logs
  moveCheckpoint d.chain previous f.window.checkpoint
  pure (cycleReport d previous f tally)

theorem cycle_eq (d : Deployment) : cycle d =
    (commit (Work.findFollowed d.chain) >>= fun previous => d.fetchWindow previous >>= sweep d previous) := rfl

/-- All that decides how a cycle ends: what its logs do, how the checkpoint is moved, and what keeps it from that.
From the reading of the checkpoint on, the session goes as `goes` says. -/
structure Cycles (m : Terms) (fails : List Told → Failure → Prop) (ends : List Told → CycleReport → Session → Prop)
    (goes : Session → Session → Prop) (effect : Log → Session → Prop) (d : Deployment) (h : List Told)
    (s : Session) : Prop where
  within : ∀ {s s'}, m.others s s' → goes s s'
  lasts : ∀ log {s s'}, effect log s → goes s s' → effect log s'
  unread : ∀ s₁ e, m.others s s₁ → ((Work.findFollowed d.chain).result s₁).1 = .error e → fails h e
  applies : ∀ previous f log h' s₁ s₂, Picks m d h h' s s₁ previous f → log ∈ f.logs → goes s₁ s₂ →
    (applyLog d log).Meets m (ending fails fun h'' _ s' => h' ⊆ h'' ∧ goes s₂ s' ∧ effect log s') h' s₂
  stays : ∀ previous f tally h' s₁ s₂, Picks m d h h' s s₁ previous f → goes s₁ s₂ →
    (∀ log ∈ f.logs, effect log s₂) → tally.total = f.logs.length → previous = some f.window.checkpoint →
    ends h' (cycleReport d previous f tally) s₂
  beyond : ∀ previous f h' s₁, Picks m d h h' s s₁ previous f → storedNumber? f.window.checkpoint = none →
    fails h' (.settlement (.malformedPayload (.checkpoint f.window.checkpoint)))
  raises : ∀ previous f tally stored h' s₁ s₂ s₃, Picks m d h h' s s₁ previous f → goes s₁ s₂ →
    (∀ log ∈ f.logs, effect log s₂) → tally.total = f.logs.length → previous ≠ some f.window.checkpoint →
    storedNumber? f.window.checkpoint = some stored → (Work.raiseCheckpoint d.chain stored).Yields s₂ () s₃ →
    m.own h' s₂ s₃ ∧ ∀ s₄, m.others s₃ s₄ → ends h' (cycleReport d previous f tally) s₄
  unraised : ∀ previous f stored h' s₁ s₂ e, Picks m d h h' s s₁ previous f → goes s₁ s₂ →
    ((Work.raiseCheckpoint d.chain stored).result s₂).1 = .error e → fails h' e

variable [IsPreorder Session m.others]

/-- Where each log that is applied has an effect that lasts, all of them have it in the end. -/
theorem meets_applyLogs_ending {goes : Session → Session → Prop} [IsPreorder Session goes]
    {effect : Log → Session → Prop} (ho : ∀ {s s'}, m.others s s' → goes s s')
    (he : ∀ log {s s'}, effect log s → goes s s' → effect log s') (tally : Tally) (logs : List Log)
    (hlog : ∀ log ∈ logs, ∀ h' s', h ⊆ h' → goes s s' → (applyLog d log).Meets m
      (ending fails fun h'' _ s'' => h' ⊆ h'' ∧ goes s' s'' ∧ effect log s'') h' s') :
    (d.applyLogs tally logs).Meets m
      (ending fails fun h' a s' => h ⊆ h' ∧ goes s s' ∧ a.total = tally.total + logs.length ∧
        ∀ log ∈ logs, effect log s') h s := by
  induction logs generalizing tally h s with
  | nil => exact fun s' hs => ⟨fun _ ht => ht, ho hs, rfl, fun _ => nofun⟩
  | cons log logs ih =>
    have hfirst := hlog log List.mem_cons_self h s (fun _ ht => ht) (refl_of goes s)
    refine meets_bind_ending (hfirst.imp fun h₁ r s₁ hr => ?_)
    cases r with
    | error e => exact hr
    | ok result =>
      obtain ⟨hh₁, hs₁, heff⟩ := hr
      refine (ih (h := h₁) (s := s₁) _ fun log hl h' s' hh hs => hlog log (List.mem_cons_of_mem _ hl) h' s'
        (fun _ ht => hh (hh₁ ht)) (trans_of goes hs₁ hs)).imp fun h₂ r s₂ hr => ?_
      cases r with
      | error e => exact hr
      | ok a =>
        obtain ⟨hh₂, hs₂, htotal, heffs⟩ := hr
        refine ⟨fun _ ht => hh₂ (hh₁ ht), trans_of goes hs₁ hs₂, ?_, fun l hl => ?_⟩
        · rw [htotal, tally.total_add, List.length_cons]
          omega
        · rcases List.mem_cons.1 hl with rfl | hl
          · exact he l heff hs₂
          · exact heffs l hl

theorem meets_fetchWindow_told (checkpoint : Option Nat) : (d.fetchWindow checkpoint).Meets m
    (fun h' r s' => m.others s s' ∧
      ∃ told, h' = h ++ told ∧ (∀ t ∈ told, m.outside.Tells t) ∧ d.Fetching checkpoint told r) h s := by
  unfold Deployment.fetchWindow
  intro s₁ hs₁ r hr
  have htold : ∀ t ∈ [Told.node d.chain .height r], m.outside.Tells t := List.forall_mem_singleton.2 hr
  cases r with
  | error e => exact fun s₂ hs₂ => ⟨trans_of m.others hs₁ hs₂, _, rfl, htold, .heightless e⟩
  | ok height =>
    simp only [finish_andThen]
    split
    · rename_i hb
      exact fun s₂ hs₂ => ⟨trans_of m.others hs₁ hs₂, _, rfl, htold, .unbounded rfl hb⟩
    · rename_i first last hb
      intro s₂ hs₂ r' hr'
      have htold' : ∀ t ∈ [Told.node d.chain .height (.ok height), .node d.chain (.logs first last) r'],
          m.outside.Tells t := List.forall_mem_cons.2 ⟨hr, List.forall_mem_singleton.2 hr'⟩
      have hs {s₃ : Session} (hs₃ : m.others s₂ s₃) : m.others s s₃ :=
        trans_of m.others hs₁ (trans_of m.others hs₂ hs₃)
      cases r' with
      | error e =>
        exact fun s₃ hs₃ => ⟨hs hs₃, _, List.append_assoc .., htold', .logless e rfl hb⟩
      | ok logs =>
        exact fun s₃ hs₃ => ⟨hs hs₃, _, List.append_assoc .., htold', .fetched logs rfl hb⟩

theorem meets_fetchWindow (checkpoint : Option Nat) : (d.fetchWindow checkpoint).Meets m
    (fun h' r s' => h ⊆ h' ∧ m.others s s' ∧ match r with
      | .ok f => d.Fetches (m.Answered h' d.chain) checkpoint f
      | .error e => Heard h' e) h s := by
  refine (meets_fetchWindow_told checkpoint).imp fun h' r s' ⟨hs, told, he, htold, hf⟩ => ?_
  subst he
  refine ⟨List.subset_append_left _ _, hs, ?_⟩
  have hanswered {q : Query} {a : q.Answer} (ht : Told.node d.chain q (.ok a) ∈ told) :
      m.Answered (h ++ told) d.chain q a := ⟨List.mem_append_right _ ht, htold _ ht⟩
  cases hf with
  | heightless e => exact ⟨_, List.mem_append_right _ List.mem_cons_self, .node⟩
  | logless e hw hb => exact ⟨_, List.mem_append_right _ (List.mem_cons_of_mem _ List.mem_cons_self), .node⟩
  | unbounded hw hb => exact ⟨⟨_, hanswered List.mem_cons_self, hw⟩, by simp only [hb]⟩
  | fetched logs hw hb =>
    refine ⟨⟨_, hanswered List.mem_cons_self, hw⟩, ?_⟩
    simp only [hb]
    exact ⟨logs, hanswered (List.mem_cons_of_mem _ List.mem_cons_self), rfl⟩

theorem meets_cycle_ending {ends : List Told → CycleReport → Session → Prop} {goes : Session → Session → Prop}
    [IsPreorder Session goes] {effect : Log → Session → Prop} (hf : ∀ h e, Heard h e → fails h e) (hi : m.Idles)
    (hc : Cycles m fails ends goes effect d h s) : (cycle d).Meets m (ending fails ends) h s := by
  unfold cycle
  refine meets_commit_ending hi (Work.lasting_findFollowed d.chain) (fun s₁ previous s₂ hs₁ hread => ?_) hc.unread
  obtain rfl := (Work.yields_findFollowed.1 hread).1
  refine ⟨hi _ _ _ rfl fun _ => Nat.le_refl _, ?_⟩
  refine meets_bind ((meets_fetchWindow previous).imp fun h₁ r s₃ ⟨hh₁, hs₃, hr⟩ => ?_)
  cases r with
  | error e => exact fun _ _ => hf h₁ e hr
  | ok f =>
    have hp : Picks m d h h₁ s s₂ previous f := ⟨hs₁, hread, hh₁, hr⟩
    refine meets_bind_ending ((meets_applyLogs_ending hc.within hc.lasts .zero f.logs fun log hl h' s' hh hs =>
      hc.applies previous f log h' s₂ s' (hp.subset hh) hl (trans_of goes (hc.within hs₃) hs)).imp
      fun h₂ r s₄ hr => ?_)
    cases r with
    | error e => exact hr
    | ok tally =>
      obtain ⟨hh₂, hs₄, htotal, heffs⟩ := hr
      have hp := hp.subset hh₂
      have hgo {s₅ : Session} (hs₅ : m.others s₄ s₅) : goes s₂ s₅ :=
        trans_of goes (hc.within hs₃) (trans_of goes hs₄ (hc.within hs₅))
      have heffs {s₅ : Session} (hs₅ : m.others s₄ s₅) : ∀ log ∈ f.logs, effect log s₅ :=
        fun log hl => hc.lasts log (heffs log hl) (hc.within hs₅)
      have htotal : tally.total = f.logs.length := htotal.trans (Nat.zero_add _)
      refine meets_bind_ending (meets_moveCheckpoint_ending hi ?_ ?_ ?_ ?_)
      · intro he s₅ hs₅ s₆ hs₆
        have hs := trans_of m.others hs₅ hs₆
        exact hc.stays previous f tally h₂ s₂ s₆ hp (hgo hs) (heffs hs) htotal he
      · exact fun _ hb => hc.beyond previous f h₂ s₂ hp hb
      · intro stored s₅ s₆ hne hb hs₅ hy
        obtain ⟨hown, hend⟩ := hc.raises previous f tally stored h₂ s₂ s₅ s₆ hp (hgo hs₅) (heffs hs₅) htotal hne hb hy
        exact ⟨hown, fun s₇ hs₇ s₈ hs₈ => hend s₈ (trans_of m.others hs₇ hs₈)⟩
      · exact fun stored s₅ e _ _ hs₅ he => hc.unraised previous f stored h₂ s₂ s₅ e hp (hgo hs₅) he

/-- When the checkpoint is moved, the logs of the window after the one that was read have had their effects. -/
theorem meets_cycle_effect (hi : m.Idles) (ho : ∀ {h s s'}, m.own h s s' → m.others s s')
    (effect : Log → Session → Prop) (he : ∀ log {s s'}, effect log s → m.others s s' → effect log s')
    (hlog : ∀ previous f log h' s', d.Fetches (m.Answered h' d.chain) previous f → log ∈ f.logs → m.others s s' →
      (applyLog d log).Meets m (fun _ r s => ∀ a, r = .ok a → effect log s) h' s')
    (hraise : ∀ previous f stored h' s₁ s₂ s₃, m.others s s₁ → (Work.findFollowed d.chain).Yields s₁ previous s₁ →
      d.Fetches (m.Answered h' d.chain) previous f → m.others s₁ s₂ → (∀ log ∈ f.logs, effect log s₂) →
      previous ≠ some f.window.checkpoint → storedNumber? f.window.checkpoint = some stored →
      (Work.raiseCheckpoint d.chain stored).Yields s₂ () s₃ → m.own h' s₂ s₃) : (cycle d).Meets m anyEnd h s := by
  have hc : Cycles m (fun _ _ => True) (fun _ _ _ => True) m.others effect d h s := {
    within := id
    lasts := he
    unread := fun _ _ _ _ => trivial
    applies := fun previous f log h' s₁ s₂ hp hl hs₂ => by
      have hs₂' := trans_of m.others hp.others hs₂
      refine ((hlog previous f log h' s₂ hp.fetched hl hs₂').tracked ho).imp fun h'' r s' ⟨hr, hh, hs'⟩ => ?_
      cases r with
      | ok a => exact ⟨hh, hs', hr a rfl⟩
      | error e => trivial
    stays := fun _ _ _ _ _ _ _ _ _ _ _ => trivial
    beyond := fun _ _ _ _ _ _ => trivial
    raises := fun previous f tally stored h' s₁ s₂ s₃ hp hs₂ heffs _ hne hb hy =>
      ⟨hraise previous f stored h' s₁ s₂ s₃ hp.others hp.read hp.fetched hs₂ heffs hne hb hy, fun _ _ => trivial⟩
    unraised := fun _ _ _ _ _ _ _ _ _ _ => trivial }
  exact meets_of_lenient lenient_anyEnd (meets_cycle_ending (fun _ _ _ => trivial) hi hc)

/-- A cycle that waits for its chain and gives it free in the end. -/
theorem meets_follow_ending {r : Registry} {chain : Chain} {ends : List Told → CycleReport → Session → Prop}
    (hunregistered : r.find? chain = none → fails h (.settlement (.unsupportedChain chain.id)))
    (hbusy : ∀ s₁, m.others s s₁ → ends h (.occupied chain) s₁)
    (hc : ∀ d s₁, r.find? chain = some d → m.others s s₁ → (cycle d).Meets m (ending fails ends) h s₁) :
    (follow r chain).Meets m (ending fails ends) h s := by
  unfold follow Registry.require
  cases hd : r.find? chain with
  | none => exact fun _ _ => hunregistered hd
  | some d =>
    intro s₁ hs₁ free
    cases free with
    | false => exact fun s₂ hs₂ => hbusy s₂ (trans_of m.others hs₁ hs₂)
    | true =>
      refine meets_andThen ((hc d s₁ hd hs₁).stays.imp fun h' r s₂ hr s₃ hs₃ s₄ hs₄ => ?_)
      exact hr s₄ (trans_of m.others hs₃ hs₄)

theorem meets_follow_of_cycle {r : Registry} {chain : Chain}
    (hc : ∀ d s', r.find? chain = some d → m.others s s' → (cycle d).Meets m anyEnd h s') :
    (follow r chain).Meets m anyEnd h s := by
  refine meets_of_lenient lenient_anyEnd (meets_follow_ending (fun _ => trivial) (fun _ _ => trivial) ?_)
  exact fun d s₁ hd hs₁ => (hc d s₁ hd hs₁).imp fun _ r _ _ => by cases r <;> trivial

theorem meets_follow {r : Registry} {chain : Chain} (hi : m.Idles)
    (ho : ∀ {h s s'}, m.own h s s' → m.others s s')
    (hlog : ∀ d first last (logs : List Log) log h' s', r.find? chain = some d →
      Told.node d.chain (.logs first last) (.ok logs) ∈ h' → log ∈ logs → m.others s s' →
      (applyLog d log).Meets m anyEnd h' s')
    (hraise : ∀ block h' s₁ s₂, m.others s s₁ → (Work.raiseCheckpoint chain block).Yields s₁ () s₂ →
      m.own h' s₁ s₂) : (follow r chain).Meets m anyEnd h s := by
  refine meets_follow_of_cycle fun d s₁ hd hs₁ => ?_
  obtain rfl := Registry.chain_of_find? hd
  refine meets_cycle_effect hi ho (fun _ _ => True) (fun _ _ _ _ _ => trivial) ?_ ?_
  · intro previous f log h' s' hf hl hs'
    obtain ⟨first, last, logs, ht, hm⟩ := hf.mem hl
    exact (hlog d first last logs log h' s' hd ht.1 hm (trans_of m.others hs₁ hs')).imp fun _ _ _ _ _ _ => trivial
  · intro _ _ stored h' s₂ s₃ s₄ hs₂ _ _ hs₃ _ _ _ hy
    exact hraise stored h' s₃ s₄ (trans_of m.others hs₁ (trans_of m.others hs₂ hs₃)) hy

end Process

end DonationLedger
