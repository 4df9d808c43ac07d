import DonationLedger.Proofs.Follow.Walk
import DonationLedger.Proofs.Resolution.Resume

/-!
# Taking up a cycle where it was left

A cycle that was left anywhere before it moved the checkpoint is gone through from the start: the window is the same,
the logs that were applied before change nothing, the one in between comes to where it would have come, and the rest
goes on from there.
-/

namespace DonationLedger

namespace Process

variable {reader : Reader} {d : Deployment} {s s' x : Session}

/-- The tally does not matter to the rows. -/
theorem alone_applyLogs_tally {logs : List Log} {n m : Tally}
    (h : (d.applyLogs n logs).alone reader s = (.ok m, s')) (n' : Tally) :
    ∃ m', (d.applyLogs n' logs).alone reader s = (.ok m', s') := by
  induction logs generalizing n n' s with
  | nil =>
    cases h
    exact ⟨n', rfl⟩
  | cons log logs ih =>
    obtain ⟨a, s₁, ha, h⟩ := alone_bind_ok h
    obtain ⟨m', hm⟩ := ih h (n'.add a)
    exact ⟨m', (alone_bind ha).trans hm⟩

/-- Logs that were applied, all or some of them, are applied from the start. -/
theorem resume_applyLogs {logs : List Log} {n m : Tally} (hs : s.Ready)
    (h : (d.applyLogs n logs).alone reader s = (.ok m, s')) (hx : x = s' ∨ (d.applyLogs n logs).Passes reader s x) :
    s.Advances x ∧ x.Ready ∧ ∀ n', ∃ m', (d.applyLogs n' logs).alone reader x = (.ok m', s') := by
  induction logs generalizing n s with
  | nil =>
    cases h
    obtain rfl := hx.resolve_right id
    exact ⟨.refl x, hs, fun n' => ⟨n', rfl⟩⟩
  | cons log logs ih =>
    obtain ⟨a, s₁, ha, h⟩ := alone_bind_ok h
    obtain ⟨⟨hadv, hs₁, hagain⟩, hresume⟩ := resume_applyLog hs ha
    -- behind the first log it changes nothing any more
    have hrest (hx : x = s' ∨ (d.applyLogs (n.add a) logs).Passes reader s₁ x) :
        s.Advances x ∧ x.Ready ∧ ∀ n', ∃ m', (d.applyLogs n' (log :: logs)).alone reader x = (.ok m', s') := by
      obtain ⟨hadv', hx, hlogs⟩ := ih hs₁ h hx
      obtain ⟨a', ha'⟩ := hadv'.again hs₁ hagain
      refine ⟨hadv.trans hadv' hs₁.toProper, hx, fun n' => ?_⟩
      obtain ⟨m', hm⟩ := hlogs (n'.add a')
      exact ⟨m', (alone_bind (alone_applyLog_again hx.keyed hx.faults ha').1).trans hm⟩
    rcases hx with hx | hx
    · exact hrest (.inl hx)
    · rcases (passes_bind ha).1 hx with hx | hx
      · obtain ⟨hadv', hx, a', ha'⟩ := hresume x hx
        refine ⟨hadv', hx, fun n' => ?_⟩
        obtain ⟨m', hm⟩ := alone_applyLogs_tally h (n'.add a')
        exact ⟨m', (alone_bind ha').trans hm⟩
      · exact hrest (.inr hx)

/-- Asking a node leaves the session alone. -/
theorem passes_ask {chain : Chain} {q : Query} (h : (ask chain q).Passes reader s x) : x = s := h.elim id False.elim

/-- The window depends on nothing but the checkpoint and the node. -/
theorem alone_fetchWindow_ok {checkpoint : Option Nat} {f : FetchedWindow}
    (h : (d.fetchWindow checkpoint).alone reader s = (.ok f, s')) :
    s' = s ∧ (∀ x, (d.fetchWindow checkpoint).Passes reader s x → x = s) ∧
      ∀ s, (d.fetchWindow checkpoint).alone reader s = (.ok f, s) := by
  unfold Deployment.fetchWindow at h ⊢
  obtain ⟨height, s₁, hh, hk⟩ := alone_bind_ok h
  have hh' (s) : (ask d.chain .height).alone reader s = (.ok height, s) := congrArg (·, s) (Prod.mk.inj hh).1
  obtain rfl : s₁ = s := (Prod.mk.inj hh).2.symm
  simp only at hk
  split at hk
  · rename_i hb
    cases hk
    refine ⟨rfl, fun x hx => ?_, fun s => ?_⟩
    · have hx := (passes_bind (hh' s')).1 hx
      simp only [hb] at hx
      exact hx.elim passes_ask False.elim
    · rw [alone_bind (hh' s)]
      simp only [hb]
      rfl
  · rename_i first last hb
    obtain ⟨logs, s₂, hl, hend⟩ := alone_bind_ok hk
    have hl' (s) : (ask d.chain (.logs first last)).alone reader s = (.ok logs, s) :=
      congrArg (·, s) (Prod.mk.inj hl).1
    obtain rfl : s₂ = s₁ := (Prod.mk.inj hl).2.symm
    cases hend
    refine ⟨rfl, fun x hx => ?_, fun s => ?_⟩
    · have hx := (passes_bind (hh' s')).1 hx
      simp only [hb] at hx
      exact hx.elim passes_ask fun hx => ((passes_bind (hl' s')).1 hx).elim passes_ask False.elim
    · rw [alone_bind (hh' s)]
      simp only [hb]
      exact alone_bind (hl' s)

theorem passes_moveCheckpoint {chain : Chain} {previous : Option Nat} {block : Nat}
    (h : (moveCheckpoint chain previous block).Passes reader s x) : x = s := by
  unfold moveCheckpoint at h
  split at h
  · exact h.elim
  · split at h
    · exact h.elim
    · exact h.elim id False.elim

/-- A cycle may be left anywhere before its end. The checkpoint is where it was, and the next cycle comes to where
this one would have come. -/
theorem resume_cycle {report : CycleReport} (hs : s.Ready) (h : (cycle d).alone reader s = (.ok report, s'))
    (hx : (cycle d).Passes reader s x) :
    s.Advances x ∧ x.Ready ∧ ∃ report', (cycle d).alone reader x = (.ok report', s') := by
  have hstart : s.Advances s ∧ s.Ready ∧ ∃ report', (cycle d).alone reader s = (.ok report', s') :=
    ⟨.refl s, hs, report, h⟩
  obtain ⟨previous, s₁, hread, hk⟩ := alone_bind_ok h
  have hfound := Work.yields_findFollowed.1 (alone_commit_ok hread)
  obtain rfl := hfound.1
  obtain ⟨f, s₂, hfetch, hk⟩ := alone_bind_ok hk
  obtain ⟨he, hpasses, hfetch'⟩ := alone_fetchWindow_ok hfetch
  obtain ⟨m, s₃, hlogs, hk⟩ := alone_bind_ok hk
  obtain ⟨_, s₄, hmove, hend⟩ := alone_bind_ok hk
  cases hend
  subst he
  -- the logs that were applied so far, at whatever request the cycle was left
  have hrest (hx : x = s₃ ∨ (d.applyLogs .zero f.logs).Passes reader s₂ x) :
      s₂.Advances x ∧ x.Ready ∧ ∃ report', (cycle d).alone reader x = (.ok report', s') := by
    obtain ⟨hadv, hx, hagain⟩ := resume_applyLogs hs hlogs hx
    obtain ⟨m', hm⟩ := hagain .zero
    have hread' : (Work.findFollowed d.chain).Yields x previous x :=
      Work.yields_findFollowed.2 ⟨rfl, by rw [hadv.beside.checkpoint?]; exact hfound.2⟩
    refine ⟨hadv, hx, ⟨d.chain, false, previous, some f.window.checkpoint, some f.window, f.logs.length, m'⟩, ?_⟩
    unfold cycle
    rw [alone_bind (alone_commit hread'), alone_bind (hfetch' x), alone_bind hm, alone_bind hmove]
    rfl
  rcases (passes_bind hread).1 hx with hx | hx
  · exact hx.elim (· ▸ hstart) False.elim
  · rcases (passes_bind hfetch).1 hx with hx | hx
    · exact hpasses x hx ▸ hstart
    · rcases (passes_bind hlogs).1 hx with hx | hx
      · exact hrest (.inr hx)
      · rcases (passes_bind hmove).1 hx with hx | hx
        · exact hrest (.inl (passes_moveCheckpoint hx))
        · exact hx.elim

end Process

end DonationLedger
