import DonationLedger.Proofs.Links
import DonationLedger.Proofs.Resolution.Again

/-!
# Applying a log is idempotent

Once a log has led to a transaction that ended, it leads there whenever it is applied again: the log was seen,
links are permanent, and a transaction that ended stays so. Where it was refused, and nothing happened since, it
is refused again.
-/

namespace DonationLedger

/-- The blockchain transaction of `b` settles the transaction of `t`, and that has ended. -/
def Ledger.Settled (l : Ledger) (b t : Id) : Prop :=
  ∃ c u, l.blockchainTransaction? b = some c ∧ c.transaction = some t ∧ l.transaction? t = some u ∧
    u.isPending = false

/-- The operation has applied the log, which led to the transaction of `t`. -/
inductive Task.LedTo : Task → Deployment → Log → Id → Prop
  | mk {d : Deployment} {log : Log} {a : Applied} {t : Id} {heard : List Told} (ha : a.transaction? = some t) :
    LedTo ⟨.apply d log, .finish (.ok a), heard⟩ d log t

/-- The operation has passed over the log. -/
inductive Task.Skipped : Task → Deployment → Log → Prop
  | removed {d : Deployment} {log : Log} {heard : List Told} :
    Skipped ⟨.apply d log, .finish (.ok .removed), heard⟩ d log
  | malformed {d : Deployment} {log : Log} {heard : List Told} :
    Skipped ⟨.apply d log, .finish (.ok .malformed), heard⟩ d log

section
variable {s s' : Session} {b t : Id} {d : Deployment} {log : Log}

theorem Ledger.Settled.upholds (h : s.ledger.Settled b t) (hs : s.Proper) (hu : s.Upholds s') :
    s'.ledger.Settled b t := by
  obtain ⟨c, u, hc, hct, ht, hp⟩ := h
  obtain ⟨c', hc', hct'⟩ := (hu.sound hs.keyed hs.sound).2.blockchainTransaction b c t hc hct
  obtain ⟨u', hu', huu⟩ := hu.later.follows.transactions t u ht
  refine ⟨c', u', hc', hct', hu', ?_⟩
  rw [Transaction.isPending, (huu.ended hp).1]
  exact hp

theorem Ledger.Ended.settled {l : Ledger} {o : Outcome} (h : l.Ended b t o) : l.Settled b t := by
  obtain ⟨c, u, hc, hct, hu, ho⟩ := h
  exact ⟨c, u, hc, hct, hu, by simp [Transaction.isPending, ho, o.state_ne_pending]⟩

/-- A log that was seen, and whose blockchain transaction settles a transaction that ended. -/
theorem Ledger.Settled.again {block index : Int} {e : Event} {c : BlockchainTransaction} (hk : s.Keyed)
    (h : s.ledger.Settled c.id t) (ha : d.applicable? log = some (block, index, e))
    (hc : s.ledger.Seen d.chain log.hash.spelling index c) : s.ledger.Again d log (.alreadySettled t) := by
  obtain ⟨c', u, hc', hct, hu, hp⟩ := h
  obtain rfl := Option.some.inj ((hc.blockchainTransaction? hk).symm.trans hc')
  obtain ⟨-, rfl⟩ := Ledger.transaction?_mem hu
  exact .settled ha hc hct hu hp

theorem Ledger.Again.upholds (h : s.ledger.Again d log (.alreadySettled t)) (hs : s.Proper) (hh : s.Hashed)
    (hu : s.Upholds s') : s'.ledger.Again d log (.alreadySettled t) := by
  cases h with
  | settled ha hc hl ht hp =>
    obtain ⟨c', hf, hc'⟩ := hc.later hs.keyed hh hu.later
    have hst := Ledger.Settled.upholds ⟨_, _, hc.blockchainTransaction? hs.keyed, hl, ht, hp⟩ hs hu
    rw [← hf.id] at hst
    exact hst.again (hu.later.keyed hs.keyed) ha hc'

end

/-! ## Operations -/

/-- All operations uphold what is sound, and a log that led to a transaction leads there again. -/
def recalling (r : Registry) : Regime (.any r) :=
  { upholding r with
    post := fun op h x s => ∀ d log,
      (∀ t, Task.LedTo ⟨op, .finish x, h⟩ d log t → s.ledger.Again d log (.alreadySettled t)) ∧
      (Task.Skipped ⟨op, .finish x, h⟩ d log → d.applicable? log = none) }

section
variable {r : Registry} {op : Operation} {s s' : Session} {h : List Told} {d : Deployment} {log : Log}

theorem recalling_idles : ((recalling r).terms op).Idles :=
  show ((upholding r).terms op).Idles from upholding_upholding.idles op

theorem recalling_resolveReceipt {b t : Id} (hs : s.Proper) (he : s.ledger.Expects b t) :
    (resolveReceipt d b t).Meets ((recalling r).terms op)
      (fun _ x s => ∀ o, x = .ok o → s.ledger.Settled b t) h s := by
  refine Process.meets_resolveReceipt_end (fun _ s => s.Proper ∧ s.ledger.Expects b t)
    (fun _ _ _ => nofun) recalling_idles ?_ ?_
  · intro s₁ p s₂ hs₁ hy
    have he₁ := hs.expects hs₁ he
    have hp₁ := hs.upholds hs₁
    have ho : s₁.Upholds s₂ := .openPair he₁ hy
    exact ⟨ho, fun o s₃ hsome hs₃ _ _ => (Work.ended_openPair hy hsome).settled.upholds (hp₁.upholds ho) hs₃,
      fun _ => ⟨hp₁.upholds ho, hp₁.expects ho he₁⟩⟩
  · intro s₁ c hash receipt block os h' s₂ o s₃ ⟨hs₁, he₁⟩ _ _ _ _ _ hs₂ hy
    have ho : s₂.Upholds s₃ := .closePair (hs₁.expects hs₂ he₁) hy
    exact ⟨ho, fun s₄ hs₄ _ _ => (Work.ended_closePair hy).settled.upholds ((hs₁.upholds hs₂).upholds ho) hs₄⟩

theorem recalling_lenient (op : Operation) : Process.Lenient ((recalling r).post op) :=
  fun _ _ _ _ _ => ⟨fun _ => nofun, nofun⟩

theorem recalling_applyLog (hs : s.Proper) (hh : s.Hashed) :
    (applyLog d log).Meets ((recalling r).terms (.apply d log)) ((recalling r).post (.apply d log)) h s := by
  refine Process.meets_applyLog_end (recalling_lenient _) recalling_idles ?_ ?_
  · intro hn s₁ _ d' log'
    split
    · exact ⟨fun t ⟨ha⟩ => (nomatch ha), fun | .removed => hn⟩
    · exact ⟨fun t ⟨ha⟩ => (nomatch ha), fun | .malformed => hn⟩
  · intro s₁ block index e verdict h' x s₂ ha _ _ hs₁ hy
    have hp₁ := hs.upholds hs₁
    have ho : s₁.Upholds s₂ := .applyEvent hy
    have hp₂ := hp₁.upholds ho
    have hh₁ := hs₁.later.hashed hh
    have hh₂ := ho.later.hashed hh₁
    obtain ⟨c, hc, hafter⟩ := Work.after_applyEvent hp₁.keyed hh₁ hp₁.sound hy
    refine ⟨ho, ?_⟩
    cases hafter with
    | @settled u a hct hu hp hat =>
      refine fun s₃ hs₃ d' log' => ⟨fun t hled => ?_, fun hskip => ?_⟩
      · cases hled with
        | mk hat' =>
          obtain rfl := Option.some.inj (hat.symm.trans hat')
          exact (Ledger.Again.settled ha hc hct hu hp).upholds hp₂ hh₂ hs₃
      · cases hskip <;> cases hat
    | refused =>
      exact fun s₃ _ d' log' => ⟨fun t ⟨hat⟩ => (nomatch hat), nofun⟩
    | @waiting u hu hp =>
      have he := Work.applyEvent_expects hp₁.keyed hp₁.sound hy
      refine Process.meets_bind (((recalling_resolveReceipt hp₂ he).tracked id).imp
        fun h₂ x s₃ ⟨hsettled, _, hs₃⟩ => ?_)
      cases x with
      | error err => exact fun s₄ _ => recalling_lenient _ _ _ s₄
      | ok o =>
        obtain ⟨c', hf, hc'⟩ := hc.later hp₂.keyed hh₂ hs₃.later
        have hp₃ := hp₂.upholds hs₃
        have hagain := (hf.id ▸ hsettled o rfl).again hp₃.keyed ha hc'
        refine fun s₄ hs₄ d' log' => ⟨fun t hled => ?_, fun hskip => ?_⟩
        · cases o <;> cases hled with
            | mk hat =>
              obtain rfl := Option.some.inj hat
              exact hagain.upholds hp₃ (hs₃.later.hashed hh₂) hs₄
        · cases o <;> cases hskip

theorem recalling_process (hop : (Outside.any r).starts op) (hs : s.Proper) (hh : s.Hashed) :
    (op.process r).Meets ((recalling r).terms op) ((recalling r).post op) h s := by
  cases op with
  | apply d log => exact recalling_applyLog hs hh
  | resolve d b t => exact hop.elim
  | settle t =>
    have hp : (settle r t).Meets ((recalling r).terms (.settle t)) Process.anyEnd h s := upholding_process hop hs
    exact hp.imp fun _ _ _ _ _ _ => ⟨fun _ => nofun, nofun⟩
  | follow chain =>
    have hp : (follow r chain).Meets ((recalling r).terms (.follow chain)) Process.anyEnd h s :=
      upholding_process hop hs
    exact hp.imp fun _ _ _ _ _ _ => ⟨fun _ => nofun, nofun⟩

theorem recalling_callers : (recalling r).Callers := (upholding_callers (r := r)).imp fun _ _ => id

end

namespace System

variable {r : Registry} {w w' : System} {d : Deployment} {log : Log}

theorem Reachable.recalls (h : w.Reachable r) : (recalling r).Kept w :=
  (Regime.kept_reaches (m := recalling r) (fun s => s.Proper ∧ s.Hashed) recalling_callers
    (fun hs ho => ⟨hs.1.upholds ho, ho.later.hashed hs.2⟩) (fun _ _ hop hs => recalling_process hop hs.1 hs.2)
    Regime.kept_empty ⟨proper_empty, List.nodup_nil⟩ h).1

/-- A log that is refused is refused for the same reason when it is applied again at once. -/
theorem applyLog_refused_again {s s' : Session} {reader : Reader} {reason : InvalidReason} (hs : s.Proper)
    (hh : s.Hashed) (h : (applyLog d log).alone reader s = (.ok (.invalid reason), s')) (reader' : Reader) :
    (applyLog d log).alone reader' s'.calm = (.ok (.invalid reason), s'.calm) := by
  rcases Process.alone_applyLog_ok h with ⟨-, ha, -⟩ | ⟨block, index, e, step, s₁, ha, hy, hc⟩
  · split at ha <;> cases ha
  · have hl := (Work.lasting_applyEvent _ _ _ _ _ _).later hy
    have hb := Work.beside_applyEvent hs.keyed hy
    obtain ⟨c, hseen, hafter⟩ := Work.after_applyEvent hs.keyed hh hs.sound hy
    cases hafter with
    | waiting =>
      obtain ⟨o, -, ho⟩ := Process.alone_closeNoted_waiting hc
      cases o <;> cases ho
    | settled _ _ _ hat =>
      cases hc
      cases hat
    | refused hn he hr =>
      cases hc
      have hagain : s'.ledger.Again d log (.invalid reason) := .refused ha hseen hn he (hb.content? ▸ hr)
      have hk := (s'.later_faults .none).keyed (hl.keyed hs.keyed)
      exact (Process.alone_applyLog_again hk rfl hagain).1

/-- A log that led to a transaction leads there ever after, whatever happens in between and whatever nodes would
answer: that it is settled is found out without asking them, and no row changes. A log that was refused is refused
for the same reason when it is applied again at once, and no row changes. And where a log was passed over,
applying it is over before the first request. -/
theorem applyLog_idempotent (hw : w.Reachable r) (d : Deployment) (log : Log) :
    (∀ t, ∀ task ∈ w.tasks, task.LedTo d log t → ∀ w', w.Reaches (.any r) w' → ∀ reader,
      (applyLog d log).alone reader w'.session.calm = (.ok (.alreadySettled t), w'.session.calm) ∧
      (applyLog d log).asked reader w'.session.calm = []) ∧
    (∀ reader reason s', (applyLog d log).alone reader w.session = (.ok (.invalid reason), s') → ∀ reader',
      (applyLog d log).alone reader' s'.calm = (.ok (.invalid reason), s'.calm)) ∧
    ∀ task ∈ w.tasks, task.Skipped d log → ∃ a, applyLog d log = .finish (.ok a) := by
  obtain ⟨hk, hs⟩ := hw.kept.2
  have hh := hw.hashed
  refine ⟨?_, fun reader reason s' h => applyLog_refused_again ⟨hk, hs⟩ hh h, ?_⟩
  · intro t task hm hled w' hr reader
    have hu : w.session.Upholds w'.session.calm :=
      (hw.upholds hr).trans (.of_rows (w'.session.later_faults .none) rfl rfl)
    have hmeets := hw.recalls task hm
    have hagain : w.session.ledger.Again d log (.alreadySettled t) := by
      cases hled with
      | mk ha => exact (hmeets _ (.refl _) d log).1 t ⟨ha⟩
    exact Process.alone_applyLog_again (hu.later.keyed hk) rfl (hagain.upholds ⟨hk, hs⟩ hh hu)
  · intro task hm hskip
    have hmeets := hw.recalls task hm
    have hn : d.applicable? log = none := by
      cases hskip with
      | removed => exact (hmeets _ (.refl _) d log).2 .removed
      | malformed => exact (hmeets _ (.refl _) d log).2 .malformed
    exact ⟨_, Process.applyLog_of_none hn⟩

/-- The log that created the donation finds it when it is applied again, without asking anyone. -/
theorem donation_found_again : Donation.credited.Reachable [] ∧
    (applyLog Donation.deployment Donation.log).alone Donation.node Donation.credited.session.calm =
      (.ok (.alreadySettled Donation.transaction.id), Donation.credited.session.calm) :=
  ⟨Donation.credited_reachable [], ((applyLog_idempotent (Donation.credited_reachable []) Donation.deployment
    Donation.log).1 _ _ List.mem_cons_self ⟨rfl⟩ _ .refl Donation.node).1⟩

end System

end DonationLedger
