import DonationLedger.Proofs.Resolution.Log
import DonationLedger.Proofs.System.Meets

/-!
# Walking through an operation

What has to be shown of the ledger transactions of an operation so that the operation meets its terms, with as
much asked of its end as one likes. All that an operation was told on the way is at hand when its ledger
transactions are looked at: which receipt, which logs, and what the events pay for (`Observes`).
-/

namespace DonationLedger

theorem storedNumber?_eq_some_iff {n : Nat} {i : Int} :
    storedNumber? n = some i ↔ n ≤ Text.maxSigned64 ∧ i = n := by
  unfold storedNumber?
  split
  · rename_i h
    simp [h, eq_comm]
  · rename_i h
    simp [h]

/-- A log is passed over unless it stands and is of the contract. -/
theorem Deployment.passes_over_iff {d : Deployment} {log : Log} :
    (log.removed || log.address != d.contract) = true ↔ ¬ (log.removed = false ∧ log.address = d.contract) := by
  cases log.removed <;> simp

theorem observable?_eq_some_iff {d : Deployment} {log : Log} {index : Int} {e : Event} :
    observable? d log = some (index, e) ↔ log.removed = false ∧ log.address = d.contract ∧
      storedNumber? log.index = some index ∧ Event.ofLog log = .ok e := by
  unfold observable?
  split
  · rename_i hn
    exact ⟨nofun, fun h => absurd ⟨h.1, h.2.1⟩ (Deployment.passes_over_iff.1 hn)⟩
  · rename_i hn
    rw [Deployment.passes_over_iff, Decidable.not_not] at hn
    split
    · rename_i i e' hi he
      simp [hn, hi, he]
    · rename_i hno
      exact ⟨nofun, fun h => (hno _ _ h.2.2.1 h.2.2.2).elim⟩

/-- A verdict on an event comes from the settings and from a content that is known. -/
def Event.Screened (d : Deployment) (known : String → Option Id → Prop) (e : Event)
    (verdict : Except InvalidReason Payment) : Prop :=
  match Payment.reference e with
  | .error reason => verdict = .error reason
  | .ok ref => ∃ found, known ref found ∧ verdict = Payment.priced d.settings e found

/-- The events of the logs that count, in their order, each with its verdict. -/
inductive Observes (d : Deployment) (known : String → Option Id → Prop) : List Log → List Observed → Prop
  | nil : Observes d known [] []
  | skip {log : Log} {logs : List Log} {os : List Observed} (hn : observable? d log = none)
    (ho : Observes d known logs os) : Observes d known (log :: logs) os
  | see {log : Log} {logs : List Log} {o : Observed} {os : List Observed}
    (hs : observable? d log = some (o.index, o.event)) (hv : o.event.Screened d known o.verdict)
    (ho : Observes d known logs os) : Observes d known (log :: logs) (o :: os)

section
variable {d : Deployment} {known known' : String → Option Id → Prop}

theorem Event.Screened.imp {e : Event} {verdict : Except InvalidReason Payment}
    (h : e.Screened d known verdict) (hi : ∀ ref found, known ref found → known' ref found) :
    e.Screened d known' verdict := by
  unfold Event.Screened at *
  split at h
  · exact h
  · obtain ⟨found, hf, hv⟩ := h
    exact ⟨found, hi _ _ hf, hv⟩

theorem Observes.imp {logs : List Log} {os : List Observed} (h : Observes d known logs os)
    (hi : ∀ ref found, known ref found → known' ref found) : Observes d known' logs os := by
  induction h with
  | nil => exact .nil
  | skip hn _ ih => exact .skip hn ih
  | see hs hv _ ih => exact .see hs (hv.imp hi) ih

/-- Every event that was observed is one of a log that counts. -/
theorem Observes.mem {logs : List Log} {os : List Observed} (h : Observes d known logs os) {o : Observed}
    (ho : o ∈ os) : ∃ log ∈ logs, observable? d log = some (o.index, o.event) ∧
      o.event.Screened d known o.verdict := by
  induction h with
  | nil => simp at ho
  | skip _ _ ih =>
    obtain ⟨log, hl, hs⟩ := ih ho
    exact ⟨log, List.mem_cons_of_mem _ hl, hs⟩
  | @see log logs o' os hs hv _ ih =>
    rcases List.mem_cons.1 ho with rfl | ho
    · exact ⟨log, List.mem_cons_self, hs, hv⟩
    · obtain ⟨log, hl, hs⟩ := ih ho
      exact ⟨log, List.mem_cons_of_mem _ hl, hs⟩

end

/-- The event of a log that counts, where `content` finds the content of a reference. -/
def Observed.ofLog? (d : Deployment) (content : String → Option Id) (log : Log) : Option Observed :=
  (observable? d log).map fun p => ⟨p.1, p.2, Payment.screen d.settings content p.2⟩

/-- Where it is known which contents there are, all that is observed is known. -/
theorem Observes.eq_filterMap {d : Deployment} {content : String → Option Id} {logs : List Log}
    {os : List Observed} (h : Observes d (fun ref found => found = content ref) logs os) :
    os = logs.filterMap (Observed.ofLog? d content) := by
  induction h with
  | nil => rfl
  | skip hn _ ih => rw [List.filterMap_cons, Observed.ofLog?, hn, ih]; rfl
  | @see log logs o os hs hv _ ih =>
    have ho : o = ⟨o.index, o.event, Payment.screen d.settings content o.event⟩ := by
      obtain ⟨index, event, verdict⟩ := o
      refine congrArg (Observed.mk index event) ?_
      simp only [Event.Screened] at hv
      unfold Payment.screen
      cases hr : Payment.reference event with
      | error reason => rw [hr] at hv; exact hv
      | ok ref =>
        rw [hr] at hv
        obtain ⟨found, rfl, hv⟩ := hv
        exact hv
    rw [List.filterMap_cons, Observed.ofLog?, hs, ← ih]
    exact congrArg (· :: os) ho

/-- What an operation that has been told `h` since `s` knows of the contents. -/
def Terms.Known (m : Terms) (s : Session) (h : List Told) (ref : String) (found : Option Id) : Prop :=
  Told.content ref (.ok found) ∈ h ∧ ∃ s', m.others s s' ∧ m.outside.contents s'.ledger ref (.ok found)

theorem Terms.Known.subset {m : Terms} {s : Session} {h h' : List Told} {ref : String} {found : Option Id}
    (hk : m.Known s h ref found) (hh : h ⊆ h') : m.Known s h' ref found := ⟨hh hk.1, hk.2⟩

theorem Terms.Known.later {m : Terms} [IsTrans Session m.others] {s s' : Session} {h : List Told}
    {ref : String} {found : Option Id} (hk : m.Known s' h ref found) (hs : m.others s s') :
    m.Known s h ref found := by
  obtain ⟨hm, s₁, hs₁, hc⟩ := hk
  exact ⟨hm, s₁, trans_of m.others hs hs₁, hc⟩

/-- The contents failed so, as an operation was told that has been told `h` since `s`. -/
def Terms.ContentFails (m : Terms) (s : Session) (h : List Told) (e : Failure) : Prop :=
  ∃ ref, Told.content ref (.error e) ∈ h ∧ ∃ s', m.others s s' ∧ m.outside.contents s'.ledger ref (.error e)

theorem Terms.ContentFails.heard {m : Terms} {s : Session} {h : List Told} {e : Failure}
    (hc : m.ContentFails s h e) : Heard h e := by
  obtain ⟨ref, hm, -⟩ := hc
  exact ⟨_, hm, .content⟩

namespace Process

variable {α : Type} {m : Terms} [IsPreorder Session m.others] {h : List Told} {s s' : Session}
  {d : Deployment}

theorem meets_screen (h : List Told) (s : Session) (d : Deployment) (e : Event) : (screen d e).Meets m
    (fun h' r s' => h ⊆ h' ∧ m.others s s' ∧ match r with
      | .ok verdict => e.Screened d (m.Known s h') verdict
      | .error err => m.ContentFails s h' err) h s := by
  unfold screen Event.Screened
  cases hr : Payment.reference e with
  | error reason => exact fun s' hs => ⟨fun _ ht => ht, hs, rfl⟩
  | ok ref =>
    intro s' hs r hc
    cases r with
    | ok found =>
      intro s'' hs'
      refine ⟨List.subset_append_left _ _, trans_of m.others hs hs', found, ⟨?_, s', hs, hc⟩, rfl⟩
      simp
    | error err =>
      intro s'' hs'
      refine ⟨List.subset_append_left _ _, trans_of m.others hs hs', ref, ?_, s', hs, hc⟩
      simp

theorem meets_observe (h : List Told) (s : Session) (d : Deployment) (logs : List Log) :
    (observe d logs).Meets m
      (fun h' r s' => h ⊆ h' ∧ m.others s s' ∧ match r with
        | .ok os => Observes d (m.Known s h') logs os
        | .error err => m.ContentFails s h' err) h s := by
  induction logs generalizing h s with
  | nil => exact fun s' hs => ⟨fun _ ht => ht, hs, .nil⟩
  | cons log logs ih =>
    unfold observe
    split
    · rename_i hn
      refine (ih h s).imp fun h' r s' hp => ⟨hp.1, hp.2.1, ?_⟩
      cases r with
      | ok os => exact .skip hn hp.2.2
      | error err => exact hp.2.2
    · rename_i index event hs
      refine meets_bind ((meets_screen h s d event).imp fun h₁ r s₁ ⟨hh₁, hs₁, hr⟩ => ?_)
      cases r with
      | error err => exact fun s' hs' => ⟨hh₁, trans_of m.others hs₁ hs', hr⟩
      | ok verdict =>
        refine meets_bind ((ih h₁ s₁).imp fun h₂ r s₂ ⟨hh₂, hs₂, hr₂⟩ => ?_)
        cases r with
        | error err =>
          obtain ⟨ref, hm, s₃, hs₃, hc⟩ := hr₂
          exact fun s' hs' => ⟨fun _ ht => hh₂ (hh₁ ht), trans_of m.others (trans_of m.others hs₁ hs₂) hs',
            ref, hm, s₃, trans_of m.others hs₁ hs₃, hc⟩
        | ok os =>
          intro s' hs'
          refine ⟨fun _ ht => hh₂ (hh₁ ht), trans_of m.others (trans_of m.others hs₁ hs₂) hs', ?_⟩
          exact .see hs (hr.imp fun _ _ => (Terms.Known.subset · hh₂))
            (hr₂.imp fun _ _ => (Terms.Known.later · hs₁))

/-! ## Receipts -/

/-- The events of a receipt. One that was reverted has none. -/
def observeReceipt (d : Deployment) (receipt : Receipt) : Process (List Observed) :=
  if receipt.reverted then pure [] else observe d receipt.logs

/-- What follows once the events of a receipt are known. -/
def closeObserved (b t : Id) (receipt : Receipt) (os : List Observed) : Process Outcome :=
  match storedNumber? receipt.block with
  | none => .fail (.settlement (.malformedPayload (.blockNumber receipt.block)))
  | some block => commit (Work.closePair b t receipt block os)

/-- What follows once the node has answered. -/
def closeAnswered (d : Deployment) (b t : Id) (hash : Hash) : Option Receipt → Process Outcome
  | none => .fail (.settlement (.notMined hash.spelling))
  | some receipt => observeReceipt d receipt >>= closeObserved b t receipt

/-- What follows once the pair is loaded. -/
def closeOpened (d : Deployment) (b t : Id) (p : BlockchainTransaction × Option Outcome) : Process Outcome :=
  match p.2 with
  | some outcome => pure outcome
  | none => match FixedBytes.parse? 32 p.1.hash with
    | none => .fail (.settlement (.malformedPayload (.storedHash p.1.hash)))
    | some hash => ask d.chain (.receipt hash) >>= closeAnswered d b t hash

theorem resolveReceipt_eq (d : Deployment) (b t : Id) :
    resolveReceipt d b t = (commit (Work.openPair b t) >>= closeOpened d b t) := by
  unfold resolveReceipt
  refine congrArg _ (funext fun p => ?_)
  obtain ⟨c, stored⟩ := p
  unfold closeOpened
  cases stored with
  | some outcome => rfl
  | none =>
    cases hp : FixedBytes.parse? 32 c.hash with
    | none => simp only [hp]
    | some hash =>
      simp only [hp]
      refine congrArg _ (funext fun answer => ?_)
      cases answer with
      | none => rfl
      | some receipt =>
        unfold closeAnswered observeReceipt
        simp only
        split <;> rfl

theorem meets_observeReceipt (h : List Told) (s : Session) (d : Deployment) (receipt : Receipt) :
    (observeReceipt d receipt).Meets m
      (fun h' r s' => h ⊆ h' ∧ m.others s s' ∧ match r with
        | .ok os => Observes d (m.Known s h') (if receipt.reverted then [] else receipt.logs) os
        | .error err => m.ContentFails s h' err) h s := by
  unfold observeReceipt
  split
  · exact fun s' hs => ⟨fun _ ht => ht, hs, .nil⟩
  · exact meets_observe h s d receipt.logs

/-- The node told, of the hash that is stored, whether there is a receipt. -/
structure Reads (d : Deployment) (h h' : List Told) (c : BlockchainTransaction) (hash : Hash)
    (answer : Option Receipt) : Prop where
  parsed : FixedBytes.parse? 32 c.hash = some hash
  heard : h ⊆ h'
  told : Told.node d.chain (.receipt hash) (.ok answer) ∈ h'

/-- All that decides how a resolution ends: how the pair is opened and closed, and what keeps it from that. In
between, `waits` holds of the blockchain transaction that was read. -/
structure Resolves (m : Terms) (fails : List Told → Failure → Prop) (ends : List Told → Outcome → Session → Prop)
    (waits : BlockchainTransaction → Session → Prop) (d : Deployment) (b t : Id) (h : List Told) (s : Session) :
    Prop where
  opens : ∀ s₁ p s₂, m.others s s₁ → (Work.openPair b t).Yields s₁ p s₂ → m.own h s₁ s₂ ∧
    (∀ o s₃, p.2 = some o → m.others s₂ s₃ → ends h o s₃) ∧ (p.2 = none → waits p.1 s₂)
  unopened : ∀ s₁ e, m.others s s₁ → ((Work.openPair b t).result s₁).1 = .error e → fails h e
  unreadable : ∀ s₁ c, waits c s₁ → FixedBytes.parse? 32 c.hash = none →
    fails h (.settlement (.malformedPayload (.storedHash c.hash)))
  unmined : ∀ s₁ c hash h', waits c s₁ → Reads d h h' c hash none →
    fails h' (.settlement (.notMined hash.spelling))
  beyond : ∀ s₁ c hash receipt h', waits c s₁ → Reads d h h' c hash (some receipt) →
    storedNumber? receipt.block = none → fails h' (.settlement (.malformedPayload (.blockNumber receipt.block)))
  closes : ∀ s₁ c hash receipt block os h' s₂ o s₃, waits c s₁ → Reads d h h' c hash (some receipt) →
    Observes d (fun ref found => Told.content ref (.ok found) ∈ h')
      (if receipt.reverted then [] else receipt.logs) os →
    storedNumber? receipt.block = some block → m.others s₁ s₂ →
    (Work.closePair b t receipt block os).Yields s₂ o s₃ →
    m.own h' s₂ s₃ ∧ ∀ s₄, m.others s₃ s₄ → ends h' o s₄
  unclosed : ∀ s₁ c hash receipt block os h' s₂ e, waits c s₁ → Reads d h h' c hash (some receipt) →
    m.others s₁ s₂ → ((Work.closePair b t receipt block os).result s₂).1 = .error e → fails h' e

theorem meets_resolveReceipt_ending {fails : List Told → Failure → Prop}
    {ends : List Told → Outcome → Session → Prop} {waits : BlockchainTransaction → Session → Prop} {b t : Id}
    (hf : ∀ h e, Heard h e → fails h e) (hi : m.Idles) (hr : Resolves m fails ends waits d b t h s) :
    (resolveReceipt d b t).Meets m (ending fails ends) h s := by
  rw [resolveReceipt_eq]
  refine meets_commit_ending hi (Work.lasting_openPair b t) (fun s₁ p s₂ hs₁ hy => ?_) hr.unopened
  obtain ⟨hown, hend, hwait⟩ := hr.opens s₁ p s₂ hs₁ hy
  refine ⟨hown, ?_⟩
  unfold closeOpened
  split
  · rename_i o ho
    exact fun s₃ => hend o s₃ ho
  · rename_i hn
    have hw := hwait hn
    split
    · rename_i hparse
      exact fun s₃ _ => hr.unreadable s₂ p.1 hw hparse
    · rename_i hash hparse
      intro s₃ hs₃ answer _
      rcases answer with e | _ | receipt
      · exact fun s₄ _ => hf _ e ⟨_, List.mem_append_right _ List.mem_cons_self, .node⟩
      · exact fun s₄ _ => hr.unmined s₂ p.1 hash _ hw ⟨hparse, List.subset_append_left _ _, by simp⟩
      · refine meets_bind ((meets_observeReceipt _ s₃ d receipt).imp fun h' os s₄ ⟨hh, hs₄, ho⟩ => ?_)
        cases os with
        | error e => exact fun s₅ _ => hf h' e ho.heard
        | ok os =>
          have hread : Reads d h h' p.1 hash (some receipt) :=
            ⟨hparse, fun _ ht => hh (List.mem_append_left _ ht), hh (by simp)⟩
          unfold closeObserved
          simp only
          split
          · rename_i hb
            exact fun s₅ _ => hr.beyond s₂ p.1 hash receipt h' hw hread hb
          · rename_i block hb
            refine meets_commit_end_ending hi (Work.lasting_closePair _ _ _ _ _) (fun s₅ o s₆ hs₅ hy => ?_) ?_
            · exact hr.closes s₂ p.1 hash receipt block os h' s₅ o s₆ hw hread
                (ho.imp fun ref found hk => hk.1) hb (trans_of m.others hs₃ (trans_of m.others hs₄ hs₅)) hy
            · exact fun s₅ e hs₅ he => hr.unclosed s₂ p.1 hash receipt block os h' s₅ e hw hread
                (trans_of m.others hs₃ (trans_of m.others hs₄ hs₅)) he

variable {post : List Told → Except Failure Outcome → Session → Prop}

/-- What is shown of an outcome when it is stored or closed holds at the end. -/
theorem meets_resolveReceipt_end {b t : Id} (waits : BlockchainTransaction → Session → Prop)
    (hp : Lenient post) (hi : m.Idles)
    (hopen : ∀ s₁ p s₂, m.others s s₁ → (Work.openPair b t).Yields s₁ p s₂ → m.own h s₁ s₂ ∧
      (∀ o s₃, p.2 = some o → m.others s₂ s₃ → post h (.ok o) s₃) ∧ (p.2 = none → waits p.1 s₂))
    (hclose : ∀ s₁ c hash receipt block os h' s₂ o s₃, waits c s₁ → FixedBytes.parse? 32 c.hash = some hash →
      h ⊆ h' → Told.node d.chain (.receipt hash) (.ok (some receipt)) ∈ h' →
      Observes d (fun ref found => Told.content ref (.ok found) ∈ h')
        (if receipt.reverted then [] else receipt.logs) os →
      storedNumber? receipt.block = some block → m.others s₁ s₂ →
      (Work.closePair b t receipt block os).Yields s₂ o s₃ →
      m.own h' s₂ s₃ ∧ ∀ s₄, m.others s₃ s₄ → post h' (.ok o) s₄) :
    (resolveReceipt d b t).Meets m post h s := by
  have hr : Resolves m (fun _ _ => True) (fun h o s => post h (.ok o) s) waits d b t h s := {
    opens := hopen
    unopened := fun _ _ _ _ => trivial
    unreadable := fun _ _ _ _ => trivial
    unmined := fun _ _ _ _ _ _ => trivial
    beyond := fun _ _ _ _ _ _ _ _ => trivial
    closes := fun s₁ c hash receipt block os h' s₂ o s₃ hw hread =>
      hclose s₁ c hash receipt block os h' s₂ o s₃ hw hread.parsed hread.heard hread.told
    unclosed := fun _ _ _ _ _ _ _ _ _ _ _ _ _ => trivial }
  exact meets_of_lenient hp (meets_resolveReceipt_ending (fun _ _ _ => trivial) hi hr)

theorem meets_resolveReceipt {b t : Id} (waits : BlockchainTransaction → Session → Prop) (hi : m.Idles)
    (hopen : ∀ s₁ p s₂, m.others s s₁ → (Work.openPair b t).Yields s₁ p s₂ →
      m.own h s₁ s₂ ∧ (p.2 = none → waits p.1 s₂))
    (hclose : ∀ s₁ c hash receipt block os h' s₂ o s₃, waits c s₁ → FixedBytes.parse? 32 c.hash = some hash →
      h ⊆ h' → Told.node d.chain (.receipt hash) (.ok (some receipt)) ∈ h' →
      Observes d (fun ref found => Told.content ref (.ok found) ∈ h')
        (if receipt.reverted then [] else receipt.logs) os →
      storedNumber? receipt.block = some block → m.others s₁ s₂ →
      (Work.closePair b t receipt block os).Yields s₂ o s₃ → m.own h' s₂ s₃) :
    (resolveReceipt d b t).Meets m anyEnd h s := by
  refine meets_resolveReceipt_end waits lenient_anyEnd hi (fun s₁ p s₂ hs₁ hy => ?_)
    fun s₁ c hash receipt block os h' s₂ o s₃ hw hp hh hr ho hb hs₂ hy =>
      ⟨hclose s₁ c hash receipt block os h' s₂ o s₃ hw hp hh hr ho hb hs₂ hy, fun _ _ => trivial⟩
  obtain ⟨hown, hwait⟩ := hopen s₁ p s₂ hs₁ hy
  exact ⟨hown, fun _ _ _ _ => trivial, hwait⟩

/-! ## Jobs and logs -/

theorem meets_settle_ending {r : Registry} {t : Id} {fails : List Told → Failure → Prop}
    {ends : List Told → Settled → Session → Prop} (hi : m.Idles)
    (hunexpected : ∀ s₁ e, m.others s s₁ → ((Work.findExpected t).result s₁).1 = .error e → fails h e)
    (hunregistered : ∀ s₁ c, m.others s s₁ → (Work.findExpected t).Yields s₁ c s₁ → r.find? c.chain = none →
      fails h (.settlement (.unsupportedChain c.chain.id)))
    (hresolve : ∀ d c s₁, m.others s s₁ → (Work.findExpected t).Yields s₁ c s₁ → r.find? c.chain = some d →
      (resolveReceipt d c.id t).Meets m (ending fails fun h' o s' => ends h' ⟨t, o⟩ s') h s₁) :
    (settle r t).Meets m (ending fails ends) h s := by
  unfold settle
  refine meets_commit_ending hi (Work.lasting_findExpected t) (fun s₁ c s₂ hs₁ hy => ?_) hunexpected
  obtain ⟨rfl, -⟩ := Work.yields_findExpected.1 hy
  refine ⟨hi _ _ _ rfl fun _ => Nat.le_refl _, ?_⟩
  unfold Registry.require
  cases hd : r.find? c.chain with
  | none => exact fun s₃ _ => hunregistered s₂ c hs₁ hy hd
  | some d =>
    show ((resolveReceipt d c.id t) >>= fun o => pure ⟨t, o⟩ : Process Settled).Meets m _ h s₂
    refine meets_bind ((hresolve d c _ hs₁ hy hd).stays.imp fun h' o s₃ hr => ?_)
    cases o with
    | ok o => exact fun s₄ hs₄ => hr s₄ hs₄
    | error e => exact fun s₄ hs₄ => hr s₄ hs₄

theorem meets_settle_end {r : Registry} {t : Id} {post : List Told → Except Failure Settled → Session → Prop}
    (hp : Lenient post) (hi : m.Idles)
    (hresolve : ∀ d c s₁, m.others s s₁ → (Work.findExpected t).Yields s₁ c s₁ → r.find? c.chain = some d →
      (resolveReceipt d c.id t).Meets m (fun h' r s' => ∀ o, r = .ok o → post h' (.ok ⟨t, o⟩) s') h s₁) :
    (settle r t).Meets m post h s := by
  refine meets_of_lenient hp (meets_settle_ending hi (fun _ _ _ _ => trivial) (fun _ _ _ _ _ => trivial) ?_)
  intro d c s₁ hs₁ hy hd
  refine (hresolve d c s₁ hs₁ hy hd).imp fun h' o s' hr => ?_
  cases o with
  | ok o => exact hr o rfl
  | error e => trivial

theorem meets_settle {r : Registry} {t : Id} (hi : m.Idles)
    (hresolve : ∀ d c s₁, m.others s s₁ → (Work.findExpected t).Yields s₁ c s₁ → r.find? c.chain = some d →
      (resolveReceipt d c.id t).Meets m anyEnd h s₁) : (settle r t).Meets m anyEnd h s :=
  meets_settle_end lenient_anyEnd hi fun d c s₁ hs₁ hy hd =>
    (hresolve d c s₁ hs₁ hy hd).imp fun _ _ _ _ _ _ => trivial

end Process

/-- Block, index and event of a log that can be applied. -/
def Deployment.applicable? (d : Deployment) (log : Log) : Option (Int × Int × Event) :=
  if log.removed || log.address != d.contract then none
  else match storedNumber? log.block, storedNumber? log.index, Event.ofLog log with
    | some block, some index, .ok event => some (block, index, event)
    | _, _, _ => none

theorem Deployment.applicable?_eq_some_iff {d : Deployment} {log : Log} {block index : Int} {e : Event} :
    d.applicable? log = some (block, index, e) ↔ log.removed = false ∧ log.address = d.contract ∧
      storedNumber? log.block = some block ∧ storedNumber? log.index = some index ∧ Event.ofLog log = .ok e := by
  unfold applicable?
  split
  · rename_i hn
    exact ⟨nofun, fun h => absurd ⟨h.1, h.2.1⟩ (Deployment.passes_over_iff.1 hn)⟩
  · rename_i hn
    rw [Deployment.passes_over_iff, Decidable.not_not] at hn
    split
    · rename_i b i e' hb hi he
      simp [hn, hb, hi, he]
    · rename_i hno
      exact ⟨nofun, fun h => (hno _ _ _ h.2.2.1 h.2.2.2.1 h.2.2.2.2).elim⟩

namespace Process

variable {m : Terms} [IsPreorder Session m.others] {h : List Told} {s : Session} {d : Deployment} {log : Log}
  {post : List Told → Except Failure Applied → Session → Prop}

/-- What follows once a log was noted. -/
def closeNoted (d : Deployment) : LogStep → Process Applied
  | .applied result => pure result
  | .needsReceipt b t => resolveReceipt d b t >>= fun outcome => pure (.ofOutcome t outcome)

theorem applyLog_of_none (h : d.applicable? log = none) :
    applyLog d log = pure (if log.removed then .removed else .malformed) := by
  unfold applyLog
  by_cases hr : log.removed = true
  · rw [if_pos hr, if_pos hr]
  · rw [if_neg hr, if_neg hr]
    by_cases ha : log.address = d.contract
    · rw [if_neg (Decidable.not_not.2 ha)]
      split
      · rename_i block index e hb hx he
        have := Deployment.applicable?_eq_some_iff.2 ⟨by simpa using hr, ha, hb, hx, he⟩
        rw [h] at this
        cases this
      · rfl
    · rw [if_pos ha]

theorem applyLog_of_some {block index : Int} {e : Event} (h : d.applicable? log = some (block, index, e)) :
    applyLog d log = (screen d e >>= fun verdict =>
      commit (Work.applyEvent d.chain log.hash.spelling block index e verdict) >>= closeNoted d) := by
  obtain ⟨hr, ha, hb, hx, he⟩ := Deployment.applicable?_eq_some_iff.1 h
  unfold applyLog
  rw [hr, if_neg Bool.false_ne_true, if_neg (Decidable.not_not.2 ha), hb, hx, he]
  refine congrArg (screen d e >>= ·) (funext fun verdict => congrArg (commit _ >>= ·) (funext fun step => ?_))
  cases step <;> rfl

/-- A log that cannot be applied has its end at once, and of all others the ledger transaction is looked at. -/
theorem meets_applyLog_ending {fails : List Told → Failure → Prop} {ends : List Told → Applied → Session → Prop}
    (hf : ∀ h e, Heard h e → fails h e) (hi : m.Idles)
    (hskip : d.applicable? log = none → ∀ s₁, m.others s s₁ →
      ends h (if log.removed then .removed else .malformed) s₁)
    (hunnoted : ∀ s₁ block index e verdict h' err, d.applicable? log = some (block, index, e) → h ⊆ h' →
      m.others s s₁ →
      ((Work.applyEvent d.chain log.hash.spelling block index e verdict).result s₁).1 = .error err → fails h' err)
    (hevent : ∀ s₁ block index e verdict h' r s₂, d.applicable? log = some (block, index, e) → h ⊆ h' →
      e.Screened d (fun ref found => Told.content ref (.ok found) ∈ h') verdict → m.others s s₁ →
      (Work.applyEvent d.chain log.hash.spelling block index e verdict).Yields s₁ r s₂ →
      m.own h' s₁ s₂ ∧ (closeNoted d r).Meets m (ending fails ends) h' s₂) :
    (applyLog d log).Meets m (ending fails ends) h s := by
  rcases ha : d.applicable? log with _ | ⟨block, index, e⟩
  · rw [applyLog_of_none ha]
    exact hskip ha
  · rw [applyLog_of_some ha]
    refine meets_bind ((meets_screen h s d e).imp fun h' v s₁ ⟨hh, hs₁, hv⟩ => ?_)
    cases v with
    | error err => exact fun s₂ _ => hf h' err hv.heard
    | ok verdict =>
      refine meets_commit_ending hi (Work.lasting_applyEvent _ _ _ _ _ _) (fun s₂ r s₃ hs₂ hy => ?_)
        fun s₂ err hs₂ he => hunnoted s₂ block index e verdict h' err ha hh (trans_of m.others hs₁ hs₂) he
      exact hevent s₂ block index e verdict h' r s₃ ha hh (hv.imp fun ref found hk => hk.1)
        (trans_of m.others hs₁ hs₂) hy

theorem meets_applyLog_end (hp : Lenient post) (hi : m.Idles)
    (hskip : d.applicable? log = none → ∀ s₁, m.others s s₁ →
      post h (.ok (if log.removed then .removed else .malformed)) s₁)
    (hevent : ∀ s₁ block index e verdict h' r s₂, d.applicable? log = some (block, index, e) → h ⊆ h' →
      e.Screened d (fun ref found => Told.content ref (.ok found) ∈ h') verdict → m.others s s₁ →
      (Work.applyEvent d.chain log.hash.spelling block index e verdict).Yields s₁ r s₂ →
      m.own h' s₁ s₂ ∧ (closeNoted d r).Meets m post h' s₂) : (applyLog d log).Meets m post h s := by
  refine meets_of_lenient hp (meets_applyLog_ending (fun _ _ _ => trivial) hi hskip
    (fun _ _ _ _ _ _ _ _ _ _ _ => trivial) fun s₁ block index e verdict h' r s₂ ha hh hv hs₁ hy => ?_)
  obtain ⟨hown, hclose⟩ := hevent s₁ block index e verdict h' r s₂ ha hh hv hs₁ hy
  refine ⟨hown, hclose.imp fun h₂ a s₃ hr => ?_⟩
  cases a with
  | ok a => exact hr
  | error err => trivial

theorem meets_applyLog (hi : m.Idles)
    (hevent : ∀ s₁ block index e verdict h' r s₂, log.removed = false → log.address = d.contract →
      storedNumber? log.block = some block → storedNumber? log.index = some index → Event.ofLog log = .ok e →
      h ⊆ h' → e.Screened d (fun ref found => Told.content ref (.ok found) ∈ h') verdict → m.others s s₁ →
      (Work.applyEvent d.chain log.hash.spelling block index e verdict).Yields s₁ r s₂ →
      m.own h' s₁ s₂ ∧ ∀ b t, r = .needsReceipt b t → (resolveReceipt d b t).Meets m anyEnd h' s₂) :
    (applyLog d log).Meets m anyEnd h s := by
  refine meets_applyLog_end lenient_anyEnd hi (fun _ _ _ => trivial) ?_
  intro s₁ block index e verdict h' r s₂ ha hh hv hs₁ hy
  obtain ⟨hr, had, hb, hx, he⟩ := Deployment.applicable?_eq_some_iff.1 ha
  obtain ⟨hown, hres⟩ := hevent s₁ block index e verdict h' r s₂ hr had hb hx he hh hv hs₁ hy
  refine ⟨hown, ?_⟩
  cases r with
  | applied result => exact meets_anyEnd_finish _
  | needsReceipt b t =>
    refine meets_bind ((hres b t rfl).imp fun h₂ o s₄ _ => ?_)
    cases o with
    | ok o => exact meets_anyEnd_finish _
    | error err => exact fun _ _ => trivial

end Process

end DonationLedger
