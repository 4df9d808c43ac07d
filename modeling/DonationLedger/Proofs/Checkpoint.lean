import DonationLedger.Proofs.Follow.Mirrored
import DonationLedger.Proofs.Follow.Sparing

/-!
# A checkpoint means that all was seen

The checkpoint of a chain is moved at the end of a cycle, after all logs of the window were applied, and the
window begins right behind the checkpoint that was read. So between any two checkpoints no log is left out,
however often cycles fail or are dropped in between (`Session.Followed`). That no two cycles run on a chain at
once is not needed: a checkpoint is only ever raised, and what an older cycle did not look at was below the
checkpoint that it read.
-/

namespace DonationLedger

/-- Nodes that tell the logs of a range of blocks tell all of them, perhaps with others and in any order. -/
def Outside.Faithful (o : Outside) (chain : Chain) (onChain : Log → Prop) : Prop :=
  ∀ first last (logs : List Log), o.answers chain (.logs (some first) (some last)) (.ok logs) →
    ∀ log, onChain log → first ≤ log.block → log.block ≤ last → log ∈ logs

/-- Something happens, or some operations are dropped where they stand and chains that they hold are given
free. -/
inductive System.Stumbles (o : Outside) (w : System) : System → Prop
  | step {w' : System} (h : w.Step o w') : Stumbles o w w'
  | drop {held : List Chain} {tasks : List Task} (hh : held.Sublist w.held) (ht : tasks.Sublist w.tasks) :
    Stumbles o w ⟨w.session, held, tasks⟩

/-- If the log can be applied, it was seen. -/
def Session.Noted (s : Session) (d : Deployment) (log : Log) : Prop :=
  ∀ block index e, d.applicable? log = some (block, index, e) →
    ∃ c, s.ledger.Seen d.chain log.hash.spelling index c

/-- The chain was followed from a checkpoint on, and all its logs up to the stored checkpoint were seen. -/
structure Session.Followed (s : Session) (d : Deployment) (onChain : Log → Prop) (start : Int) : Prop where
  keyed : s.Keyed
  hashed : s.Hashed
  stored : ∃ c, s.ledger.checkpoint? d.chain = some ⟨d.chain, c⟩ ∧ c ≤ Text.maxSigned64 ∧
    ∀ log, onChain log → start < log.block → log.block ≤ c → s.Noted d log

/-- `s'` is a later session than `s`, and is followed if `s` is. -/
structure Session.KeepsFollowed (d : Deployment) (onChain : Log → Prop) (start : Int) (s s' : Session) : Prop where
  later : s.Later s'
  followed : s.Followed d onChain start → s'.Followed d onChain start

/-- A window behind a checkpoint that can be stored begins with the next block. -/
theorem Window.plan_some {c : Nat} (hc : c ≤ Text.maxSigned64) (height depth size : Nat) :
    Window.plan (some c) height depth size = .upToDate c ∨
      ∃ last, Window.plan (some c) height depth size = .range (c + 1) last := by
  have hmax : Text.maxSigned64 + 1 ≤ Text.maxWord64 := by decide
  simp only [plan, plus_eq (a := c) (b := 1) (by omega)]
  split
  · exact .inl rfl
  · exact .inr ⟨_, rfl⟩

section
variable {d : Deployment} {onChain : Log → Prop} {start : Int} {s s' s₁ s₂ s₃ : Session}

theorem Session.Noted.later {log : Log} (h : s.Noted d log) (hk : s.Keyed) (hh : s.Hashed) (hl : s.Later s') :
    s'.Noted d log := fun block index e ha => by
  obtain ⟨c, hc⟩ := h block index e ha
  obtain ⟨c', -, hc'⟩ := hc.later hk hh hl
  exact ⟨c', hc'⟩

namespace Session.Followed

/-- Where the checkpoint stays, nothing new is to be seen. -/
theorem later (h : s.Followed d onChain start) (hl : s.Later s')
    (hc : s'.ledger.checkpoint? d.chain = s.ledger.checkpoint? d.chain) : s'.Followed d onChain start := by
  obtain ⟨c, hs, hmax, hlogs⟩ := h.stored
  exact ⟨hl.keyed h.keyed, hl.hashed h.hashed, c, hc.trans hs, hmax, fun log ho hb hb' =>
    (hlogs log ho hb hb').later h.keyed h.hashed hl⟩

/-- The end of a cycle: the window follows the checkpoint that was read, or one that is behind by now. -/
theorem raise {o : Outside} {previous : Option Nat} {f : FetchedWindow} {stored : Int}
    (hf : o.Faithful d.chain onChain) (h₁ : s₁.Followed d onChain start)
    (hread : (Work.findFollowed d.chain).Yields s₁ previous s₁)
    (hfetch : d.Fetches (fun q a => o.answers d.chain q (.ok a)) previous f) (hl : s₁.Later s₂)
    (hnoted : ∀ log ∈ f.logs, s₂.Noted d log) (hne : previous ≠ some f.window.checkpoint)
    (hstored : storedNumber? f.window.checkpoint = some stored)
    (hy : (Work.raiseCheckpoint d.chain stored).Yields s₂ () s₃) (h₂ : s₂.Followed d onChain start) :
    s₃.Followed d onChain start := by
  obtain ⟨c₁, hs₁, hmax₁, -⟩ := h₁.stored
  obtain ⟨c₂, hs₂, hmax₂, hlogs⟩ := h₂.stored
  have hl₃ := (Work.lasting_raiseCheckpoint d.chain stored).later hy
  obtain ⟨hmax, hst⟩ := storedNumber?_eq_some_iff.1 hstored
  have hle : c₁ ≤ c₂ := by
    obtain ⟨c', hc', hb⟩ := hl.follows.checkpoints _ _ hs₁
    obtain rfl := Option.some.inj (hc'.symm.trans hs₂)
    exact hb
  -- the checkpoint that was read
  obtain ⟨p, rfl, hp⟩ : ∃ p : Nat, previous = some p ∧ (p : Int) = c₁ := by
    rcases (Work.yields_findFollowed.1 hread).2 with ⟨hno, -⟩ | ⟨c, hc, hb, rfl⟩
    · exact nomatch hno.symm.trans hs₁
    · obtain rfl := Option.some.inj (hc.symm.trans hs₁)
      exact ⟨_, rfl, Int.toNat_of_nonneg hb⟩
  obtain ⟨⟨height, -, hw⟩, hfl⟩ := hfetch
  obtain ⟨last, hw⟩ : ∃ last, f.window = .range (p + 1) last := by
    rcases Window.plan_some (by omega : p ≤ Text.maxSigned64) height d.settings.confirmationDepth
      d.settings.windowSize with he | ⟨last, he⟩
    · exact absurd (by rw [hw, he]; rfl) hne
    · exact ⟨last, hw.trans he⟩
  simp only [hw, Window.bounds?, Window.checkpoint] at hfl hst
  obtain ⟨logs, hans, hfl⟩ := hfl
  refine ⟨hl₃.keyed h₂.keyed, hl₃.hashed h₂.hashed, max c₂ stored, ?_, ?_, fun log ho hb hb' => ?_⟩
  · rw [(Work.yields_raiseCheckpoint.1 hy).2, Session.ledger_write, Ledger.checkpoint?_setCheckpoint, hs₂]
  · rw [hw] at hmax
    simp only [Window.checkpoint] at hmax
    omega
  · refine Session.Noted.later ?_ h₂.keyed h₂.hashed hl₃
    by_cases hc : log.block ≤ c₂
    · exact hlogs log ho hb hc
    · refine hnoted log ?_
      rw [hfl, Deployment.mem_confirmed_iff]
      exact ⟨hf _ _ logs hans log ho (by omega) (by omega), by omega⟩

end Session.Followed

/-! ## Operations -/

/-- What was seen stays seen, and checkpoints are moved only over logs that were seen. -/
def following (o : Outside) (d : Deployment) (onChain : Log → Prop) (start : Int) : Regime o where
  others := Session.KeepsFollowed d onChain start
  own _ _ := Session.KeepsFollowed d onChain start
  post _ := Process.anyEnd
  refl s := ⟨.refl s, id⟩
  trans h k := ⟨h.later.trans k.later, k.followed ∘ h.followed⟩
  expected := id

variable {o : Outside} {op : Operation} {h : List Told}

theorem Session.Spares.keepsFollowed (hs : s.Spares d.chain s') : Session.KeepsFollowed d onChain start s s' :=
  ⟨hs.later, fun h => h.later hs.later hs.checkpoint⟩

theorem following_idles : ((following o d onChain start).terms op).Idles := fun _ _ _ hl hs =>
  (Session.Spares.of_ledger_eq hl hs).keepsFollowed

/-- What leaves the checkpoint alone keeps to the terms. -/
theorem Process.Meets.following {α : Type} {post : List Told → Except Failure α → Session → Prop} {p : Process α}
    (hp : p.Meets (sparing o d.chain) post h s) : p.Meets ((following o d onChain start).terms op) post h s :=
  hp.mono rfl Session.KeepsFollowed.later Session.Spares.keepsFollowed

theorem following_closeNoted {e : Deployment} {r : LogStep} :
    (Process.closeNoted e r).Meets ((following o d onChain start).terms op) Process.anyEnd h s := by
  cases r with
  | applied result => exact Process.meets_anyEnd_finish _
  | needsReceipt b t =>
    refine Process.meets_bind (sparing_resolveReceipt.following.imp fun _ r _ _ => ?_)
    cases r with
    | ok o => exact Process.meets_anyEnd_finish _
    | error err => exact fun _ _ => trivial

/-- A log whose application has ended was seen. -/
theorem following_applyLog {e : Deployment} {log : Log} (hs : s.Followed d onChain start) :
    (applyLog e log).Meets ((following o d onChain start).terms op)
      (fun _ r s' => ∀ a, r = .ok a → s'.Followed d onChain start ∧ s'.Noted e log) h s := by
  refine Process.meets_applyLog_end (fun _ _ _ _ => nofun) following_idles ?_ ?_
  · intro hn s₁ hs₁ a _
    exact ⟨hs₁.followed hs, fun block index ev ha => nomatch hn.symm.trans ha⟩
  · intro s₁ block index ev verdict h' r s₂ ha _ _ hs₁ hy
    have hs₁ := hs₁.followed hs
    have hl := (Work.lasting_applyEvent _ _ _ _ _ _).later hy
    have hown : Session.KeepsFollowed d onChain start s₁ s₂ :=
      (Session.Spares.of_beside hl (Work.beside_applyEvent hs₁.keyed hy)).keepsFollowed
    have hs₂ := hown.followed hs₁
    obtain ⟨c, hc⟩ := Work.seen_applyEvent hs₁.keyed hs₁.hashed hy
    have hnoted : s₂.Noted e log := fun block' index' ev' ha' => by
      obtain ⟨rfl, rfl, rfl⟩ : block = block' ∧ index = index' ∧ ev = ev' := by simpa [ha] using ha'
      exact ⟨c, hc⟩
    refine ⟨hown, (following_closeNoted.tracked id).imp fun _ _ s₃ hr a _ => ?_⟩
    exact ⟨hr.2.2.followed hs₂, hnoted.later hs₂.keyed hs₂.hashed hr.2.2.later⟩

theorem following_process (hf : o.Faithful d.chain onChain) (hd : o.registry.find? d.chain = some d)
    (hs : s.Followed d onChain start) :
    (op.process o.registry).Meets ((following o d onChain start).terms op) Process.anyEnd h s := by
  cases op with
  | resolve e b t => exact sparing_resolveReceipt.following
  | settle t => exact sparing_settle.following
  | apply e log => exact (sparing_applyLog hs.keyed).following
  | follow chain =>
    by_cases hc : chain = d.chain
    · subst hc
      refine Process.meets_follow_of_cycle fun e s₁ he hs₁ => ?_
      obtain rfl : d = e := Option.some.inj (hd.symm.trans he)
      have hstart := hs₁.followed hs
      refine Process.meets_cycle_effect following_idles id
        (fun log s => s.Followed d onChain start ∧ s.Noted d log)
        (fun log s s' hs hs' => ⟨hs'.followed hs.1, hs.2.later hs.1.keyed hs.1.hashed hs'.later⟩)
        (fun _ _ log h' s' _ _ hs' => following_applyLog (hs'.followed hstart)) ?_
      intro previous f stored h' s₂ s₃ s₄ hs₂ hread hfetch hs₃ hlogs hne hst hy
      refine ⟨(Work.lasting_raiseCheckpoint d.chain stored).later hy, fun h₃ => ?_⟩
      exact .raise hf (hs₂.followed hstart) hread (hfetch.imp fun _ _ ha => ha.2) hs₃.later
        (fun log hm => (hlogs log hm).2) hne hst hy h₃
    · exact (sparing_follow hs.keyed hc).following

theorem following_callers : (following o d onChain start).Callers :=
  Regime.callers_of_spares fun _ _ hs => (hs d.chain).keepsFollowed

/-- Whatever happens and wherever operations are dropped, the chain is followed. -/
theorem System.followed_of_stumbles {w₀ w : System} (hf : o.Faithful d.chain onChain)
    (hd : o.registry.find? d.chain = some d) (ht : w₀.tasks = []) (hs : w₀.session.Followed d onChain start)
    (hr : Relation.ReflTransGen (System.Stumbles o) w₀ w) :
    (following o d onChain start).Kept w ∧ w.session.Followed d onChain start := by
  induction hr with
  | refl => exact ⟨fun x hx => by simp [ht] at hx, hs⟩
  | tail _ hstep ih =>
    obtain ⟨hk, hs⟩ := ih
    cases hstep with
    | step h =>
      obtain ⟨hk', ho⟩ := Regime.kept_step following_callers (fun _ _ => following_process hf hd hs) hk h
      exact ⟨hk', ho.followed hs⟩
    | drop _ hsub => exact ⟨fun x hx => hk x (hsub.subset hx), hs⟩

end

namespace System

/-- A checkpoint means that all was seen. Begin with a checkpoint, with no operations, and with any rows where
ids and places are keys, and let nodes tell all logs of the blocks that they are asked for. Whatever happens, and
wherever operations fail or are dropped: every log of the contract behind the first checkpoint and not behind the
stored one, if it stands and is an event, has one blockchain transaction, which is not pending, and is on record. -/
theorem checkpoint_complete (o : Outside) {d : Deployment} {onChain : Log → Prop} {w₀ w : System} {start c : Int}
    {log : Log} {e : Event} (hd : o.registry.find? d.chain = some d) (hf : o.Faithful d.chain onChain)
    (hk : w₀.session.Keyed) (hh : w₀.session.Hashed) (ht : w₀.tasks = [])
    (hs : w₀.session.ledger.checkpoint? d.chain = some ⟨d.chain, start⟩) (hmax : start ≤ Text.maxSigned64)
    (hr : Relation.ReflTransGen (Stumbles o) w₀ w)
    (hc : w.session.ledger.checkpoint? d.chain = some ⟨d.chain, c⟩) (hl : onChain log)
    (hrem : log.removed = false) (hadr : log.address = d.contract) (he : Event.ofLog log = .ok e)
    (hi : log.index ≤ Text.maxSigned64) (hb : start < log.block) (hb' : log.block ≤ c) :
    ∃ b, w.session.ledger.blockchainTransactions.filter
        (fun b => b.chain == d.chain && b.hash == log.hash.spelling) = [b] ∧ b.state ≠ .pending ∧
      ∃ r ∈ w.session.ledger.records, r.blockchainTransaction = b.id ∧ r.index = log.index := by
  have hstart : w₀.session.Followed d onChain start :=
    ⟨hk, hh, start, hs, hmax, fun _ _ h h' => absurd h (Int.not_lt.2 h')⟩
  have hw := (followed_of_stumbles hf hd ht hstart hr).2
  obtain ⟨c', hc', hmax', hlogs⟩ := hw.stored
  obtain ⟨-, rfl⟩ : d.chain = d.chain ∧ c = c' := by simpa [hc] using hc'
  have hblock := storedNumber?_eq_some_iff.2 ⟨(by omega : log.block ≤ Text.maxSigned64), rfl⟩
  have hindex := storedNumber?_eq_some_iff.2 ⟨hi, rfl⟩
  obtain ⟨b, hseen⟩ := hlogs log hl hb hb' _ _ e
    (Deployment.applicable?_eq_some_iff.2 ⟨hrem, hadr, hblock, hindex, he⟩)
  obtain ⟨hm, hch, hha⟩ := Ledger.byHash?_some hseen.stored
  obtain ⟨r, hrec, hp⟩ := hseen.recorded
  refine ⟨b, ?_, hseen.state, r, hrec, Prod.mk.inj hp⟩
  rw [← hch, ← hha]
  exact hw.hashed.filter hm

end System

namespace Donation

/-- Anything may be begun, and the block of the log is final. -/
def outside : Outside := { Outside.flaky [deployment] ahead with starts := fun _ => True }

/-- The blocks before that of the log were followed. -/
def followed : System :=
  ⟨{ filed.session with ledger := filed.session.ledger.setCheckpoint .optimism 6 }, [], []⟩

theorem outside_faithful : outside.Faithful .optimism (· = log) := by
  intro first last logs h l hl _ _
  rw [hl]
  rcases h with h | h
  · cases h
    exact List.mem_cons_self
  · cases h

/-- A cycle is begun, and comes to its end. -/
theorem followed_reaches : ∃ held heard, followed.Reaches outside
    ⟨((follow [deployment] .optimism).alone ahead followed.session).2, held,
      [⟨.follow .optimism, .finish ((follow [deployment] .optimism).alone ahead followed.session).1, heard⟩]⟩ := by
  have hstart : followed.Step outside
      ⟨followed.session, [], [(Operation.follow .optimism).task [deployment]]⟩ := .start trivial
  have hbegun : (follow [deployment] .optimism).Goes outside followed.session [] followed.session []
      (follow [deployment] .optimism) := .start
  obtain ⟨held, hended⟩ := hbegun.follow_alone ahead (fun _ _ => .inl rfl) (fun _ _ => .inl rfl) rfl
  obtain ⟨heard, hr⟩ := Process.Goes.reaches (.follow .optimism) hended []
  exact ⟨held, heard, .head hstart hr⟩

theorem followed_checkpoint : ((follow [deployment] .optimism).alone ahead followed.session).2.ledger.checkpoint?
    .optimism = some ⟨.optimism, 7⟩ := by decide +kernel

end Donation

namespace System

theorem donation_followed : ∃ w, Relation.ReflTransGen (Stumbles Donation.outside) Donation.followed w ∧
    w.session.ledger.checkpoint? .optimism = some ⟨.optimism, 7⟩ ∧
    ∃ b, w.session.ledger.blockchainTransactions.filter
        (fun b => b.chain == .optimism && b.hash == Donation.hash.spelling) = [b] ∧ b.state ≠ .pending ∧
      ∃ r ∈ w.session.ledger.records, r.blockchainTransaction = b.id ∧ r.index = 0 := by
  obtain ⟨held, heard, hr⟩ := Donation.followed_reaches
  have hc := Donation.followed_checkpoint
  have hr : Relation.ReflTransGen (Stumbles Donation.outside) Donation.followed _ :=
    hr.lift id fun _ _ h => Stumbles.step h
  generalize ((follow [Donation.deployment] .optimism).alone Donation.ahead
    Donation.followed.session).2 = s at hr hc
  have hd : Donation.outside.registry.find? Donation.deployment.chain = some Donation.deployment := rfl
  have hkeyed : Donation.followed.session.Keyed := ⟨.nil, .nil, nofun, nofun⟩
  have hs : Donation.followed.session.ledger.checkpoint? Donation.deployment.chain =
      some ⟨Donation.deployment.chain, 6⟩ := by decide +kernel
  have hevent : Event.ofLog Donation.log = .ok Donation.event := rfl
  have hremoved : Donation.log.removed = false := rfl
  have hcomplete := checkpoint_complete Donation.outside hd Donation.outside_faithful hkeyed .nil rfl hs (by decide)
    hr hc rfl hremoved rfl hevent (by decide) (by decide) (by decide)
  exact ⟨_, hr, hc, hcomplete⟩

end System

end DonationLedger
