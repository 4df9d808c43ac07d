import DonationLedger.Proofs.System.Run
import DonationLedger.Proofs.Work.Lasting
import Mathlib.Order.Defs.Unbundled

/-!
# Operations that meet their terms

An operation is never alone: before each of its requests others may have changed the session. So it
is judged by terms (`Terms`): whatever others may have done, what it does itself is within its own
terms, and at its end the postcondition holds (`Process.Meets`). Operations whose own terms allow
only what the others' terms expect can run next to each other in any order (`Regime.kept_advance`).
-/

namespace DonationLedger

/-- What may be answered, what others may do to the session, and what an operation that was told so much
may do itself. -/
structure Terms where
  outside : Outside
  others : Session → Session → Prop
  own : List Told → Session → Session → Prop

/-- What leaves the rows alone is within the terms. -/
def Terms.Idles (m : Terms) : Prop :=
  ∀ h s s', s'.ledger = s.ledger → (∀ kind, s.supply.count kind ≤ s'.supply.count kind) → m.own h s s'

namespace Process

variable {α β : Type} {m : Terms} {post : List Told → Except Failure α → Session → Prop}
  {h : List Told} {s s' : Session}

/-- The process, begun when it was told `h` and the session was `s`, stays within its terms and ends as
said. -/
def Meets (m : Terms) (post : List Told → Except Failure α → Session → Prop) :
    List Told → Process α → Session → Prop
  | h, finish r, s => ∀ s', m.others s s' → post h r s'
  | h, ledger w next, s => ∀ s', m.others s s' →
    m.own h s' (s'.commit w).2 ∧ Meets m post h (next (s'.commit w).1) (s'.commit w).2
  | h, content ref next, s => ∀ s', m.others s s' → ∀ r, m.outside.contents s'.ledger ref r →
    Meets m post (h ++ [.content ref r]) (next r) s'
  | h, node chain q next, s => ∀ s', m.others s s' → ∀ r, m.outside.answers chain q r →
    Meets m post (h ++ [.node chain q r]) (next r) s'
  | h, acquire _ next, s => ∀ s', m.others s s' → ∀ free, Meets m post h (next free) s'
  | h, release _ next, s => ∀ s', m.others s s' → Meets m post h next s'

/-- What others do does not matter. -/
theorem Meets.later [IsTrans Session m.others] {p : Process α} (hp : p.Meets m post h s)
    (hs : m.others s s') : p.Meets m post h s' := by
  cases p with
  | finish r => exact fun s'' h' => hp s'' (trans_of m.others hs h')
  | ledger w next => exact fun s'' h' => hp s'' (trans_of m.others hs h')
  | content ref next => exact fun s'' h' => hp s'' (trans_of m.others hs h')
  | node chain q next => exact fun s'' h' => hp s'' (trans_of m.others hs h')
  | acquire chain next => exact fun s'' h' => hp s'' (trans_of m.others hs h')
  | release chain next => exact fun s'' h' => hp s'' (trans_of m.others hs h')

/-- Only the end has to be looked at. -/
theorem Meets.ends {post' : List Told → Except Failure α → Session → Prop} {p : Process α} (hp : p.Meets m post h s)
    (hi : ∀ h r s, (∀ s', m.others s s' → post h r s') → ∀ s', m.others s s' → post' h r s') :
    p.Meets m post' h s := by
  induction p generalizing h s with
  | finish r => exact hi h r s hp
  | ledger w next ih => exact fun s' hs => ⟨(hp s' hs).1, ih _ (hp s' hs).2⟩
  | content ref next ih => exact fun s' hs r hr => ih r (hp s' hs r hr)
  | node chain q next ih => exact fun s' hs r hr => ih r (hp s' hs r hr)
  | acquire chain next ih => exact fun s' hs free => ih free (hp s' hs free)
  | release chain next ih => exact fun s' hs => ih (hp s' hs)

theorem Meets.imp {post' : List Told → Except Failure α → Session → Prop} {p : Process α}
    (hp : p.Meets m post h s) (hi : ∀ h r s, post h r s → post' h r s) : p.Meets m post' h s :=
  hp.ends fun h r _ hr s' hs => hi h r s' (hr s' hs)

/-- Less may be expected of others, and more be allowed to the operation. -/
theorem Meets.mono {m' : Terms} {p : Process α} (hp : p.Meets m post h s) (ho : m'.outside = m.outside)
    (hothers : ∀ {s s'}, m'.others s s' → m.others s s') (hown : ∀ {h s s'}, m.own h s s' → m'.own h s s') :
    p.Meets m' post h s := by
  induction p generalizing h s with
  | finish r => exact fun s' hs => hp s' (hothers hs)
  | ledger w next ih =>
    exact fun s' hs => ⟨hown (hp s' (hothers hs)).1, ih _ (hp s' (hothers hs)).2⟩
  | content ref next ih => exact fun s' hs r hr => ih r (hp s' (hothers hs) r (ho ▸ hr))
  | node chain q next ih => exact fun s' hs r hr => ih r (hp s' (hothers hs) r (ho ▸ hr))
  | acquire chain next ih => exact fun s' hs free => ih free (hp s' (hothers hs) free)
  | release chain next ih => exact fun s' hs => ih (hp s' (hothers hs))

/-- What holds at the end goes on to hold. -/
theorem Meets.stays [IsTrans Session m.others] {p : Process α} (hp : p.Meets m post h s) :
    p.Meets m (fun h r s => ∀ s', m.others s s' → post h r s') h s :=
  hp.ends fun _ _ _ hr _ hs s'' hs' => hr s'' (trans_of m.others hs hs')

/-- One process goes on with the end of another. -/
theorem meets_andThen [Std.Refl m.others] {p : Process β} {k : Except Failure β → Process α}
    (hp : p.Meets m (fun h r s => (k r).Meets m post h s) h s) : (p.andThen k).Meets m post h s := by
  induction p generalizing h s with
  | finish r => exact hp s (refl_of m.others s)
  | ledger w next ih => exact fun s' hs => ⟨(hp s' hs).1, ih _ (hp s' hs).2⟩
  | content ref next ih => exact fun s' hs r hr => ih r (hp s' hs r hr)
  | node chain q next ih => exact fun s' hs r hr => ih r (hp s' hs r hr)
  | acquire chain next ih => exact fun s' hs free => ih free (hp s' hs free)
  | release chain next ih => exact fun s' hs => ih (hp s' hs)

theorem meets_bind [Std.Refl m.others] {p : Process β} {k : β → Process α}
    (hp : p.Meets m (fun h r s => match r with
      | .ok a => (k a).Meets m post h s
      | .error e => ∀ s', m.others s s' → post h (.error e) s') h s) :
    (p >>= k).Meets m post h s := by
  refine meets_andThen (hp.imp fun h r s hr => ?_)
  cases r with
  | ok a => exact hr
  | error e => exact hr

/-- One ledger transaction. It is enough to look at what it yields, and at what is left when it fails. -/
theorem meets_ledger {w : Work β} {next : Except Failure β → Process α}
    (hy : ∀ s₁ a s₂, m.others s s₁ → w.Yields s₁ a s₂ →
      m.own h s₁ s₂ ∧ (next (.ok a)).Meets m post h s₂)
    (he : ∀ s₁ e, m.others s s₁ → (w.result s₁).1 = .error e →
      m.own h s₁ (s₁.dropped (w.result s₁).2) ∧
      (next (.error e)).Meets m post h (s₁.dropped (w.result s₁).2)) :
    (ledger w next).Meets m post h s := by
  intro s₁ hs
  rcases Work.commit_cases s₁ w with ⟨a, s₂, hya, hc⟩ | ⟨e, hr, hc⟩
  · rw [hc]
    exact hy s₁ a s₂ hs hya
  · rw [hc]
    exact he s₁ e hs hr

/-- One ledger transaction that is sure to yield something. -/
theorem meets_sure {w : Work β} {next : Except Failure β → Process α}
    (hy : ∀ s₁, m.others s s₁ → ∃ a s₂, w.Yields s₁ a s₂ ∧ m.own h s₁ s₂ ∧
      (next (.ok a)).Meets m post h s₂) : (ledger w next).Meets m post h s := by
  intro s₁ hs
  obtain ⟨a, s₂, hya, hown, hnext⟩ := hy s₁ hs
  rw [Work.commit_of_yields hya]
  exact ⟨hown, hnext⟩

/-- What an operation was told stays known. -/
theorem Meets.heard {p : Process α} (hp : p.Meets m post h s) :
    p.Meets m (fun h' r s' => post h' r s' ∧ h ⊆ h') h s := by
  induction p generalizing h s with
  | finish r => exact fun s₁ hs => ⟨hp s₁ hs, fun _ ht => ht⟩
  | ledger w next ih => exact fun s₁ hs => ⟨(hp s₁ hs).1, ih _ (hp s₁ hs).2⟩
  | content ref next ih =>
    exact fun s₁ hs r hr => (ih r (hp s₁ hs r hr)).imp fun h' _ s₂ ⟨hr, hh⟩ =>
      ⟨hr, fun _ ht => hh (List.mem_append_left _ ht)⟩
  | node chain q next ih =>
    exact fun s₁ hs r hr => (ih r (hp s₁ hs r hr)).imp fun h' _ s₂ ⟨hr, hh⟩ =>
      ⟨hr, fun _ ht => hh (List.mem_append_left _ ht)⟩
  | acquire chain next ih => exact fun s₁ hs free => ih free (hp s₁ hs free)
  | release chain next ih => exact fun s₁ hs => ih (hp s₁ hs)

/-- What an operation was told stays known, and the session at its end is related to the one that it began with, if
whatever is done next to it and by it is. -/
theorem Meets.along {R : Session → Session → Prop} [IsPreorder Session R] {p : Process α}
    (hothers : ∀ {s s'}, m.others s s' → R s s') (hown : ∀ {h s s'}, m.own h s s' → R s s') (hp : p.Meets m post h s) :
    p.Meets m (fun h' r s' => post h' r s' ∧ h ⊆ h' ∧ R s s') h s := by
  induction p generalizing h s with
  | finish r => exact fun s₁ hs => ⟨hp s₁ hs, fun _ ht => ht, hothers hs⟩
  | ledger w next ih =>
    intro s₁ hs
    refine ⟨(hp s₁ hs).1, (ih _ (hp s₁ hs).2).imp fun h' r s₂ ⟨hr, hh, hs₂⟩ => ⟨hr, hh, ?_⟩⟩
    exact trans_of R (hothers hs) (trans_of R (hown (hp s₁ hs).1) hs₂)
  | content ref next ih =>
    exact fun s₁ hs r hr => (ih r (hp s₁ hs r hr)).imp fun h' _ s₂ ⟨hr, hh, hs₂⟩ =>
      ⟨hr, fun _ ht => hh (List.mem_append_left _ ht), trans_of R (hothers hs) hs₂⟩
  | node chain q next ih =>
    exact fun s₁ hs r hr => (ih r (hp s₁ hs r hr)).imp fun h' _ s₂ ⟨hr, hh, hs₂⟩ =>
      ⟨hr, fun _ ht => hh (List.mem_append_left _ ht), trans_of R (hothers hs) hs₂⟩
  | acquire chain next ih =>
    exact fun s₁ hs free => (ih free (hp s₁ hs free)).imp fun h' _ s₂ ⟨hr, hh, hs₂⟩ =>
      ⟨hr, hh, trans_of R (hothers hs) hs₂⟩
  | release chain next ih =>
    exact fun s₁ hs => (ih (hp s₁ hs)).imp fun h' _ s₂ ⟨hr, hh, hs₂⟩ =>
      ⟨hr, hh, trans_of R (hothers hs) hs₂⟩

/-- What an operation was told stays known, and the session at its end is a later one, if what it does itself is
what others expect. -/
theorem Meets.tracked [IsPreorder Session m.others] {p : Process α}
    (ho : ∀ {h s s'}, m.own h s s' → m.others s s') (hp : p.Meets m post h s) :
    p.Meets m (fun h' r s' => post h' r s' ∧ h ⊆ h' ∧ m.others s s') h s := hp.along id ho

/-- A step is within the terms, and what is left meets them. -/
theorem Meets.next [Std.Refl m.others] {p q : Process α} {held held' : List Chain} {told : List Told}
    (hp : p.Meets m post h s) (hn : p.Next m.outside s held s' held' q told) :
    q.Meets m post (h ++ told) s' ∧ (s' = s ∨ m.own (h ++ told) s s') := by
  have hs := refl_of m.others s
  cases hn with
  | ledger w next =>
    rw [List.append_nil]
    exact ⟨(hp s hs).2, .inr (hp s hs).1⟩
  | content hr => exact ⟨hp s hs _ hr, .inl rfl⟩
  | node hr => exact ⟨hp s hs _ hr, .inl rfl⟩
  | acquire chain next =>
    rw [List.append_nil]
    exact ⟨hp s hs _, .inl rfl⟩
  | release chain next =>
    rw [List.append_nil]
    exact ⟨hp s hs, .inl rfl⟩

/-! ## Where only the steps matter -/

/-- Nothing is asked of the end. -/
def anyEnd : List Told → Except Failure α → Session → Prop := fun _ _ _ => True

theorem meets_anyEnd_finish (r : Except Failure α) : (finish r).Meets m anyEnd h s := fun _ _ => trivial

/-- Nothing is asked of a failure. -/
def Lenient (post : List Told → Except Failure α → Session → Prop) : Prop := ∀ h e s, post h (.error e) s

theorem lenient_anyEnd : Lenient (@anyEnd α) := fun _ _ _ => trivial

/-! ## Where failures matter -/

end Process

/-- A node failed so, or the contents did. -/
inductive Told.Reports : Told → Failure → Prop
  | content {ref : String} {e : Failure} : Reports (.content ref (.error e)) e
  | node {chain : Chain} {q : Query} {e : Failure} : Reports (.node chain q (.error e)) e

/-- One of those that were asked failed so. -/
def Heard (h : List Told) (e : Failure) : Prop := ∃ x ∈ h, x.Reports e

namespace Process

variable {α β : Type} {m : Terms} {h : List Told} {s : Session} {fails : List Told → Failure → Prop}
  {ends : List Told → α → Session → Prop}

/-- What holds of the result of an operation, or of its failure, which the session has no part in. -/
def ending (fails : List Told → Failure → Prop) (ends : List Told → α → Session → Prop) :
    List Told → Except Failure α → Session → Prop
  | h, .ok a, s => ends h a s
  | h, .error e, _ => fails h e

theorem meets_bind_ending [Std.Refl m.others] {p : Process β} {k : β → Process α}
    (hp : p.Meets m (ending fails fun h a s => (k a).Meets m (ending fails ends) h s) h s) :
    (p >>= k).Meets m (ending fails ends) h s := by
  refine meets_bind (hp.imp fun h r s hr => ?_)
  cases r with
  | ok a => exact hr
  | error e => exact fun _ _ => hr

theorem meets_commit_ending {w : Work β} {k : β → Process α} (hi : m.Idles) (hw : w.Lasting)
    (hy : ∀ s₁ a s₂, m.others s s₁ → w.Yields s₁ a s₂ →
      m.own h s₁ s₂ ∧ (k a).Meets m (ending fails ends) h s₂)
    (he : ∀ s₁ e, m.others s s₁ → (w.result s₁).1 = .error e → fails h e) :
    (commit w >>= k).Meets m (ending fails ends) h s :=
  meets_ledger hy fun s₁ e hs hr => ⟨hi h s₁ _ rfl (hw s₁).supply, fun _ _ => he s₁ e hs hr⟩

theorem meets_commit_end_ending {w : Work α} (hi : m.Idles) (hw : w.Lasting)
    (hy : ∀ s₁ a s₂, m.others s s₁ → w.Yields s₁ a s₂ →
      m.own h s₁ s₂ ∧ ∀ s₃, m.others s₂ s₃ → ends h a s₃)
    (he : ∀ s₁ e, m.others s s₁ → (w.result s₁).1 = .error e → fails h e) :
    (commit w).Meets m (ending fails ends) h s :=
  meets_ledger hy fun s₁ e hs hr => ⟨hi h s₁ _ rfl (hw s₁).supply, fun _ _ => he s₁ e hs hr⟩

/-- Where nothing is asked of a failure, any reason will do. -/
theorem meets_of_lenient {post : List Told → Except Failure α → Session → Prop} {p : Process α} (hp : Lenient post)
    (h' : p.Meets m (ending (fun _ _ => True) fun h a s => post h (.ok a) s) h s) : p.Meets m post h s := by
  refine h'.imp fun h r s hr => ?_
  cases r with
  | ok a => exact hr
  | error e => exact hp h e s

end Process

/-! ## Operations next to each other -/

/-- The terms of all operations, which fit together. -/
structure Regime (o : Outside) where
  others : Session → Session → Prop
  own : Operation → List Told → Session → Session → Prop
  post : (op : Operation) → List Told → Except Failure op.Result → Session → Prop
  refl : ∀ s, others s s
  trans : ∀ {s s' s''}, others s s' → others s' s'' → others s s''
  expected : ∀ {op h s s'}, own op h s s' → others s s'

namespace Regime

variable {o : Outside} (m : Regime o)

/-- The terms of one operation. -/
def terms (op : Operation) : Terms := ⟨o, m.others, m.own op⟩

instance (op : Operation) : IsPreorder Session (m.terms op).others where
  refl := m.refl
  trans _ _ _ := m.trans

/-- What is left of every operation meets its terms. -/
def Kept (w : System) : Prop :=
  ∀ t ∈ w.tasks, t.rest.Meets (m.terms t.operation) (m.post t.operation) t.heard w.session

variable {m} {w w' : System} {k : Nat}

theorem kept_empty : m.Kept System.empty := fun _ ht => nomatch ht

theorem Kept.later (hw : m.Kept w) {s : Session} (hs : m.others w.session s) :
    m.Kept { w with session := s } :=
  fun t ht => (hw t ht).later hs

/-- A step of one operation is within its own terms, and all others go on as if nothing had happened. -/
theorem kept_advance (hw : m.Kept w) (h : w.Advance o k w') : m.Kept w' ∧
    (w'.session = w.session ∨
      ∃ t, w'.tasks[k]? = some t ∧ m.own t.operation t.heard w.session w'.session) := by
  obtain @⟨t, s, held, rest, told, ht, hn⟩ := h
  have hk := hw t (List.mem_of_getElem? ht)
  obtain ⟨hrest, hs⟩ := hk.next hn
  have hlt := (List.getElem?_eq_some_iff.1 ht).1
  constructor
  · intro u hu
    rcases List.mem_or_eq_of_mem_set hu with hu | rfl
    · refine (hw u hu).later ?_
      rcases hs with rfl | hs
      · exact m.refl _
      · exact m.expected hs
    · exact hrest
  · exact hs.imp_right fun hs => ⟨_, List.getElem?_set_self hlt, hs⟩

/-- The session after a step is one that the other operations expect. -/
theorem Kept.others_advance (hw : m.Kept w) (h : w.Advance o k w') : m.others w.session w'.session := by
  rcases (kept_advance hw h).2 with hs | ⟨t, -, hs⟩
  · rw [hs]
    exact m.refl _
  · exact m.expected hs

/-- Callers change the session within the terms of all operations too. -/
structure Callers (m : Regime o) : Prop where
  faults : ∀ s f, m.others s { s with faults := f }
  addUser : ∀ s a, m.others s (s.addUser a).2
  addContent : ∀ s ref, m.others s (s.addContent ref).2
  seed : ∀ s chain hash d, d.state = .pending → m.others s (s.commit (Work.seedPayment chain hash d)).2
  create : ∀ s d, d.Expectable s.ledger → m.others s (s.commit (Work.createTransaction d)).2

theorem Callers.imp {m' : Regime o} (hc : m.Callers) (hi : ∀ s s', m.others s s' → m'.others s s') :
    m'.Callers where
  faults s f := hi _ _ (hc.faults s f)
  addUser s a := hi _ _ (hc.addUser s a)
  addContent s ref := hi _ _ (hc.addContent s ref)
  seed s chain hash d hd := hi _ _ (hc.seed s chain hash d hd)
  create s d hd := hi _ _ (hc.create s d hd)

/-- Callers only make sessions later. -/
theorem callers_of_later (hi : ∀ s s', s.Later s' → m.others s s') : m.Callers where
  faults s f := hi _ _ (s.later_faults f)
  addUser s a := hi _ _ (s.later_addUser a)
  addContent s ref := hi _ _ (s.later_addContent ref)
  seed s chain hash d _ := hi _ _ ((Work.lasting_seedPayment chain hash d).commit s)
  create s d _ := hi _ _ ((Work.lasting_createTransaction d).commit s)

theorem kept_step (hc : m.Callers) (hs : ∀ op, o.starts op →
    (op.process o.registry).Meets (m.terms op) (m.post op) [] w.session)
    (hw : m.Kept w) (h : w.Step o w') : m.Kept w' ∧ m.others w.session w'.session := by
  cases h with
  | advance h => exact ⟨(kept_advance hw h).1, hw.others_advance h⟩
  | start h =>
    refine ⟨fun t ht => ?_, m.refl _⟩
    rcases List.mem_append.1 ht with ht | ht
    · exact hw t ht
    · rw [List.mem_singleton.1 ht]
      exact hs _ h
  | faults f => exact ⟨hw.later (hc.faults _ f), hc.faults _ f⟩
  | addUser a => exact ⟨hw.later (hc.addUser _ a), hc.addUser _ a⟩
  | addContent ref => exact ⟨hw.later (hc.addContent _ ref), hc.addContent _ ref⟩
  | seed chain hash d hd => exact ⟨hw.later (hc.seed _ _ _ _ hd), hc.seed _ _ _ _ hd⟩
  | create d hd => exact ⟨hw.later (hc.create _ _ hd), hc.create _ _ hd⟩

/-- Callers may store payments however they are drafted. -/
structure Hosts (m : Regime o) : Prop extends Callers m where
  seedAny : ∀ s chain hash d, m.others s (s.commit (Work.seedPayment chain hash d)).2
  createAny : ∀ s d, m.others s (s.commit (Work.createTransaction d)).2

theorem kept_happens (hc : m.Hosts) (hs : ∀ op, o.starts op →
    (op.process o.registry).Meets (m.terms op) (m.post op) [] w.session)
    (hw : m.Kept w) (h : w.Happens o w') : m.Kept w' ∧ m.others w.session w'.session := by
  cases h with
  | step h => exact kept_step hc.toCallers hs hw h
  | seed chain hash d => exact ⟨hw.later (hc.seedAny _ _ _ _), hc.seedAny _ _ _ _⟩
  | create d => exact ⟨hw.later (hc.createAny _ _), hc.createAny _ _⟩

/-- What every step keeps is kept by all of them together, and the session is always one that was to be expected. -/
theorem kept_of_steps {step : System → System → Prop} (inv : Session → Prop)
    (hi : ∀ {s s'}, inv s → m.others s s' → inv s')
    (hs : ∀ {w w'}, inv w.session → m.Kept w → step w w' → m.Kept w' ∧ m.others w.session w'.session)
    (hw : m.Kept w) (hv : inv w.session) (h : Relation.ReflTransGen step w w') :
    m.Kept w' ∧ m.others w.session w'.session := by
  induction h with
  | refl => exact ⟨hw, m.refl _⟩
  | tail _ hstep ih =>
    obtain ⟨hk, ho⟩ := hs (hi hv ih.2) ih.1 hstep
    exact ⟨hk, m.trans ih.2 ho⟩

/-- Whatever happens, in any order, all operations keep to their terms. -/
theorem kept_reaches (inv : Session → Prop) (hc : m.Callers) (hi : ∀ {s s'}, inv s → m.others s s' → inv s')
    (hs : ∀ op s, o.starts op → inv s → (op.process o.registry).Meets (m.terms op) (m.post op) [] s)
    (hw : m.Kept w) (hv : inv w.session) (h : w.Reaches o w') :
    m.Kept w' ∧ m.others w.session w'.session :=
  kept_of_steps inv hi (fun hv hk h => kept_step hc (fun op ho => hs op _ ho hv) hk h) hw hv h

theorem kept_happened (inv : Session → Prop) (hc : m.Hosts) (hi : ∀ {s s'}, inv s → m.others s s' → inv s')
    (hs : ∀ op s, o.starts op → inv s → (op.process o.registry).Meets (m.terms op) (m.post op) [] s)
    (hw : m.Kept w) (hv : inv w.session) (h : Relation.ReflTransGen (System.Happens o) w w') :
    m.Kept w' ∧ m.others w.session w'.session :=
  kept_of_steps inv hi (fun hv hk h => kept_happens hc (fun op ho => hs op _ ho hv) hk h) hw hv h

end Regime

end DonationLedger
