import DonationLedger.Proofs.Work.Lasting
import DonationLedger.Proofs.Work.Mirrored

/-!
# Runs that are cut short

A process that nobody else disturbs may still go wrong: writes fail, nodes fail or know a receipt too late, or it is
dropped between two requests (`Process.Goes`, `Outside.flaky`). Where a process gives up as soon as something goes
wrong (`Process.Mirrored`), it only ever leaves rows behind that it passes when all goes well (`Process.Along`).
-/

namespace DonationLedger

/-- A node fails, or does not have the receipt yet. -/
inductive Query.Withheld : (q : Query) → Except Failure q.Answer → Prop
  | failure (q : Query) (e : Failure) : Withheld q (.error e)
  | receipt (hash : Hash) : Withheld (.receipt hash) (.ok (none : Option Receipt))

/-- Nodes answer the same whenever they are asked, unless something goes wrong. -/
def Outside.flaky (r : Registry) (reader : Reader) : Outside where
  registry := r
  starts _ := False
  contents l ref answer := answer = .ok (l.content? ref) ∨ ∃ e, answer = .error e
  answers chain q answer := answer = reader chain q ∨ q.Withheld answer

namespace Process

variable {α β γ : Type}

/-- Requests of a process are answered one after another, and meanwhile faults come and go. Last are the session,
the chains that are held then, and what is left of the process. -/
inductive Goes (o : Outside) (s : Session) (held : List Chain) (p : Process α) :
    Session → List Chain → Process α → Prop
  | start : Goes o s held p s held p
  | next {s' s'' : Session} {held' held'' : List Chain} {p' p'' : Process α} {told : List Told}
    (h : Goes o s held p s' held' p') (hn : p'.Next o s' held' s'' held'' p'' told) : Goes o s held p s'' held'' p''
  | faults {s' : Session} {held' : List Chain} {p' : Process α} (h : Goes o s held p s' held' p') (f : Faults) :
    Goes o s held p { s' with faults := f } held' p'

/-- The process has no result: it failed, or has still to make requests. -/
def Unfinished : Process α → Prop
  | finish (.ok _) => False
  | release _ next => next.Unfinished
  | _ => True

/-- Nothing is left to do but to fail. -/
def Fails : Process α → Prop
  | finish (.error _) => True
  | release _ next => next.Fails
  | _ => False

/-- The process waits for no chain. -/
def Lockless : Process α → Prop
  | finish _ => True
  | ledger _ next => ∀ r, (next r).Lockless
  | content _ next => ∀ r, (next r).Lockless
  | node _ _ next => ∀ r, (next r).Lockless
  | acquire _ _ => False
  | release _ next => next.Lockless

/-- All ledger transactions of the process keep what was stored. -/
def Lasting : Process α → Prop
  | finish _ => True
  | ledger w next => w.Lasting ∧ ∀ r, (next r).Lasting
  | content _ next => ∀ r, (next r).Lasting
  | node _ _ next => ∀ r, (next r).Lasting
  | acquire _ next => ∀ r, (next r).Lasting
  | release _ next => next.Lasting

/-- Where the first process gets all its answers, the second goes the same way with rows that go by other ids. Both
fail as soon as something goes wrong. -/
inductive Mirrored (σ : Renaming) (f : α → β) : Process α → Process β → Prop
  | finish (a : α) : Mirrored σ f (finish (.ok a)) (finish (.ok (f a)))
  | ledger {γ δ : Type} {g : γ → δ} {w : Work γ} {w' : Work δ} {next : Except Failure γ → Process α}
    {next' : Except Failure δ → Process β} (hw : Work.Mirrored σ g w w') (hl : Work.Lasting w)
    (hk : ∀ c, Mirrored σ f (next (.ok c)) (next' (.ok (g c)))) (he : ∀ e, (next (.error e)).Fails) :
    Mirrored σ f (ledger w next) (ledger w' next')
  | content {ref : String} {next : Except Failure (Option Id) → Process α}
    {next' : Except Failure (Option Id) → Process β} (hk : ∀ i, Mirrored σ f (next (.ok i)) (next' (.ok i)))
    (he : ∀ e, (next (.error e)).Fails) : Mirrored σ f (content ref next) (content ref next')
  | node {chain : Chain} {q : Query} {next : Except Failure q.Answer → Process α}
    {next' : Except Failure q.Answer → Process β} (hk : ∀ a, Mirrored σ f (next (.ok a)) (next' (.ok a)))
    (he : ∀ r, q.Withheld r → (next r).Fails) : Mirrored σ f (node chain q next) (node chain q next')
  | release {chain : Chain} {next : Process α} {next' : Process β} (h : Mirrored σ f next next') :
    Mirrored σ f (release chain next) (release chain next')
  | fails {p : Process α} {p' : Process β} (h : p.Fails) (h' : p'.Fails) : Mirrored σ f p p'

theorem fails_andThen {p : Process α} {k : Except Failure α → Process β} (h : p.Fails)
    (hk : ∀ e, (k (.error e)).Fails) : (p.andThen k).Fails := by
  induction p with
  | finish r =>
    cases r with
    | ok a => exact h.elim
    | error e => exact hk e
  | release chain next ih => exact ih h
  | _ => exact h.elim

theorem Fails.alone {p : Process α} (h : p.Fails) (reader : Reader) (s : Session) :
    ∃ e, p.alone reader s = (.error e, s) := by
  induction p with
  | finish r =>
    cases r with
    | ok a => exact h.elim
    | error e => exact ⟨e, rfl⟩
  | release chain next ih => exact ih h
  | _ => exact h.elim

theorem Fails.lockless {p : Process α} (h : p.Fails) : p.Lockless := by
  induction p with
  | finish r => exact trivial
  | release chain next ih => exact ih h
  | _ => exact h.elim

theorem Fails.lasting {p : Process α} (h : p.Fails) : p.Lasting := by
  induction p with
  | finish r => exact trivial
  | release chain next ih => exact ih h
  | _ => exact h.elim

namespace Mirrored

variable {σ : Renaming} {f : α → β} {p : Process α} {p' : Process β} {reader : Reader} {s s' : Session}

theorem andThen {δ : Type} {g : γ → δ} {k : Except Failure α → Process γ} {k' : Except Failure β → Process δ}
    (hp : Mirrored σ f p p') (hk : ∀ a, Mirrored σ g (k (.ok a)) (k' (.ok (f a))))
    (he : ∀ e, (k (.error e)).Fails) (he' : ∀ e, (k' (.error e)).Fails) :
    Mirrored σ g (p.andThen k) (p'.andThen k') := by
  induction hp with
  | finish a => exact hk a
  | ledger hw hl _ hf ih => exact .ledger hw hl ih fun e => fails_andThen (hf e) he
  | content _ hf ih => exact .content ih fun e => fails_andThen (hf e) he
  | node _ hf ih => exact .node ih fun r hr => fails_andThen (hf r hr) he
  | release _ ih => exact .release ih
  | fails h h' => exact .fails (fails_andThen h he) (fails_andThen h' he')

theorem bind {δ : Type} {g : γ → δ} {k : α → Process γ} {k' : β → Process δ} (hp : Mirrored σ f p p')
    (hk : ∀ a, Mirrored σ g (k a) (k' (f a))) : Mirrored σ g (p >>= k) (p' >>= k') :=
  hp.andThen hk (fun _ => trivial) fun _ => trivial

theorem commit {w : Work α} {w' : Work β} (hw : Work.Mirrored σ f w w') (hl : Work.Lasting w) :
    Mirrored σ f (Process.commit w) (Process.commit w') := .ledger hw hl .finish fun _ => trivial

/-- The second process comes to the renamed end. -/
theorem alone (hp : Mirrored σ f p p') {a : α} (hs : σ.covers s.supply) (ha : p.alone reader s = (.ok a, s')) :
    p'.alone reader (σ.session s) = (.ok (f a), σ.session s') := by
  induction hp generalizing s with
  | finish b =>
    cases ha
    rfl
  | @ledger _ _ _ w w' _ _ hw _ _ he ih =>
    rcases Work.commit_cases s w with ⟨c, s₁, hy, hc⟩ | ⟨e, -, hc⟩
    · obtain ⟨hs₁, hy'⟩ := hw hs hy
      simp only [Process.alone, hc] at ha
      simp only [Process.alone, Work.commit_of_yields hy']
      exact ih c hs₁ ha
    · simp only [Process.alone, hc] at ha
      obtain ⟨e', he'⟩ := (he e).alone reader (s.dropped (w.result s).2)
      rw [he'] at ha
      cases ha
  | content _ _ ih => exact ih _ hs ha
  | @node chain q _ _ _ he ih =>
    simp only [Process.alone] at ha ⊢
    rcases hr : reader chain q with e | b
    · rw [hr] at ha
      obtain ⟨e', he'⟩ := (he _ (.failure q e)).alone reader s
      rw [he'] at ha
      cases ha
    · rw [hr] at ha
      exact ih b hs ha
  | release _ ih => exact ih hs ha
  | fails h _ =>
    obtain ⟨e, he⟩ := h.alone reader s
    rw [he] at ha
    cases ha

/-- A process that has still to come to its result makes a request first. -/
theorem passes_self (hp : Mirrored σ f p p') (hu : p.Unfinished) {b : β} {x x' : Session}
    (ha : p'.alone reader x = (.ok b, x')) : p'.Passes reader x x := by
  induction hp with
  | finish a => exact hu.elim
  | ledger => exact .inl rfl
  | content => exact .inl rfl
  | node => exact .inl rfl
  | release _ ih => exact ih hu ha
  | fails _ h' =>
    obtain ⟨e, he⟩ := h'.alone reader x
    rw [he] at ha
    cases ha

end Mirrored

theorem Mirrored.lockless {σ : Renaming} {f : α → β} {p : Process α} {p' : Process β} (hp : Mirrored σ f p p') :
    p.Lockless := by
  induction hp with
  | finish => exact trivial
  | ledger _ _ _ he ih =>
    rintro (e | c)
    · exact (he e).lockless
    · exact ih c
  | content _ he ih =>
    rintro (e | i)
    · exact (he e).lockless
    · exact ih i
  | @node _ q _ _ _ he ih =>
    rintro (e | a)
    · exact (he _ (.failure q e)).lockless
    · exact ih a
  | release _ ih => exact ih
  | fails h _ => exact h.lockless

theorem Mirrored.lasting {σ : Renaming} {f : α → β} {p : Process α} {p' : Process β} (hp : Mirrored σ f p p') :
    p.Lasting := by
  induction hp with
  | finish => exact trivial
  | ledger _ hl _ he ih =>
    refine ⟨hl, ?_⟩
    rintro (e | c)
    · exact (he e).lasting
    · exact ih c
  | content _ he ih =>
    rintro (e | i)
    · exact (he e).lasting
    · exact ih i
  | @node _ q _ _ _ he ih =>
    rintro (e | a)
    · exact (he _ (.failure q e)).lasting
    · exact ih a
  | release _ ih => exact ih
  | fails h _ => exact h.lasting

/-- However the requests are answered, nothing that was stored is lost. -/
theorem Goes.later {o : Outside} {p q : Process α} {s s' : Session} {held held' : List Chain}
    (h : p.Goes o s held s' held' q) (hp : p.Lasting) : s.Later s' ∧ q.Lasting := by
  induction h with
  | start => exact ⟨.refl s, hp⟩
  | next _ hn ih =>
    obtain ⟨hs, hl⟩ := ih
    cases hn with
    | ledger => exact ⟨hs.trans (hl.1.commit _), hl.2 _⟩
    | content => exact ⟨hs, hl _⟩
    | node => exact ⟨hs, hl _⟩
    | acquire => exact ⟨hs, hl _⟩
    | release => exact ⟨hs, hl⟩
  | faults _ f ih => exact ⟨ih.1.trans (Session.later_faults _ f), ih.2⟩

/-- Where contents are what is on file and nodes answer the same whenever they are asked, the process comes to its
end. -/
theorem Goes.alone {o : Outside} {p₀ p : Process α} {s₀ s : Session} {held₀ held : List Chain}
    (h : p₀.Goes o s₀ held₀ s held p) (reader : Reader) (ho : ∀ l ref, o.contents l ref (.ok (l.content? ref)))
    (ho' : ∀ chain q, o.answers chain q (reader chain q)) (hp : p.Lockless) :
    ∃ held', p₀.Goes o s₀ held₀ (p.alone reader s).2 held' (finish (p.alone reader s).1) := by
  induction p generalizing s held with
  | finish r => exact ⟨held, h⟩
  | ledger w next ih => exact ih _ (h.next (.ledger w next s held)) (hp _)
  | content ref next ih => exact ih _ (h.next (.content (ho s.ledger ref))) (hp _)
  | node chain q next ih => exact ih _ (h.next (.node (ho' chain q))) (hp _)
  | acquire chain next => exact hp.elim
  | release chain next ih => exact ih (h.next (.release chain next s held)) hp

/-- Where a run may be of which something may have gone wrong: on the course of `p` that begins with `x`, or else about
to fail, with the rows of a session of that course. -/
inductive Along (reader : Reader) (σ : Renaming) (f : α → β) (p : Process β) (x : Session) :
    Process α → Session → Prop
  | course {q : Process α} {q' : Process β} {s : Session} (hq : Mirrored σ f q q') (hs : σ.covers s.supply)
    (ha : q'.alone reader (σ.session s) = p.alone reader x)
    (hp : ∀ y, q'.Passes reader (σ.session s) y → p.Passes reader x y) : Along reader σ f p x q s
  | failed {q : Process α} {s y : Session} (hq : q.Fails) (hl : s.ledger = y.ledger)
    (hs : ∀ kind, y.supply.count kind ≤ s.supply.count kind) (hp : p.Passes reader x (σ.session y)) :
    Along reader σ f p x q s

section
variable {reader : Reader} {σ : Renaming} {f : α → β} {p : Process β} {x s s' : Session} {q q' : Process α}
  {r : Registry} {held held' : List Chain}

theorem Along.faults (h : Along reader σ f p x q s) (a : Faults) : Along reader σ f p x q { s with faults := a } := by
  cases h with
  | course hq hs ha hp => exact .course hq hs ha hp
  | failed hq hl hs hp => exact .failed hq hl hs hp

/-- Nothing but giving chains free is left. -/
theorem Fails.next {o : Outside} {told : List Told} (h : q.Fails) (hn : q.Next o s held s' held' q' told) :
    q'.Fails ∧ s' = s := by
  cases hn with
  | release => exact ⟨h, rfl⟩
  | _ => exact h.elim

theorem Along.next {told : List Told} (h : Along reader σ f p x q s)
    (hn : q.Next (.flaky r reader) s held s' held' q' told) : Along reader σ f p x q' s' := by
  cases h with
  | failed hq hl hs hp =>
    obtain ⟨hq', rfl⟩ := hq.next hn
    exact .failed hq' hl hs hp
  | course hq hs ha hp =>
    cases hq with
    | finish => exact nomatch hn
    | fails h h' =>
      obtain ⟨hq', rfl⟩ := h.next hn
      exact .course (.fails hq' h') hs ha hp
    | release h =>
      cases hn
      exact .course h hs ha hp
    | @ledger _ _ _ w w' _ _ hw hl hk he =>
      cases hn
      rcases Work.commit_cases s w with ⟨c, s₁, hy, hc⟩ | ⟨e, -, hc⟩
      · obtain ⟨hs₁, hy'⟩ := hw hs hy
        have hc' := Work.commit_of_yields hy'
        rw [hc]
        simp only [alone, Passes, hc'] at ha hp
        exact .course (hk c) hs₁ ha fun y hy => hp y (.inr hy)
      · rw [hc]
        exact .failed (y := s) (he e) rfl (hl s).supply (hp _ (.inl rfl))
    | content hk he =>
      cases hn with
      | content h =>
        rcases h with rfl | ⟨e, rfl⟩
        · exact .course (hk _) hs ha fun y hy => hp y (.inr hy)
        · exact .failed (he e) rfl (fun _ => Nat.le_refl _) (hp _ (.inl rfl))
    | @node chain q _ _ hk he =>
      cases hn with
      | @node _ _ _ _ _ answer h =>
        have hfail (hw : q.Withheld answer) : Along reader σ f p x _ s :=
          .failed (he answer hw) rfl (fun _ => Nat.le_refl _) (hp _ (.inl rfl))
        rcases h with rfl | hw
        · rcases hr : reader chain q with e | a
          · exact hr ▸ hfail (hr ▸ .failure q e)
          · simp only [alone, Passes, hr] at ha hp
            exact .course (hk a) hs ha fun y hy => hp y (.inr hy)
        · exact hfail hw

theorem along_goes (hq : Mirrored σ f q p) (hs : σ.covers s.supply)
    (h : q.Goes (.flaky r reader) s held s' held' q') : Along reader σ f p (σ.session s) q' s' := by
  induction h with
  | start => exact .course hq hs rfl fun _ => id
  | next _ hn ih => exact ih.next hn
  | faults _ a ih => exact ih.faults a

end

/-- A process that failed, for whatever went wrong, leaves the rows of a session where it may be cut short. -/
theorem Goes.halts {f : α → α} {p : Process α} {e : Failure} {r : Registry} {reader : Reader} {s s' : Session}
    {held held' : List Chain} (hp : Mirrored .keep f p p)
    (h : p.Goes (.flaky r reader) s held s' held' (finish (.error e))) :
    ∃ x, p.Halts reader s.calm x ∧ s'.ledger = x.ledger := by
  have ha := along_goes hp trivial h
  rw [Renaming.session_keep] at ha
  cases ha with
  | course hq _ ha _ =>
    rw [Renaming.session_keep] at ha
    cases hq with
    | fails _ h' =>
      obtain ⟨e', he⟩ := h'.alone reader s'.calm
      exact ⟨s'.calm, .inr ⟨e', ha.symm.trans he⟩, rfl⟩
  | @failed _ y _ hl _ hy =>
    rw [Renaming.session_keep] at hy
    exact ⟨y.calm, .inl hy, hl⟩

/-- What waits for a chain that is free gets it first. -/
theorem Goes.of_acquire {o : Outside} {chain : Chain} {next : Bool → Process α} {s s' : Session}
    {held held' : List Chain} {q : Process α} (h : (acquire chain next).Goes o s held s' held' q)
    (hf : chain ∉ held) : (q = acquire chain next ∧ held' = held ∧ s'.calm = s.calm) ∨
      ∃ s₀ : Session, s₀.calm = s.calm ∧ (next true).Goes o s₀ (chain :: held) s' held' q := by
  induction h with
  | start => exact .inl ⟨rfl, rfl, rfl⟩
  | @next s₁ _ _ _ _ _ _ _ hn ih =>
    rcases ih with ⟨rfl, rfl, hs⟩ | ⟨s₀, hs, hg⟩
    · cases hn
      refine .inr ⟨s₁, hs, ?_⟩
      rw [if_neg hf, decide_eq_true hf]
      exact .start
    · exact .inr ⟨s₀, hs, hg.next hn⟩
  | faults _ f ih =>
    rcases ih with ⟨hq, hh, hs⟩ | ⟨s₀, hs, hg⟩
    · exact .inl ⟨hq, hh, hs⟩
    · exact .inr ⟨s₀, hs, hg.faults f⟩

/-- What waits for a chain that is taken is told so, and if that is its end it is all that happens. -/
theorem Goes.of_taken {o : Outside} {chain : Chain} {next : Bool → Process α} {x : Except Failure α} {s s' : Session}
    {held held' : List Chain} {q : Process α} (h : (acquire chain next).Goes o s held s' held' q)
    (hc : chain ∈ held) (hx : next false = finish x) :
    (q = acquire chain next ∨ q = finish x) ∧ held' = held ∧ s'.calm = s.calm := by
  induction h with
  | start => exact ⟨.inl rfl, rfl, rfl⟩
  | next _ hn ih =>
    obtain ⟨rfl | rfl, rfl, hs⟩ := ih
    · cases hn
      rw [if_pos hc, decide_eq_false (not_not_intro hc)]
      exact ⟨.inr hx, rfl, hs⟩
    · cases hn
  | faults _ f ih => exact ih

end Process

/-- A task that is the only one goes on as its process goes. -/
theorem Process.Goes.reaches (op : Operation) {o : Outside} {s s' : Session} {held held' : List Chain}
    {p q : Process op.Result} (h : p.Goes o s held s' held' q) (heard : List Told) :
    ∃ heard', (⟨s, held, [⟨op, p, heard⟩]⟩ : System).Reaches o ⟨s', held', [⟨op, q, heard'⟩]⟩ := by
  induction h with
  | start => exact ⟨heard, .refl⟩
  | @next _ _ _ _ q _ told _ hn ih =>
    obtain ⟨heard', hr⟩ := ih
    exact ⟨heard' ++ told, hr.tail (.advance (k := 0) (.mk (t := ⟨op, q, heard'⟩) rfl hn))⟩
  | faults _ f ih =>
    obtain ⟨heard', hr⟩ := ih
    exact ⟨heard', hr.tail (.faults f)⟩

end DonationLedger
