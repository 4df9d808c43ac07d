import DonationLedger.Proofs.System.Run
import DonationLedger.Proofs.Work.Yields

/-!
# Processes that run alone

Where nobody else is about, a process ends in one way: contents are what is on file, a node answers the same
whenever it is asked, and chains are free (`Process.alone`). Which questions it asks on the way and which
sessions it leaves behind when it is stopped at a request are told by `Process.asked` and `Process.Passes`.
Several tasks that are answered so may take turns (`System.turns`).
-/

namespace DonationLedger

/-- What the nodes answer, if it is the same whenever they are asked. -/
abbrev Reader := (chain : Chain) → (q : Query) → Except Failure q.Answer

/-- The session where nothing goes wrong any more. -/
def Session.calm (s : Session) : Session := { s with faults := .none }

theorem Session.calm_of_faults {s : Session} (h : s.faults = .none) : s.calm = s := by
  unfold calm
  rw [← h]

namespace Process

variable {α β : Type} (reader : Reader)

/-- How the process ends, and the session then. -/
def alone : Process α → Session → Except Failure α × Session
  | finish r, s => (r, s)
  | ledger w next, s => (next (s.commit w).1).alone (s.commit w).2
  | content ref next, s => (next (.ok (s.ledger.content? ref))).alone s
  | node chain q next, s => (next (reader chain q)).alone s
  | acquire _ next, s => (next true).alone s
  | release _ next, s => next.alone s

/-- What the process asks the nodes. -/
def asked : Process α → Session → List (Chain × Query)
  | finish _, _ => []
  | ledger w next, s => (next (s.commit w).1).asked (s.commit w).2
  | content ref next, s => (next (.ok (s.ledger.content? ref))).asked s
  | node chain q next, s => (chain, q) :: (next (reader chain q)).asked s
  | acquire _ next, s => (next true).asked s
  | release _ next, s => next.asked s

/-- The session is `x` when the process makes one of its requests. -/
def Passes : Process α → Session → Session → Prop
  | finish _, _, _ => False
  | ledger w next, s, x => x = s ∨ (next (s.commit w).1).Passes (s.commit w).2 x
  | content ref next, s, x => x = s ∨ (next (.ok (s.ledger.content? ref))).Passes s x
  | node chain q next, s, x => x = s ∨ (next (reader chain q)).Passes s x
  | acquire _ next, s, x => (next true).Passes s x
  | release _ next, s, x => next.Passes s x

/-- The process may be cut short where the session is `x`: when it makes one of its requests, or at its end, where it
fails. -/
def Halts (p : Process α) (s x : Session) : Prop := p.Passes reader s x ∨ ∃ e, p.alone reader s = (.error e, x)

theorem alone_andThen (p : Process α) (k : Except Failure α → Process β) (s : Session) :
    (p.andThen k).alone reader s = (k (p.alone reader s).1).alone reader (p.alone reader s).2 := by
  induction p generalizing s with
  | finish r => rfl
  | ledger w next ih => exact ih _ _
  | content ref next ih => exact ih _ _
  | node chain q next ih => exact ih _ _
  | acquire chain next ih => exact ih _ _
  | release chain next ih => exact ih _

theorem asked_andThen (p : Process α) (k : Except Failure α → Process β) (s : Session) :
    (p.andThen k).asked reader s =
      p.asked reader s ++ (k (p.alone reader s).1).asked reader (p.alone reader s).2 := by
  induction p generalizing s with
  | finish r => rfl
  | ledger w next ih => exact ih _ _
  | content ref next ih => exact ih _ _
  | node chain q next ih => exact congrArg _ (ih _ _)
  | acquire chain next ih => exact ih _ _
  | release chain next ih => exact ih _

theorem passes_andThen (p : Process α) (k : Except Failure α → Process β) (s x : Session) :
    (p.andThen k).Passes reader s x ↔ p.Passes reader s x ∨
      (k (p.alone reader s).1).Passes reader (p.alone reader s).2 x := by
  induction p generalizing s with
  | finish r => exact (false_or _).symm.to_iff
  | ledger w next ih => exact (or_congr_right (ih _ _)).trans or_assoc.symm
  | content ref next ih => exact (or_congr_right (ih _ _)).trans or_assoc.symm
  | node chain q next ih => exact (or_congr_right (ih _ _)).trans or_assoc.symm
  | acquire chain next ih => exact ih _ _
  | release chain next ih => exact ih _

variable {reader} {s s' x : Session}

/-! ## One process after another -/

theorem alone_bind {p : Process α} {k : α → Process β} {a : α} (h : p.alone reader s = (.ok a, s')) :
    (p >>= k).alone reader s = (k a).alone reader s' := by
  show (p.andThen _).alone reader s = _
  rw [alone_andThen, h]

theorem alone_bind_error {p : Process α} {k : α → Process β} {e : Failure} (h : p.alone reader s = (.error e, s')) :
    (p >>= k).alone reader s = (.error e, s') := by
  show (p.andThen _).alone reader s = _
  rw [alone_andThen, h]
  rfl

theorem asked_bind {p : Process α} {k : α → Process β} {a : α} (h : p.alone reader s = (.ok a, s')) :
    (p >>= k).asked reader s = p.asked reader s ++ (k a).asked reader s' := by
  show (p.andThen _).asked reader s = _
  rw [asked_andThen, h]

theorem passes_bind {p : Process α} {k : α → Process β} {a : α} (h : p.alone reader s = (.ok a, s')) :
    (p >>= k).Passes reader s x ↔ p.Passes reader s x ∨ (k a).Passes reader s' x := by
  show (p.andThen _).Passes reader s x ↔ _
  rw [passes_andThen, h]

/-- Where the second does not fail, the first did not. -/
theorem alone_bind_ok {p : Process α} {k : α → Process β} {b : β}
    (h : (p >>= k).alone reader s = (.ok b, s')) :
    ∃ a s₁, p.alone reader s = (.ok a, s₁) ∧ (k a).alone reader s₁ = (.ok b, s') := by
  have he : (p >>= k).alone reader s = _ := alone_andThen reader p _ s
  rw [he] at h
  rcases hp : p.alone reader s with ⟨_ | a, s₁⟩
  · rw [hp] at h
    cases h
  · rw [hp] at h
    exact ⟨a, s₁, rfl, h⟩

theorem alone_commit {w : Work α} {a : α} (h : w.Yields s a s') :
    (commit w).alone reader s = (.ok a, s') := Work.commit_of_yields h

theorem alone_commit_error {w : Work α} {e : Failure} (h : w.result s = (.error e, s')) :
    (commit w).alone reader s = (.error e, s.dropped s') := Work.commit_of_error h

theorem alone_commit_ok {w : Work α} {a : α} (h : (commit w).alone reader s = (.ok a, s')) : w.Yields s a s' := by
  have h : s.commit w = (.ok a, s') := h
  rcases Work.commit_cases s w with ⟨b, s₁, hy, hc⟩ | ⟨e, -, hc⟩
  · rw [hc] at h
    cases h
    exact hy
  · rw [hc] at h
    cases h

/-! ## Cut short -/

/-- What is cut short is cut short in the first part, or after it. -/
theorem halts_bind {p : Process α} {k : α → Process β} (h : (p >>= k).Halts reader s x) :
    p.Halts reader s x ∨ ∃ a s₁, p.alone reader s = (.ok a, s₁) ∧ (k a).Halts reader s₁ x := by
  rcases hp : p.alone reader s with ⟨e | a, s₁⟩
  · refine .inl ?_
    have he : (p >>= k).alone reader s = (.error e, s₁) := alone_bind_error hp
    rcases h with h | ⟨e', h⟩
    · have hb : (p >>= k).Passes reader s x ↔ _ := passes_andThen reader p _ s x
      rw [hb, hp] at h
      exact .inl (h.elim id False.elim)
    · cases he.symm.trans h
      exact .inr ⟨e, hp⟩
  · rcases h with h | ⟨e, h⟩
    · exact ((passes_bind hp).1 h).imp .inl fun h => ⟨a, s₁, rfl, .inl h⟩
    · exact .inr ⟨a, s₁, rfl, .inr ⟨e, (alone_bind hp).symm.trans h⟩⟩

/-- A ledger transaction that does not come to its end changes no row. -/
theorem halts_commit {w : Work α} (h : (commit w).Halts reader s x) : x.ledger = s.ledger := by
  rcases h with h | ⟨e, h⟩
  · rw [h.elim id False.elim]
  · have h : s.commit w = (.error e, x) := h
    rcases Work.commit_cases s w with ⟨a, s₁, -, hc⟩ | ⟨e', -, hc⟩
    · cases hc.symm.trans h
    · cases hc.symm.trans h
      rfl

theorem halts_fail {e : Failure} (h : (finish (.error e) : Process α).Halts reader s x) : x = s := by
  rcases h with h | ⟨e', h⟩
  · exact h.elim
  · cases h
    rfl

end Process

/-! ## Taking turns -/

namespace Process

/-- What comes of a request that is answered as the nodes answer whenever they are asked: what is left, and what was
told. `none` where nothing is requested any more. -/
def answered {α : Type} (reader : Reader) (s : Session) (held : List Chain) :
    Process α → Option (Session × List Chain × Process α × List Told)
  | finish _ => none
  | ledger w next => some ((s.commit w).2, held, next (s.commit w).1, [])
  | content ref next =>
    some (s, held, next (.ok (s.ledger.content? ref)), [.content ref (.ok (s.ledger.content? ref))])
  | node chain q next => some (s, held, next (reader chain q), [.node chain q (reader chain q)])
  | acquire chain next =>
    some (s, if chain ∈ held then held else chain :: held, next (decide (chain ∉ held)), [])
  | release chain next => some (s, held.erase chain, next, [])

end Process

namespace System

/-- It is the turn of the `k`th task. -/
def turn (reader : Reader) (w : System) (k : Nat) : System :=
  match w.tasks[k]? with
  | none => w
  | some t => match t.rest.answered reader w.session w.held with
    | none => w
    | some (s, held, rest, told) => ⟨s, held, w.tasks.set k ⟨t.operation, rest, t.heard ++ told⟩⟩

/-- The tasks have their turns, one after another. -/
def turns (reader : Reader) (w : System) (ks : List Nat) : System := ks.foldl (turn reader) w

variable {o : Outside} {reader : Reader} (ho : ∀ l ref, o.contents l ref (.ok (l.content? ref)))
  (ho' : ∀ chain q, o.answers chain q (reader chain q))
include ho ho'

theorem turn_advances (w : System) (k : Nat) : w.turn reader k = w ∨ w.Advance o k (w.turn reader k) := by
  unfold turn
  split
  · exact .inl rfl
  · rename_i t ht
    obtain ⟨op, rest, heard⟩ := t
    cases rest with
    | finish r => exact .inl rfl
    | ledger work next => exact .inr (.mk ht (.ledger work next w.session w.held))
    | content ref next => exact .inr (.mk ht (.content (ho w.session.ledger ref)))
    | node chain q next => exact .inr (.mk ht (.node (ho' chain q)))
    | acquire chain next => exact .inr (.mk ht (.acquire chain next w.session w.held))
    | release chain next => exact .inr (.mk ht (.release chain next w.session w.held))

theorem turns_advances (w : System) (ks : List Nat) :
    Relation.ReflTransGen (fun w w' => ∃ k, w.Advance o k w') w (w.turns reader ks) := by
  induction ks generalizing w with
  | nil => exact .refl
  | cons k ks ih =>
    have hrest := ih (w.turn reader k)
    rcases turn_advances ho ho' w k with he | ha
    · rw [he] at hrest
      show Relation.ReflTransGen _ w ((w.turn reader k).turns reader ks)
      rwa [he]
    · exact .head ⟨k, ha⟩ hrest

theorem turns_reaches (w : System) (ks : List Nat) : w.Reaches o (w.turns reader ks) :=
  (turns_advances ho ho' w ks).lift id fun _ _ ⟨_, h⟩ => .advance h

end System

end DonationLedger
