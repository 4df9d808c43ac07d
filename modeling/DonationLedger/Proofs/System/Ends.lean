import DonationLedger.Proofs.System.Alone
import DonationLedger.Proofs.System.Meets
import Mathlib.Logic.Hydra

/-!
# Operations come to an end

An operation makes finitely many requests, whatever it is answered. So operations that run next to each
other, with no new ones begun, come to an end in every order (`System.Inevitably`), and if they meet their
terms they end as said.
-/

namespace DonationLedger

/-- In whatever order the operations of `w` go on, they come to an end, and `P` holds then. -/
inductive System.Inevitably (o : Outside) (P : System → Prop) : System → Prop
  | done {w : System} (hp : P w) (hs : ∀ k w', ¬ w.Advance o k w') : Inevitably o P w
  | later {w : System} (hs : ∃ k w', w.Advance o k w') (hl : ∀ k w', w.Advance o k w' → Inevitably o P w') :
    Inevitably o P w

/-- Whatever is asked, something may be answered. -/
structure Outside.Answers (o : Outside) : Prop where
  contents : ∀ l ref, ∃ r, o.contents l ref r
  answers : ∀ chain q, ∃ r, o.answers chain q r

/-- Nothing is left of the operation but its result. -/
def Task.Ended (t : Task) : Prop := ∃ r, t.rest = .finish r

/-- `t'` is `t` after one answer. -/
inductive Task.Goes (o : Outside) (t' t : Task) : Prop
  | mk {s s' : Session} {held held' : List Chain} {rest : Process t.operation.Result} {told : List Told}
    (hn : t.rest.Next o s held s' held' rest told) (ht : t' = ⟨t.operation, rest, t.heard ++ told⟩) : Goes o t' t

namespace Task

variable {o : Outside}

/-- A process is a tree of finite height, and an answer leads to one of its branches. -/
theorem goes_acc (op : Operation) (p : Process op.Result) (heard : List Told) :
    Acc (Goes o) ⟨op, p, heard⟩ := by
  induction p generalizing heard with
  | finish r => exact .intro _ fun t' ⟨hn, _⟩ => nomatch hn
  | ledger w next ih =>
    refine .intro _ fun t' ⟨hn, ht⟩ => ?_
    cases hn
    exact ht ▸ ih _ _
  | content ref next ih =>
    refine .intro _ fun t' ⟨hn, ht⟩ => ?_
    cases hn
    exact ht ▸ ih _ _
  | node chain q next ih =>
    refine .intro _ fun t' ⟨hn, ht⟩ => ?_
    cases hn
    exact ht ▸ ih _ _
  | acquire chain next ih =>
    refine .intro _ fun t' ⟨hn, ht⟩ => ?_
    cases hn
    exact ht ▸ ih _ _
  | release chain next ih =>
    refine .intro _ fun t' ⟨hn, ht⟩ => ?_
    cases hn
    exact ht ▸ ih _

theorem goes_wellFounded (o : Outside) : WellFounded (Goes o) :=
  ⟨fun ⟨op, p, heard⟩ => goes_acc op p heard⟩

end Task

namespace System

variable {o : Outside} {w w' : System} {k : Nat}

theorem Inevitably.imp {P Q : System → Prop} (h : w.Inevitably o P) (hi : ∀ w, P w → Q w) :
    w.Inevitably o Q := by
  induction h with
  | done hp hs => exact .done (hi _ hp) hs
  | later hs _ ih => exact .later hs fun k w' h => ih k w' h

/-- A step replaces one operation by what is left of it. -/
theorem Advance.cutExpand (h : w.Advance o k w') :
    Relation.CutExpand (Task.Goes o) (w'.tasks : Multiset Task) (w.tasks : Multiset Task) := by
  obtain @⟨t, s, held, rest, told, ht, hn⟩ := h
  refine ⟨{⟨t.operation, rest, t.heard ++ told⟩}, t, by simpa using ⟨hn, rfl⟩, ?_⟩
  obtain ⟨hk, rfl⟩ := List.getElem?_eq_some_iff.1 ht
  have hset := Multiset.coe_eq_coe.2 (List.set_perm_cons_eraseIdx hk ⟨_, rest, w.tasks[k].heard ++ told⟩)
  have hold := Multiset.coe_eq_coe.2 (List.getElem_cons_eraseIdx_perm hk)
  rw [hset, ← hold, ← Multiset.cons_coe, ← Multiset.cons_coe, Multiset.add_comm, Multiset.singleton_add,
    Multiset.add_comm, Multiset.singleton_add, Multiset.cons_swap]

theorem Advance.operations (h : w.Advance o k w') :
    w'.tasks.map Task.operation = w.tasks.map Task.operation := by
  obtain @⟨t, s, held, rest, told, ht, hn⟩ := h
  obtain ⟨hk, rfl⟩ := List.getElem?_eq_some_iff.1 ht
  show (w.tasks.set k _).map Task.operation = _
  have hk' : k < (w.tasks.map Task.operation).length := by simpa using hk
  have hself := List.set_getElem_self hk'
  rw [List.getElem_map] at hself
  rw [List.map_set]
  exact hself

/-- An operation that has not ended can go on. -/
theorem exists_advance (ho : o.Answers) {t : Task} (ht : t ∈ w.tasks) (he : ¬ t.Ended) :
    ∃ k w', w.Advance o k w' := by
  obtain ⟨k, hk⟩ := List.mem_iff_getElem?.1 ht
  obtain ⟨op, rest, heard⟩ := t
  cases rest with
  | finish r => exact absurd ⟨r, rfl⟩ he
  | ledger work next => exact ⟨k, _, .mk hk (.ledger work next w.session w.held)⟩
  | content ref next =>
    obtain ⟨r, hr⟩ := ho.contents w.session.ledger ref
    exact ⟨k, _, .mk hk (.content hr)⟩
  | node chain q next =>
    obtain ⟨r, hr⟩ := ho.answers chain q
    exact ⟨k, _, .mk hk (.node hr)⟩
  | acquire chain next => exact ⟨k, _, .mk hk (.acquire chain next w.session w.held)⟩
  | release chain next => exact ⟨k, _, .mk hk (.release chain next w.session w.held)⟩

/-- What every step keeps holds at the end, when all operations have ended. -/
theorem inevitably_of_invariant (ho : o.Answers) {inv : System → Prop}
    (hi : ∀ {w w' k}, inv w → w.Advance o k w' → inv w') (hw : inv w) :
    w.Inevitably o fun w' => inv w' ∧ ∀ t ∈ w'.tasks, t.Ended := by
  have hacc := (Task.goes_wellFounded o).cutExpand.apply (w.tasks : Multiset Task)
  generalize hm : (w.tasks : Multiset Task) = m at hacc
  induction hacc generalizing w with
  | intro m _ ih =>
    subst hm
    by_cases hs : ∃ k w', w.Advance o k w'
    · exact .later hs fun k w' h => ih _ h.cutExpand (hi hw h) rfl
    · refine .done ⟨hw, fun t ht => ?_⟩ fun k w' h => hs ⟨k, w', h⟩
      exact Classical.byContradiction fun he => hs (exists_advance ho ht he)

/-! ## Ends that are reached -/

/-- What holds at the end in every order holds at any end that is reached. -/
theorem Inevitably.of_reached {P : System → Prop} (h : w.Inevitably o P)
    (hr : Relation.ReflTransGen (fun w w' => ∃ k, w.Advance o k w') w w') (he : ∀ t ∈ w'.tasks, t.Ended) : P w' := by
  have hstuck : ∀ k w'', ¬ w'.Advance o k w'' := by
    rintro k w'' ⟨ht, hn⟩
    obtain ⟨r, hrest⟩ := he _ (List.mem_of_getElem? ht)
    rw [hrest] at hn
    cases hn
  induction hr using Relation.ReflTransGen.head_induction_on with
  | refl =>
    cases h with
    | done hp => exact hp
    | later hs => exact absurd hs.choose_spec.choose_spec (hstuck _ _)
  | head ha _ ih =>
    obtain ⟨k, ha⟩ := ha
    cases h with
    | done _ hs => exact absurd ha (hs _ _)
    | later _ hl => exact ih (hl k _ ha)

theorem operations_of_advances (hr : Relation.ReflTransGen (fun w w' => ∃ k, w.Advance o k w') w w') :
    w'.tasks.map Task.operation = w.tasks.map Task.operation := by
  induction hr with
  | refl => rfl
  | tail _ ha ih =>
    obtain ⟨k, ha⟩ := ha
    exact ha.operations.trans ih

end System

end DonationLedger
