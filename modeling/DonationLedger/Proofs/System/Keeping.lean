import DonationLedger.Proofs.Ledger.Later
import DonationLedger.Proofs.System.Flaky
import DonationLedger.Proofs.System.Meets

/-!
# What an operation keeps that nobody else disturbs

Faults may come and go while an operation runs, but nobody else writes (`keeping`). What each of its own writes keeps
holds then whenever it is looked at, also where it fails or is dropped between two requests (`Process.Meets.goes`).
-/

namespace DonationLedger

theorem Session.ledger_eq_of_calm {s s' : Session} (h : s'.calm = s.calm) : s'.ledger = s.ledger :=
  (congrArg Session.ledger h : s'.calm.ledger = s.calm.ledger)

theorem Session.later_of_calm {s s' : Session} (h : s'.calm = s.calm) : s.Later s' := by
  have hs : s'.supply = s.supply := (congrArg Session.supply h : s'.calm.supply = s.calm.supply)
  exact .of_ledger_eq (ledger_eq_of_calm h) fun kind => hs ▸ Nat.le_refl _

/-- Anything may be answered, and faults come and go, but nobody else writes. The operation keeps what was stored,
and keeps `inv`. -/
def keeping (r : Registry) (inv : Ledger → Prop) : Terms :=
  ⟨.any r, fun s s' => s'.calm = s.calm, fun _ s s' => s.Later s' ∧ (inv s.ledger → inv s'.ledger)⟩

section
variable {r : Registry} {inv inv' : Ledger → Prop} {s s' : Session}

instance : IsPreorder Session (keeping r inv).others where
  refl _ := rfl
  trans _ _ _ h k := Eq.trans k h

theorem keeping_idles : (keeping r inv).Idles := fun _ _ _ hl hs => ⟨.of_ledger_eq hl hs, fun hi => hl ▸ hi⟩

/-- Where nobody else writes, the rows are those that were there before. -/
theorem keeping_others (h : (keeping r inv).others s s') : s'.ledger = s.ledger := Session.ledger_eq_of_calm h

end

namespace Process

variable {α : Type} {m : Terms} {post : List Told → Except Failure α → Session → Prop} {h : List Told} {p q : Process α}
  {s s' : Session} {held held' : List Chain}

/-- What is left of an operation meets its terms still, and what it keeps itself holds all the time, if faults are
nothing that matters. -/
theorem Meets.goes [IsPreorder Session m.others] (inv : Session → Prop) (hp : p.Meets m post h s)
    (hfaults : ∀ s f, m.others s { s with faults := f }) (hquiet : ∀ s f, inv s → inv { s with faults := f })
    (hown : ∀ h s s', inv s → m.own h s s' → inv s') (hi : inv s) (hg : p.Goes m.outside s held s' held' q) :
    inv s' ∧ ∃ h', q.Meets m post h' s' := by
  induction hg with
  | start => exact ⟨hi, h, hp⟩
  | next _ hn ih =>
    obtain ⟨hi, h', hq⟩ := ih
    obtain ⟨hq, hs⟩ := hq.next hn
    refine ⟨?_, _, hq⟩
    rcases hs with rfl | hs
    · exact hi
    · exact hown _ _ _ hi hs
  | faults _ f ih =>
    obtain ⟨hi, h', hq⟩ := ih
    exact ⟨hquiet _ f hi, h', hq.later (hfaults _ f)⟩

/-- An operation that keeps something keeps what was stored, and loses nothing that it was told. -/
theorem Meets.lasts {r : Registry} {inv : Ledger → Prop} (hp : p.Meets (keeping r inv) post h s) :
    p.Meets (keeping r inv) (fun h' x s' => post h' x s' ∧ h ⊆ h' ∧ s.Later s') h s :=
  have : IsPreorder Session Session.Later := { refl := .refl, trans := fun _ _ _ => .trans }
  hp.along Session.later_of_calm And.left

/-- What an operation keeps holds all the time, and in the end what is said of its end. -/
theorem Meets.keeps {r : Registry} {inv : Ledger → Prop} (hp : p.Meets (keeping r inv) post h s) (hi : inv s.ledger)
    (hg : p.Goes (.any r) s held s' held' q) :
    inv s'.ledger ∧ ∀ x, q = .finish x → ∃ h', post h' x s' := by
  obtain ⟨hi', h', hq⟩ := hp.goes (fun s => inv s.ledger) (fun _ _ => rfl) (fun _ _ => id)
    (fun _ _ _ hi hown => hown.2 hi) hi hg
  refine ⟨hi', ?_⟩
  rintro x rfl
  exact ⟨h', hq s' rfl⟩

theorem Goes.of_toOption {o : Outside} {x : Except Failure α} {a : α} (hg : p.Goes o s held s' held' (finish x))
    (ha : x.toOption = some a) : p.Goes o s held s' held' (finish (.ok a)) := by
  cases x with
  | error e => cases ha
  | ok b =>
    obtain rfl := Option.some.inj ha
    exact hg

end Process

end DonationLedger
