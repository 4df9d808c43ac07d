import DonationLedger.Text.Basic

/-!
# JSON values

Values of the JSON data format. A number keeps the text it was written with, since its reader
decides what kind of number it takes, and an object keeps its members in order.
-/

namespace DonationLedger

/-- A JSON value. -/
inductive Json
  | null
  | bool (value : Bool)
  | number (lexeme : String)
  | string (value : String)
  | array (items : List Json)
  | object (members : List (String × Json))
  deriving Repr

namespace Json

instance : Inhabited Json := ⟨null⟩

/-- The value of a member in a list of members. Of two members with one key the later counts. -/
def lookup (key : String) (members : List (String × Json)) : Option Json :=
  members.foldl (fun found m => if m.1 = key then some m.2 else found) none

/-- The member of an object. A value that is no object has none. -/
def get? (j : Json) (key : String) : Option Json := match j with
  | object members => lookup key members
  | _ => none

/-- The member of an object, where `null` stands for none. -/
def field? (j : Json) (key : String) : Option Json := match j.get? key with
  | some null => none
  | found => found

def string? : Json → Option String
  | string s => some s
  | _ => none

def bool? : Json → Option Bool
  | bool b => some b
  | _ => none

def array? : Json → Option (List Json)
  | array items => some items
  | _ => none

/-- The largest whole number up to which a reader with floating point keeps all numbers apart. -/
def maxExact : Nat := power 2 53 - 1

/-- A whole number with its sign. One that not every reader would keep is written as text. -/
def ofInt (n : Int) : Json :=
  if n.natAbs ≤ maxExact then number (toString n) else string (toString n)

/-- A whole number. -/
def ofNat (n : Nat) : Json := ofInt n

/-- A value that may be missing. -/
def ofOption {α : Type} (f : α → Json) : Option α → Json
  | some a => f a
  | none => null

/-- A member of the later list counts before one of the earlier. -/
theorem lookup_append (key : String) (ms ns : List (String × Json)) :
    lookup key (ms ++ ns) = (lookup key ns).or (lookup key ms) := by
  -- The fold over the later list starts with what the earlier one has left, so the induction is over any start.
  have from_start : ∀ start, ns.foldl (fun found m => if m.1 = key then some m.2 else found) start =
      (lookup key ns).or start := by
    induction ns with
    | nil => exact fun start => rfl
    | cons m ns ih =>
      intro start
      rw [lookup, List.foldl_cons, List.foldl_cons, ih, ih (if m.1 = key then some m.2 else none), Option.or_assoc]
      split <;> simp
  rw [lookup, List.foldl_append, from_start]
  rfl

end Json

end DonationLedger
