import DonationLedger.Follow.Cycle
import Mathlib.Logic.Relation

/-!
# Runs of the system

Any number of operations run next to each other over one ledger. A step answers one request of one
of them, so a ledger transaction is never torn apart, and between two requests of one operation
anything may happen: others go on, begin or stop for good, expected payments are stored, users and
contents are put on file, the ledger begins or ceases to refuse writes. What nodes and the contents
answer is up to the outside.
-/

namespace DonationLedger

/-- What the system can be asked to do. -/
inductive Operation
  | resolve (d : Deployment) (b t : Id)
  | settle (t : Id)
  | apply (d : Deployment) (log : Log)
  | follow (chain : Chain)

namespace Operation

/-- What an operation returns. -/
def Result : Operation → Type
  | resolve .. => Outcome
  | settle _ => Settled
  | apply .. => Applied
  | follow _ => CycleReport

/-- The process of an operation over the deployments of a registry. -/
def process (r : Registry) : (o : Operation) → Process o.Result
  | resolve d b t => resolveReceipt d b t
  | settle t => DonationLedger.settle r t
  | apply d log => applyLog d log
  | follow chain => DonationLedger.follow r chain

end Operation

/-- Something that an operation was told from outside. -/
inductive Told
  | content (reference : String) (answer : Except Failure (Option Id))
  | node (chain : Chain) (query : Query) (answer : Except Failure query.Answer)

/-- An operation that was begun, what is left of it, and what it was told so far. -/
structure Task where
  operation : Operation
  rest : Process operation.Result
  heard : List Told

/-- An operation that begins. -/
def Operation.task (r : Registry) (o : Operation) : Task := ⟨o, o.process r, []⟩

/-- All that operations share, and the operations. -/
structure System where
  session : Session
  held : List Chain
  tasks : List Task

/-- The system before anything happened. -/
def System.empty : System := ⟨.start, [], []⟩

/-- What is up to the outside: the deployments, the operations asked for, and what contents and nodes may
answer. -/
structure Outside where
  registry : Registry
  starts : Operation → Prop
  contents : Ledger → String → Except Failure (Option Id) → Prop
  answers : (chain : Chain) → (query : Query) → Except Failure query.Answer → Prop

/-- Callers settle jobs, apply logs and follow chains, and anything may be answered. -/
def Outside.any (r : Registry) : Outside where
  registry := r
  starts
    | .resolve .. => False
    | _ => True
  contents _ _ _ := True
  answers _ _ _ := True

/-! ## Steps -/

/-- One request is answered. Last are what is left then, and what was told. -/
inductive Process.Next {α : Type} (o : Outside) :
    Session → List Chain → Process α → Session → List Chain → Process α → List Told → Prop
  | ledger {β : Type} (w : Work β) (next : Except Failure β → Process α) (s : Session)
    (held : List Chain) : Next o s held (.ledger w next) (s.commit w).2 held (next (s.commit w).1) []
  | content {ref : String} {next : Except Failure (Option Id) → Process α} {s : Session}
    {held : List Chain} {r : Except Failure (Option Id)} (h : o.contents s.ledger ref r) :
    Next o s held (.content ref next) s held (next r) [.content ref r]
  | node {chain : Chain} {q : Query} {next : Except Failure q.Answer → Process α} {s : Session}
    {held : List Chain} {r : Except Failure q.Answer} (h : o.answers chain q r) :
    Next o s held (.node chain q next) s held (next r) [.node chain q r]
  | acquire (chain : Chain) (next : Bool → Process α) (s : Session) (held : List Chain) :
    Next o s held (.acquire chain next) s (if chain ∈ held then held else chain :: held)
      (next (decide (chain ∉ held))) []
  | release (chain : Chain) (next : Process α) (s : Session) (held : List Chain) :
    Next o s held (.release chain next) s (held.erase chain) next []

/-- A request of the `k`th task is answered. -/
inductive System.Advance (o : Outside) (w : System) (k : Nat) : System → Prop
  | mk {t : Task} {s : Session} {held : List Chain} {rest : Process t.operation.Result} {told : List Told}
    (ht : w.tasks[k]? = some t) (h : t.rest.Next o w.session w.held s held rest told) :
    Advance o w k ⟨s, held, w.tasks.set k ⟨t.operation, rest, t.heard ++ told⟩⟩

/-- A pending payment that waits for no blockchain transaction, or for one that is stored. -/
structure TransactionDraft.Expectable (d : TransactionDraft Id) (l : Ledger) : Prop where
  pending : d.state = .pending
  stored : ∀ b, d.blockchainTransaction = some b → (l.blockchainTransaction? b).isSome = true

/-- Something happens. -/
inductive System.Step (o : Outside) (w : System) : System → Prop
  | advance {k : Nat} {w' : System} (h : w.Advance o k w') : Step o w w'
  | start {op : Operation} (h : o.starts op) : Step o w { w with tasks := w.tasks ++ [op.task o.registry] }
  | faults (f : Faults) : Step o w { w with session := { w.session with faults := f } }
  | addUser (a : Address) : Step o w { w with session := (w.session.addUser a).2 }
  | addContent (reference : String) : Step o w { w with session := (w.session.addContent reference).2 }
  | seed (chain : Chain) (hash : Hash) (d : TransactionDraft Id) (hd : d.state = .pending) :
    Step o w { w with session := (w.session.commit (Work.seedPayment chain hash d)).2 }
  | create (d : TransactionDraft Id) (hd : d.Expectable w.session.ledger) :
    Step o w { w with session := (w.session.commit (Work.createTransaction d)).2 }

/-- Something happens, and payments may be stored however they are drafted, also as settled ones. -/
inductive System.Happens (o : Outside) (w : System) : System → Prop
  | step {w' : System} (h : w.Step o w') : Happens o w w'
  | seed (chain : Chain) (hash : Hash) (d : TransactionDraft Id) :
    Happens o w { w with session := (w.session.commit (Work.seedPayment chain hash d)).2 }
  | create (d : TransactionDraft Id) :
    Happens o w { w with session := (w.session.commit (Work.createTransaction d)).2 }

/-- Any number of things happen. -/
def System.Reaches (o : Outside) : System → System → Prop := Relation.ReflTransGen (System.Step o)

/-- The system may come from the empty one to this. -/
def System.Reachable (r : Registry) (w : System) : Prop := System.empty.Reaches (.any r) w

/-! ## One donation -/

namespace Donation

def address (byte : UInt8) : Address := ⟨List.replicate 20 byte, List.length_replicate⟩

def topic (a : Address) : Hash := ⟨List.replicate 12 0 ++ a.bytes, by simp [a.length_eq]⟩

def hash : Hash := ⟨List.replicate 32 9, List.length_replicate⟩

/-- The hash of another blockchain transaction. -/
def otherHash : Hash := ⟨List.replicate 32 8, List.length_replicate⟩

def contract : Address := address 1

def curator : Address := address 2

def creator : Address := address 3

def deployment : Deployment := ⟨.standard .optimism "" contract, contract⟩

/-- The contract reports one coin for the content `ipfs://a`. -/
def log : Log :=
  ⟨contract, [EventShape.coin.topic, topic curator, topic creator],
    Abi.encode [0x69, 0x70, 0x66, 0x73, 0x3a, 0x2f, 0x2f, 0x61] (power 10 18), 7, hash, 0, false⟩

def receipt : Receipt := ⟨hash, false, curator, some contract, 7, [log]⟩

/-- A node that knows the receipt. -/
def node (_ : Chain) : (q : Query) → Except Failure q.Answer
  | .height => .ok (7 : Nat)
  | .logs .. => .ok [log]
  | .receipt _ => .ok (some receipt)

/-- A node that knows so many blocks that the one of the log is final. -/
def ahead (chain : Chain) : (q : Query) → Except Failure q.Answer
  | .height => .ok (57 : Nat)
  | q => node chain q

/-- A whole number of coins. -/
def coin (mantissa : Nat) (h : mantissa < 79228162514264337593543950336) : Decimal :=
  ⟨false, mantissa, 0, h, Decimal.zero.scale_le⟩

def event : Event := ⟨curator, creator, none, "ipfs://a", coin (power 10 18) (by decide)⟩

def payment : Payment := ⟨.issued .content 1, "ETH", coin 1 (by decide)⟩

/-- The donation as it is waited for. -/
def draft : TransactionDraft Id :=
  ⟨payment.amount, "ETH", donationPurpose, .blockchain, none, none, .issued .user 1, none, none, .pending⟩

/-- The creator and the content are on file. -/
def filed : System := ⟨((Session.start.addUser creator).2.addContent "a").2, [], []⟩

/-- The donation is waited for. -/
def awaited : System :=
  ⟨(filed.session.commit (Work.seedPayment .optimism hash draft)).2, [], []⟩

/-- The ledger transaction of the log. -/
def crediting : Work LogStep := Work.applyEvent .optimism hash.spelling 7 0 event (.ok payment)

/-- What is left of the log once the content is known. -/
def told : Task :=
  ⟨.apply deployment log,
    Process.commit crediting >>= fun
      | .applied result => pure result
      | .needsReceipt b t => do
        let outcome ← resolveReceipt deployment b t
        pure (.ofOutcome t outcome),
    [.content "a" (.ok (some (.issued .content 1)))]⟩

/-- The donation was not waited for, and is about to be credited. -/
def noticed : System := ⟨filed.session, [], [told]⟩

/-- The donation is credited. -/
def credited : System :=
  ⟨(filed.session.commit crediting).2, [],
    [⟨.apply deployment log, .finish (.ok (.created (.issued .transaction 1))), told.heard⟩]⟩

/-- The credited donation. -/
def transaction : Transaction :=
  (Work.donation payment (.issued .blockchainTransaction 1) (.issued .user 1) none).row (.issued .transaction 1)

theorem filed_reachable (r : Registry) : filed.Reachable r :=
  .tail (.tail .refl (.addUser creator)) (.addContent "a")

theorem awaited_reachable (r : Registry) : awaited.Reachable r :=
  .tail (filed_reachable r) (.seed .optimism hash draft rfl)

theorem noticed_reachable (r : Registry) : noticed.Reachable r := by
  have hs : filed.Step (.any r) ⟨filed.session, [], [(Operation.apply deployment log).task r]⟩ := .start trivial
  have hc : (Outside.any r).contents filed.session.ledger "a" (.ok (some (.issued .content 1))) := trivial
  have hn : Process.Next (.any r) filed.session [] (applyLog deployment log) filed.session [] told.rest
      told.heard := .content hc
  exact .tail (.tail (filed_reachable r) hs)
    (.advance (k := 0) (.mk (t := (Operation.apply deployment log).task r) rfl hn))

theorem noticed_advance (r : Registry) : noticed.Advance (.any r) 0 credited := by
  have hn : Process.Next (.any r) filed.session [] told.rest (filed.session.commit crediting).2 []
      (.finish (.ok (.created (.issued .transaction 1)))) [] := .ledger crediting _ filed.session []
  exact .mk (t := told) rfl hn

theorem credited_reachable (r : Registry) : credited.Reachable r :=
  .tail (noticed_reachable r) (.advance (noticed_advance r))

end Donation

end DonationLedger
