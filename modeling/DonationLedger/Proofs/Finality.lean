import DonationLedger.Ledger.Call
import DonationLedger.Proofs.References

/-!
# What is settled is final

A history is a series of ledger transactions, each made of any calls with any arguments, with writes that fail in
between, and committed or dropped in the end. Whatever calls are made, every one of them loses nothing
(`Call.lasting`), so what was settled at some point of a history stands at every later one (`Ledger.Stands`). A system
writes by ledger transactions only, so the same holds of its runs.
-/

namespace DonationLedger

/-! ## What stands -/

/-- `u` is how the settled transaction `t` is found later. -/
structure Transaction.Stands (t u : Transaction) : Prop where
  state : u.state = t.state
  remark : u.remark = t.remark
  sender : u.sender = t.sender
  recipient : u.recipient = t.recipient
  target : u.target = t.target
  amount : u.amount = t.amount
  currency : u.currency = t.currency
  provider : u.provider = t.provider

/-- `c` is how the blockchain transaction `b` is found later. A fact that is missing may be filled in. -/
structure BlockchainTransaction.Stands (b c : BlockchainTransaction) : Prop where
  state : b.state ≠ .pending → c.state = b.state
  sender : ∀ a, b.sender = some a → c.sender = some a
  recipient : ∀ a, b.recipient = some a → c.recipient = some a
  block : ∀ n, b.block = some n → c.block = some n

/-- All that is stored in `l` is found in `l'`, each row under its id once, and what was settled is as it was. -/
structure Ledger.Stands (l l' : Ledger) : Prop where
  transactions : ∀ t ∈ l.transactions, ∃ u, l'.transactions.filter (fun v => v.id == t.id) = [u] ∧
    (t.state ≠ .pending → t.Stands u)
  blockchainTransactions : ∀ b ∈ l.blockchainTransactions, ∃ c,
    l'.blockchainTransactions.filter (fun d => d.id == b.id) = [c] ∧ b.Stands c
  records : ∀ r ∈ l.records, r ∈ l'.records
  checkpoints : ∀ chain c, l.checkpoint? chain = some c →
    ∃ c', l'.checkpoint? chain = some c' ∧ c.block ≤ c'.block

theorem Transaction.Follows.stands {t u : Transaction} (h : t.Follows u) (ht : t.state ≠ .pending) : t.Stands u := by
  obtain ⟨hstate, hsender, hremark⟩ := h.ended (by simpa [Transaction.isPending] using ht)
  exact {
    state := hstate
    remark := hremark
    sender := hsender
    recipient := h.recipient
    target := (congrArg Transaction.target h.rest :)
    amount := (congrArg Transaction.amount h.rest :)
    currency := (congrArg Transaction.currency h.rest :)
    provider := (congrArg Transaction.provider h.rest :) }

theorem BlockchainTransaction.Follows.stands {b c : BlockchainTransaction} (h : b.Follows c) : b.Stands c where
  state hb := h.final (by simpa [BlockchainTransaction.isFinal] using hb)
  sender := h.sender
  recipient := h.recipient
  block := h.block

/-- What is settled in a session stands in all later ones. -/
theorem Session.Later.stands {s s' : Session} (h : s.Later s') (hk : s.Keyed) : s.ledger.Stands s'.ledger where
  transactions t ht := by
    obtain ⟨u, hu, htu⟩ := h.follows.transactions t.id t (Ledger.transaction?_of_mem hk.transactions ht)
    obtain ⟨hm, hid⟩ := Ledger.transaction?_mem hu
    refine ⟨u, ?_, htu.stands⟩
    rw [← hid]
    exact filter_key_of_mem Transaction.id (h.keyed hk).transactions hm
  blockchainTransactions b hb := by
    have hb := Ledger.blockchainTransaction?_of_mem hk.blockchainTransactions hb
    obtain ⟨c, hc, hbc⟩ := h.follows.blockchainTransactions b.id b hb
    obtain ⟨hm, hid⟩ := Ledger.blockchainTransaction?_mem hc
    refine ⟨c, ?_, hbc.stands⟩
    rw [← hid]
    exact filter_key_of_mem BlockchainTransaction.id (h.keyed hk).blockchainTransactions hm
  records := h.follows.records
  checkpoints := h.follows.checkpoints

/-! ## Histories -/

/-- A ledger transaction: its calls, each with what goes wrong with the ledger by then, and whether it is committed. -/
structure Dealing where
  calls : List (Faults × Call Id)
  committed : Bool

namespace Session

/-- The session after a call of an open ledger transaction, also if the call failed. -/
def makeCall (s : Session) (c : Faults × Call Id) : Session := (c.2.run { s with faults := c.1 }).2

/-- The session after a ledger transaction. -/
def deal (s : Session) (d : Dealing) : Session :=
  if d.committed then d.calls.foldl makeCall s else s.dropped (d.calls.foldl makeCall s)

/-- The session after a series of ledger transactions. -/
def history (s : Session) (ds : List Dealing) : Session := ds.foldl deal s

end Session

/-- Whatever is called, and whether it fails or not, nothing is lost. -/
theorem Call.lasting (c : Call Id) : c.work.Lasting := by
  cases c with
  | findTransaction id => exact Work.lasting_bind Work.lasting_look fun _ => Work.lasting_pure _
  | findExpecting id => exact Work.lasting_bind Work.lasting_look fun _ => Work.lasting_pure _
  | findPendingMatch c => exact Work.lasting_bind Work.lasting_look fun _ => Work.lasting_pure _
  | createTransaction d => exact Work.lasting_bind (Work.lasting_createTransaction d) fun _ => Work.lasting_pure _
  | updateTransaction id c =>
    exact Work.lasting_bind (Work.lasting_updateTransaction id c) fun _ => Work.lasting_pure _
  | findByHash chain hash => exact Work.lasting_bind (Work.lasting_findByHash chain hash) fun _ => Work.lasting_pure _
  | findBlockchainTransaction id => exact Work.lasting_bind Work.lasting_look fun _ => Work.lasting_pure _
  | createBlockchainTransaction d =>
    exact Work.lasting_bind (Work.lasting_createBlockchainTransaction d) fun _ => Work.lasting_pure _
  | updateBlockchainTransaction id state =>
    exact Work.lasting_bind (Work.lasting_updateBlockchainTransaction id state) fun _ => Work.lasting_pure _
  | recordFacts id sender recipient block =>
    exact Work.lasting_bind (Work.lasting_recordFacts id sender recipient block) fun _ => Work.lasting_pure _
  | link b t => exact Work.lasting_bind (Work.lasting_link b t) fun _ => Work.lasting_pure _
  | insertRecord => exact Work.lasting_bind (Work.lasting_insertRecord _) fun _ => Work.lasting_pure _
  | findCheckpoint chain => exact Work.lasting_bind Work.lasting_look fun _ => Work.lasting_pure _
  | raiseCheckpoint chain block =>
    exact Work.lasting_bind (Work.lasting_raiseCheckpoint chain block) fun _ => Work.lasting_pure _
  | findUser address => exact Work.lasting_bind Work.lasting_look fun _ => Work.lasting_pure _
  | findAddress user => exact Work.lasting_bind Work.lasting_look fun _ => Work.lasting_pure _

namespace Session

theorem later_makeCall (s : Session) (c : Faults × Call Id) : s.Later (s.makeCall c) :=
  (s.later_faults c.1).trans (c.2.lasting _)

theorem later_calls (s : Session) (cs : List (Faults × Call Id)) : s.Later (cs.foldl makeCall s) := by
  induction cs generalizing s with
  | nil => exact .refl s
  | cons c cs ih => exact (s.later_makeCall c).trans (ih _)

/-- A ledger transaction that is dropped leaves the rows as they were. -/
theorem later_deal (s : Session) (d : Dealing) : s.Later (s.deal d) := by
  unfold deal
  split
  · exact s.later_calls d.calls
  · exact .of_ledger_eq rfl (s.later_calls d.calls).supply

theorem later_history (s : Session) (ds : List Dealing) : s.Later (s.history ds) := by
  induction ds generalizing s with
  | nil => exact .refl s
  | cons d ds ih => exact (s.later_deal d).trans (ih _)

theorem history_append (s : Session) (before after : List Dealing) :
    s.history (before ++ after) = (s.history before).history after := List.foldl_append

end Session

namespace System

/-- What is stored at some point of a history, or of a run, is stored at every later point, and what is settled stays as
it is. -/
theorem settled_final :
    (∀ before after : List Dealing,
      (Session.start.history before).ledger.Stands (Session.start.history (before ++ after)).ledger) ∧
    ∀ (o : Outside) (w w' : System), Relation.ReflTransGen (System.Happens o) System.empty w →
      Relation.ReflTransGen (System.Happens o) w w' → w.session.ledger.Stands w'.session.ledger := by
  constructor
  · intro before after
    have hk := (Session.start.later_history before).keyed System.referring_empty.keyed
    rw [Session.history_append]
    exact (Session.later_history _ after).stands hk
  · intro o w w' hw hw'
    obtain ⟨-, hr, -⟩ := referring_happened hw
    exact (refers_happened hw hw').later.stands hr.keyed

/-- A donation that succeeded in one ledger transaction is not canceled by the next, and the one that a log credited
outlasts the ledger. -/
theorem donation_final :
    (∃ u, (Session.start.history
        [⟨[(.none, .createTransaction Donation.draft),
          (.none, .updateTransaction (.issued .transaction 1) (.into .succeeded))], true⟩,
        ⟨[(.none, .updateTransaction (.issued .transaction 1) (.into .canceled))], true⟩]).ledger.transactions.filter
          (fun v => v.id == .issued .transaction 1) = [u] ∧ u.state = .succeeded) ∧
    Relation.ReflTransGen (System.Happens (.any [])) System.empty Donation.credited ∧
    ∃ w', Relation.ReflTransGen (System.Happens (.any [])) Donation.credited w' ∧ w'.session.faults.rejecting = true ∧
      Donation.credited.session.ledger.Stands w'.session.ledger := by
  have hw := (Donation.credited_reachable []).happened
  have hw' : Relation.ReflTransGen (System.Happens (.any [])) Donation.credited
      ⟨{ Donation.credited.session with faults := ⟨true, none, 0⟩ }, [], Donation.credited.tasks⟩ :=
    .single (.step (.faults ⟨true, none, 0⟩))
  refine ⟨?_, hw, _, hw', rfl, settled_final.2 _ _ _ hw hw'⟩
  let t : Transaction := (StateChange.into .succeeded).apply (Donation.draft.row (.issued .transaction 1))
  obtain ⟨u, hu, ht⟩ := (settled_final.1
    [⟨[(.none, .createTransaction Donation.draft),
      (.none, .updateTransaction (.issued .transaction 1) (.into .succeeded))], true⟩]
    [⟨[(.none, .updateTransaction (.issued .transaction 1) (.into .canceled))], true⟩]).transactions t
      (by decide +kernel)
  exact ⟨u, hu, (ht (by decide)).state⟩

end System

end DonationLedger
