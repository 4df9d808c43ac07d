import DonationLedger.Proofs.Follow.Mirrored

/-!
# What operations ask nodes for

Whatever they are answered, resolving a receipt, settling a job and applying logs ask nodes for receipts only, and take
no chain. A cycle asks for the height and for the logs of its window besides, and takes and gives free its own chain
alone.
-/

namespace DonationLedger

/-- A question about one receipt. -/
def Query.IsReceipt : Query → Prop
  | receipt _ => True
  | _ => False

/-- If it is about a question to a node, the question is one of these. -/
def Told.About (asks : Query → Prop) : Told → Prop
  | content .. => True
  | node _ q _ => asks q

namespace Process

variable {α β : Type} {asks asks' : Query → Prop} {locks locks' : Chain → Prop}

/-- Whatever it is answered, the process asks nodes only for such things, and takes and gives free only such chains. -/
def Confined (asks : Query → Prop) (locks : Chain → Prop) : Process α → Prop
  | finish _ => True
  | ledger _ next => ∀ r, (next r).Confined asks locks
  | content _ next => ∀ r, (next r).Confined asks locks
  | node _ q next => asks q ∧ ∀ r, (next r).Confined asks locks
  | acquire chain next => locks chain ∧ ∀ free, (next free).Confined asks locks
  | release chain next => locks chain ∧ next.Confined asks locks

theorem Confined.imp {p : Process α} (hp : p.Confined asks locks) (ha : ∀ q, asks q → asks' q)
    (hl : ∀ chain, locks chain → locks' chain) : p.Confined asks' locks' := by
  induction p with
  | finish r => trivial
  | ledger w next ih => exact fun r => ih r (hp r)
  | content ref next ih => exact fun r => ih r (hp r)
  | node chain q next ih => exact ⟨ha q hp.1, fun r => ih r (hp.2 r)⟩
  | acquire chain next ih => exact ⟨hl chain hp.1, fun free => ih free (hp.2 free)⟩
  | release chain next ih => exact ⟨hl chain hp.1, ih hp.2⟩

/-- A process that takes no chain waits for none. -/
theorem Confined.lockless {p : Process α} (hp : p.Confined asks fun _ => False) : p.Lockless := by
  induction p with
  | finish r => trivial
  | ledger w next ih => exact fun r => ih r (hp r)
  | content ref next ih => exact fun r => ih r (hp r)
  | node chain q next ih => exact fun r => ih r (hp.2 r)
  | acquire chain next ih => exact hp.1
  | release chain next ih => exact hp.1.elim

theorem confined_andThen {p : Process β} {k : Except Failure β → Process α} (hp : p.Confined asks locks)
    (hk : ∀ r, (k r).Confined asks locks) : (p.andThen k).Confined asks locks := by
  induction p with
  | finish r => exact hk r
  | ledger w next ih => exact fun r => ih r (hp r)
  | content ref next ih => exact fun r => ih r (hp r)
  | node chain q next ih => exact ⟨hp.1, fun r => ih r (hp.2 r)⟩
  | acquire chain next ih => exact ⟨hp.1, fun free => ih free (hp.2 free)⟩
  | release chain next ih => exact ⟨hp.1, ih hp.2⟩

theorem confined_bind {p : Process β} {k : β → Process α} (hp : p.Confined asks locks)
    (hk : ∀ b, (k b).Confined asks locks) : (p >>= k).Confined asks locks := by
  refine confined_andThen hp fun r => ?_
  cases r with
  | ok b => exact hk b
  | error e => trivial

theorem confined_commit (w : Work α) : (commit w).Confined asks locks := fun _ => trivial

/-! ## Steps -/

/-- A step leaves all other chains as they are. -/
theorem Confined.next {o : Outside} {p q : Process α} {s s' : Session} {held held' : List Chain} {told : List Told}
    (hp : p.Confined asks locks) (hn : p.Next o s held s' held' q told) :
    q.Confined asks locks ∧ ∀ chain, ¬ locks chain → (chain ∈ held' ↔ chain ∈ held) := by
  cases hn with
  | ledger w next => exact ⟨hp _, fun _ _ => .rfl⟩
  | content h => exact ⟨hp _, fun _ _ => .rfl⟩
  | node h => exact ⟨hp.2 _, fun _ _ => .rfl⟩
  | acquire taken next =>
    refine ⟨hp.2 _, fun chain hc => ?_⟩
    have hne : chain ≠ taken := fun he => hc (he ▸ hp.1)
    split
    · rfl
    · simp [hne]
  | release freed next =>
    refine ⟨hp.2, fun chain hc => ?_⟩
    have hne : chain ≠ freed := fun he => hc (he ▸ hp.1)
    exact List.mem_erase_of_ne hne

/-- No chain is held twice. -/
theorem Next.nodup {o : Outside} {p q : Process α} {s s' : Session} {held held' : List Chain} {told : List Told}
    (hn : p.Next o s held s' held' q told) (hh : held.Nodup) : held'.Nodup := by
  cases hn with
  | ledger => exact hh
  | content => exact hh
  | node => exact hh
  | acquire chain next =>
    split
    · exact hh
    · rename_i hc
      exact List.nodup_cons.2 ⟨hc, hh⟩
  | release => exact hh.erase _

/-- At the end an operation was told what it asked for, and nothing else. -/
theorem Meets.confined {m : Terms} {post : List Told → Except Failure α → Session → Prop} {p : Process α}
    {h : List Told} {s : Session} (hp : p.Meets m post h s) (hc : p.Confined asks locks) :
    p.Meets m (fun h' r s' => post h' r s' ∧
      ∃ told, h' = h ++ told ∧ ∀ t ∈ told, t.About asks ∧ m.outside.Tells t) h s := by
  induction p generalizing h s with
  | finish r => exact fun s' hs => ⟨hp s' hs, [], (List.append_nil h).symm, fun t ht => absurd ht List.not_mem_nil⟩
  | ledger w next ih => exact fun s' hs => ⟨(hp s' hs).1, ih _ (hp s' hs).2 (hc _)⟩
  | content ref next ih =>
    refine fun s' hs r hr => (ih r (hp s' hs r hr) (hc r)).imp fun h' x s₁ ⟨hx, told, he, ht⟩ => ?_
    refine ⟨hx, .content ref r :: told, he.trans (List.append_assoc ..), ?_⟩
    exact List.forall_mem_cons.2 ⟨⟨trivial, trivial⟩, ht⟩
  | node chain q next ih =>
    refine fun s' hs r hr => (ih r (hp s' hs r hr) (hc.2 r)).imp fun h' x s₁ ⟨hx, told, he, ht⟩ => ?_
    refine ⟨hx, .node chain q r :: told, he.trans (List.append_assoc ..), ?_⟩
    exact List.forall_mem_cons.2 ⟨⟨hc.1, hr⟩, ht⟩
  | acquire chain next ih => exact fun s' hs free => ih free (hp s' hs free) (hc.2 free)
  | release chain next ih => exact fun s' hs => ih (hp s' hs) hc.2

/-! ## Operations -/

section
variable {d : Deployment}

theorem confined_screen (d : Deployment) (e : Event) : (screen d e).Confined asks locks := by
  unfold screen
  split
  · trivial
  · exact fun r => by cases r <;> trivial

theorem confined_observe (d : Deployment) (logs : List Log) : (observe d logs).Confined asks locks := by
  induction logs with
  | nil => trivial
  | cons log logs ih =>
    unfold observe
    split
    · exact ih
    · exact confined_bind (confined_screen d _) fun _ => confined_bind ih fun _ => trivial

theorem confined_resolveReceipt (d : Deployment) (b t : Id) :
    (resolveReceipt d b t).Confined Query.IsReceipt locks := by
  rw [resolveReceipt_eq]
  refine confined_bind (confined_commit _) fun p => ?_
  unfold closeOpened
  split
  · trivial
  · split
    · trivial
    · refine ⟨trivial, fun answer => ?_⟩
      rcases answer with e | _ | receipt
      · trivial
      · trivial
      · have hobserve : (observeReceipt d receipt).Confined Query.IsReceipt locks := by
          unfold observeReceipt
          split
          · trivial
          · exact confined_observe d _
        refine confined_bind hobserve fun os => ?_
        unfold closeObserved
        split
        · trivial
        · exact confined_commit _

theorem confined_settle (r : Registry) (t : Id) : (settle r t).Confined Query.IsReceipt locks := by
  unfold settle Registry.require
  refine confined_bind (confined_commit _) fun c => confined_bind ?_ fun d => ?_
  · trivial
  · exact confined_bind (confined_resolveReceipt d c.id t) fun _ => trivial

theorem confined_applyLog (d : Deployment) (log : Log) : (applyLog d log).Confined Query.IsReceipt locks := by
  rcases ha : d.applicable? log with _ | ⟨block, index, e⟩
  · rw [applyLog_of_none ha]
    trivial
  · rw [applyLog_of_some ha]
    refine confined_bind (confined_screen d e) fun verdict => confined_bind (confined_commit _) fun step => ?_
    cases step with
    | applied result => trivial
    | needsReceipt b t => exact confined_bind (confined_resolveReceipt d b t) fun _ => trivial

theorem confined_applyLogs (d : Deployment) (tally : Tally) (logs : List Log) :
    (d.applyLogs tally logs).Confined Query.IsReceipt locks := by
  induction logs generalizing tally with
  | nil => trivial
  | cons log logs ih => exact confined_bind (confined_applyLog d log) fun result => ih _

theorem confined_fetchWindow (d : Deployment) (checkpoint : Option Nat) :
    (d.fetchWindow checkpoint).Confined (fun _ => True) locks := by
  unfold Deployment.fetchWindow
  refine confined_bind ⟨trivial, fun _ => trivial⟩ fun height => ?_
  simp only
  split
  · trivial
  · exact confined_bind ⟨trivial, fun _ => trivial⟩ fun _ => trivial

theorem confined_moveCheckpoint (chain : Chain) (previous : Option Nat) (block : Nat) :
    (moveCheckpoint chain previous block).Confined asks locks := by
  unfold moveCheckpoint
  split
  · trivial
  · split
    · trivial
    · exact confined_commit _

theorem confined_cycle (d : Deployment) : (cycle d).Confined (fun _ => True) locks := by
  unfold cycle
  refine confined_bind (confined_commit _) fun previous => ?_
  refine confined_bind (confined_fetchWindow d previous) fun f => ?_
  refine confined_bind ((confined_applyLogs d .zero f.logs).imp (fun _ _ => trivial) fun _ => id) fun _ => ?_
  exact confined_bind (confined_moveCheckpoint d.chain previous f.window.checkpoint) fun _ => trivial

theorem confined_follow (r : Registry) (chain : Chain) : (follow r chain).Confined (fun _ => True) (· = chain) := by
  unfold follow Registry.require
  cases r.find? chain with
  | none => trivial
  | some d =>
    refine ⟨rfl, fun free => ?_⟩
    cases free with
    | false => trivial
    | true => exact confined_andThen (confined_cycle d) fun _ => ⟨rfl, trivial⟩

end

end Process

end DonationLedger
