import DonationLedger.Proofs.Links
import DonationLedger.Proofs.Resolution.Settlement
import DonationLedger.Proofs.System.Ends

/-!
# A job and a log of one payment

The job of a pending transaction and a log of the blockchain transaction that it expects come to the same
ledger, in whatever order their requests are answered. Both stay within the course of the settlement
(`Settlement.Goes`), and neither ends before the receipt was applied.
-/

namespace DonationLedger

/-- No more is begun, nothing is put on file, and nodes answer the same whenever they are asked. -/
def Outside.steady (r : Registry) (reader : (chain : Chain) → (q : Query) → Except Failure q.Answer) :
    Outside where
  registry := r
  starts _ := False
  contents l ref answer := answer = .ok (l.content? ref)
  answers chain q answer := answer = reader chain q

theorem Outside.steady_answers (r : Registry) (reader : (chain : Chain) → (q : Query) → Except Failure q.Answer) :
    (Outside.steady r reader).Answers :=
  ⟨fun l ref => ⟨.ok (l.content? ref), rfl⟩, fun chain q => ⟨reader chain q, rfl⟩⟩

section
variable (r : Registry) (reader : (chain : Chain) → (q : Query) → Except Failure q.Answer) (x : Settlement)

/-- The operations of one settlement. At their end it is done. -/
def settling : Regime (.steady r reader) where
  others := x.Goes
  own _ _ := x.Goes
  post
    | .settle t, _, result, s => x.Done s ∧
      ((∃ o, result = .ok (⟨t, o⟩ : Settled)) ∨ result = .error (.settlement (.transactionNotFound t)))
    | .apply .., _, result, s => x.Done s ∧ ∃ a, result = .ok a
    | _, _, _, _ => True
  refl := .refl
  trans h h' := ⟨h'.begun ∘ h.begun, h'.done ∘ h.done⟩
  expected := id

variable {r reader x} {op : Operation} {h : List Told} {s : Session} {hash : Hash}

/-- The receipt is applied by this operation if not by another. -/
theorem settling_resolveReceipt (hx : x.Due) (hp : FixedBytes.parse? 32 x.onChain.hash = some hash)
    (hr : reader x.deployment.chain (.receipt hash) = .ok (some x.receipt)) (hs : x.Begun s) :
    (resolveReceipt x.deployment x.onChain.id x.transaction.id).Meets ((settling r reader x).terms op)
      (fun _ result s' => x.Done s' ∧ ∃ o, result = .ok o) h s := by
  rw [Process.resolveReceipt_eq]
  refine Process.meets_sure fun s₁ hs₁ => ?_
  rcases hs₁.begun hs with hw | hd
  · obtain ⟨p, s₂, hy, hw₂, hn, hh⟩ := hw.openPair hx
    refine ⟨p, s₂, hy, .of_waits hx hw (.inl hw₂), ?_⟩
    show (Process.closeOpened x.deployment x.onChain.id x.transaction.id p).Meets _ _ _ _
    unfold Process.closeOpened
    rw [hn, hh, hp]
    intro s₃ hs₃ answer ha
    obtain rfl : answer = .ok (some x.receipt) := ha.trans hr
    refine Process.meets_bind ((Process.meets_observeReceipt _ s₃ x.deployment x.receipt).imp
      fun h' os s₄ ⟨_, hs₄, ho⟩ => ?_)
    cases os with
    | error e =>
      obtain ⟨ref, -, s', -, hc⟩ := ho
      exact nomatch hc
    | ok os =>
      have hs₃ := hs₃.begun (.inl hw₂)
      obtain rfl : os = x.observed := by
        rw [hx.applies] at ho
        refine (ho.imp fun ref found ⟨_, s', hs', hc⟩ => ?_).eq_filterMap
        rw [Except.ok.inj hc, (hs'.begun hs₃).content?]
      unfold Process.closeObserved
      rw [storedNumber?_eq_some_iff.2 ⟨hx.storable.block, rfl⟩]
      refine Process.meets_sure fun s₅ hs₅ => ?_
      rcases hs₅.begun (hs₄.begun hs₃) with hw | hd
      · obtain ⟨o, s₆, hy, hd₆⟩ := hw.closePair hx
        exact ⟨o, s₆, hy, .of_done hd₆, fun s₇ hs₇ => ⟨hs₇.done hd₆, o, rfl⟩⟩
      · obtain ⟨o, s₆, hy, hd₆⟩ := hd.closePair hx
        exact ⟨o, s₆, hy, .of_done hd₆, fun s₇ hs₇ => ⟨hs₇.done hd₆, o, rfl⟩⟩
  · obtain ⟨p, s₂, hy, hd₂, o, ho⟩ := hd.openPair
    refine ⟨p, s₂, hy, .of_done hd₂, ?_⟩
    show (Process.closeOpened x.deployment x.onChain.id x.transaction.id p).Meets _ _ _ _
    unfold Process.closeOpened
    rw [ho]
    exact fun s₃ hs₃ => ⟨hs₃.done hd₂, o, rfl⟩

theorem settling_settle (hx : x.Due) (hd : r.find? x.onChain.chain = some x.deployment)
    (hp : FixedBytes.parse? 32 x.onChain.hash = some hash)
    (hr : reader x.deployment.chain (.receipt hash) = .ok (some x.receipt)) (hs : x.Begun s) :
    (settle r x.transaction.id).Meets ((settling r reader x).terms op)
      (fun _ result s' => x.Done s' ∧ ((∃ o, result = .ok ⟨x.transaction.id, o⟩) ∨
        result = .error (.settlement (.transactionNotFound x.transaction.id)))) h s := by
  intro s₁ hs₁
  rcases hs₁.begun hs with hw | hdone
  · obtain ⟨c, hy, hc⟩ := hw.findExpected hx
    rw [Work.commit_of_yields hy]
    refine ⟨.of_waits hx hw (.inl hw), ?_⟩
    show ((Process.ofExcept (r.require c.chain) >>= fun d => resolveReceipt d c.id x.transaction.id >>=
      fun o => pure ⟨x.transaction.id, o⟩ : Process Settled)).Meets _ _ _ _
    rw [Registry.require, (Prod.mk.inj hc.place).1, hd, hc.id]
    show (resolveReceipt x.deployment x.onChain.id x.transaction.id >>=
      fun o => pure ⟨x.transaction.id, o⟩ : Process Settled).Meets _ _ _ _
    refine Process.meets_bind ((settling_resolveReceipt hx hp hr (.inl hw)).imp
      fun h' result s₂ ⟨hd₂, o, ho⟩ => ?_)
    subst ho
    exact fun s₃ hs₃ => ⟨hs₃.done hd₂, .inl ⟨o, rfl⟩⟩
  · rw [Work.commit_of_error hdone.findExpected]
    exact ⟨.of_done hdone, fun s₂ hs₂ => ⟨hs₂.done hdone, .inr rfl⟩⟩

theorem settling_applyLog {log : Log} {e : Event} (hx : x.Due)
    (hp : FixedBytes.parse? 32 x.onChain.hash = some hash)
    (hr : reader x.deployment.chain (.receipt hash) = .ok (some x.receipt))
    (hl : log ∈ x.receipt.logs) (hrem : log.removed = false) (hadr : log.address = x.deployment.contract)
    (he : Event.ofLog log = .ok e) (hc : x.deployment.chain = x.onChain.chain)
    (hh : log.hash.spelling = x.onChain.hash) (hb : log.block = x.receipt.block) (hs : x.Begun s) :
    (applyLog x.deployment log).Meets ((settling r reader x).terms op)
      (fun _ result s' => x.Done s' ∧ ∃ a, result = .ok a) h s := by
  have hi := storedNumber?_eq_some_iff.2 ⟨hx.storable.indices log hl, rfl⟩
  have hrec := Settlement.record_mem hl (observable?_eq_some_iff.2 ⟨hrem, hadr, hi, he⟩)
  unfold applyLog
  rw [hrem, if_neg Bool.false_ne_true, if_neg (not_not.2 hadr), hb,
    storedNumber?_eq_some_iff.2 ⟨hx.storable.block, rfl⟩, hi, he, hc, hh]
  refine Process.meets_bind ((Process.meets_screen h s x.deployment e).imp fun h' verdict s₁ ⟨_, hs₁, hv⟩ => ?_)
  cases verdict with
  | error err =>
    obtain ⟨ref, -, s', -, hc⟩ := hv
    exact nomatch hc
  | ok verdict =>
    refine Process.meets_sure fun s₂ hs₂ => ?_
    rcases hs₂.begun (hs₁.begun hs) with hw | hd
    · obtain ⟨step, s₃, hy, hw₃, rfl⟩ := hw.applyEvent verdict hx hrec
      refine ⟨_, s₃, hy, .of_waits hx hw (.inl hw₃), ?_⟩
      refine Process.meets_bind ((settling_resolveReceipt hx hp hr (.inl hw₃)).imp
        fun h' result s₄ ⟨hd₄, o, ho⟩ => ?_)
      subst ho
      exact fun s₅ hs₅ => ⟨hs₅.done hd₄, _, rfl⟩
    · obtain ⟨step, s₃, hy, hd₃, rfl⟩ := hd.applyEvent verdict hrec
      exact ⟨_, s₃, hy, .of_done hd₃, fun s₄ hs₄ => ⟨hs₄.done hd₃, _, rfl⟩⟩

end

namespace System

variable {r : Registry} {reader : (chain : Chain) → (q : Query) → Except Failure q.Answer} {x : Settlement}
  {w w' : System} {k : Nat} {t : Transaction} {b : BlockchainTransaction} {d : Deployment} {receipt : Receipt}
  {log : Log} {e : Event}

/-- A payment that is waited for in a ledger that the system can come to is due. -/
theorem Reachable.due (hw : w.Reachable r) (ha : w.session.ledger.Awaits t b) (hrev : receipt.reverted = false)
    (hs : receipt.Storable) : (Settlement.mk w.session.ledger d t b receipt).Due where
  awaits := ha
  reverted hr := by
    have hb := hw.blockchainTransaction? ha.blockchainTransaction
    rcases ha.free with ht | ⟨hn, -⟩
    · obtain ⟨u, hu, -, hst⟩ := hw.kept.2.sound.linked b.id b t.id hb ht
      obtain rfl : t = u := Option.some.inj ((hw.transaction? ha.transaction).symm.trans hu)
      rw [ha.pending, hr] at hst
      simp [agreedStates] at hst
    · exact hw.kept.2.sound.unlinked b.id b hb hn hr
  transactions := hw.kept.2.keyed.transactions
  blockchainTransactions := hw.kept.2.keyed.blockchainTransactions
  applies := hrev
  storable := hs

/-- The operations of a settlement that is under way. -/
structure Settling (r : Registry) (reader : (chain : Chain) → (q : Query) → Except Failure q.Answer)
    (x : Settlement) (ops : List Operation) (w : System) : Prop where
  kept : (settling r reader x).Kept w
  begun : x.Begun w.session
  operations : w.tasks.map Task.operation = ops

theorem Settling.advance {ops : List Operation} (hw : w.Settling r reader x ops)
    (h : w.Advance (.steady r reader) k w') : w'.Settling r reader x ops where
  kept := (Regime.kept_advance hw.kept h).1
  begun := (hw.kept.others_advance h).begun hw.begun
  operations := h.operations.trans hw.operations

/-- A job and a log of the payment that it waits for come to the same ledger in whatever order their requests
are answered: the one that the receipt makes of it. Only the job may find nothing to do any more. -/
theorem job_log_confluent (hw : w.Reachable r) (ha : w.session.ledger.Awaits t b)
    (hd : r.find? b.chain = some d) (hr : reader b.chain (.receipt log.hash) = .ok (some receipt))
    (hrev : receipt.reverted = false) (hs : receipt.Storable) (hl : log ∈ receipt.logs)
    (hrem : log.removed = false) (hadr : log.address = d.contract) (he : Event.ofLog log = .ok e)
    (hh : log.hash.spelling = b.hash) (hb : log.block = receipt.block) :
    System.Inevitably (.steady r reader)
      (fun w' => w'.session.ledger.Same (Settlement.mk w.session.ledger d t b receipt).final ∧
        ∃ settled applied heard heard', w'.tasks =
            [⟨.settle t.id, .finish settled, heard⟩, ⟨.apply d log, .finish applied, heard'⟩] ∧
          ((∃ o, settled = .ok (⟨t.id, o⟩ : Settled)) ∨
            settled = .error (.settlement (.transactionNotFound t.id))) ∧
          ∃ a, applied = .ok a)
      ⟨{ w.session with faults := .none }, w.held,
        [(Operation.settle t.id).task r, (Operation.apply d log).task r]⟩ := by
  have hx := hw.due (d := d) ha hrev hs
  have hc := Registry.chain_of_find? hd
  have hp : FixedBytes.parse? 32 b.hash = some log.hash := by rw [← hh, FixedBytes.parse?_spelling]
  have hlater := w.session.later_faults .none
  have hbegun : Settlement.Begun ⟨w.session.ledger, d, t, b, receipt⟩ { w.session with faults := .none } :=
    .inl (Settlement.waits_start hx (hlater.keyed hw.kept.2.keyed) (hlater.hashed hw.hashed) rfl rfl)
  have hstart : Settling r reader ⟨w.session.ledger, d, t, b, receipt⟩ [.settle t.id, .apply d log]
      ⟨{ w.session with faults := .none }, w.held,
        [(Operation.settle t.id).task r, (Operation.apply d log).task r]⟩ := by
    refine ⟨fun task htask => ?_, hbegun, rfl⟩
    rw [← hc] at hr
    rcases List.mem_pair.1 htask with rfl | rfl
    · exact settling_settle hx hd hp hr hbegun
    · exact settling_applyLog hx hp hr hl hrem hadr he hc hh hb hbegun
  refine (inevitably_of_invariant (Outside.steady_answers r reader) Settling.advance hstart).imp ?_
  rintro ⟨s, held, tasks⟩ ⟨hw', hends⟩
  obtain ⟨⟨op, rest, heard⟩, tasks, rfl, hop, hrest⟩ := List.map_eq_cons_iff.1 hw'.operations
  obtain ⟨⟨op', rest', heard'⟩, tasks, rfl, hop', hrest⟩ := List.map_eq_cons_iff.1 hrest
  obtain rfl := List.map_eq_nil_iff.1 hrest
  obtain rfl : op = .settle t.id := hop
  obtain rfl : op' = .apply d log := hop'
  obtain ⟨settled, rfl⟩ : ∃ settled : Except Failure Settled, rest = .finish settled :=
    hends _ List.mem_cons_self
  obtain ⟨applied, rfl⟩ : ∃ applied : Except Failure Applied, rest' = .finish applied :=
    hends _ (List.mem_cons_of_mem _ List.mem_cons_self)
  -- an operation that ended is at its postcondition
  obtain ⟨hdone, hsettled⟩ := hw'.kept _ List.mem_cons_self s (.refl s)
  obtain ⟨-, happlied⟩ := hw'.kept _ (List.mem_cons_of_mem _ List.mem_cons_self) s (.refl s)
  exact ⟨hdone.same hx, settled, applied, heard, heard', rfl, hsettled, happlied⟩

/-- The donation that is waited for succeeds, whether its job or its log comes first. -/
theorem donation_confluent : System.Inevitably (.steady [Donation.deployment] Donation.node)
    (fun w' => ∃ t ∈ w'.session.ledger.transactions, t.id = .issued .transaction 1 ∧ t.state = .succeeded)
    ⟨{ Donation.awaited.session with faults := .none }, [],
      [(Operation.settle (.issued .transaction 1)).task [Donation.deployment],
        (Operation.apply Donation.deployment Donation.log).task [Donation.deployment]]⟩ := by
  have ha : Donation.awaited.session.ledger.Awaits
      { Donation.draft.row (.issued .transaction 1) with
        blockchainTransaction := some (.issued .blockchainTransaction 1) }
      ⟨.issued .blockchainTransaction 1, some (.issued .transaction 1), .optimism, Donation.hash.spelling,
        .pending, none, none, none⟩ := by
    refine ⟨by decide +kernel, by decide +kernel, rfl, rfl, rfl, .inl rfl⟩
  have hs : Donation.receipt.Storable := ⟨by decide, by decide, by decide⟩
  refine (job_log_confluent (Donation.awaited_reachable [Donation.deployment]) ha rfl rfl rfl hs
    List.mem_cons_self rfl rfl (e := Donation.event) rfl rfl rfl).imp fun w' hw' => ?_
  rw [hw'.1.transactions]
  decide +kernel

end System

end DonationLedger
