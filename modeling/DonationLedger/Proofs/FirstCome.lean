import DonationLedger.Proofs.Names
import DonationLedger.Proofs.Unclaimed
import Mathlib.Data.List.Forall2
import Mathlib.Data.List.Nodup

/-!
# First come, first served

Several transactions may wait for the same payment: to one recipient and for one target, in the same currency and of
the same amount. Logs of such payments that nobody claims go to them one by one, the oldest first
(`Ledger.Serves`). Where more logs come than transactions wait, each of the others becomes a donation of its own;
where fewer come, the youngest transactions go on waiting.
-/

namespace DonationLedger

/-- A log that was seen on the chain of a deployment. -/
structure Sighting where
  deployment : Deployment
  log : Log

/-- Where the blockchain transaction of the log is found. -/
def Sighting.place (x : Sighting) : Chain × String := (x.deployment.chain, x.log.hash.spelling)

/-- Applies logs one after another, and tells what came of each. -/
def applyEach : List Sighting → Process (List Applied)
  | [] => pure []
  | x :: xs => do
    let a ← applyLog x.deployment x.log
    let as ← applyEach xs
    pure (a :: as)

/-- The log tells of an event that passes its checks, and its payment is what the criteria ask for. -/
structure Sighting.Fulfils (x : Sighting) (l : Ledger) (c : PaymentCriteria Id) (e : Event) (p : Payment) : Prop where
  tells : ∃ index, x.log.Tells x.deployment index e
  block : x.log.block ≤ Text.maxSigned64
  accepted : Payment.screen x.deployment.settings l.content? e = .ok p
  recipient : l.user? e.creator.spelling = some c.recipient
  target : p.content = c.target
  currency : p.currency = c.currency
  amount : p.amount.same c.amount = true

namespace Ledger

/-- The transactions that wait for a payment, the oldest first. -/
def waiting (l : Ledger) (c : PaymentCriteria Id) : List Transaction := l.transactions.filter c.admits

/-- The row is stored, and the blockchain transaction `b` of the log, which names it. -/
def PaidBy (l : Ledger) (x : Sighting) (b : Id) (v : Transaction) : Prop :=
  v ∈ l.transactions ∧ ∃ d ∈ l.blockchainTransactions, d.id = b ∧ d.place = x.place ∧ d.transaction = some v.id

/-- The log was found to pay for the transaction that waited as `u`. It has succeeded, and a sender on file is kept. -/
def LinkedBy (l l' : Ledger) (c : PaymentCriteria Id) (r : Sighting × Applied) (u : Transaction) : Prop :=
  r.2 = .linked u.id ∧ ∃ e p b, r.1.Fulfils l c e p ∧ l'.PaidBy r.1 b { u with
    blockchainTransaction := some b
    state := .succeeded
    sender := u.sender <|> l.user? e.curator.spelling }

/-- The log was found to make the donation `v`. It has succeeded. -/
def CreatedBy (l l' : Ledger) (c : PaymentCriteria Id) (r : Sighting × Applied) (v : Transaction) : Prop :=
  r.2 = .created v.id ∧ ∃ e p b, r.1.Fulfils l c e p ∧
    v = (Work.donation p b c.recipient (l.user? e.curator.spelling)).row v.id ∧ l'.PaidBy r.1 b v

/-- What comes of logs that all pay what the criteria ask for, and the ledger then. -/
structure Serves (l : Ledger) (c : PaymentCriteria Id) (xs : List Sighting) (as : List Applied) (l' : Ledger) :
    Prop where
  results : as.length = xs.length
  linked : List.Forall₂ (l.LinkedBy l' c) ((xs.zip as).take (l.waiting c).length) ((l.waiting c).take xs.length)
  created : ∃ old new, l'.transactions = old ++ new ∧ old.map Transaction.id = l.transactions.map Transaction.id ∧
    new.length = xs.length - (l.waiting c).length ∧
    List.Forall₂ (l.CreatedBy l' c) ((xs.zip as).drop (l.waiting c).length) new
  left : l'.waiting c = (l.waiting c).drop xs.length
  others : ∀ v ∈ l.transactions, v ∉ (l.waiting c).take xs.length → v ∈ l'.transactions
  elsewhere : ∀ d : BlockchainTransaction, d.place ∉ xs.map Sighting.place →
    (d ∈ l'.blockchainTransactions ↔ d ∈ l.blockchainTransactions)
  beside : l.Beside l'

/-- The row `v` is stored, paid by the log through the blockchain transaction `b`. No other blockchain transaction
changes, and nothing that neither logs nor receipts write to. -/
structure Pays (l : Ledger) (x : Sighting) (b : Id) (v : Transaction) (l' : Ledger) : Prop where
  paid : l'.PaidBy x b v
  elsewhere : ∀ d : BlockchainTransaction, d.place ≠ x.place →
    (d ∈ l'.blockchainTransactions ↔ d ∈ l.blockchainTransactions)
  beside : l.Beside l'

/-- What comes of one such log, and the ledger then. -/
inductive Serve (l : Ledger) (c : PaymentCriteria Id) (x : Sighting) (l' : Ledger) : Applied → Prop
  | linked {before after : List Transaction} {u v : Transaction} {e : Event} {p : Payment} {b : Id}
    (hf : x.Fulfils l c e p) (place : l.transactions = before ++ u :: after)
    (oldest : ∀ w ∈ before, ¬ c.admits w = true) (waits : c.admits u = true)
    (hv : v = { u with
      blockchainTransaction := some b
      state := .succeeded
      sender := u.sender <|> l.user? e.curator.spelling })
    (rows : l'.transactions = before ++ v :: after) (pays : l.Pays x b v l') : Serve l c x l' (.linked u.id)
  | created {v : Transaction} {e : Event} {p : Payment} {b : Id} (hf : x.Fulfils l c e p)
    (unmatched : l.waiting c = [])
    (hv : v = (Work.donation p b c.recipient (l.user? e.curator.spelling)).row v.id)
    (rows : l'.transactions = l.transactions ++ [v]) (pays : l.Pays x b v l') : Serve l c x l' (.created v.id)

end Ledger

section
variable {s s' : Session} {l l' l'' : Ledger} {c : PaymentCriteria Id} {x : Sighting} {xs : List Sighting}
  {a : Applied} {as : List Applied} {e : Event} {p : Payment}

/-! ## Who waits -/

/-- The search for the payment finds who waits for what is asked. -/
theorem Sighting.Fulfils.admits_criteria (h : x.Fulfils l c e p) : (p.criteria c.recipient).admits = c.admits := by
  have hamount (d : Decimal) : d.same p.amount = d.same c.amount := by
    rw [Bool.eq_iff_iff]
    exact ⟨fun hd => Decimal.same_trans hd h.amount, fun hd =>
      Decimal.same_trans hd (by rw [Decimal.same_comm]; exact h.amount)⟩
  funext t
  simp only [PaymentCriteria.admits, Payment.criteria, h.target, h.currency, hamount]

theorem Sighting.Fulfils.of_beside (h : x.Fulfils l c e p) (hl : l.Beside l') : x.Fulfils l' c e p where
  tells := h.tells
  block := h.block
  accepted := by rw [hl.content?, h.accepted]
  recipient := by rw [Ledger.user?_of_users hl.users, h.recipient]
  target := h.target
  currency := h.currency
  amount := h.amount

theorem Sighting.Fulfils.of_beside' (h : x.Fulfils l' c e p) (hl : l.Beside l') : x.Fulfils l c e p :=
  h.of_beside ⟨hl.checkpoints.symm, hl.users.symm, hl.contents.symm⟩

/-- Who has ended waits no longer. -/
theorem PaymentCriteria.not_admits {v : Transaction} (hv : v.state = .succeeded) : ¬ c.admits v = true := by
  simp [admits, Transaction.isPending, hv]

namespace Ledger

variable {l₁ : Ledger} {b : Id} {u v : Transaction} {r : Sighting × Applied}

theorem LinkedBy.of_beside (h : l₁.LinkedBy l' c r u) (hl : l.Beside l₁) : l.LinkedBy l' c r u := by
  obtain ⟨hr, e, p, b, hf, hp⟩ := h
  rw [user?_of_users hl.users] at hp
  exact ⟨hr, e, p, b, hf.of_beside' hl, hp⟩

theorem CreatedBy.of_beside (h : l₁.CreatedBy l' c r v) (hl : l.Beside l₁) : l.CreatedBy l' c r v := by
  obtain ⟨hr, e, p, b, hf, hv, hp⟩ := h
  rw [user?_of_users hl.users] at hv
  exact ⟨hr, e, p, b, hf.of_beside' hl, hv, hp⟩

/-- Where no log is applied, nothing changes. -/
theorem serves_nil (l : Ledger) (c : PaymentCriteria Id) : l.Serves c [] [] l where
  results := rfl
  linked := by simp
  created := ⟨l.transactions, [], by simp, rfl, by simp, by simp⟩
  left := rfl
  others _ hv _ := hv
  elsewhere _ _ := Iff.rfl
  beside := .refl l

/-- What was paid stays so while other payments come in. -/
theorem Serves.paidBy (k : l₁.Serves c xs as l') (hx : x.place ∉ xs.map Sighting.place) (hv : v.state = .succeeded)
    (h : l₁.PaidBy x b v) : l'.PaidBy x b v := by
  obtain ⟨hm, d, hd, hi, hp, ht⟩ := h
  have hwait : v ∉ (l₁.waiting c).take xs.length := fun hw =>
    PaymentCriteria.not_admits hv (List.mem_filter.1 (List.mem_of_mem_take hw)).2
  exact ⟨k.others v hm hwait, d, (k.elsewhere d (hp ▸ hx)).2 hd, hi, hp, ht⟩

/-- The oldest that waits is linked, and the others go on waiting. -/
theorem waiting_of_linked {before after : List Transaction} (place : l.transactions = before ++ u :: after)
    (oldest : ∀ w ∈ before, ¬ c.admits w = true) (waits : c.admits u = true) (hv : v.state = .succeeded)
    (rows : l'.transactions = before ++ v :: after) : l.waiting c = u :: l'.waiting c := by
  have hbefore : before.filter c.admits = [] := List.filter_eq_nil_iff.2 oldest
  unfold waiting
  rw [place, rows, List.filter_append, List.filter_append, hbefore, List.filter_cons_of_pos waits,
    List.filter_cons_of_neg (PaymentCriteria.not_admits hv)]
  rfl

theorem Pays.elsewhere_cons (h : l.Pays x b v l₁) (k : l₁.Serves c xs as l') {d : BlockchainTransaction}
    (hd : d.place ∉ (x :: xs).map Sighting.place) : d ∈ l'.blockchainTransactions ↔ d ∈ l.blockchainTransactions := by
  rw [List.map_cons, List.mem_cons, not_or] at hd
  exact (k.elsewhere d hd.2).trans (h.elsewhere d hd.1)

/-- A transaction that waited is paid, and then come others of other blockchain transactions. -/
theorem Serves.cons_linked {before after : List Transaction} (k : l₁.Serves c xs as l')
    (hx : x.place ∉ xs.map Sighting.place) (hf : x.Fulfils l c e p) (place : l.transactions = before ++ u :: after)
    (oldest : ∀ w ∈ before, ¬ c.admits w = true) (waits : c.admits u = true)
    (hv : v = { u with
      blockchainTransaction := some b
      state := .succeeded
      sender := u.sender <|> l.user? e.curator.spelling })
    (rows : l₁.transactions = before ++ v :: after) (pays : l.Pays x b v l₁) :
    l.Serves c (x :: xs) (.linked u.id :: as) l' := by
  have hsucc : v.state = .succeeded := by rw [hv]
  have hwait : l.waiting c = u :: l₁.waiting c := waiting_of_linked place oldest waits hsucc rows
  have hids₁ : l₁.transactions.map Transaction.id = l.transactions.map Transaction.id := by
    rw [rows, place, hv]
    simp
  obtain ⟨old, new, hrows, hids, hlen, hnew⟩ := k.created
  constructor
  case results => rw [List.length_cons, List.length_cons, k.results]
  case linked =>
    rw [hwait]
    exact .cons ⟨rfl, e, p, b, hf, hv ▸ k.paidBy hx hsucc pays.paid⟩
      (k.linked.imp fun _ _ hr => hr.of_beside pays.beside)
  case created =>
    rw [hwait]
    refine ⟨old, new, hrows, hids.trans hids₁, ?_, hnew.imp fun _ _ hr => hr.of_beside pays.beside⟩
    rw [List.length_cons, List.length_cons, hlen]
    omega
  case left =>
    rw [hwait, k.left]
    rfl
  case others =>
    intro w hw hn
    rw [hwait, List.length_cons, List.take_succ_cons, List.mem_cons, not_or] at hn
    refine k.others w ?_ hn.2
    rw [place] at hw
    rw [rows]
    have hw : w ∈ before ∨ w ∈ after := by simpa [hn.1] using hw
    simpa using hw.imp_right .inr
  case elsewhere => exact fun _ hd => pays.elsewhere_cons k hd
  case beside => exact pays.beside.trans k.beside

/-- Where no transaction waits, a donation is made, and then come others of other blockchain transactions. -/
theorem Serves.cons_created (k : l₁.Serves c xs as l') (hx : x.place ∉ xs.map Sighting.place)
    (hk : (l'.transactions.map Transaction.id).Nodup) (hf : x.Fulfils l c e p) (unmatched : l.waiting c = [])
    (hv : v = (Work.donation p b c.recipient (l.user? e.curator.spelling)).row v.id)
    (rows : l₁.transactions = l.transactions ++ [v]) (pays : l.Pays x b v l₁) :
    l.Serves c (x :: xs) (.created v.id :: as) l' := by
  have hsucc : v.state = .succeeded := by
    rw [hv]
    rfl
  have hwait : l₁.waiting c = [] := by
    unfold waiting at unmatched ⊢
    rw [rows, List.filter_append, unmatched, List.filter_cons_of_neg (PaymentCriteria.not_admits hsucc)]
    rfl
  have hpaid := k.paidBy hx hsucc pays.paid
  obtain ⟨old, new, hrows, hids, hlen, hnew⟩ := k.created
  -- the last of the rows that were there before the other logs is the donation
  obtain ⟨before, w, rfl, hbefore, hw⟩ : ∃ before w, old = before ++ [w] ∧
      before.map Transaction.id = l.transactions.map Transaction.id ∧ w.id = v.id := by
    rw [rows, List.map_append] at hids
    obtain ⟨before, last, rfl, hb, hl⟩ := List.map_eq_append_iff.1 hids
    obtain ⟨w, rfl, hw⟩ : ∃ w, last = [w] ∧ w.id = v.id := by simpa using hl
    exact ⟨before, w, rfl, hb, hw⟩
  obtain rfl : w = v := List.inj_on_of_nodup_map hk (by simp [hrows]) hpaid.1 hw
  constructor
  case results => rw [List.length_cons, List.length_cons, k.results]
  case linked =>
    rw [unmatched]
    simp
  case created =>
    rw [unmatched]
    rw [hwait] at hlen hnew
    refine ⟨before, w :: new, ?_, hbefore, congrArg (· + 1) hlen,
      .cons ⟨rfl, e, p, b, hf, hv, hpaid⟩ (hnew.imp fun _ _ hr => hr.of_beside pays.beside)⟩
    rw [hrows, List.append_assoc]
    rfl
  case left =>
    rw [k.left, hwait, unmatched]
    simp
  case others =>
    intro w' hw' _
    refine k.others w' ?_ ?_
    · rw [rows]
      exact List.mem_append_left _ hw'
    · rw [hwait]
      simp
  case elsewhere => exact fun _ hd => pays.elsewhere_cons k hd
  case beside => exact pays.beside.trans k.beside

/-- A payment, and then others of other blockchain transactions. -/
theorem Serves.cons (h : l.Serve c x l₁ a) (k : l₁.Serves c xs as l') (hx : x.place ∉ xs.map Sighting.place)
    (hk : (l'.transactions.map Transaction.id).Nodup) : l.Serves c (x :: xs) (a :: as) l' := by
  cases h with
  | linked hf place oldest waits hv rows pays => exact k.cons_linked hx hf place oldest waits hv rows pays
  | created hf unmatched hv rows pays => exact k.cons_created hx hk hf unmatched hv rows pays

end Ledger

/-! ## One log -/

/-- A blockchain transaction that nobody claims is not linked, and not expected. -/
theorem Session.Named.unclaimed {chain : Chain} {hash : String} {block : Int} {b : BlockchainTransaction} (h : s.Named)
    (hn : s.ledger.Unclaimed chain hash) (ho : Obtained s chain hash block b s') :
    b.transaction = none ∧ s.ledger.expecting? b.id = none := by
  cases ho with
  | found hb => exact hn.of_byHash? hb
  | stored _ hb =>
    rw [hb]
    exact ⟨rfl, h.expecting?_next _⟩

/-- The ledger transaction of a log that pays what is asked for goes to the oldest transaction that waits, and where
none does it makes a donation. -/
theorem Work.serve_applyEvent {block index : Int} {r : LogStep} (hs : s.Named)
    (hn : s.ledger.Unclaimed x.deployment.chain x.log.hash.spelling) (hf : x.Fulfils s.ledger c e p)
    (hy : (applyEvent x.deployment.chain x.log.hash.spelling block index e (.ok p)).Yields s r s') :
    ∃ a, r = .applied a ∧ s.ledger.Serve c x s'.ledger a := by
  have hk' := ((lasting_applyEvent _ _ _ _ _ _).later hy).keyed hs.toKeyed
  obtain ⟨b, s₁, s₂, ho, hk₂, -, ht₂, hnotes, hcr⟩ := applyEvent_credited hs.toKeyed hy
  obtain ⟨hbt, hex⟩ := hs.unclaimed hn ho
  have ht : s₂.ledger.transactions = s.ledger.transactions := ht₂.trans ho.transactions
  have huser := Ledger.user?_spelling_of_users (hnotes.users.trans ho.users)
  have hnone : s₂.ledger.linked? (b.seen block) = none :=
    (Ledger.linked?_seen ht b block).trans (Ledger.linked?_eq_none hbt hex)
  have hpays {u v : Transaction} {l : Ledger} (hl : l.Rewrites v ((b.seen block).linkedTo u.id) [] s'.ledger)
      (hi : v.id = u.id) : s.ledger.Pays x b.id v s'.ledger := by
    refine ⟨⟨(Ledger.transaction?_mem hl.transaction_self).1, _,
      (Ledger.blockchainTransaction?_mem hl.blockchainTransaction_self).1, rfl, ho.place, congrArg some hi.symm⟩,
      fun _ hd => mem_iff_applyEvent hs.toKeyed hy hd, beside_applyEvent hs.toKeyed hy⟩
  cases hcr with
  | expected hu => exact nomatch hnone.symm.trans hu
  | settled hu => exact nomatch hnone.symm.trans hu
  | invalid _ _ hv => cases hv
  | unknown _ _ _ hr =>
    rw [huser, hf.recipient] at hr
    cases hr
  | @matched p' recipient u _ _ _ hv hr hm hl =>
    obtain rfl := Except.ok.inj hv
    rw [huser] at hr hl
    obtain rfl := Option.some.inj (hf.recipient.symm.trans hr)
    rw [Ledger.pendingMatch?, hf.admits_criteria, find?_eq_some_iff_isFirst] at hm
    obtain ⟨before, after, hsplit, hwaits, holdest⟩ := hm
    exact ⟨_, rfl, .linked hf (ht ▸ hsplit) holdest hwaits rfl (hl.replaced (v := u) rfl hsplit hk₂.transactions)
      (hpays hl rfl)⟩
  | @created p' recipient u _ _ _ hv hr hm hu hl =>
    obtain rfl := Except.ok.inj hv
    rw [huser] at hr hu
    obtain rfl := Option.some.inj (hf.recipient.symm.trans hr)
    rw [Ledger.pendingMatch?, hf.admits_criteria, List.find?_eq_none, ht] at hm
    have hid : u.id = s₂.supply.next .transaction := by
      rw [hu]
      rfl
    have hrows := hl.appended rfl hk'.transactions
    exact ⟨_, rfl, .created hf (List.filter_eq_nil_iff.2 hm) (hid ▸ hu) (ht ▸ hrows) (hpays hl rfl)⟩

/-- What was paid is one row, which names the blockchain transaction of the log. -/
theorem Ledger.Serve.pays (h : l.Serve c x l' a) : ∃ b v, l.Pays x b v l' ∧ v.blockchainTransaction = some b ∧
    ∀ w ∈ l'.transactions, w ∈ l.transactions ∨ w = v := by
  cases h with
  | linked _ place _ _ hv rows pays =>
    refine ⟨_, _, pays, by rw [hv], fun w hw => ?_⟩
    rw [rows] at hw
    rw [place]
    simp only [List.mem_append, List.mem_cons] at hw ⊢
    tauto
  | created _ _ hv rows pays =>
    refine ⟨_, _, pays, by rw [hv]; rfl, fun w hw => ?_⟩
    rw [rows] at hw
    exact (List.mem_append.1 hw).imp_right List.mem_singleton.1

/-- Other blockchain transactions that nobody claimed are not claimed afterwards. -/
theorem Ledger.Serve.unclaimed (h : l.Serve c x l' a)
    (hk : (l'.blockchainTransactions.map BlockchainTransaction.id).Nodup) {chain : Chain} {hash : String}
    (hp : (chain, hash) ≠ x.place) (hn : l.Unclaimed chain hash) : l'.Unclaimed chain hash := by
  obtain ⟨b, v, hpays, hvb, hrows⟩ := h.pays
  intro d hd hch hh
  have hplace : d.place ≠ x.place := by rwa [BlockchainTransaction.place, hch, hh]
  obtain ⟨hdt, hu⟩ := hn d ((hpays.elsewhere d hplace).1 hd) hch hh
  refine ⟨hdt, fun w hw hprov hwb => ?_⟩
  rcases hrows w hw with hw | rfl
  · exact hu w hw hprov hwb
  · obtain ⟨-, d', hd', hi, hd'p, -⟩ := hpays.paid
    obtain rfl := Option.some.inj (hvb.symm.trans hwb)
    obtain rfl := List.inj_on_of_nodup_map hk hd' hd hi
    exact hplace hd'p

/-- Applied alone, a log that pays what is asked for asks no node. -/
theorem Process.serve_applyLog (reader : Reader) (hs : s.Named) (hf : s.faults = .none)
    (hn : s.ledger.Unclaimed x.deployment.chain x.log.hash.spelling) (hp : x.Fulfils s.ledger c e p) :
    ∃ a s', (applyLog x.deployment x.log).alone reader s = (.ok a, s') ∧
      (applyLog x.deployment x.log).asked reader s = [] ∧ s'.Named ∧ s'.faults = .none ∧
      s.ledger.Serve c x s'.ledger a := by
  obtain ⟨index, ht⟩ := hp.tells
  obtain ⟨r, s', hy, hf'⟩ := Work.clean_applyEvent_unclaimed (x.log.block : Int) x.log.index e
    (Payment.screen x.deployment.settings s.ledger.content? e) hs.toKeyed hn hf
  obtain ⟨a, rfl, hserve⟩ := Work.serve_applyEvent hs hn hp (hp.accepted ▸ hy)
  obtain ⟨halone, hasked⟩ : (applyLog x.deployment x.log).alone reader s = (.ok a, s') ∧
      (applyLog x.deployment x.log).asked reader s = [] :=
    Process.alone_applyLog_of_applied (ht.applicable? hp.block) hy
  exact ⟨a, s', halone, hasked, hs.applyEvent hy, hf', hserve⟩

end

/-! ## All logs -/

/-- Apply any number of logs in any order, of blockchain transactions that are different and that nobody claims, whose
payments are all what the criteria ask for. Nothing fails and no node is asked. The first logs go to the transactions
that wait for such a payment, one to each and the oldest first; each log that finds none makes a donation of its own;
the youngest that no log is left for go on waiting, and no other transaction changes. -/
theorem equal_payments_first_come (reader : Reader) {s : Session} {c : PaymentCriteria Id} {xs : List Sighting}
    (hs : s.Named) (hf : s.faults = .none) (hd : (xs.map Sighting.place).Nodup)
    (hn : ∀ x ∈ xs, s.ledger.Unclaimed x.deployment.chain x.log.hash.spelling)
    (hp : ∀ x ∈ xs, ∃ e p, x.Fulfils s.ledger c e p) :
    ∃ as s', (applyEach xs).alone reader s = (.ok as, s') ∧ (applyEach xs).asked reader s = [] ∧ s'.Named ∧
      s.ledger.Serves c xs as s'.ledger := by
  induction xs generalizing s with
  | nil => exact ⟨[], s, rfl, rfl, hs, s.ledger.serves_nil c⟩
  | cons x xs ih =>
    obtain ⟨hx, hd⟩ := List.nodup_cons.1 hd
    obtain ⟨e, p, hxp⟩ := hp x List.mem_cons_self
    obtain ⟨a, s₁, halone, hasked, hs₁, hf₁, hserve⟩ :=
      Process.serve_applyLog reader hs hf (hn x List.mem_cons_self) hxp
    -- what the other logs need is not touched
    have hn₁ (y : Sighting) (hy : y ∈ xs) : s₁.ledger.Unclaimed y.deployment.chain y.log.hash.spelling :=
      hserve.unclaimed hs₁.blockchainTransactions (fun h => hx (h ▸ List.mem_map_of_mem hy))
        (hn y (List.mem_cons_of_mem _ hy))
    have hp₁ (y : Sighting) (hy : y ∈ xs) : ∃ e p, y.Fulfils s₁.ledger c e p := by
      obtain ⟨e, p, hyp⟩ := hp y (List.mem_cons_of_mem _ hy)
      obtain ⟨b, v, hpays, -⟩ := hserve.pays
      exact ⟨e, p, hyp.of_beside hpays.beside⟩
    obtain ⟨as, s', halone', hasked', hs', hserves⟩ := ih hs₁ hf₁ hd hn₁ hp₁
    refine ⟨a :: as, s', ?_, ?_, hs', hserves.cons hserve hx hs'.transactions⟩
    · rw [applyEach, Process.alone_bind halone, Process.alone_bind halone']
      rfl
    · rw [applyEach, Process.asked_bind halone, hasked, Process.asked_bind halone', hasked']
      rfl

namespace Donation

/-- The log of the donation, and the same of another blockchain transaction. -/
def twice : List Sighting :=
  [⟨deployment, log⟩, ⟨deployment, { log with hash := otherHash }⟩]

theorem fulfils_promised (h : Hash) : (⟨deployment, { log with hash := h }⟩ : Sighting).Fulfils
    promised.session.ledger (payment.criteria (.issued .user 1)) event payment where
  tells := ⟨0, log_tells.stands, log_tells.emitter, log_tells.range, log_tells.index, log_tells.event⟩
  block := Nat.le_of_ble_eq_true rfl
  accepted := by rfl
  recipient := by decide +kernel
  target := rfl
  currency := rfl
  amount := Decimal.same_refl _

end Donation

/-- Of two logs that each pay what was promised once, the first pays for the promise, and the second makes a donation of
its own. -/
theorem promise_served_once : ∃ t s', (applyEach Donation.twice).alone Donation.node Donation.promised.session =
    (.ok [.linked (.issued .transaction 1), .created t], s') := by
  have hw := Donation.promised_reachable []
  have hplaces : (Donation.twice.map Sighting.place).Nodup := by decide +kernel
  obtain ⟨as, s', halone, -, -, hserves⟩ := equal_payments_first_come Donation.node
    (c := Donation.payment.criteria (.issued .user 1)) hw.named rfl hplaces
    (fun x _ c hc => by cases hc) fun x hx => by
      rcases List.mem_cons.1 hx with rfl | hx
      · exact ⟨_, _, Donation.fulfils_promised Donation.hash⟩
      · rw [List.mem_singleton.1 hx]
        exact ⟨_, _, Donation.fulfils_promised _⟩
  have hwaits : (Donation.promised.session.ledger.waiting (Donation.payment.criteria (.issued .user 1))).map
      Transaction.id = [.issued .transaction 1] := by decide +kernel
  obtain ⟨u, hu, hid⟩ : ∃ u, Donation.promised.session.ledger.waiting
      (Donation.payment.criteria (.issued .user 1)) = [u] ∧ u.id = .issued .transaction 1 := by
    simpa [List.map_eq_singleton_iff] using hwaits
  obtain ⟨a, b, rfl⟩ := List.length_eq_two.1 hserves.results
  have hlinked := hserves.linked
  obtain ⟨-, new, -, -, -, hcreated⟩ := hserves.created
  rw [hu] at hlinked hcreated
  cases hlinked with
  | cons ha _ =>
    cases hcreated with
    | @cons _ v _ _ hb _ =>
      obtain ⟨rfl, -⟩ := ha
      obtain ⟨rfl, -⟩ := hb
      exact ⟨v.id, s', hid ▸ halone⟩

end DonationLedger
