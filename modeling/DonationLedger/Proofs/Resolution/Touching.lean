import DonationLedger.Proofs.Names
import DonationLedger.Proofs.Resolution.Walk
import DonationLedger.Proofs.System.Keeping

/-!
# What a resolution touches

Rows are found by their ids, by links and by hashes, and still a receipt or a log touches the rows of one transaction
and of one blockchain transaction only (`Ledger.Touches`). Which transaction a log touches, and how, can be told from
its result (`Applied.Does`).
-/

namespace DonationLedger

/-- `l'` is `l` but for one transaction and one blockchain transaction, which may be new, and for new records of the
blockchain transaction. -/
structure Ledger.Touches (l : Ledger) (t b : Option Id) (l' : Ledger) : Prop extends Beside l l' where
  transaction : ∀ i, some i ≠ t → l'.transaction? i = l.transaction? i
  blockchainTransaction : ∀ i, some i ≠ b → l'.blockchainTransaction? i = l.blockchainTransaction? i
  placed : ∀ i c, l.blockchainTransaction? i = some c →
    ∃ c', l'.blockchainTransaction? i = some c' ∧ c'.place = c.place
  records : l.records <+: l'.records
  recorded : ∀ q ∈ l'.records, q ∈ l.records ∨ some q.blockchainTransaction = b

/-- The row of this id is that of the blockchain transaction at this place. -/
def Ledger.Places (l : Ledger) (b : Id) (place : Chain × String) : Prop :=
  ∃ c, l.blockchainTransaction? b = some c ∧ c.place = place

namespace Ledger

variable {l l' l'' : Ledger} {t b : Option Id} {u : Transaction} {c : BlockchainTransaction} {rs : List AuditRecord}

theorem records_prefix_addRecords (l : Ledger) (rs : List AuditRecord) : l.records <+: (l.addRecords rs).records := by
  induction rs generalizing l with
  | nil => exact List.prefix_rfl
  | cons r rs ih =>
    refine List.IsPrefix.trans ?_ (ih (l.addRecord r))
    rcases l.records_addRecord_cases r with ⟨-, hr⟩ | ⟨-, hr⟩
    · exact hr ▸ List.prefix_rfl
    · exact hr ▸ List.prefix_append _ _

namespace Touches

theorem refl (l : Ledger) (t b : Option Id) : l.Touches t b l where
  toBeside := .refl l
  transaction _ _ := rfl
  blockchainTransaction _ _ := rfl
  placed _ c hc := ⟨c, hc, rfl⟩
  records := List.prefix_rfl
  recorded _ hq := .inl hq

theorem trans (h : l.Touches t b l') (k : l'.Touches t b l'') : l.Touches t b l'' where
  toBeside := h.toBeside.trans k.toBeside
  transaction i hi := (k.transaction i hi).trans (h.transaction i hi)
  blockchainTransaction i hi := (k.blockchainTransaction i hi).trans (h.blockchainTransaction i hi)
  placed i c hc := by
    obtain ⟨c', hc', hp⟩ := h.placed i c hc
    obtain ⟨c'', hc'', hp'⟩ := k.placed i c' hc'
    exact ⟨c'', hc'', hp'.trans hp⟩
  records := h.records.trans k.records
  recorded q hq := (k.recorded q hq).elim (h.recorded q) .inr

/-- Where no transaction is touched, none but this one is. -/
theorem widen (h : l.Touches none b l') (t : Option Id) : l.Touches t b l' where
  toBeside := h.toBeside
  transaction i _ := h.transaction i nofun
  blockchainTransaction := h.blockchainTransaction
  placed := h.placed
  records := h.records
  recorded := h.recorded

theorem places {b' : Id} {place : Chain × String} (h : l.Touches t b l') (hp : l.Places b' place) :
    l'.Places b' place := by
  obtain ⟨c, hc, rfl⟩ := hp
  exact h.placed b' c hc

end Touches

/-- A note on a blockchain transaction that stays at its place touches no other one. -/
theorem Notes.touches (h : l.Notes c rs l') (hp : l.Places c.id c.place)
    (hr : ∀ q ∈ rs, q.blockchainTransaction = c.id)
    (ht : ∀ i, some i ≠ t → l'.transaction? i = l.transaction? i) : l.Touches t (some c.id) l' where
  toBeside := h.beside
  transaction := ht
  blockchainTransaction i hi := by
    rw [h.blockchainTransaction, if_neg]
    exact fun he => hi (congrArg some he)
  placed i d hd := by
    rw [h.blockchainTransaction]
    split
    · rename_i hi
      obtain ⟨c₀, hc₀, hplace⟩ := hp
      obtain rfl := Option.some.inj (hc₀.symm.trans (hi ▸ hd))
      exact ⟨c, rfl, hplace.symm⟩
    · exact ⟨d, hd, rfl⟩
  records := h.records ▸ l.records_prefix_addRecords rs
  recorded q hq := by
    rw [h.records] at hq
    exact (of_mem_records_addRecords hq).imp_right fun hq => congrArg some (hr q hq)

theorem Rewrites.touches (h : l.Rewrites u c rs l') (hp : l.Places c.id c.place)
    (hr : ∀ q ∈ rs, q.blockchainTransaction = c.id) : l.Touches (some u.id) (some c.id) l' :=
  h.toNotes.touches hp hr fun i hi => by
    rw [h.transaction, if_neg]
    exact fun he => hi (congrArg some he)

/-- Only the two rows of a pair are written anew, with records of the pair. -/
def RewritesPair (l : Ledger) (b t : Id) (l' : Ledger) : Prop :=
  ∃ u c rs, l.Rewrites u c rs l' ∧ u.id = t ∧ c.id = b ∧ l.Places b c.place ∧
    ∀ q ∈ rs, q.blockchainTransaction = b

theorem RewritesPair.touches {b t : Id} (h : l.RewritesPair b t l') : l.Touches (some t) (some b) l' := by
  obtain ⟨u, c, rs, hl, rfl, rfl, hp, hr⟩ := h
  exact hl.touches hp hr

theorem RewritesPair.ids {b t : Id} (h : l.RewritesPair b t l') :
    l'.transactions.map Transaction.id = l.transactions.map Transaction.id := by
  obtain ⟨u, c, rs, hl, -⟩ := h
  exact hl.ids

end Ledger

theorem Closed.place {l : Ledger} {t : Id} {r : Receipt} {block : Int} {os : List Observed}
    {c d : BlockchainTransaction} {u v : Transaction} {o : Outcome} {rs : List AuditRecord}
    (h : Closed l t r block os c u o v d rs) : d.place = c.place := by cases h <;> rfl

namespace Work

variable {s s' : Session} {b t : Id}

theorem rewritesPair_openPair {p : BlockchainTransaction × Option Outcome} (hy : Yields (openPair b t) s p s') :
    s.ledger.RewritesPair b t s'.ledger := by
  obtain ⟨c, u, v, hp, -, hv, hl⟩ := openPair_rewrites hy
  have hb : c.id = b := (Ledger.blockchainTransaction?_mem hp.blockchainTransaction).2
  have ht : u.id = t := (Ledger.transaction?_mem hp.transaction).2
  exact ⟨v, c.linkedTo t, [], hl, hv.id.trans ht, hb, ⟨c, hp.blockchainTransaction, rfl⟩, nofun⟩

theorem rewritesPair_closePair {r : Receipt} {block : Int} {os : List Observed} {o : Outcome}
    (hy : Yields (closePair b t r block os) s o s') : s.ledger.RewritesPair b t s'.ledger := by
  obtain ⟨c, u, v, d, rs, hp, hc, hl⟩ := closePair_rewrites hy
  have hb : c.id = b := (Ledger.blockchainTransaction?_mem hp.blockchainTransaction).2
  have ht : u.id = t := (Ledger.transaction?_mem hp.transaction).2
  refine ⟨v, d, rs, hl, hc.id.trans ht, hc.id'.trans hb, ⟨c, hp.blockchainTransaction, ?_⟩, fun q hq => ?_⟩
  · exact hc.place.symm
  · exact (hc.of_mem_records hq).trans hb

end Work

/-! ## Results of logs -/

/-- The transaction that was changed or is new. -/
def Applied.changed? : Applied → Option Id
  | .linked t => some t
  | .rejected t => some t
  | .created t => some t
  | _ => none

theorem Applied.changed?_ofOutcome (t : Id) (o : Outcome) : (Applied.ofOutcome t o).changed? = some t := by
  cases o <;> rfl

/-- The transaction of `t`, and no other one, is in another row. -/
structure Ledger.Alters (l : Ledger) (t : Id) (v : Transaction) (l' : Ledger) : Prop where
  self : l'.transaction? t = some v
  others : ∀ i, i ≠ t → l'.transaction? i = l.transaction? i

/-- What a log that was applied with this result did to the transactions. -/
inductive Applied.Does (l l' : Ledger) : Applied → Prop
  | nothing {a : Applied} (ha : a.changed? = none) (hl : l'.transactions = l.transactions) : Does l l' a
  | settles {t : Id} {u v : Transaction} {o : Outcome}
    (hids : l'.transactions.map Transaction.id = l.transactions.map Transaction.id)
    (hu : l.transaction? t = some u) (hp : u.state = .pending) (hv : l.Alters t v l') (ho : v.state = o.state) :
    Does l l' (.ofOutcome t o)
  | creates {t : Id} {v : Transaction}
    (hids : l'.transactions.map Transaction.id = l.transactions.map Transaction.id ++ [t])
    (hn : l.transaction? t = none) (hv : l.Alters t v l') (ho : v.state = .succeeded) : Does l l' (.created t)

theorem Ledger.transaction?_congr {l l' : Ledger} (h : l'.transactions = l.transactions) :
    l'.transaction? = l.transaction? := by
  unfold transaction?
  rw [h]

theorem Applied.Does.transaction? {l l' : Ledger} {a : Applied} (h : a.Does l l') {i : Id} (hi : some i ≠ a.changed?) :
    l'.transaction? i = l.transaction? i := by
  cases h with
  | nothing ha hl => exact congrFun (Ledger.transaction?_congr hl) i
  | settles hids hu hp hv ho =>
    exact hv.others i fun he => hi (he ▸ (Applied.changed?_ofOutcome _ _).symm)
  | creates hids hn hv ho => exact hv.others i fun he => hi (congrArg some he)

/-- What a log did is told from the transactions that there were. -/
theorem Applied.Does.congr {l₀ l l' : Ledger} {a : Applied} (h : a.Does l l') (hl : l.transactions = l₀.transactions) :
    a.Does l₀ l' := by
  have ht : l.transaction? = l₀.transaction? := Ledger.transaction?_congr hl
  have halters {t : Id} {v : Transaction} (hv : l.Alters t v l') : l₀.Alters t v l' :=
    ⟨hv.self, fun i hi => ht ▸ hv.others i hi⟩
  cases h with
  | nothing ha h => exact .nothing ha (h.trans hl)
  | settles hids hu hp hv ho => exact .settles (hl ▸ hids) (ht ▸ hu) hp (halters hv) ho
  | creates hids hn hv ho => exact .creates (hl ▸ hids) (ht ▸ hn) (halters hv) ho

/-- What a log did to the transactions when its ledger transaction is over. It may be left to the receipt. -/
def LogStep.Does (l l' : Ledger) (b : Id) : LogStep → Prop
  | .applied a => a.Does l l'
  | .needsReceipt b' t => b' = b ∧ l'.transactions = l.transactions ∧
    ∃ u, l.transaction? t = some u ∧ u.state = .pending

def LogStep.changed? : LogStep → Option Id
  | .applied a => a.changed?
  | .needsReceipt .. => none

theorem LogStep.Does.congr {l₀ l l' : Ledger} {b : Id} {r : LogStep} (h : r.Does l l' b)
    (hl : l.transactions = l₀.transactions) : r.Does l₀ l' b := by
  cases r with
  | applied a => exact Applied.Does.congr h hl
  | needsReceipt b' t => exact ⟨h.1, h.2.1.trans hl, Ledger.transaction?_congr hl ▸ h.2.2⟩

theorem LogStep.Does.transaction? {l l' : Ledger} {b : Id} {r : LogStep} (h : r.Does l l' b) {i : Id}
    (hi : some i ≠ r.changed?) : l'.transaction? i = l.transaction? i := by
  cases r with
  | applied a => exact Applied.Does.transaction? h hi
  | needsReceipt b' t => exact congrFun (Ledger.transaction?_congr h.2.1) i

section
variable {s s' : Session} {chain : Chain} {hash : String} {block index : Int} {c : BlockchainTransaction} {e : Event}
  {verdict : Except InvalidReason Payment} {r : LogStep}

theorem Ledger.linked?_some {l : Ledger} {u : Transaction} (hk : (l.transactions.map Transaction.id).Nodup)
    (h : l.linked? c = some u) : l.transaction? u.id = some u := by
  unfold linked? at h
  split at h
  · exact transaction?_of_mem hk (transaction?_mem h).1
  · exact transaction?_of_mem hk (expecting?_some h).1

theorem Credited.does (h : Credited s c e verdict r s') (hk : s.Keyed) : r.Does s.ledger s'.ledger c.id := by
  cases h with
  | expected hu hp =>
    exact ⟨rfl, rfl, _, Ledger.linked?_some hk.transactions hu, by simpa [Transaction.isPending] using hp⟩
  | settled => exact .nothing rfl rfl
  | invalid => exact .nothing rfl rfl
  | unknown => exact .nothing rfl rfl
  | @matched _ _ u _ _ _ _ _ hm hl =>
    obtain ⟨hmem, hcriteria⟩ := Ledger.pendingMatch?_some hm
    have hp : u.state = .pending := by
      simp only [PaymentCriteria.admits, Transaction.isPending, Bool.and_eq_true, beq_iff_eq] at hcriteria
      exact hcriteria.1.1.1.1.1.2
    show Applied.Does _ _ (.ofOutcome u.id .succeeded)
    exact .settles hl.ids (Ledger.transaction?_of_mem hk.transactions hmem) hp
      ⟨hl.transaction_self, fun i hi => by rw [hl.transaction, if_neg hi]⟩ rfl
  | @created _ _ u _ _ _ _ _ _ hu hl =>
    have hid : u.id = s.supply.next .transaction := by
      rw [hu]
      rfl
    have hn : s.ledger.transaction? u.id = none := hid ▸ hk.transaction?_next _
    refine .creates (v := u) ?_ hn ⟨hl.transaction_self, fun i hi => ?_⟩ ?_
    · rw [hl.ids]
      exact List.map_append
    · rw [hl.transaction, if_neg hi, Ledger.transaction?_addTransaction _ _ _ hn, if_neg hi]
    · rw [hu]
      rfl

theorem Obtained.touches (h : Obtained s chain hash block c s') (hk : s.Keyed) (t : Option Id) :
    s.ledger.Touches t (some c.id) s'.ledger := by
  cases h with
  | found _ hl _ => exact hl ▸ .refl s.ledger t (some c.id)
  | stored _ hc hl _ =>
    have hn : s.ledger.blockchainTransaction? c.id = none := by
      rw [hc]
      exact hk.blockchainTransaction?_next _
    have hb (i : Id) : s'.ledger.blockchainTransaction? i =
        if i = c.id then some c else s.ledger.blockchainTransaction? i := by
      rw [hl, Ledger.blockchainTransaction?_addBlockchainTransaction _ _ _ hn]
    refine ⟨by rw [hl]; exact ⟨rfl, rfl, rfl⟩, fun i _ => by rw [hl]; rfl, fun i hi => ?_, fun i d hd => ?_, ?_, ?_⟩
    · rw [hb, if_neg]
      exact fun he => hi (congrArg some he)
    · refine ⟨d, ?_, rfl⟩
      rw [hb, if_neg]
      · exact hd
      · rintro rfl
        exact nomatch hn.symm.trans hd
    · rw [hl]
      exact List.prefix_rfl
    · rw [hl]
      exact fun q hq => .inl hq

/-- The ledger transaction of a log touches the blockchain transaction of the log, and of the transactions at most the
one that it settles or stores. -/
theorem Work.touches_applyEvent (hk : s.Keyed) (hy : Yields (applyEvent chain hash block index e verdict) s r s') :
    ∃ b, s.ledger.Touches r.changed? (some b) s'.ledger ∧ s'.ledger.Places b (chain, hash) ∧
      r.Does s.ledger s'.ledger b := by
  obtain ⟨c, s₁, s₂, ho, hk₂, -, ht₂, hn, hcr⟩ := applyEvent_credited hk hy
  have hdoes := hcr.does hk₂
  have hl : s₂.ledger.transactions = s.ledger.transactions := ht₂.trans ho.transactions
  have hc₁ : s₁.ledger.Places c.id (c.seen block).place := ⟨c, ho.blockchainTransaction? hk, rfl⟩
  have hn' := hn.touches (t := none) hc₁ (fun q hq => by rw [List.mem_singleton.1 hq]; rfl)
    fun i _ => congrFun (Ledger.transaction?_congr ht₂) i
  have hc₂ : s₂.ledger.Places c.id (chain, hash) := ho.place ▸ hn'.places hc₁
  obtain ⟨t, -, hcn⟩ := hcr.notes (by rw [hn.blockchainTransaction, if_pos rfl])
  have hcr' := hcn.touches (t := r.changed?) (ho.place ▸ hc₂) nofun fun i hi => hdoes.transaction? hi
  refine ⟨c.id, ((ho.touches hk none).trans hn').widen _ |>.trans hcr', hcr'.places hc₂, hdoes.congr hl⟩

end

/-! ## Operations -/

section
variable {r : Registry} {inv pair : Ledger → Prop} {d : Deployment} {b t : Id} {h : List Told} {s : Session}

/-- What holds as long as only a pair is rewritten is kept by its receipt, and holds of the pair that has ended. -/
theorem keeping_resolveReceipt (hinv : ∀ l, pair l → inv l) (hpair : ∀ l l', pair l → l.RewritesPair b t l' → pair l')
    (hs : pair s.ledger) : (resolveReceipt d b t).Meets (keeping r inv)
      (fun _ x s' => ∀ o, x = .ok o → pair s'.ledger ∧ s'.ledger.Ended b t o) h s := by
  refine Process.meets_resolveReceipt_end (fun _ s => pair s.ledger) (fun _ _ _ _ => nofun) keeping_idles ?_ ?_
  · intro s₁ p s₂ hs₁ hy
    have hs₁ : pair s₁.ledger := keeping_others hs₁ ▸ hs
    have hs₂ : pair s₂.ledger := hpair _ _ hs₁ (Work.rewritesPair_openPair hy)
    refine ⟨⟨(Work.lasting_openPair b t).later hy, fun _ => hinv _ hs₂⟩, ?_, fun _ => hs₂⟩
    rintro o s₃ ho hs₃ _ ⟨⟩
    rw [keeping_others hs₃]
    exact ⟨hs₂, Work.ended_openPair hy ho⟩
  · intro s₁ c hash receipt block os h' s₂ o s₃ hs₁ _ _ _ _ _ hs₂ hy
    have hs₂ : pair s₂.ledger := keeping_others hs₂ ▸ hs₁
    have hs₃ : pair s₃.ledger := hpair _ _ hs₂ (Work.rewritesPair_closePair hy)
    refine ⟨⟨(Work.lasting_closePair _ _ _ _ _).later hy, fun _ => hinv _ hs₃⟩, ?_⟩
    rintro s₄ hs₄ _ ⟨⟩
    rw [keeping_others hs₄]
    exact ⟨hs₃, Work.ended_closePair hy⟩

/-- The blockchain transaction that the row of a transaction names. -/
def Ledger.named? (l : Ledger) (t : Id) : Option Id := (l.transaction? t).bind Transaction.blockchainTransaction

/-- A job touches the transaction that it settles and the blockchain transaction that its row names. -/
theorem keeping_settle : (settle r t).Meets (keeping r (s.ledger.Touches (some t) (s.ledger.named? t)))
    Process.anyEnd h s := by
  refine Process.meets_settle keeping_idles fun d c s₁ hs₁ hy _ => ?_
  obtain ⟨-, u, b, hu, -, -, hb, hc⟩ := Work.yields_findExpected.1 hy
  obtain ⟨-, rfl⟩ := Ledger.blockchainTransaction?_mem hc
  have hl : s₁.ledger = s.ledger := keeping_others hs₁
  have hnamed : s.ledger.named? t = some c.id := by rw [← hl, Ledger.named?, hu, Option.bind_some, hb]
  have hpair (l l' : Ledger) (hk : s.ledger.Touches (some t) (s.ledger.named? t) l) (hr : l.RewritesPair c.id t l') :
      s.ledger.Touches (some t) (s.ledger.named? t) l' := hk.trans (hnamed ▸ hr.touches)
  exact (keeping_resolveReceipt (fun _ => id) hpair (hl ▸ .refl _ _ _)).imp fun _ _ _ _ => trivial

/-- What an application of the log may have done to the ledger by now. -/
def Ledger.Applies (l : Ledger) (d : Deployment) (log : Log) (l' : Ledger) : Prop :=
  ∃ t b, l.Touches t b l' ∧ ∀ b', b = some b' → l'.Places b' (d.chain, log.hash.spelling)

/-- What a log with this result has done to the ledger. -/
def Ledger.AppliesAs (l : Ledger) (d : Deployment) (log : Log) (a : Applied) (l' : Ledger) : Prop :=
  ∃ b, l.Touches a.changed? b l' ∧ (∀ b', b = some b' → l'.Places b' (d.chain, log.hash.spelling)) ∧ a.Does l l'

/-- What a log whose receipt is read may have done by now: it has stored no transaction. -/
structure Ledger.AppliesTo (l : Ledger) (d : Deployment) (log : Log) (b t : Id) (l' : Ledger) : Prop where
  touches : l.Touches (some t) (some b) l'
  place : l'.Places b (d.chain, log.hash.spelling)
  ids : l'.transactions.map Transaction.id = l.transactions.map Transaction.id

namespace Ledger.AppliesTo

variable {l l₁ l' : Ledger} {log : Log}

theorem rewrites (h : l.AppliesTo d log b t l₁) (hr : l₁.RewritesPair b t l') : l.AppliesTo d log b t l' :=
  ⟨h.touches.trans hr.touches, hr.touches.places h.place, hr.ids.trans h.ids⟩

theorem applies (h : l.AppliesTo d log b t l') : l.Applies d log l' := by
  refine ⟨some t, some b, h.touches, ?_⟩
  rintro _ ⟨⟩
  exact h.place

/-- The receipt has settled the transaction, which was waiting. -/
theorem appliesAs {u : Transaction} {o : Outcome} (h : l.AppliesTo d log b t l') (hu : l.transaction? t = some u)
    (hp : u.state = .pending) (he : l'.Ended b t o) : l.AppliesAs d log (.ofOutcome t o) l' := by
  obtain ⟨c, v, -, -, hv, ho⟩ := he
  refine ⟨some b, ?_, ?_, .settles h.ids hu hp ⟨hv, fun i hi => ?_⟩ ho⟩
  · rw [Applied.changed?_ofOutcome]
    exact h.touches
  · rintro _ ⟨⟩
    exact h.place
  · exact h.touches.transaction i fun he => hi (Option.some.inj he)

end Ledger.AppliesTo

theorem keeping_applyLog {log : Log} (hk : s.Keyed) : (applyLog d log).Meets (keeping r (s.ledger.Applies d log))
    (fun _ x s' => ∀ a, x = .ok a → s.ledger.AppliesAs d log a s'.ledger) h s := by
  refine Process.meets_applyLog_end (fun _ _ _ _ => nofun) keeping_idles ?_ ?_
  · rintro - s₁ hs₁ _ ⟨⟩
    rw [keeping_others hs₁]
    refine ⟨none, .refl _ _ _, nofun, .nothing ?_ rfl⟩
    split <;> rfl
  · intro s₁ block index e verdict h' x s₂ _ _ _ hs₁ hy
    have hk₁ : s₁.Keyed := (Session.later_of_calm hs₁).keyed hk
    obtain ⟨b, htouch, hplace, hdoes⟩ := Work.touches_applyEvent hk₁ hy
    rw [keeping_others hs₁] at htouch hdoes
    have hplaces : ∀ b', some b = some b' → s₂.ledger.Places b' (d.chain, log.hash.spelling) := by
      rintro _ ⟨⟩
      exact hplace
    refine ⟨⟨(Work.lasting_applyEvent _ _ _ _ _ _).later hy, fun _ => ⟨_, _, htouch, hplaces⟩⟩, ?_⟩
    cases x with
    | applied a =>
      rintro s₃ hs₃ _ ⟨⟩
      rw [keeping_others hs₃]
      exact ⟨_, htouch, hplaces, hdoes⟩
    | needsReceipt b' t =>
      obtain ⟨rfl, hl, u, hu, hp⟩ := hdoes
      have happlies : s.ledger.AppliesTo d log b' t s₂.ledger := ⟨htouch.widen (some t), hplace, congrArg _ hl⟩
      refine Process.meets_bind ((keeping_resolveReceipt (fun _ => Ledger.AppliesTo.applies)
        (fun _ _ => Ledger.AppliesTo.rewrites) happlies).imp fun h₂ o s₃ hend => ?_)
      cases o with
      | error err => exact fun _ _ _ => nofun
      | ok o =>
        rintro s₄ hs₄ _ ⟨⟩
        rw [keeping_others hs₄]
        obtain ⟨happlies, hended⟩ := hend o rfl
        exact happlies.appliesAs hu hp hended

end

end DonationLedger
