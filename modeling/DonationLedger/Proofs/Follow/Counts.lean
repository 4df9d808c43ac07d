import DonationLedger.Proofs.Resolution.Touching

/-!
# Counting what logs did

Logs that are applied one after another each do to the transactions what their results say (`Ledger.Takes`). No log
touches a transaction that has ended, so a transaction is counted for one log at most, and the tally of the results is
what can be counted by comparing the ledgers before and after (`Tally.Counts`).
-/

namespace DonationLedger

/-- One that is counted in `p` is not in `q`, and of all others both count the same. -/
theorem countP_eq_succ {α : Type} {p q : α → Bool} {a : α} {as : List α} (hn : as.Nodup) (ha : a ∈ as)
    (hp : p a = true) (hq : q a = false) (h : ∀ b, b ≠ a → p b = q b) : as.countP p = as.countP q + 1 := by
  induction as with
  | nil => cases ha
  | cons b as ih =>
    obtain ⟨hb, hn⟩ := List.nodup_cons.1 hn
    by_cases he : b = a
    · subst he
      have hrest : as.countP p = as.countP q :=
        List.countP_congr fun c hc => by rw [h c fun he => hb (he ▸ hc)]
      rw [List.countP_cons_of_pos hp, List.countP_cons_of_neg (by simp [hq]), hrest]
    · rw [List.countP_cons, List.countP_cons, h b he, ih hn ((List.mem_cons.1 ha).resolve_left (Ne.symm he))]
      omega

namespace Ledger

def ids (l : Ledger) : List Id := l.transactions.map Transaction.id

def state? (l : Ledger) (t : Id) : Option TransactionState := (l.transaction? t).map Transaction.state

/-- How many transactions are in `l'` and not in `l`. -/
def added (l l' : Ledger) : Nat := l'.ids.countP fun t => (l.transaction? t).isNone

/-- How many transactions of `l` are not in `l'` as they were. -/
def changed (l l' : Ledger) : Nat := l.ids.countP fun t => l'.transaction? t != l.transaction? t

/-- How many transactions were pending in `l` and are in one of these states in `l'`. -/
def turned (l l' : Ledger) (states : List TransactionState) : Nat :=
  l.ids.countP fun t => l.state? t == some .pending && (l'.state? t).any states.contains

theorem mem_ids_iff {l : Ledger} {t : Id} : t ∈ l.ids ↔ ∃ u, l.transaction? t = some u := by
  rw [← Option.isSome_iff_exists]
  unfold ids transaction?
  simp [List.find?_isSome]

end Ledger

/-- What the tally has gained is what has happened to the transactions. -/
structure Tally.Counts (tally tally' : Tally) (l l' : Ledger) : Prop where
  created : tally'.created = tally.created + l.added l'
  linked : tally'.linked = tally.linked + l.turned l' [.succeeded]
  rejected : tally'.rejected = tally.rejected + l.turned l' [.failed, .canceled]
  changed : tally'.linked + tally'.rejected = tally.linked + tally.rejected + l.changed l'

/-- Where nothing has happened, nothing is counted. -/
theorem Tally.Counts.refl (tally : Tally) (l : Ledger) : tally.Counts tally l l := by
  have hadded : l.added l = 0 := by
    refine List.countP_eq_zero.2 fun t ht => ?_
    obtain ⟨u, hu⟩ := Ledger.mem_ids_iff.1 ht
    simp [hu]
  have hchanged : l.changed l = 0 := List.countP_eq_zero.2 fun t _ => by simp
  have hturned (states : List TransactionState) (hs : .pending ∉ states) : l.turned l states = 0 := by
    refine List.countP_eq_zero.2 fun t _ => ?_
    by_cases h : l.state? t = some .pending
    · simp [h, hs]
    · simp [h]
  exact ⟨by rw [hadded]; rfl, by rw [hturned _ (by decide)]; rfl, by rw [hturned _ (by decide)]; rfl,
    by rw [hchanged]; rfl⟩

variable {l l₁ l' : Ledger}

/-- Transactions are only added, and those that have ended stay as they are. -/
structure Ledger.KeepsEnded (l l' : Ledger) : Prop where
  ids : l.ids <+: l'.ids
  ended : ∀ t u, l.transaction? t = some u → u.state ≠ .pending → l'.transaction? t = some u

namespace Ledger.KeepsEnded

theorem refl (l : Ledger) : l.KeepsEnded l := ⟨List.prefix_rfl, fun _ _ hu _ => hu⟩

theorem trans (h : l.KeepsEnded l₁) (k : l₁.KeepsEnded l') : l.KeepsEnded l' :=
  ⟨h.ids.trans k.ids, fun t u hu hp => k.ended t u (h.ended t u hu hp) hp⟩

end Ledger.KeepsEnded

namespace Ledger

theorem state?_congr {t : Id} (h : l'.transaction? t = l.transaction? t) : l'.state? t = l.state? t := by
  unfold state?
  rw [h]

theorem state?_of_some {t : Id} {u : Transaction} (h : l.transaction? t = some u) : l.state? t = some u.state := by
  unfold state?
  rw [h]
  rfl

/-! ## A transaction that is settled -/

section
variable {t : Id} {u v : Transaction}

theorem added_of_settled (hu : l.transaction? t = some u) (hv : l.Alters t v l₁) : l.added l' = l₁.added l' := by
  refine List.countP_congr fun i _ => ?_
  by_cases hi : i = t
  · rw [hi, hu, hv.self]
    rfl
  · rw [hv.others i hi]

theorem changed_of_settled (hids : l₁.ids = l.ids) (hn : l.ids.Nodup) (hu : l.transaction? t = some u)
    (hv : l.Alters t v l₁) (hne : v ≠ u) (hend : l'.transaction? t = some v) :
    l.changed l' = l₁.changed l' + 1 := by
  unfold changed
  rw [hids]
  refine countP_eq_succ hn (mem_ids_iff.2 ⟨u, hu⟩) ?_ ?_ fun i hi => by rw [hv.others i hi]
  · simpa [hend, hu] using hne
  · simp [hend, hv.self]

theorem turned_of_settled {states : List TransactionState} (hids : l₁.ids = l.ids) (hn : l.ids.Nodup)
    (hu : l.transaction? t = some u) (hp : u.state = .pending) (hv : l.Alters t v l₁) (hvp : v.state ≠ .pending)
    (hend : l'.transaction? t = some v) :
    l.turned l' states = l₁.turned l' states + if v.state ∈ states then 1 else 0 := by
  have hbefore : l.state? t = some .pending := by rw [state?_of_some hu, hp]
  have hafter : l'.state? t = some v.state := state?_of_some hend
  have hdone : (l₁.state? t == some .pending) = false := by simpa [state?_of_some hv.self] using hvp
  have hsame (i : Id) (hi : i ≠ t) : (l.state? i == some .pending && (l'.state? i).any states.contains) =
      (l₁.state? i == some .pending && (l'.state? i).any states.contains) := by
    rw [state?_congr (hv.others i hi)]
  unfold turned
  rw [hids]
  split
  · rename_i hs
    exact countP_eq_succ hn (mem_ids_iff.2 ⟨u, hu⟩) (by simp [hbefore, hafter, hs]) (by simp [hdone]) hsame
  · rename_i hs
    refine List.countP_congr fun i _ => ?_
    by_cases hi : i = t
    · simp [hi, hafter, hs]
    · rw [hsame i hi]

end

/-! ## A transaction that is created -/

section
variable {t : Id} {v : Transaction}

theorem ne_of_mem_ids (hn : l.transaction? t = none) {i : Id} (hi : i ∈ l.ids) : i ≠ t := by
  rintro rfl
  obtain ⟨u, hu⟩ := mem_ids_iff.1 hi
  exact nomatch hn.symm.trans hu

theorem added_of_created (hn : l'.ids.Nodup) (hnone : l.transaction? t = none) (hv : l.Alters t v l₁)
    (hend : l'.transaction? t = some v) : l.added l' = l₁.added l' + 1 :=
  countP_eq_succ hn (mem_ids_iff.2 ⟨v, hend⟩) (by simp [hnone]) (by simp [hv.self])
    fun i hi => by rw [hv.others i hi]

theorem changed_of_created (hids : l₁.ids = l.ids ++ [t]) (hnone : l.transaction? t = none) (hv : l.Alters t v l₁)
    (hend : l'.transaction? t = some v) : l.changed l' = l₁.changed l' := by
  unfold changed
  rw [hids, List.countP_append, List.countP_singleton, if_neg (by simp [hend, hv.self]), Nat.add_zero]
  exact List.countP_congr fun i hi => by rw [hv.others i (ne_of_mem_ids hnone hi)]

theorem turned_of_created {states : List TransactionState} (hids : l₁.ids = l.ids ++ [t])
    (hnone : l.transaction? t = none) (hv : l.Alters t v l₁) (hvp : v.state ≠ .pending) :
    l.turned l' states = l₁.turned l' states := by
  have hdone : (l₁.state? t == some .pending) = false := by simpa [state?_of_some hv.self] using hvp
  unfold turned
  rw [hids, List.countP_append, List.countP_singleton, if_neg (by simp [hdone]), Nat.add_zero]
  exact List.countP_congr fun i hi => by rw [state?_congr (hv.others i (ne_of_mem_ids hnone hi))]

end

end Ledger

/-! ## Logs -/

theorem Tally.add_of_unchanged {tally : Tally} {a : Applied} (h : a.changed? = none) :
    (tally.add a).created = tally.created ∧ (tally.add a).linked = tally.linked ∧
      (tally.add a).rejected = tally.rejected := by
  cases a <;> first | exact ⟨rfl, rfl, rfl⟩ | cases h

/-- A transaction that came to its outcome is counted once. -/
theorem Tally.add_ofOutcome (tally : Tally) (t : Id) (o : Outcome) :
    (tally.add (.ofOutcome t o)).created = tally.created ∧
    (tally.add (.ofOutcome t o)).linked = tally.linked + (if o.state ∈ [.succeeded] then 1 else 0) ∧
    (tally.add (.ofOutcome t o)).rejected = tally.rejected + (if o.state ∈ [.failed, .canceled] then 1 else 0) ∧
    (tally.add (.ofOutcome t o)).linked + (tally.add (.ofOutcome t o)).rejected =
      tally.linked + tally.rejected + 1 := by
  cases o
  · exact ⟨rfl, rfl, rfl, Nat.succ_add _ _⟩
  · exact ⟨rfl, rfl, rfl, rfl⟩
  · exact ⟨rfl, rfl, rfl, rfl⟩

namespace Applied.Does

variable {a : Applied} {tally tally' : Tally}

theorem keepsEnded (h : a.Does l l') : l.KeepsEnded l' := by
  cases h with
  | nothing ha hl =>
    have hids : l'.ids = l.ids := congrArg (List.map Transaction.id) hl
    exact ⟨hids ▸ List.prefix_rfl, fun t u hu _ => Ledger.transaction?_congr hl ▸ hu⟩
  | @settles t u v o hids hu hp hv ho =>
    have hids : l'.ids = l.ids := hids
    refine ⟨hids ▸ List.prefix_rfl, fun i w hw hend => ?_⟩
    rw [hv.others i, hw]
    rintro rfl
    obtain rfl := Option.some.inj (hu.symm.trans hw)
    exact hend hp
  | @creates t v hids hn hv ho =>
    refine ⟨⟨[t], hids.symm⟩, fun i w hw _ => ?_⟩
    rw [hv.others i, hw]
    rintro rfl
    exact nomatch hn.symm.trans hw

/-- What a log did is counted with what those after it do. -/
theorem counts (h : a.Does l l₁) (hk : l₁.KeepsEnded l') (hn : l'.ids.Nodup)
    (hc : (tally.add a).Counts tally' l₁ l') : tally.Counts tally' l l' := by
  obtain ⟨hcreated, hlinked, hrejected, hchanged⟩ := hc
  cases h with
  | nothing ha hl =>
    obtain ⟨hc, hl', hr⟩ := tally.add_of_unchanged ha
    have hids : l₁.ids = l.ids := congrArg (List.map Transaction.id) hl
    have hsame : l₁.transaction? = l.transaction? := Ledger.transaction?_congr hl
    have hturned (states : List TransactionState) : l₁.turned l' states = l.turned l' states := by
      simp only [Ledger.turned, Ledger.state?, hids, hsame]
    rw [hturned] at hlinked hrejected
    rw [Ledger.added, hsame] at hcreated
    rw [Ledger.changed, hids, hsame] at hchanged
    exact ⟨hc ▸ hcreated, hl' ▸ hlinked, hr ▸ hrejected, hl' ▸ hr ▸ hchanged⟩
  | @settles t u v o hids hu hp hv ho =>
    have hvp : v.state ≠ .pending := ho ▸ o.state_ne_pending
    have hend := hk.ended t v hv.self hvp
    have hn : l.ids.Nodup := hn.sublist ((show l₁.ids = l.ids from hids) ▸ hk.ids.sublist)
    have hne : v ≠ u := fun he => hvp (he ▸ hp)
    have hturned (states : List TransactionState) : l.turned l' states =
        l₁.turned l' states + if o.state ∈ states then 1 else 0 :=
      ho ▸ Ledger.turned_of_settled hids hn hu hp hv hvp hend
    obtain ⟨hc, hl, hr, hboth⟩ := tally.add_ofOutcome t o
    refine ⟨?_, ?_, ?_, ?_⟩
    · rw [hcreated, hc, Ledger.added_of_settled hu hv]
    · rw [hlinked, hl, hturned, Nat.add_right_comm, Nat.add_assoc]
    · rw [hrejected, hr, hturned, Nat.add_right_comm, Nat.add_assoc]
    · rw [hchanged, hboth, Ledger.changed_of_settled hids hn hu hv hne hend, Nat.add_right_comm, Nat.add_assoc]
  | @creates t v hids hnone hv ho =>
    have hvp : v.state ≠ .pending := by rw [ho]; nofun
    have hend := hk.ended t v hv.self hvp
    have hadded := Ledger.added_of_created hn hnone hv hend
    have hturned (states : List TransactionState) : l.turned l' states = l₁.turned l' states :=
      Ledger.turned_of_created hids hnone hv hvp
    rw [← hturned] at hlinked hrejected
    rw [← Ledger.changed_of_created hids hnone hv hend] at hchanged
    refine ⟨?_, hlinked, hrejected, hchanged⟩
    rw [hcreated, hadded]
    exact Nat.add_right_comm _ _ _

end Applied.Does

/-- The logs were applied one after another, with these results. -/
inductive Ledger.Takes (d : Deployment) : Ledger → List Log → List Applied → Ledger → Prop
  | nil (l : Ledger) : Takes d l [] [] l
  | cons {l l₁ l' : Ledger} {log : Log} {logs : List Log} {a : Applied} {as : List Applied}
    (h : l.AppliesAs d log a l₁) (hs : Takes d l₁ logs as l') : Takes d l (log :: logs) (a :: as) l'

namespace Ledger.Takes

variable {d : Deployment} {logs : List Log} {as : List Applied}

theorem length (h : l.Takes d logs as l') : as.length = logs.length := by
  induction h with
  | nil => rfl
  | cons _ _ ih => exact congrArg Nat.succ ih

theorem beside (h : l.Takes d logs as l') : l.Beside l' := by
  induction h with
  | nil l => exact .refl l
  | cons h _ ih =>
    obtain ⟨b, ht, -⟩ := h
    exact ht.toBeside.trans ih

theorem keepsEnded (h : l.Takes d logs as l') : l.KeepsEnded l' := by
  induction h with
  | nil l => exact .refl l
  | cons h _ ih =>
    obtain ⟨b, -, -, hd⟩ := h
    exact hd.keepsEnded.trans ih

/-- The tally of the results counts what has happened to the transactions. -/
theorem counts (h : l.Takes d logs as l') (hn : l'.ids.Nodup) (tally : Tally) :
    tally.Counts (as.foldl Tally.add tally) l l' := by
  induction h generalizing tally with
  | nil l => exact .refl tally l
  | cons h hs ih =>
    obtain ⟨b, -, -, hd⟩ := h
    exact hd.counts hs.keepsEnded hn (ih hn _)

end Ledger.Takes

theorem Tally.total_foldl (tally : Tally) (as : List Applied) :
    (as.foldl Tally.add tally).total = tally.total + as.length := by
  induction as generalizing tally with
  | nil => rfl
  | cons a as ih =>
    rw [List.foldl_cons, ih, tally.total_add, List.length_cons]
    omega

end DonationLedger
