import DonationLedger.Proofs.Amount
import DonationLedger.Proofs.Queue.Attempts
import DonationLedger.Scenario.World
import DonationLedger.Service

/-!
# Settings that are accepted

The settings of a service are read from free text, and used far from where they are read: as the size of a window, the
number of workers and of attempts, the time between cycles, the places of an amount. With whatever is accepted, every
chain can be followed and its payments told apart (`ChainSettings.Usable`). A start stops at the first fault, which may
lie in the settings still: a node without a URL, or more workers than there is room for (`Settings.start_cases`). What
was started serves (`Settings.Serves`), but for one accepted value: without any time between the cycles no chain is
followed.
-/

namespace DonationLedger

open Scenario

/-! ## Reading -/

section
variable {env : Environment} {key : String} {most standard n : Nat}

theorem Environment.number_eq_ok_iff : env.number key most standard = .ok n ↔
    (∃ text, env.get? key = some text ∧ Text.natUpTo? most (Text.trim text) = some n) ∨
      (env.get? key = none ∧ n = standard) := by
  unfold number
  cases hk : env.get? key with
  | none => simp [eq_comm]
  | some text => cases hn : Text.natUpTo? most (Text.trim text) <;> simp [hn]

namespace ChainSettings

variable {chain : Chain} {c : ChainSettings}

theorem read_cases (h : read env chain = .ok c) :
    c.chain = chain ∧ (c.tokens = [.coin chain] ∨ ∃ address, c.tokens = [.coin chain, .usdt address]) := by
  simp only [read, bind_eq_ok_iff] at h
  obtain ⟨nodeUrl, -, contract, -, depth, -, window, -, h⟩ := h
  split at h
  · cases h
    exact ⟨rfl, .inl rfl⟩
  · obtain ⟨address, -, h⟩ := bind_eq_ok_iff.1 h
    cases h
    exact ⟨rfl, .inr ⟨address, rfl⟩⟩

end ChainSettings

namespace Settings

theorem read_of_mem_readChains {names : List String} {cs : List ChainSettings} {c : ChainSettings}
    (h : readChains env names = .ok cs) (hc : c ∈ cs) : ChainSettings.read env c.chain = .ok c := by
  induction names generalizing cs with
  | nil =>
    cases h
    exact absurd hc List.not_mem_nil
  | cons name names ih =>
    unfold readChains at h
    split at h
    · simp only [bind_eq_ok_iff] at h
      obtain ⟨chain, -, settings, hread, rest, hrest, h⟩ := h
      cases h
      rcases List.mem_cons.1 hc with rfl | hc
      · rw [(ChainSettings.read_cases hread).1]
        exact hread
      · exact ih hrest hc
    · cases h

variable {s : Settings}

theorem read_cases (h : read env = .ok s) : (∀ c ∈ s.chains, ChainSettings.read env c.chain = .ok c) ∧
    ∃ seconds, env.number "SYNC_INTERVAL_SECS" Text.maxWord64 60 = .ok seconds ∧
      s.syncInterval = .ofSeconds seconds := by
  simp only [read, bind_eq_ok_iff] at h
  obtain ⟨chains, hchains, seconds, hseconds, queue, -, h⟩ := h
  cases h
  exact ⟨fun c hc => read_of_mem_readChains hchains hc, seconds, hseconds, rfl⟩

/-- The cycles have no time between them exactly if that is what is set. -/
theorem syncInterval_eq_zero_iff (h : read env = .ok s) : s.syncInterval.nanos = 0 ↔
    ∃ text, env.get? "SYNC_INTERVAL_SECS" = some text ∧ Text.natUpTo? Text.maxWord64 (Text.trim text) = some 0 := by
  obtain ⟨-, seconds, hseconds, hi⟩ := read_cases h
  have hzero : s.syncInterval.nanos = 0 ↔ seconds = 0 := by
    rw [hi]
    show seconds * Duration.perSecond = 0 ↔ seconds = 0
    unfold Duration.perSecond
    omega
  rw [hzero]
  rcases Environment.number_eq_ok_iff.1 hseconds with ⟨text, ht, hn⟩ | ⟨ht, rfl⟩
  · simp [ht, hn]
  · simp [ht]

end Settings

end

/-! ## Chains -/

namespace Registry

theorem find?_register (r : Registry) (d : Deployment) (chain : Chain) :
    (r.register d).find? chain = if d.chain = chain then some d else r.find? chain := by
  unfold register find?
  rw [List.find?_append]
  -- What is dropped are the deployments of the new one's chain, which is looked for, or is not.
  by_cases h : d.chain = chain
  · have hdropped : List.find? (fun e => e.chain == chain) (List.filter (fun e => e.chain != d.chain) r) = none := by
      refine List.find?_eq_none.2 fun e he => ?_
      simpa [h] using (List.mem_filter.1 he).2
    rw [hdropped]
    simp [h]
  · have hkept : List.find? (fun e => e.chain == chain) (List.filter (fun e => e.chain != d.chain) r) =
        List.find? (fun e => e.chain == chain) r := by
      rw [List.find?_filter]
      refine congrArg (fun p => List.find? p r) (funext fun e => ?_)
      by_cases he : e.chain = chain
      · simp [he, Ne.symm h]
      · simp [he]
    rw [hkept]
    simp [h]

/-- The deployments one after another, each in place of an earlier one of its chain. -/
def ofList (ds : List Deployment) : Registry := ds.foldl register []

/-- Where no two deployments are of one chain, each is the one of its chain. -/
theorem find?_ofList {ds : List Deployment} (hd : ∀ d ∈ ds, ∀ e ∈ ds, d.chain = e.chain → d = e) {d : Deployment}
    (hm : d ∈ ds) : (ofList ds).find? d.chain = some d := by
  -- From the end: the last deployment counts for its chain, and for any other those before it do.
  induction ds using List.reverseRecOn with
  | nil => exact absurd hm List.not_mem_nil
  | append_singleton ds last ih =>
    rw [ofList, List.foldl_append]
    show (register (ofList ds) last).find? d.chain = some d
    rw [find?_register]
    split
    · rename_i hc
      exact congrArg some (hd last (List.mem_append_right _ (List.mem_singleton_self _)) d hm hc)
    · rename_i hc
      refine ih (fun a ha b hb => hd a (List.mem_append_left _ ha) b (List.mem_append_left _ hb)) ?_
      rcases List.mem_append.1 hm with hm | hm
      · exact hm
      · exact absurd (congrArg Deployment.chain (List.mem_singleton.1 hm).symm) hc

theorem mem_chains_of_find? {r : Registry} {chain : Chain} {d : Deployment} (h : r.find? chain = some d) :
    chain ∈ r.chains := by
  have hm : d ∈ r := List.mem_of_find?_eq_some h
  have hc : d.chain = chain := by simpa using List.find?_some h
  exact List.mem_mergeSort.2 (List.mem_map.2 ⟨d, hm, hc⟩)

end Registry

namespace ChainSettings

/-- The settings with a node that watches their contract. -/
def deployment (c : ChainSettings) : Deployment := ⟨c, c.contract⟩

/-- A chain can be followed with these settings, and its payments told apart: while final blocks are left, the window
holds the next of them; no two tokens share an address; and no token has more places than an amount. -/
structure Usable (c : ChainSettings) : Prop where
  advances : ∀ checkpoint height, height ≤ Text.maxWord64 →
    checkpoint < Window.safeHeight height c.confirmationDepth → ∃ last,
      Window.plan (some checkpoint) height c.confirmationDepth c.windowSize = .range (checkpoint + 1) last ∧
        checkpoint < last ∧ last ≤ Window.safeHeight height c.confirmationDepth
  distinct : (c.tokens.map Token.address).Nodup
  places : ∀ token ∈ c.tokens, token.decimals ≤ 28

variable {c : ChainSettings}

/-- Whatever the size of the window, the next final block is in it. -/
theorem window_advances {checkpoint height depth : Nat} (size : Nat) (hh : height ≤ Text.maxWord64)
    (hc : checkpoint < Window.safeHeight height depth) : ∃ last,
      Window.plan (some checkpoint) height depth size = .range (checkpoint + 1) last ∧ checkpoint < last ∧
        last ≤ Window.safeHeight height depth := by
  have hsafe : Window.safeHeight height depth ≤ height := Nat.sub_le height depth
  have hnext : Window.plus checkpoint 1 = checkpoint + 1 := Window.plus_eq (by omega)
  have hreach : checkpoint + 1 ≤ Window.plus checkpoint (max size 1) := by
    unfold Window.plus
    omega
  refine ⟨min (Window.plus checkpoint (max size 1)) (Window.safeHeight height depth), ?_, ?_, Nat.min_le_right _ _⟩
  · simp only [Window.plan, hnext]
    rw [if_neg (by omega)]
  · omega

theorem usable_of_read {env : Environment} {chain : Chain} (h : read env chain = .ok c) : c.Usable where
  advances checkpoint height hh hc := window_advances c.windowSize hh hc
  distinct := by
    rcases (read_cases h).2 with ht | ⟨address, ht⟩ <;> rw [ht]
    · exact List.nodup_singleton none
    · simp [Token.coin, Token.usdt]
  places token ht := by
    rcases (read_cases h).2 with hs | ⟨address, hs⟩ <;> rw [hs] at ht
    · obtain rfl := List.mem_singleton.1 ht
      exact (by decide : 18 ≤ 28)
    · rcases List.mem_pair.1 ht with rfl | rfl
      · exact (by decide : 18 ≤ 28)
      · exact (by decide : 6 ≤ 28)

namespace Usable

/-- The token of an address is the only one that has it. -/
theorem token?_eq_some_iff (h : c.Usable) {address : Option Address} {token : Token} :
    c.token? address = some token ↔ token ∈ c.tokens ∧ token.address = address := by
  constructor
  · intro ht
    exact ⟨List.mem_of_find?_eq_some ht, by simpa using List.find?_some ht⟩
  · rintro ⟨hm, rfl⟩
    rw [← find?_key_of_mem Token.address h.distinct hm]
    refine congrArg (fun p => c.tokens.find? p) (funext fun other => ?_)
    rw [Bool.eq_iff_iff]
    simp

/-- No amount of an event is too large for the places of its token. -/
theorem screen_ne_amountOverflow (h : c.Usable) (contents : String → Option Id) (e : Event) :
    Payment.screen c contents e ≠ .error .amountOverflow := by
  intro hs
  -- An event that is refused for its creator or its reference is refused for another reason.
  cases hr : Payment.reference e with
  | error reason =>
    rw [Payment.screen, hr] at hs
    unfold Payment.reference at hr
    split at hr
    · cases hr
      cases hs
    · split at hr <;> cases hr
      cases hs
  | ok ref =>
    rw [Payment.screen_eq_priced hr] at hs
    unfold Payment.priced at hs
    split at hs
    · cases hs
    · split at hs
      · cases hs
      · rename_i token ht
        obtain ⟨amount, ha⟩ := exists_humanAmount? e.amount (h.places token (List.mem_of_find?_eq_some ht))
        simp [ha] at hs

end Usable

end ChainSettings

namespace Settings

variable {env : Environment} {s : Settings}

/-- The chains of the settings. Of two settings of one chain the later count. -/
def registry (s : Settings) : Registry := .ofList (s.chains.map ChainSettings.deployment)

/-- A chain that is named twice has the same settings both times. -/
theorem find?_registry (h : read env = .ok s) {c : ChainSettings} (hc : c ∈ s.chains) :
    s.registry.find? c.chain = some c.deployment := by
  have hread := (read_cases h).1
  have hsame : ∀ d ∈ s.chains.map ChainSettings.deployment, ∀ e ∈ s.chains.map ChainSettings.deployment,
      d.chain = e.chain → d = e := by
    simp only [List.forall_mem_map]
    intro a ha b hb hab
    have hchain : a.chain = b.chain := hab
    have heq := (hread a ha).symm.trans (hchain ▸ hread b hb)
    exact congrArg ChainSettings.deployment (Except.ok.inj heq)
  exact Registry.find?_ofList hsame (List.mem_map_of_mem hc)

end Settings

/-! ## The start of a service -/

/-- What is wrong with the URL of a chain's node. -/
def ChainSettings.urlFailure? (c : ChainSettings) : Option Failure :=
  (Url.fault? c.nodeUrl).map fun fault => .settings (.nodeUrl c.chain fault)

/-- Readers are opened for all chains, or the first one is reported whose node has no URL. -/
theorem Registry.connect_eq (r : Registry) (cs : List ChainSettings) :
    r.connect cs = match cs.findSome? ChainSettings.urlFailure? with
      | some e => .error e
      | none => .ok ((cs.map ChainSettings.deployment).foldl register r) := by
  induction cs generalizing r with
  | nil => rfl
  | cons c cs ih =>
    rw [connect, Rpc.Reader.connect, List.findSome?_cons, ChainSettings.urlFailure?]
    cases Url.fault? c.nodeUrl with
    | some fault => rfl
    | none => exact ih (r.register c.deployment)

namespace Settings

/-- The service that is to be started. -/
def service (s : Settings) : Service :=
  ⟨s.registry, s.queue.pool, .empty, Service.loopsAt s.syncInterval s.registry⟩

/-- What is looked at before any worker is started: the database can be opened, and every node has a URL. -/
def Connects (site : Site) (s : Settings) : Prop :=
  site.openDatabase s.databaseUrl = .ok () ∧ ∀ c ∈ s.chains, Url.fault? c.nodeUrl = none

/-- There is memory for the workers, and a list can be kept of them. -/
def Fits (site : Site) (s : Settings) : Prop := s.queue.pool ≤ min site.room Queue.mostWorkers

/-- Why the workers are not looked at: the database, or else the first node without a URL. -/
def Fails (site : Site) (s : Settings) (e : Failure) : Prop :=
  site.openDatabase s.databaseUrl = .error e ∨
    site.openDatabase s.databaseUrl = .ok () ∧ s.chains.findSome? ChainSettings.urlFailure? = some e

variable {site : Site} {s : Settings}

theorem Connects.not_fails (h : s.Connects site) (e : Failure) : ¬ s.Fails site e := by
  have hurls : s.chains.findSome? ChainSettings.urlFailure? = none := by
    simpa [ChainSettings.urlFailure?] using h.2
  simp [Fails, h.1, hurls]

theorem Fails.unique {e e' : Failure} (h : s.Fails site e) (h' : s.Fails site e') : e = e' := by
  rcases h with h | ⟨h, hu⟩ <;> rcases h' with h' | ⟨h', hu'⟩
  · exact Except.error.inj (h.symm.trans h')
  · cases h.symm.trans h'
  · cases h.symm.trans h'
  · exact Option.some.inj (hu.symm.trans hu')

/-- The three ways in which a start goes. -/
theorem start_cases (site : Site) (s : Settings) :
    (s.Connects site ∧ s.Fits site ∧ Service.start site s = .ok s.service) ∨
      (s.Connects site ∧ ¬ s.Fits site ∧ Service.start site s = .error .workers) ∨
        ∃ e, s.Fails site e ∧ Service.start site s = .error (.failed e) := by
  cases hd : site.openDatabase s.databaseUrl with
  | error e =>
    exact .inr (.inr ⟨e, .inl hd, by simp [Service.start, hd]⟩)
  | ok =>
    cases hu : s.chains.findSome? ChainSettings.urlFailure? with
    | some e =>
      exact .inr (.inr ⟨e, .inr ⟨hd, hu⟩, by simp [Service.start, hd, Registry.connect_eq, hu]⟩)
    | none =>
      have hconnects : s.Connects site := ⟨hd, by simpa [ChainSettings.urlFailure?] using hu⟩
      by_cases hfits : s.queue.pool ≤ min site.room Queue.mostWorkers
      · refine .inl ⟨hconnects, hfits, ?_⟩
        simp only [Service.start, Queue.start, hd, Registry.connect_eq, hu, if_pos hfits]
        rfl
      · refine .inr (.inl ⟨hconnects, hfits, ?_⟩)
        simp only [Service.start, Queue.start, hd, Registry.connect_eq, hu, if_neg hfits]

theorem start_eq_ok_iff {service : Service} :
    Service.start site s = .ok service ↔ s.Connects site ∧ s.Fits site ∧ service = s.service := by
  rcases start_cases site s with ⟨hc, hf, hs⟩ | ⟨hc, hf, hs⟩ | ⟨e, he, hs⟩ <;> rw [hs]
  · simp [hc, hf, eq_comm]
  · simp [hf]
  · simp only [reduceCtorEq, false_iff]
    exact fun h => h.1.not_fails e he

theorem start_eq_workers_iff : Service.start site s = .error .workers ↔ s.Connects site ∧ ¬ s.Fits site := by
  rcases start_cases site s with ⟨hc, hf, hs⟩ | ⟨hc, hf, hs⟩ | ⟨e, he, hs⟩ <;> rw [hs]
  · simp [hf]
  · simp [hc, hf]
  · simp only [Except.error.injEq, reduceCtorEq, false_iff]
    exact fun h => h.1.not_fails e he

theorem start_eq_failed_iff {e : Failure} : Service.start site s = .error (.failed e) ↔ s.Fails site e := by
  rcases start_cases site s with ⟨hc, hf, hs⟩ | ⟨hc, hf, hs⟩ | ⟨e', he, hs⟩ <;> rw [hs]
  · simp [hc.not_fails e]
  · simp [hc.not_fails e]
  · rw [Except.error.injEq, StartFault.failed.injEq]
    constructor
    · rintro rfl
      exact he
    · exact he.unique

end Settings

/-! ## The service while it runs -/

/-- Where there is time between the cycles, a cycle of every chain is due when the schedule begins. -/
theorem Scenario.World.ready_schedule (w : World) {period : Nat} (h : 0 < period) :
    (w.schedule (some period)).2.ready = (w.schedule none).2.ready ++
      w.registry.chains.map fun chain => .cycle (w.schedules + 1) chain w.now := by
  cases period with
  | zero => exact absurd h (Nat.lt_irrefl 0)
  | succ period => rfl

/-- What a service does that was started with these settings. It has a worker. It knows every chain that is set, and
follows them all, unless the cycles have no time between them. The first cycles of its loops are due at once. And where
nobody is passed over for ever, its workers attempt every transaction that is enqueued. -/
structure Settings.Serves (s : Settings) (service : Service) : Prop where
  staffed : 0 < service.workers ∧ service.workers = max s.queue.workers 1
  registered : ∀ c ∈ s.chains, service.registry.find? c.chain = some c.deployment
  followed : ∀ c ∈ s.chains, c.chain ∈ service.loops ↔ s.syncInterval.nanos ≠ 0
  due : ∀ w : World, w.registry = service.registry → (w.schedule (some s.syncInterval.nanos)).2.ready =
    (w.schedule none).2.ready ++ service.loops.map fun chain => .cycle (w.schedules + 1) chain w.now
  attempted : ∀ c : Queue.Course s.queue, c.queue 0 = service.queue ∧
    (∀ n, (c.queue n).running.length ≤ service.workers) ∧
    (c.Fair → ∀ n id, c.move n = some (.claim id true) → ∃ b e failure, n < b ∧ b < e ∧
      c.move b = some (.take (Queue.firstJob id)) ∧ c.move e = some (.finish (Queue.firstJob id) failure))

theorem Settings.serves_of_read {env : Environment} {s : Settings} (h : read env = .ok s) : s.Serves s.service where
  staffed := ⟨s.queue.pool_pos, rfl⟩
  registered _ hc := find?_registry h hc
  followed c hc := by
    have hchain : c.chain ∈ s.registry.chains := Registry.mem_chains_of_find? (find?_registry h hc)
    show c.chain ∈ Service.loopsAt s.syncInterval s.registry ↔ _
    unfold Service.loopsAt
    by_cases hzero : s.syncInterval.nanos = 0
    · simp [hzero]
    · simp [hzero, hchain]
  due w hw := by
    show _ = _ ++ (Service.loopsAt s.syncInterval s.registry).map _
    unfold Service.loopsAt
    by_cases hzero : s.syncInterval.nanos = 0
    · rw [if_pos hzero, hzero, List.map_nil, List.append_nil]
      rfl
    · rw [if_neg hzero, w.ready_schedule (Nat.pos_of_ne_zero hzero), hw]
      rfl
  attempted c := ⟨c.start, c.running_le, fun hf n id hm => hf.first_attempt hm⟩

/-- What is accepted as settings is enough for what is done with it. Every chain can be followed and its payments told
apart. If the database can be opened, every node has a URL, and there is memory for the workers, of which a list is
kept, then the service is started, and serves; otherwise the first of these that is not so is why it is not, and no
worker is. One accepted value lets the service start and not do what it is for: the cycles have no time between them
exactly if that is what is set, and then no chain is followed. -/
theorem accepted_settings_run {env : Environment} {s : Settings} (h : Settings.read env = .ok s) :
    (∀ c ∈ s.chains, c.Usable ∧
      (∀ address token, c.token? address = some token ↔ token ∈ c.tokens ∧ token.address = address) ∧
      ∀ contents e, Payment.screen c contents e ≠ .error .amountOverflow) ∧
    (∀ site, (∀ service, Service.start site s = .ok service ↔ s.Connects site ∧ s.Fits site ∧ service = s.service) ∧
      (Service.start site s = .error .workers ↔ s.Connects site ∧ ¬ s.Fits site) ∧
      ∀ e, Service.start site s = .error (.failed e) ↔ s.Fails site e) ∧
    s.Serves s.service ∧
    (s.syncInterval.nanos = 0 ↔
      ∃ text, env.get? "SYNC_INTERVAL_SECS" = some text ∧ Text.natUpTo? Text.maxWord64 (Text.trim text) = some 0) := by
  refine ⟨fun c hc => ?_, fun site => ⟨fun service => Settings.start_eq_ok_iff, Settings.start_eq_workers_iff,
    fun e => Settings.start_eq_failed_iff⟩, Settings.serves_of_read h, Settings.syncInterval_eq_zero_iff h⟩
  have husable : c.Usable := ChainSettings.usable_of_read ((Settings.read_cases h).1 c hc)
  exact ⟨husable, fun address token => husable.token?_eq_some_iff, husable.screen_ne_amountOverflow⟩

/-! ## As little as is accepted -/

namespace Donation

/-- A chain that is named twice, with windows of no block, no workers and no attempts. -/
def meagre : Environment :=
  [("ENABLED_CHAINS", "optimism, optimism"), ("OPTIMISM_RPC_URL", "http://op"),
    ("OPTIMISM_CURATION_CONTRACT", "0x0101010101010101010101010101010101010101"),
    ("OPTIMISM_USDT_ADDRESS", "0404040404040404040404040404040404040404"), ("OPTIMISM_MAX_WINDOW_SIZE", "0"),
    ("SETTLEMENT_WORKERS", "0"), ("SETTLEMENT_MAX_ATTEMPTS", "0"), ("SYNC_INTERVAL_SECS", "1")]

def meagreChain : ChainSettings :=
  ⟨.optimism, "http://op", contract, 50, 0, [.coin .optimism, .usdt (address 4)]⟩

def meagreSettings : Settings :=
  ⟨"postgresql://localhost/settlement", "0.0.0.0:8080", [meagreChain, meagreChain], .ofSeconds 1,
    ⟨0, 0, .ofSeconds 2, .ofSeconds 300⟩⟩

/-- A database that opens, and memory for a thousand workers. -/
def site : Site := ⟨fun _ => .ok (), 1000⟩

/-- One transaction. -/
def lone : Id := .issued .transaction 1

/-- It is enqueued, and attempted once. -/
def loneMoves : List Queue.Move :=
  [.claim lone true, .send ⟨lone, 1⟩, .take ⟨lone, 1⟩, .finish ⟨lone, 1⟩ none]

def loneQueues : List Queue :=
  [.empty, ⟨[lone], [⟨lone, 1⟩], [], [], []⟩, ⟨[lone], [], [⟨lone, 1⟩], [], []⟩, ⟨[lone], [], [], [⟨lone, 1⟩], []⟩]

def loneCourse : Queue.Course meagreSettings.queue where
  queue n := loneQueues.getD n .empty
  now _ := 0
  due _ _ := 0
  move n := loneMoves[n]?
  start := rfl
  now_le _ := Nat.le_refl 0
  idles
    | n + 4, _ => ⟨rfl, rfl⟩
  moves n m h := by
    obtain ⟨hn, rfl⟩ := List.getElem?_eq_some_iff.1 h
    have hn : n < 4 := hn
    clear h
    interval_cases n
    exacts [⟨.claim lone, rfl⟩, ⟨.send (by decide), rfl⟩, ⟨.take rfl, rfl⟩, ⟨.finish (by decide) none, rfl⟩]
  ripe n job h := by
    obtain ⟨hn, h⟩ := List.getElem?_eq_some_iff.1 h
    have hn : n < 4 := hn
    interval_cases n <;> cases h

theorem loneCourse_fair : loneCourse.Fair where
  sends
    | 1, _, .head _ => ⟨1, by decide, rfl⟩
    | 2, _, h | 3, _, h | _ + 4, _, h => nomatch h
  settles
    | 3, _, .head _ => ⟨3, by decide, _, rfl⟩
    | _ + 4, _, h => nomatch h
  wakes
    | 1, _, h | 2, _, h | 3, _, h | _ + 4, _, h => nomatch h
  takes n h := nomatch h (n + 4) (by omega)

end Donation

/-- The service is started with one worker. The chain is followed block by block, and the transaction is attempted. -/
theorem meagre_settings_run : Settings.read Donation.meagre = .ok Donation.meagreSettings ∧
    (∃ service, Service.start Donation.site Donation.meagreSettings = .ok service ∧ service.workers = 1 ∧
      Chain.optimism ∈ service.loops ∧
      service.registry.find? .optimism = some Donation.meagreChain.deployment ∧
      Errand.cycle 1 .optimism 0 ∈ ((World.start service.registry Donation.meagreSettings.queue).schedule
        (some Donation.meagreSettings.syncInterval.nanos)).2.ready) ∧
    (∃ last, Window.plan (some 6) 57 50 0 = .range 7 last ∧ last ≤ 7) ∧
    Donation.meagreChain.token? (some (Donation.address 4)) = some (.usdt (Donation.address 4)) ∧
    Payment.screen Donation.meagreChain (fun _ => none) Donation.event ≠ .error .amountOverflow ∧
    Donation.loneCourse.Fair ∧ Donation.loneCourse.move 0 = some (.claim Donation.lone true) ∧
    ∃ b e failure, 0 < b ∧ b < e ∧ Donation.loneCourse.move b = some (.take ⟨Donation.lone, 1⟩) ∧
      Donation.loneCourse.move e = some (.finish ⟨Donation.lone, 1⟩ failure) := by
  have hread : Settings.read Donation.meagre = .ok Donation.meagreSettings := by decide +kernel
  obtain ⟨hchains, hstart, hserves, -⟩ := accepted_settings_run hread
  have hurls : ∀ c ∈ Donation.meagreSettings.chains, Url.fault? c.nodeUrl = none := by decide +kernel
  have hfits : Donation.meagreSettings.Fits Donation.site := (by decide +kernel : 1 ≤ min 1000 Queue.mostWorkers)
  have hstarted := ((hstart Donation.site).1 _).2 ⟨⟨rfl, hurls⟩, hfits, rfl⟩
  obtain ⟨husable, htoken, hscreen⟩ := hchains Donation.meagreChain (.head _)
  obtain ⟨last, hplan, -, hlast⟩ := husable.advances 6 57 (by decide) (by decide)
  have hfollowed : Chain.optimism ∈ Donation.meagreSettings.service.loops :=
    (hserves.followed Donation.meagreChain (.head _)).2 (by decide)
  refine ⟨hread, ⟨_, hstarted, hserves.staffed.2, hfollowed, hserves.registered _ (.head _), ?_⟩, ⟨last, hplan, hlast⟩,
    (htoken _ _).2 ⟨.tail _ (.head _), rfl⟩, hscreen _ _, Donation.loneCourse_fair, rfl,
    (hserves.attempted _).2.2 Donation.loneCourse_fair 0 Donation.lone rfl⟩
  rw [hserves.due _ rfl]
  exact List.mem_append_right _ (List.mem_map_of_mem hfollowed)

namespace Donation

/-- The same settings without any time between the cycles. -/
def timeless : Environment := meagre ++ [("SYNC_INTERVAL_SECS", "0")]

def timelessSettings : Settings := { meagreSettings with syncInterval := .ofSeconds 0 }

/-- The same settings with the most workers that can be written. -/
def crowded : Environment := meagre ++ [("SETTLEMENT_WORKERS", "18446744073709551615")]

def crowdedSettings : Settings :=
  { meagreSettings with queue := { meagreSettings.queue with workers := Text.maxWord64 } }

end Donation

/-- No time between the cycles is accepted, and then the service is started and does not follow its chain. More workers
are accepted than any list can hold, and then none is started, however much memory there is. -/
theorem unfit_settings_accepted : Settings.read Donation.timeless = .ok Donation.timelessSettings ∧
    Donation.timelessSettings.syncInterval.nanos = 0 ∧
    (Service.start Donation.site Donation.timelessSettings).map (fun service => (service.workers, service.loops)) =
      .ok (1, []) ∧
    Donation.timelessSettings.registry.chains = [.optimism] ∧
    Settings.read Donation.crowded = .ok Donation.crowdedSettings ∧
    Service.start { Donation.site with room := power 2 64 } Donation.crowdedSettings = .error .workers :=
  ⟨by decide +kernel, rfl, by decide +kernel, by decide +kernel, by decide +kernel, by decide +kernel⟩

end DonationLedger
