import DonationLedger.Bytes
import DonationLedger.Chain
import DonationLedger.Failure
import DonationLedger.Text.Basic
import DonationLedger.Time

/-!
# Settings

What is set for a deployment on a chain, for the queue of settlement jobs and for the whole
service, with the values that hold where nothing is set, and how settings are read from an
environment of named texts. The first fault in the order of reading is the one reported.
-/

namespace DonationLedger

/-- A currency that is accepted on a chain. The chain's own coin has no contract. -/
structure Token where
  symbol : String
  address : Option Address
  decimals : Nat
  deriving DecidableEq

namespace Token

/-- The chain's own coin. -/
def coin (chain : Chain) : Token := ⟨chain.coin, none, 18⟩

def usdt (address : Address) : Token := ⟨"USDT", some address, 6⟩

end Token

/-- The settings of one chain. -/
structure ChainSettings where
  chain : Chain
  nodeUrl : String
  contract : Address
  confirmationDepth : Nat
  windowSize : Nat
  tokens : List Token
  deriving DecidableEq

namespace ChainSettings

/-- The number of blocks in a window where none is set. -/
def defaultWindowSize : Nat := 2000

/-- The settings of a chain with everything left at its default. -/
def standard (chain : Chain) (nodeUrl : String) (contract : Address) : ChainSettings :=
  ⟨chain, nodeUrl, contract, chain.confirmationDepth, defaultWindowSize, [Token.coin chain]⟩

/-- The settings with one more token at the end of the table. -/
def withToken (s : ChainSettings) (t : Token) : ChainSettings :=
  { s with tokens := s.tokens ++ [t] }

/-- The first token of the table with this contract. No contract stands for the chain's coin. -/
def token? (s : ChainSettings) (address : Option Address) : Option Token :=
  s.tokens.find? fun t => t.address == address

end ChainSettings

/-- The settings of the queue of settlement jobs. -/
structure QueueSettings where
  workers : Nat
  maxAttempts : Nat
  backoffBase : Duration
  backoffMax : Duration
  deriving DecidableEq, Repr

namespace QueueSettings

def standard : QueueSettings := ⟨4, 8, .ofSeconds 2, .ofSeconds 300⟩

/-- How many workers are to be started: at least one. -/
def pool (s : QueueSettings) : Nat := max s.workers 1

theorem pool_pos (s : QueueSettings) : 0 < s.pool := by simp only [pool]; omega

end QueueSettings

/-- The settings of the service. -/
structure Settings where
  databaseUrl : String
  bindAddress : String
  chains : List ChainSettings
  syncInterval : Duration
  queue : QueueSettings
  deriving DecidableEq

/-- Named texts. Of two texts of one name the later counts. -/
abbrev Environment := List (String × String)

namespace Environment

/-- The text of a name. -/
def get? (env : Environment) (key : String) : Option String :=
  env.foldl (fun found v => if v.1 = key then some v.2 else found) none

/-- The text of a name that has to be there. -/
def required (env : Environment) (key : String) : Except SettingsFault String :=
  match env.get? key with
  | some value => .ok value
  | none => .error (.missing key)

/-- The address under a name that has to be there. -/
def address (env : Environment) (key : String) : Except SettingsFault Address := do
  let value ← env.required key
  match FixedBytes.parse? 20 (Text.trim value) with
  | some a => .ok a
  | none => .error (.notAnAddress key value)

/-- The number up to `max` under a name, `standard` where the name is not set. -/
def number (env : Environment) (key : String) (max standard : Nat) : Except SettingsFault Nat :=
  match env.get? key with
  | some value => match Text.natUpTo? max (Text.trim value) with
    | some n => .ok n
    | none => .error (.invalidValue key value)
  | none => .ok standard

end Environment

/-- What the names of a chain's settings begin with. -/
def Chain.settingsName : Chain → String
  | optimism => "OPTIMISM"
  | optimismSepolia => "OPTIMISM_SEPOLIA"
  | polygon => "POLYGON"

namespace ChainSettings

/-- The settings of a chain in an environment. -/
def read (env : Environment) (chain : Chain) : Except SettingsFault ChainSettings := do
  let key := fun what => chain.settingsName ++ what
  let nodeUrl ← env.required (key "_RPC_URL")
  let contract ← env.address (key "_CURATION_CONTRACT")
  let standard := standard chain nodeUrl contract
  let depth ← env.number (key "_CONFIRMATION_DEPTH") Text.maxWord64 standard.confirmationDepth
  let window ← env.number (key "_MAX_WINDOW_SIZE") Text.maxWord64 standard.windowSize
  let settings := { standard with confirmationDepth := depth, windowSize := window }
  match env.get? (key "_USDT_ADDRESS") with
  | none => pure settings
  | some _ =>
    let address ← env.address (key "_USDT_ADDRESS")
    pure (settings.withToken (Token.usdt address))

end ChainSettings

namespace Settings

/-- The names in a list of chains, without the empty ones. -/
def chainNames (value : String) : List String :=
  ((Text.split ',' value).map Text.trim).filter fun name => !name.isEmpty

/-- The settings of the named chains, in order. -/
def readChains (env : Environment) : List String → Except SettingsFault (List ChainSettings)
  | [] => pure []
  | name :: names => do
    let chain ← match Chain.parse name with
      | .ok c => pure c
      | .error e => throw (.unknownChain e)
    let settings ← ChainSettings.read env chain
    let rest ← readChains env names
    pure (settings :: rest)

/-- The settings of the queue in an environment. -/
def readQueue (env : Environment) : Except SettingsFault QueueSettings := do
  let standard := QueueSettings.standard
  let workers ← env.number "SETTLEMENT_WORKERS" Text.maxWord64 standard.workers
  let attempts ← env.number "SETTLEMENT_MAX_ATTEMPTS" Text.maxWord32 standard.maxAttempts
  let base ← env.number "SETTLEMENT_BACKOFF_BASE_MS" Text.maxWord64 standard.backoffBase.millis
  let longest ← env.number "SETTLEMENT_BACKOFF_MAX_MS" Text.maxWord64 standard.backoffMax.millis
  pure ⟨workers, attempts, .ofMillis base, .ofMillis longest⟩

/-- The settings of the service in an environment. -/
def read (env : Environment) : Except SettingsFault Settings := do
  let chains ← readChains env (chainNames ((env.get? "ENABLED_CHAINS").getD "optimism"))
  let interval ← env.number "SYNC_INTERVAL_SECS" Text.maxWord64 60
  let queue ← readQueue env
  pure
    { databaseUrl := (env.get? "DATABASE_URL").getD "postgresql://localhost/settlement"
      bindAddress := (env.get? "BIND_ADDRESS").getD "0.0.0.0:8080"
      chains := chains
      syncInterval := .ofSeconds interval
      queue := queue }

end Settings

end DonationLedger
