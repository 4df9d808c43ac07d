import DonationLedger.Queue
import DonationLedger.Rpc

/-!
# The start of the service

The database is opened, and then a reader for the node of every chain that is set, one after
another. Only then are the workers of the queue and the loops that follow the chains started. What
fails on the way ends the start: nothing that comes after it is begun.
-/

namespace DonationLedger

/-- Opens a reader for each of the chains. Of two settings of one chain the later count. -/
def Registry.connect (r : Registry) : List ChainSettings → Except Failure Registry
  | [] => .ok r
  | c :: cs => do
    let reader ← Rpc.Reader.connect c.chain c.nodeUrl c.contract
    connect (r.register ⟨c, reader.contract⟩) cs

/-- What a service depends on where it is started: a database that may be opened or not, and memory
for so many workers. -/
structure Site where
  openDatabase : String → Except Failure Unit
  room : Nat

/-- Why a service did not start. -/
inductive StartFault
  | failed (failure : Failure)
  | workers
  deriving DecidableEq, Repr

/-- What was started: the workers of a queue, and a loop of cycles for each of the chains that are
followed. -/
structure Service where
  registry : Registry
  workers : Nat
  queue : Queue
  loops : List Chain
  deriving DecidableEq

namespace Service

/-- The chains whose loops run. No loop runs whose cycles have no time between them. -/
def loopsAt (interval : Duration) (r : Registry) : List Chain :=
  if interval.nanos = 0 then [] else r.chains

/-- Starts the service. -/
def start (site : Site) (s : Settings) : Except StartFault Service :=
  match site.openDatabase s.databaseUrl with
  | .error e => .error (.failed e)
  | .ok () => match Registry.connect [] s.chains with
    | .error e => .error (.failed e)
    | .ok registry => match Queue.start s.queue site.room with
      | none => .error .workers
      | some (workers, queue) => .ok ⟨registry, workers, queue, loopsAt s.syncInterval registry⟩

end Service

end DonationLedger
