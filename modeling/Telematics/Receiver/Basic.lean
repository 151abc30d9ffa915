import Telematics.Config.Basic
import Telematics.Pipeline.Refresh
import Telematics.Pipeline.Thinner
import Telematics.Session.Exchange
import Telematics.Store.Seed

/-!
# The receiver

A receiver is opened with the rows of a seed file and the providers of its
settings, and started with a cache of the positions that are stored. From then
on it lets connections in, each with a session of its own, and processes their
readings in one place.

A connection is let in if its address belongs to a provider and there is room
for one more; the address is looked at first.
-/

namespace Telematics

namespace Config

/-- **The store that a receiver opens**: the rows of the seed file, of which
the text is given if it can be read, and then the providers of the settings. -/
def openStore (c : Config) (seed : Option String) : Except Error Store :=
  let loaded : Except Error Store :=
    match c.storage.seedFile with
    | none => .ok .empty
    | some _ =>
      match seed.bind Store.Contents.ofText? with
      | some rows => .ok (.ofContents rows)
      | none => .error (.config .unloadableSeed)
  loaded.map (·.addProviders c.providers)

/-- Where readings are delivered: the store, and a file if there is one. -/
def sinks (c : Config) : List Sink :=
  if c.storage.readingsFile.isSome then [.store, .log] else [.store]

end Config

namespace Store

/-- What a store, an empty cache and an empty log hold. -/
def backend (s : Store) : Backend :=
  ⟨s, .empty PositionCache.defaultTolerance, []⟩

/-- **One pass of thinning** over a store that nobody else works on. -/
def thin (s : Store) (tolerance : Float) (lookback : Duration) (now : Instant) :
    Except Error (ThinningReport × Store) :=
  let (result, b) := (Thinner.run tolerance lookback now).result
    (Thinner.completes_run tolerance lookback now) .none s.backend
  result.map fun report => (report, b.store)

end Store

/-- A receiver at work. -/
structure Receiver where
  config : Config
  processing : Processing
  /-- When the cache is loaded again. -/
  refreshTrigger : Trigger
  /-- When tracks are thinned. -/
  thinTrigger : Trigger
  /-- Connections that were let in so far. -/
  accepted : Nat
  /-- Connections that were not. -/
  rejected : Nat
  /-- Connections that are open. -/
  active : Nat

namespace Receiver

/-- Does a task alone; the cache, the store and the log are as it leaves them.
It is one that comes to its end, since the receiver waits for it. -/
def perform (r : Receiver) (t : Task ε α) (h : t.Completes) :
    Except ε α × Receiver :=
  let (result, backend) := t.result h r.processing.faults r.processing.backend
  (result, { r with processing := { r.processing with backend } })

/-- Loads the cache again. -/
def refresh (r : Receiver) : Except Error Nat × Receiver :=
  r.perform (PositionCache.refresh.mapError .store)
    (.mapError _ PositionCache.completes_refresh)

/-- Thins the recent tracks. -/
def thin (r : Receiver) (now : Instant) :
    Except Error ThinningReport × Receiver :=
  r.perform (Thinner.run r.config.jobs.tolerance r.config.jobs.lookback now)
    (Thinner.completes_run _ _ _)

/-- **A receiver is started** over a store. -/
def start (c : Config) (s : Store) (now : Instant) : Except Error Receiver := do
  let (refreshTrigger, thinTrigger) ← c.jobs.triggers
  let processing : Processing :=
    { pipeline := ⟨c.window, c.sinks⟩
      faults := .none
      backend := s.backend
      pool := .start c.queue.capacity c.queue.workers
      clock := now }
  let (loaded, r) :=
    refresh ⟨c, processing, refreshTrigger, thinTrigger, 0, 0, 0⟩
  let _ ← loaded
  pure r

/-- The rows that the receiver keeps. -/
def store (r : Receiver) : Store := r.processing.backend.store

/-- What became of the readings so far. -/
def stats (r : Receiver) : QueueStats := r.processing.pool.stats

/-- **A connection asks to be let in.** -/
def letIn (r : Receiver) (peer : Address) : Option Connection × Receiver :=
  if (Provider.forAddress r.store.providers peer).isSome
      && decide (r.active < r.config.listener.maxConnections) then
    (some (.start (r.config.readTimeout.map (·.millis))),
      { r with accepted := r.accepted + 1, active := r.active + 1 })
  else (none, { r with rejected := r.rejected + 1 })

/-- Octets arrive on a connection; the answer is what is sent back. -/
def receive (r : Receiver) (peer : Address) (c : Connection) (time : Nat)
    (now : Instant) (d : Bytes) : Bytes × Connection × Receiver :=
  let (answer, x) :=
    Exchange.receive ⟨peer, c, { r.processing with clock := now }, time⟩ d
  (answer, x.connection, { r with processing := x.processing })

/-- A connection is over. -/
def release (r : Receiver) : Receiver := { r with active := r.active - 1 }

/-- The readings in the log, which is empty afterwards. -/
def takeLog (r : Receiver) : List (VehicleId × Reading) × Receiver :=
  (r.processing.backend.log, { r with processing.backend.log := [] })

end Receiver

end Telematics
