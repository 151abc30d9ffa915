import Telematics.Fleet.Provider
import Telematics.Pipeline.Window
import Telematics.Schedule.Trigger
import Telematics.Text.Decimal

/-!
# Settings of the receiver

Every setting has a value of its own, so that an empty file is a full set of
them. `Config.validate` says which sets a receiver can run with and names the
first fault of one that it cannot. A recording month that does not exist is no
fault, since `RecordingWindow.ofMonths` has a month to put in its place.
-/

namespace Telematics

namespace Config

/-- Where terminals connect. -/
structure Listener where
  addresses : List Endpoint := [⟨.ofOctets 0 0 0 0, 0, 6000⟩]
  /-- How long a terminal may be silent; without limit if it is zero. -/
  ttl : Duration := .zero
  maxConnections : Nat := 10000

/-- The readings that wait, and who works on them. -/
structure Queue where
  capacity : Nat := 1024
  workers : Nat := 4

/-- The months during which readings are kept. -/
structure Recording where
  monthStart : Nat := RecordingWindow.defaultFirst
  monthEnd : Nat := RecordingWindow.defaultLast

/-- The periodic jobs. -/
structure Jobs where
  timezone : String := "Europe/Moscow"
  /-- When the cache of positions is loaded again. -/
  cacheRefresh : String := "0 3 * * *"
  /-- When recent tracks are thinned. -/
  simplify : String := "0 4 * * *"
  /-- How far a point may lie off the track without it, in degrees. -/
  tolerance : Float := 0.0001
  /-- How far back a track is recent. -/
  lookback : Duration := .ofSeconds 86400

/-- What is logged, and where. -/
structure Logging where
  level : String := "info"
  format : String := "text"
  file : Option String := none
  maxFiles : Option Nat := none
  color : Bool := true

/-- The files that rows are loaded from and readings are added to. -/
structure Storage where
  seedFile : Option String := none
  readingsFile : Option String := none

end Config

/-- The settings of a receiver. -/
structure Config where
  listener : Config.Listener := {}
  queue : Config.Queue := {}
  recording : Config.Recording := {}
  jobs : Config.Jobs := {}
  logging : Config.Logging := {}
  storage : Config.Storage := {}
  /-- Providers besides those of the seed file. -/
  providers : List Provider := []

namespace Config

/-- How long a read may take, if there is a limit. -/
def readTimeout (c : Config) : Option Duration :=
  if c.listener.ttl = .zero then none else some c.listener.ttl

/-- The recording window. -/
def window (c : Config) : RecordingWindow :=
  .ofMonths c.recording.monthStart c.recording.monthEnd

/-- Settings to start from. -/
def sample : Config where
  listener.ttl := .ofSeconds 30
  storage := ⟨some "vehicles.json", some "readings.jsonl"⟩
  providers := [⟨⟨1⟩, "local", ["127.0.0.1", "192.168.*"]⟩]

/-! ## Faults -/

/-- Goes on only if there is no fault. -/
def require (p : Bool) (fault : SettingFault) : Except Error Unit :=
  if p then .ok () else .error (.invalidConfig fault)

/-- Each provider has a number of its own and a pattern; `seen` are the numbers
of those before. -/
def validateProviders (seen : List ProviderId) :
    List Provider → Except Error Unit
  | [] => .ok ()
  | p :: r => do
    require (!seen.contains p.id) (.duplicateProvider p.id.label)
    require (!p.patterns.isEmpty) (.noPatterns p.name)
    validateProviders (p.id :: seen) r

/-- The zone of the jobs, and their triggers: when the cache is loaded again and
when tracks are thinned. -/
def Jobs.triggers (j : Jobs) : Except Error (Trigger × Trigger) := do
  let zone ← Trigger.findZone j.timezone
  let refresh ← Trigger.ofCron j.cacheRefresh zone
  let simplify ← Trigger.ofCron j.simplify zone
  pure (refresh, simplify)

/-- **The settings have no fault**; otherwise the first of them. -/
def validate (c : Config) : Except Error Unit := do
  require (!c.listener.addresses.isEmpty) .noListenAddresses
  require (c.listener.maxConnections ≠ 0) .noConnections
  require (c.queue.workers ≠ 0) .noWorkers
  require (c.queue.capacity ≠ 0) .noQueue
  require (c.jobs.tolerance.isFinite && 0.0 < c.jobs.tolerance)
    (.tolerance (Decimal.plain c.jobs.tolerance))
  let _ ← c.jobs.triggers
  validateProviders [] c.providers

end Config

end Telematics
