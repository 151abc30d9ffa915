import Telematics.Pipeline.Resolver
import Telematics.Pipeline.Window

/-!
# From a reading to a stored point

A reading is kept if it is plausible, falls in the recording window, comes
from a provider's address, belongs to a vehicle that is not rejected, and
reports a place that the vehicle was not at already. Each of the checks
either lets it through or says why it is dropped; the first two need nobody,
so a reading that fails them causes no request.
-/

namespace Telematics

/-- Why a reading was not kept. -/
inductive SkipReason where
  /-- A coordinate or the object number is zero. -/
  | notCredible
  | outsideWindow
  | vehicleRejected
  /-- The vehicle is still where it last was. -/
  | notMoved
  deriving DecidableEq, Repr

namespace SkipReason

/-- The reason in words. -/
def message : SkipReason → String
  | notCredible => "implausible reading"
  | outsideWindow => "outside recording window"
  | vehicleRejected => "vehicle rejected by moderation"
  | notMoved => "position unchanged"

end SkipReason

/-- What became of a reading. -/
inductive SaveOutcome where
  | saved (vehicle : VehicleId)
  | skipped (reason : SkipReason)
  deriving DecidableEq, Repr

/-- A reading and the address it came from. -/
structure Job where
  reading : Reading
  peer : Address

/-- What is applied to every reading. -/
structure Pipeline where
  window : RecordingWindow
  sinks : List Sink

namespace Pipeline

/-- The reading can be true of a terminal that knows where it is. -/
def credible (r : Reading) : Bool :=
  !(r.latitude == 0.0 || r.longitude == 0.0 || r.oid = 0)

/-- A request whose failure is a failure of the receiver. -/
def request (r : Request) : Task Error r.Result :=
  (Task.request r).mapError .store

/-- The provider of an address. -/
def findProvider (peer : Address) : Task Error Provider := do
  let providers ← request .listProviders
  match Provider.forAddress providers peer with
  | some p => pure p
  | none => throw (.resolve (.unknownProvider peer))

/-- Delivers the reading of a vehicle that may be kept, if it moved. -/
def keep (p : Pipeline) (r : Reading) (vehicle : VehicleId) :
    Task Error SaveOutcome := do
  -- The cache is told of the reading here, before any sink is.
  let moved ← request (.checkCache vehicle r.position)
  if moved then
    let () ← (Task.deliver r vehicle p.sinks).mapError .store
    pure (.saved vehicle)
  else pure (.skipped .notMoved)

/-- Looks for the vehicle of a reading and keeps the reading unless the
vehicle is rejected. A vehicle that is gone counts as not yet decided on. -/
def assign (p : Pipeline) (job : Job) : Task Error SaveOutcome := do
  let provider ← findProvider job.peer
  let resolution ←
    (Resolver.resolve job.reading.oid provider.id).mapError .resolve
  let vehicle ← request (.findVehicle resolution.vehicle)
  if vehicle.elim Moderation.pending (·.moderation) = .rejected then
    pure (.skipped .vehicleRejected)
  else p.keep job.reading resolution.vehicle

/-- **One reading**, in a month of the year. -/
def process (p : Pipeline) (job : Job) (month : Nat) : Task Error SaveOutcome :=
  if !credible job.reading then pure (.skipped .notCredible)
  else if !p.window.contains month then pure (.skipped .outsideWindow)
  else p.assign job

end Pipeline

end Telematics
