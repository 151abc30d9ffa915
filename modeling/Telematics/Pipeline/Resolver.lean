import Telematics.Error
import Telematics.Fleet.PartOf
import Telematics.Pipeline.Request

/-!
# Which vehicle reports

A terminal reports an object number that need not be stored anywhere. Among
the vehicles of its provider, one that last reported under that number is
taken; failing that, one whose equipment identity has the number as a
fragment, which is then noted; failing that, a placeholder is entered.
Several candidates are never chosen between.
-/

namespace Telematics

/-- How an object number was mapped to a vehicle. -/
inductive Resolution where
  /-- The vehicle last reported under the number. -/
  | cached (vehicle : VehicleId)
  /-- The number is a fragment of the vehicle's identity. -/
  | matched (vehicle : VehicleId)
  /-- Nothing matched; a placeholder was entered. -/
  | created (vehicle : VehicleId)
  deriving DecidableEq, Repr

namespace Resolution

/-- The vehicle. -/
def vehicle : Resolution → VehicleId
  | cached v | matched v | created v => v

end Resolution

namespace Resolver

/-- The identity of a vehicle's terminal as a number, if it is one. -/
def imeiNumber? (v : Vehicle) : Option UInt64 :=
  (Text.unsigned? UInt64.size (Text.trim v.imei.toList)).map UInt64.ofNat

/-- The object number is a fragment of the vehicle's identity. -/
def matchesImei (oid : UInt32) (v : Vehicle) : Bool :=
  (imeiNumber? v).any fun imei => isPartOf oid.toUInt64 imei

/-- A request whose failure is a failure to resolve. -/
def request (r : Request) : Task ResolveError r.Result :=
  (Task.request r).mapError .store

/-- What is done with the vehicles whose identity matches. -/
def settle (oid : UInt32) (provider : ProviderId) :
    List Vehicle → Task ResolveError Resolution
  | [] => do
    let id ← request (.insertVehicle (.placeholder oid provider))
    pure (.created id)
  | [v] => do
    if v.oid ≠ some oid then
      let () ← request (.updateOid v.id oid)
    pure (.matched v.id)
  | v :: w :: r => throw (.ambiguous oid (v :: w :: r).length)

/-- **The vehicle of an object number** under a provider. -/
def resolve (oid : UInt32) (provider : ProviderId) :
    Task ResolveError Resolution := do
  match ← request (.vehiclesByOid oid provider) with
  | [v] => pure (.cached v.id)
  | v :: w :: r => throw (.ambiguous oid (v :: w :: r).length)
  | [] =>
    -- Nothing keeps others from entering a vehicle until this one is settled.
    let all ← request (.vehiclesByProvider provider)
    settle oid provider (all.filter (matchesImei oid))

end Resolver

end Telematics
