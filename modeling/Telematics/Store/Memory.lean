import Telematics.Fleet.Provider
import Telematics.Fleet.Reading
import Telematics.Store.Error
import Telematics.Store.Table

/-!
# The store

Providers, vehicles and track points. Providers keep the order in which they
were last entered; vehicles and points are tables under their numbers. The
store remembers the largest number ever filed in each table, and a new row
gets the next one, so the number of a deleted point is not given again. Once
the largest number there is has been filed, no row can be entered any more: an
insertion then yields neither a number nor a store, and what was kept stays as
it is.
-/

namespace Telematics

/-- What the receiver keeps. -/
structure Store where
  providers : List Provider
  vehicles : Table Vehicle
  points : Table TrackPoint
  /-- The largest number of a vehicle so far, zero at least. -/
  lastVehicle : Int
  /-- The largest number of a point so far, zero at least. -/
  lastPoint : Int

namespace Store

/-- Nothing is kept. -/
def empty : Store := ⟨[], ∅, ∅, 0, 0⟩

instance : Inhabited Store := ⟨empty⟩

/-! ## Filling -/

/-- Enters a provider behind the others; one with the same number goes. -/
def addProvider (s : Store) (p : Provider) : Store :=
  { s with providers := s.providers.filter (·.id != p.id) ++ [p] }

/-- Enters providers one after the other. -/
def addProviders (s : Store) (ps : List Provider) : Store :=
  ps.foldl addProvider s

/-- Files a vehicle under its number. -/
def putVehicle (s : Store) (v : Vehicle) : Store :=
  { s with
    vehicles := s.vehicles.insert v.id.val v
    lastVehicle := max s.lastVehicle v.id.val }

/-- Files a point under its number. -/
def putPoint (s : Store) (p : TrackPoint) : Store :=
  { s with
    points := s.points.insert p.id.val p
    lastPoint := max s.lastPoint p.id.val }

/-- The rows of a store, as they are written to a file. -/
structure Contents where
  providers : List Provider
  vehicles : List Vehicle
  points : List TrackPoint

/-- The store with these rows. -/
def ofContents (c : Contents) : Store :=
  c.points.foldl putPoint
    (c.vehicles.foldl putVehicle (empty.addProviders c.providers))

/-- The rows of the store: providers in their order, vehicles and points by
number. -/
def contents (s : Store) : Contents :=
  ⟨s.providers, s.vehicles.values, s.points.values⟩

/-! ## Vehicles -/

/-- The vehicle under a number. -/
def findVehicle (s : Store) (id : VehicleId) : Option Vehicle :=
  s.vehicles.find? id.val

/-- A provider's vehicles that last reported under an object number. -/
def vehiclesByOid (s : Store) (oid : UInt32) (provider : ProviderId) :
    List Vehicle :=
  s.vehicles.values.filter fun v => v.provider = provider && v.oid = some oid

/-- A provider's vehicles. -/
def vehiclesByProvider (s : Store) (provider : ProviderId) : List Vehicle :=
  s.vehicles.values.filter fun v => v.provider = provider

/-- The store with a vehicle entered under a number. -/
def enterVehicle (s : Store) (v : NewVehicle) (n : Int) : Store :=
  { s with vehicles := s.vehicles.insert n (v.toVehicle ⟨n⟩), lastVehicle := n }

/-- Enters a vehicle under the next number, if there is one. -/
def insertVehicle (s : Store) (v : NewVehicle) : Option (VehicleId × Store) :=
  (nextRowNumber? s.lastVehicle).map fun n => (⟨n⟩, s.enterVehicle v n)

/-- Notes the object number under which a vehicle reports. -/
def updateOid (s : Store) (id : VehicleId) (oid : UInt32) :
    Except StoreError Store :=
  match s.vehicles.find? id.val with
  | some v =>
    .ok { s with
      vehicles := s.vehicles.insert id.val { v with oid := some oid } }
  | none => .error (.notFound id.label)

/-! ## Points -/

/-- The store with a point entered under a number. -/
def enterPoint (s : Store) (vehicle : VehicleId) (position : Position)
    (sentAt receivedAt : Instant) (n : Int) : Store :=
  { s with
    points := s.points.insert n ⟨⟨n⟩, vehicle, position, sentAt, receivedAt⟩
    lastPoint := n }

/-- Enters a point under the next number, if there is one. -/
def insertPoint (s : Store) (vehicle : VehicleId) (position : Position)
    (sentAt receivedAt : Instant) : Option (PointId × Store) :=
  (nextRowNumber? s.lastPoint).map fun n =>
    (⟨n⟩, s.enterPoint vehicle position sentAt receivedAt n)

/-- Keeps a reading of a vehicle as a point, if there is a number for it. -/
def save (s : Store) (r : Reading) (vehicle : VehicleId) : Option Store :=
  (s.insertPoint vehicle r.position r.sentAt r.receivedAt).map (·.2)

/-- Removes a point. -/
def deletePoint (s : Store) (id : PointId) : Except StoreError Store :=
  match s.points.find? id.val with
  | some _ => .ok { s with points := s.points.erase id.val }
  | none => .error (.notFound id.label)

/-- The later of two points, the second of equals. -/
def later (p q : TrackPoint) : TrackPoint := if p.ble q then q else p

/-- The last point of a vehicle by fix time, the highest number among
equals. -/
def lastPointOf (s : Store) (vehicle : VehicleId) : Option TrackPoint :=
  (s.points.values.filter (·.vehicle = vehicle)).foldl
    (fun best p => some (best.elim p (later · p))) none

/-- Where a vehicle last was. -/
def lastPosition (s : Store) (vehicle : VehicleId) : Option Position :=
  (s.lastPointOf vehicle).map (·.position)

/-- The points of a vehicle, or of all, that were received from one instant
to before another. -/
def pointsWithin (s : Store) (vehicle : Option VehicleId)
    (start stop : Instant) : List TrackPoint :=
  s.points.values.filter fun p =>
    vehicle.all (· = p.vehicle) && start ≤ p.receivedAt && p.receivedAt < stop

/-- The numbers that occur in a list, each once, ascending. -/
def distinct (ks : List Int) : List Int :=
  (Table.ofList (ks.map fun k => (k, ()))).rows.map (·.1)

/-- The tracks of the points received within a window, by vehicle. -/
def tracks (s : Store) (vehicle : Option VehicleId) (start stop : Instant) :
    List Track :=
  let ps := s.pointsWithin vehicle start stop
  (distinct (ps.map (·.vehicle.val))).map fun v =>
    ⟨⟨v⟩, (ps.filter (·.vehicle = ⟨v⟩)).mergeSort TrackPoint.ble⟩

end Store

end Telematics
