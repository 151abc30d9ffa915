import Telematics.Fleet.Vehicle
import Telematics.Geo.Position
import Telematics.Time.Instant

/-!
# Readings, points and tracks

A reading is what one record says about a terminal at one moment. A stored
reading leaves a track point, and the points of one vehicle in the order of
their fixes are its track.
-/

namespace Telematics

/-- The value of one analog sensor. -/
structure AnalogValue where
  number : UInt8
  value : UInt32
  deriving DecidableEq, Repr

/-- The level of one liquid sensor, in millimetres or in litres. -/
structure LiquidLevel where
  number : UInt8
  error : Bool
  millimetres : Option UInt32
  litres : Option UInt32
  deriving DecidableEq, Repr

/-- A position report. -/
structure Reading where
  /-- The object number that the terminal reports. -/
  oid : UInt32
  /-- The number of the packet, or the terminal's own count. -/
  packetId : UInt32
  sentAt : Instant
  receivedAt : Instant
  latitude : Float
  longitude : Float
  /-- Metres above sea level. -/
  altitude : Option Int32
  /-- Kilometres per hour. -/
  speed : Float
  /-- Degrees. -/
  course : UInt16
  satellites : Option UInt8
  pdop : Option UInt16
  hdop : Option UInt16
  vdop : Option UInt16
  navigationSystem : Option UInt16
  analogSensors : List AnalogValue
  liquidSensors : List LiquidLevel

namespace Reading

/-- Where the terminal was. -/
def position (r : Reading) : Position := ⟨r.latitude, r.longitude, r.altitude⟩

end Reading

/-- A stored point. -/
structure TrackPoint where
  id : PointId
  vehicle : VehicleId
  position : Position
  sentAt : Instant
  receivedAt : Instant

namespace TrackPoint

/-- The order of points within a track: by fix time, then by number. -/
def ble (p q : TrackPoint) : Bool :=
  p.sentAt < q.sentAt || (p.sentAt = q.sentAt && p.id.val ≤ q.id.val)

end TrackPoint

/-- The points of one vehicle, in order. -/
structure Track where
  vehicle : VehicleId
  points : List TrackPoint

end Telematics
