import Telematics.Fleet.Reading
import Telematics.Wire.Record

/-!
# What a record reports

A record with a fix is a reading. The first fix says where and when; all other
sub-records are merged into it, each kind by a rule of its own: the last fix
quality replaces earlier ones, sensor values are collected in order, and two
counters stand for the number that the terminal itself gave the packet.
-/

namespace Telematics

namespace LiquidLevel

/-- The level that a sensor reports. Litres are stored in tenths. -/
def ofSensor (s : LiquidSensor) : LiquidLevel :=
  match s.unit with
  | .uncalibrated | .percent => ⟨s.number, s.error, s.value?, none⟩
  | .litres =>
    let tenths (v : UInt32) : UInt32 :=
      UInt32.ofNat (min (10 * v.toNat) 4294967295)
    ⟨s.number, s.error, none, s.value?.map tenths⟩
  | .reserved => ⟨s.number, s.error, none, none⟩

end LiquidLevel

namespace Reading

/-- The counter that holds the terminal's own number of the packet. -/
def packetCounter : UInt8 := 110

/-- The counter that holds the high octet of that number. -/
def packetHighCounter : UInt8 := 111

/-- The reading that a fix is by itself. -/
def ofFix (p : Fix) (oid packetId : UInt32) (receivedAt : Instant) :
    Reading where
  oid
  packetId
  sentAt := p.time
  receivedAt
  latitude := p.latitude
  longitude := p.longitude
  altitude := p.altitudeMetres
  speed := p.speedKmh
  course := p.direction
  satellites := none
  pdop := none
  hdop := none
  vdop := none
  navigationSystem := none
  analogSensors := []
  liquidSensors := []

/-- The number of a packet after a counter was seen. -/
def countPacket (packetId : UInt32) (c : NumberedValue) : UInt32 :=
  if c.number = packetCounter then c.value
  else if c.number = packetHighCounter then
    (packetId &&& 0x00FFFFFF) ||| ((c.value &&& 0xFF) <<< (24 : UInt32))
  else packetId

/-- The reading with one more sub-record. -/
def merge (r : Reading) : Subrecord → Reading
  | .fixQuality q =>
    { r with
      satellites := q.satellites
      pdop := q.pdop
      hdop := q.hdop
      vdop := q.vdop
      navigationSystem := q.navigationSystem }
  | .adSensors a =>
    { r with analogSensors :=
      r.analogSensors ++ a.analogValues.map fun (n, v) => ⟨n, v⟩ }
  | .analogSensor a =>
    { r with analogSensors := r.analogSensors ++ [⟨a.number, a.value⟩] }
  | .counter c => { r with packetId := countPacket r.packetId c }
  | .liquidSensor s =>
    { r with liquidSensors := r.liquidSensors ++ [.ofSensor s] }
  | _ => r

/-- **The reading of a record**, if it has a fix. -/
def ofRecord? (record : Record) (oid : UInt32) (packetId : UInt16)
    (receivedAt : Instant) : Option Reading := do
  let fix ← record.subrecords.findSome? fun
    | .fix p => some p
    | _ => none
  pure (record.subrecords.foldl merge
    (ofFix fix oid packetId.toUInt32 receivedAt))

end Reading

end Telematics
