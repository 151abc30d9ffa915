import Telematics.Store.Seed

/-!
# The journal of readings

Every saved reading is one line, a JSON object that names the vehicle first.
Optional values that are missing stand as `null`; the lists of sensors are
left out where they are empty.
-/

namespace Telematics

open Json

namespace AnalogValue

/-- The value as a row. -/
def toJson (a : AnalogValue) : Json :=
  .object [("number", ofNat a.number.toNat), ("value", ofNat a.value.toNat)]

/-- A row that is an analog value. -/
def ofJson? (j : Json) : Option AnalogValue := do
  match ← j.fields? ["number", "value"] with
  | [number, value] =>
    pure
      { number := UInt8.ofNat (← number.required (nat? 256))
        value := ← value.required word? }
  | _ => none

end AnalogValue

namespace LiquidLevel

/-- The level as a row. -/
def toJson (l : LiquidLevel) : Json :=
  let word := ofOption fun n : UInt32 => ofNat n.toNat
  .object [("number", ofNat l.number.toNat), ("error", .bool l.error),
    ("value_mm", word l.millimetres), ("value_l", word l.litres)]

/-- A row that is a level. -/
def ofJson? (j : Json) : Option LiquidLevel := do
  match ← j.fields? ["number", "error", "value_mm", "value_l"] with
  | [number, error, millimetres, litres] =>
    pure
      { number := UInt8.ofNat (← number.required (nat? 256))
        error := ← error.required bool?
        millimetres := ← millimetres.optional (option? word?)
        litres := ← litres.optional (option? word?) }
  | _ => none

end LiquidLevel

/-- A reading in the journal, with the vehicle it was saved for. -/
structure JournalEntry where
  vehicle : VehicleId
  reading : Reading

namespace JournalEntry

/-- A list that is left out where it is empty. -/
def unlessEmpty (name : String) (items : List Json) : List (String × Json) :=
  if items.isEmpty then [] else [(name, .array items)]

/-- The entry as an object. -/
def toJson (e : JournalEntry) : Json :=
  let r := e.reading
  let short := ofOption fun n : UInt16 => ofNat n.toNat
  .object <|
    [("vehicle_id", ofInt e.vehicle.val), ("oid", ofNat r.oid.toNat),
      ("packet_id", ofNat r.packetId.toNat), ("sent_at", ofInstant r.sentAt),
      ("received_at", ofInstant r.receivedAt), ("latitude", ofFloat r.latitude),
      ("longitude", ofFloat r.longitude), ("altitude", ofAltitude r.altitude),
      ("speed", ofFloat r.speed), ("course", ofNat r.course.toNat),
      ("satellites", ofOption (fun n => ofNat n.toNat) r.satellites),
      ("pdop", short r.pdop), ("hdop", short r.hdop), ("vdop", short r.vdop),
      ("navigation_system", short r.navigationSystem)]
    ++ unlessEmpty "analog_sensors" (r.analogSensors.map AnalogValue.toJson)
    ++ unlessEmpty "liquid_sensors" (r.liquidSensors.map LiquidLevel.toJson)

/-- The line of an entry, without its end. -/
def toLine (e : JournalEntry) : String := e.toJson.compact

/-- A short unsigned word. -/
def short? (j : Json) : Option UInt16 := (j.nat? UInt16.size).map UInt16.ofNat

/-- The fields of an entry. -/
def names : List String :=
  ["vehicle_id", "oid", "packet_id", "sent_at", "received_at", "latitude",
    "longitude", "altitude", "speed", "course", "satellites", "pdop", "hdop",
    "vdop", "navigation_system", "analog_sensors", "liquid_sensors"]

/-- An object that is an entry. What is passed over has to be readable all the
same. -/
def ofJson? (j : Json) : Option JournalEntry := do
  guard (!j.array?.isSome && j.isReadable 127)
  match ← j.fields? names with
  | [vehicle, oid, packetId, sentAt, receivedAt, latitude, longitude, altitude,
    speed, course,
    satellites, pdop, hdop, vdop, navigationSystem, analogSensors,
    liquidSensors] =>
    let reading : Reading :=
      { oid := ← oid.required word?
        packetId := ← packetId.required word?
        sentAt := ← sentAt.required instant?
        receivedAt := ← receivedAt.required instant?
        latitude := ← latitude.required float?
        longitude := ← longitude.required float?
        altitude := ← altitude.optional (option? signedWord?)
        speed := ← speed.required float?
        course := ← course.required short?
        satellites :=
          (← satellites.optional (option? (nat? 256))).map UInt8.ofNat
        pdop := ← pdop.optional (option? short?)
        hdop := ← hdop.optional (option? short?)
        vdop := ← vdop.optional (option? short?)
        navigationSystem := ← navigationSystem.optional (option? short?)
        analogSensors :=
          ← analogSensors.withDefault [] (list? AnalogValue.ofJson?)
        liquidSensors :=
          ← liquidSensors.withDefault [] (list? LiquidLevel.ofJson?) }
    pure ⟨⟨← vehicle.required rowNumber?⟩, reading⟩
  | _ => none

/-- The entry on a line. -/
def ofLine? (s : String) : Option JournalEntry := do
  let j ← Json.parse? s
  ofJson? j

end JournalEntry

namespace Journal

/-- The text of entries, a line each. -/
def toText (entries : List JournalEntry) : String :=
  String.join (entries.map fun e => e.toLine ++ "\n")

end Journal

end Telematics
