import Telematics.Store.Memory
import Telematics.Text.Json.Parser
import Telematics.Text.Json.Printer

/-!
# The seed file

The rows of a store as one JSON document, which an operator can write by hand
and the receiver writes back. Each kind of row has its fields in a fixed
order; a document may leave out the ones that have a default, and whole lists
of rows.
-/

namespace Telematics

/-- A row number. -/
def rowNumber? (j : Json) : Option Int := j.int? minRowNumber maxRowNumber

/-- An unsigned word of thirty-two bits. -/
def Json.word? (j : Json) : Option UInt32 :=
  (j.nat? UInt32.size).map UInt32.ofNat

/-- A signed word of thirty-two bits. -/
def Json.signedWord? (j : Json) : Option Int32 :=
  (j.int? (-0x80000000) 0x7FFFFFFF).map Int32.ofInt

/-- An instant, as text. -/
def Json.instant? (j : Json) : Option Instant := do
  let s ← j.string?
  Instant.ofRfc3339? s

namespace Json

/-- An instant as text. -/
def ofInstant (t : Instant) : Json := .string t.toRfc3339

/-- An optional altitude. -/
def ofAltitude (a : Option Int32) : Json := ofOption (fun a => ofInt a.toInt) a

end Json

open Json

namespace Provider

/-- The provider as a row. -/
def toJson (p : Provider) : Json :=
  .object [("id", ofInt p.id.val), ("name", .string p.name),
    ("ip_patterns", .array (p.patterns.map .string))]

/-- A row that is a provider. -/
def ofJson? (j : Json) : Option Provider := do
  match ← j.fields? ["id", "name", "ip_patterns"] with
  | [id, name, patterns] =>
    pure
      { id := ⟨← id.required rowNumber?⟩
        name := ← name.required string?
        patterns := ← patterns.required (list? string?) }
  | _ => none

end Provider

namespace Moderation

/-- A status, as its name or as an object with that name and nothing under
it. -/
def ofJson? : Json → Option Moderation
  | .string s => ofName? s
  | .object [(name, .null)] => ofName? name
  | _ => none

end Moderation

namespace Vehicle

/-- The vehicle as a row. -/
def toJson (v : Vehicle) : Json :=
  .object [("id", ofInt v.id.val), ("imei", .string v.imei),
    ("oid", ofOption (fun n => ofNat n.toNat) v.oid),
      ("name", ofOption .string v.name),
    ("provider_id", ofInt v.provider.val),
    ("moderation_status", .string v.moderation.name)]

/-- A row that is a vehicle. -/
def ofJson? (j : Json) : Option Vehicle := do
  match ← j.fields? ["id", "imei", "oid", "name", "provider_id",
    "moderation_status"] with
  | [id, imei, oid, name, provider, moderation] =>
    pure
      { id := ⟨← id.required rowNumber?⟩
        imei := ← imei.required string?
        oid := ← oid.withDefault none (option? word?)
        name := ← name.withDefault none (option? string?)
        provider := ⟨← provider.required rowNumber?⟩
        moderation := ← moderation.withDefault .pending Moderation.ofJson? }
  | _ => none

end Vehicle

namespace TrackPoint

/-- The point as a row. -/
def toJson (p : TrackPoint) : Json :=
  .object [("id", ofInt p.id.val), ("vehicle_id", ofInt p.vehicle.val),
    ("latitude", ofFloat p.position.latitude),
    ("longitude", ofFloat p.position.longitude),
    ("altitude", ofAltitude p.position.altitude),
    ("sent_at", ofInstant p.sentAt),
    ("received_at", ofInstant p.receivedAt)]

/-- A row that is a point. -/
def ofJson? (j : Json) : Option TrackPoint := do
  match ← j.fields?
      ["id", "vehicle_id", "latitude", "longitude", "altitude", "sent_at",
        "received_at"] with
  | [id, vehicle, latitude, longitude, altitude, sentAt, receivedAt] =>
    pure
      { id := ⟨← id.required rowNumber?⟩
        vehicle := ⟨← vehicle.required rowNumber?⟩
        position :=
          { latitude := ← latitude.required float?
            longitude := ← longitude.required float?
            altitude := ← altitude.optional (option? signedWord?) }
        sentAt := ← sentAt.required instant?
        receivedAt := ← receivedAt.required instant? }
  | _ => none

end TrackPoint

namespace Store.Contents

/-- The rows as a document. -/
def toJson (c : Contents) : Json :=
  .object [("providers", .array (c.providers.map Provider.toJson)),
    ("vehicles", .array (c.vehicles.map Vehicle.toJson)),
    ("points", .array (c.points.map TrackPoint.toJson))]

/-- The rows that a document holds. -/
def ofJson? (j : Json) : Option Contents := do
  match ← j.fields? ["providers", "vehicles", "points"] with
  | [providers, vehicles, points] =>
    pure
      { providers := ← providers.withDefault [] (list? Provider.ofJson?)
        vehicles := ← vehicles.withDefault [] (list? Vehicle.ofJson?)
        points := ← points.withDefault [] (list? TrackPoint.ofJson?) }
  | _ => none

/-- The text of a seed file. -/
def toText (c : Contents) : String := c.toJson.pretty 0

/-- The rows of a seed file. -/
def ofText? (s : String) : Option Contents := do
  let j ← Json.parse? s
  ofJson? j

end Store.Contents

end Telematics
