import Telematics.Error
import Telematics.Wire.Packet

/-!
# Sample packets

What a terminal would send, for trying out a receiver: a log-in, a fix, or a
fix with the level of a tank.
-/

namespace Telematics

/-- What a sample packet carries. -/
inductive SampleKind where
  | auth
  | telemetry
  | mixed
  deriving DecidableEq, Repr

namespace SampleKind

/-- The kind as it is written. -/
def name : SampleKind → String
  | auth => "auth"
  | telemetry => "tele"
  | mixed => "mixed"

/-- The kind that a text stands for. -/
def ofText (s : String) : Except Error SampleKind :=
  match s with
  | "auth" => .ok auth
  | "tele" | "telemetry" => .ok telemetry
  | "mixed" => .ok mixed
  | s => .error (.invalidConfig (.unknownPacketKind s))

@[simp] theorem ofText_name (k : SampleKind) :
    ofText k.name = .ok k := by cases k <;> rfl

end SampleKind

/-- A sample packet. -/
structure Sample where
  kind : SampleKind
  packetId : UInt16
  objectId : UInt32
  time : Instant
  latitude : Float
  longitude : Float
  /-- The level of the first liquid sensor. -/
  liquidLevel : UInt32

namespace Sample

/-- The event that sample records name. -/
def eventId : UInt32 := 3436

/-- The priority of sample packets and records. -/
def priority : UInt8 := 2

/-- Where the sample terminal is. -/
def fix (s : Sample) : Fix :=
  ((Fix.ofDegrees s.time s.latitude s.longitude).withAltitude 30).withMotion
    3.4 172

/-- The tank of the sample terminal. -/
def liquidSensor (s : Sample) : LiquidSensor where
  number := 1
  error := false
  unit := .uncalibrated
  moduleAddress := 1
  reading := .value s.liquidLevel
  reserved := false

/-- The sub-records of the packet. -/
def subrecords (s : Sample) : List Subrecord :=
  match s.kind with
  | .auth => [.authInfo ⟨"test", "test", none⟩]
  | .telemetry => [.fix s.fix]
  | .mixed => [.fix s.fix, .liquidSensor s.liquidSensor]

/-- The service that the packet is for. -/
def service (s : Sample) : UInt8 :=
  if s.kind = .auth then authService else teledataService

/-- The one record of the packet. -/
def record (s : Sample) : Record :=
  { Record.ofService 1 s.service s.subrecords with
    priority
    objectId := some s.objectId
    eventId := some eventId }

/-- **The packet.** -/
def packet (s : Sample) : Packet :=
  { Packet.ofFrame s.packetId (.appData [s.record]) with priority }

end Sample

end Telematics
