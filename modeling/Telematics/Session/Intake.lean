import Telematics.Fleet.Report
import Telematics.Wire.ResultCode

/-!
# Taking in the records of a packet

Every record is acknowledged, accepted or not. A record of a foreign service
is denied and has no other effect. Any other names the terminal, if it says
who it is, and that holds for the records after it on the same connection
too, so a fix without an identity belongs to the terminal that was named
last. Only a record that is understood in full yields a reading.
-/

namespace Telematics

namespace Record

/-- How a record is acknowledged. -/
def status (r : Record) : ResultCode :=
  if r.sourceService ≠ authService ∧ r.sourceService ≠ teledataService
    then .serviceDenied
  else if r.hasUnknown then .unsupportedType
  else .ok

/-- The record is from a service that is not served. -/
def isDenied (r : Record) : Bool := r.status = .serviceDenied

/-- The record says who the terminal is. -/
def identifies (r : Record) : Bool :=
  r.subrecords.any fun
    | .termIdentity _ | .authInfo _ => true
    | _ => false

/-- The acknowledgement of a record. -/
def acknowledgement (r : Record) : RecordResponse :=
  ⟨r.recordNumber, r.status.toByte⟩

/-- The terminal that is known after a record, given the one before it. -/
def knownAfter (known : Option UInt32) (r : Record) : Option UInt32 :=
  if r.isDenied then known else r.objectIdHint <|> known

/-- The reading of a record from a known terminal, if it is accepted. -/
def acceptedReading (known : Option UInt32) (packetId : UInt16)
    (receivedAt : Instant) (r : Record) : Option Reading := do
  guard (r.status = .ok)
  let oid ← known
  Reading.ofRecord? r oid packetId receivedAt

end Record

/-- What the records of a packet lead to. -/
structure Intake where
  /-- An acknowledgement for each record, in order. -/
  responses : List RecordResponse
  readings : List Reading
  /-- The terminal said who it is. -/
  authenticated : Bool
  /-- The service on whose behalf the records are acknowledged. -/
  service : UInt8

namespace Intake

/-- The readings of records, given the terminal that is known before them. -/
def readingsOf (packetId : UInt16) (receivedAt : Instant) :
    Option UInt32 → List Record → List Reading
  | _, [] => []
  | known, r :: rest =>
    -- A record may name the terminal that its own reading is of.
    let known := r.knownAfter known
    (r.acceptedReading known packetId receivedAt).toList
      ++ readingsOf packetId receivedAt known rest

/-- **What records lead to**, given the terminal that is known before them. -/
def ofRecords (known : Option UInt32) (records : List Record)
    (packetId : UInt16) (receivedAt : Instant) : Intake where
  responses := records.map Record.acknowledgement
  readings := readingsOf packetId receivedAt known records
  authenticated := records.any fun r => !r.isDenied && r.identifies
  service :=
    ((records.find? fun r => !r.isDenied).map (·.sourceService)).getD
      teledataService

end Intake

end Telematics
