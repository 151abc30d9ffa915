import Telematics.Wire.Subrecord

/-!
# Service data records

A record has a number by which it is acknowledged, a source and a recipient
service, up to three optional header fields, and sub-records. As with
payloads, the flags of optional fields are not stored but read off the
fields.
-/

namespace Telematics

/-- The services that a record may come from. -/
def authService : UInt8 := 1
def teledataService : UInt8 := 2

/-- A service data record. -/
structure Record where
  recordNumber : UInt16
  /-- The source service runs on the terminal. -/
  sourceOnDevice : Bool
  /-- The recipient service runs on the terminal. -/
  recipientOnDevice : Bool
  /-- The record belongs to a group. -/
  group : Bool
  /-- Two bits. -/
  priority : UInt8
  objectId : Option UInt32
  eventId : Option UInt32
  /-- Seconds since 2010. -/
  time : Option UInt32
  sourceService : UInt8
  recipientService : UInt8
  subrecords : List Subrecord
  deriving DecidableEq, Repr

namespace Record

/-- A record from a service to the same service. -/
def ofService (recordNumber : UInt16) (service : UInt8)
    (subrecords : List Subrecord) : Record where
  recordNumber
  sourceOnDevice := false
  recipientOnDevice := false
  group := false
  priority := 0
  objectId := none
  eventId := none
  time := none
  sourceService := service
  recipientService := service
  subrecords

/-- The terminal that the record names: in its header, else in the first
identity among its sub-records. -/
def objectIdHint (r : Record) : Option UInt32 :=
  r.objectId <|> r.subrecords.findSome? fun
    | .termIdentity p => some p.terminalId
    | _ => none

/-- Some sub-record has no layout. -/
def hasUnknown (r : Record) : Bool := r.subrecords.any Subrecord.isUnknown

/-- The flag byte. -/
def flags (r : Record) : UInt8 :=
  Octet.ofBits [r.objectId.isSome, r.eventId.isSome, r.time.isSome,
    false, false, r.group, r.recipientOnDevice, r.sourceOnDevice]
    ||| (r.priority &&& 0x03) <<< 3

/-- One record off the front of the frame data. -/
def read : Reader Record := do
  let size ← Reader.u16 "RL"
  let recordNumber ← Reader.u16 "RN"
  let flags ← Reader.u8 "RFL"
  let has := Octet.hasBit flags
  let objectId ← Reader.whenFlag (has 0) (Reader.u32 "OID")
  let eventId ← Reader.whenFlag (has 1) (Reader.u32 "EVID")
  let time ← Reader.whenFlag (has 2) (Reader.u32 "TM")
  let sourceService ← Reader.u8 "SST"
  let recipientService ← Reader.u8 "RST"
  let data ← Subrecord.readData "service data record" size.toNat
  let subrecords ← liftM (Subrecord.decodeSet data)
  pure
    { recordNumber
      sourceOnDevice := has 7
      recipientOnDevice := has 6
      group := has 5
      priority := flags >>> 3 &&& 0x03
      objectId, eventId, time, sourceService, recipientService, subrecords }

theorem read_consumes : read.Consumes :=
  (Reader.u16_consumes _).bind fun _ =>
    (Reader.u16_consumes _).bounded.bind fun _ =>
      (Reader.u8_consumes _).bounded.bind fun _ =>
        ((Reader.u32_consumes _).bounded.whenFlag _).bind fun _ =>
          ((Reader.u32_consumes _).bounded.whenFlag _).bind fun _ =>
            ((Reader.u32_consumes _).bounded.whenFlag _).bind fun _ =>
              (Reader.u8_consumes _).bounded.bind fun _ =>
                (Reader.u8_consumes _).bounded.bind fun _ =>
                  (Subrecord.readData_bounded _ _).bind fun _ =>
                    (Subrecord.lift_bounded _).bind fun _ => .pure _

/-- The records of the frame data. -/
def decodeSet (d : Bytes) : Except WireError (List Record) :=
  Reader.many read read_consumes d

/-- The record as it stands in the frame data. -/
def encode (r : Record) : Except WireError Bytes := do
  let data ← Subrecord.encodeSet r.subrecords
  let size ← fitLength "record data" data.length
  pure <|
    Bytes.ofUInt16 size ++ Bytes.ofUInt16 r.recordNumber ++ [r.flags]
      ++ r.objectId.elim [] Bytes.ofUInt32 ++ r.eventId.elim [] Bytes.ofUInt32
      ++ r.time.elim [] Bytes.ofUInt32
      ++ [r.sourceService, r.recipientService] ++ data

/-- Records one after the other. -/
def encodeSet (set : List Record) : Except WireError Bytes :=
  List.flatten <$> set.mapM encode

end Record

end Telematics
