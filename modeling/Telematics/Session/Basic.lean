import Telematics.Session.Intake
import Telematics.Wire.Packet

/-!
# A session with a terminal

The receiver answers packet by packet. It numbers the packets and the records
that it sends from zero, and remembers the terminal that was named last.

A packet that cannot be read is answered with the fault; an acknowledgement is
not answered; anything else is acknowledged record by record, and a terminal
that said who it is gets a second packet, which tells it that it is let in.
`Session.answer` says what is sent for a packet and which readings are passed
on. All of it is one list of events, since the order counts: a terminal has
its answer before the first reading of a packet waits for a place in the
queue.
-/

namespace Telematics

/-- What the receiver remembers of a session. -/
structure Session where
  /-- The terminal that was named last. -/
  objectId : Option UInt32
  nextPacketId : UInt16
  nextRecordNumber : UInt16
  deriving DecidableEq, Repr

namespace Session

/-- A session at its start. -/
def new : Session := ⟨none, 0, 0⟩

/-- What a session does. -/
inductive Event where
  | send (p : Packet)
  /-- Passes a reading on to be processed. What becomes of it there is nothing
  to the session. -/
  | submit (r : Reading)

namespace Event

/-- The packet that is sent. -/
def packet? : Event → Option Packet
  | send p => some p
  | submit _ => none

/-- The reading that is passed on. -/
def reading? : Event → Option Reading
  | send _ => none
  | submit r => some r

/-- What is sent in the course of events, as octets. -/
def octets (events : List Event) : Bytes :=
  (events.filterMap packet?).flatMap fun p => p.encode.toOption.getD []

end Event

/-- The answer to one packet. -/
structure Turn where
  session : Session
  /-- What is done, in order. -/
  events : List Event

/-- A packet under the next number. -/
def numbered (s : Session) (frame : Frame) : Packet × Session :=
  (.ofFrame s.nextPacketId frame, { s with nextPacketId := s.nextPacketId + 1 })

/-- A record under the next number. -/
def numberedRecord (s : Session) (service : UInt8)
    (subrecords : List Subrecord) : Record × Session :=
  (.ofService s.nextRecordNumber service subrecords,
    { s with nextRecordNumber := s.nextRecordNumber + 1 })

/-- The answer to a packet that cannot be read. -/
def refuse (s : Session) (f : Packet.Failure) : Turn :=
  let (reply, s) :=
    s.numbered (.response (f.packetId.getD 0) f.error.resultCode.toByte [])
  ⟨s, [.send reply]⟩

/-- The acknowledgement of a packet. There is no record in it if there was
none in the packet. -/
def acknowledge (s : Session) (packetId : UInt16) (intake : Intake) :
    Packet × Session :=
  if intake.responses.isEmpty
    then s.numbered (.response packetId ResultCode.ok.toByte [])
  else
    let (record, s) :=
      s.numberedRecord intake.service (intake.responses.map .recordResponse)
    s.numbered (.response packetId ResultCode.ok.toByte [{ record with
      group := true }])

/-- Tells a terminal that it is let in. -/
def welcome (s : Session) : Packet × Session :=
  let (record, s) :=
    s.numberedRecord authService [.authResult ⟨ResultCode.ok.toByte⟩]
  s.numbered (.appData [record])

/-- The answer to the records of a packet. -/
def takeIn (s : Session) (packetId : UInt16) (records : List Record)
    (receivedAt : Instant) : Turn :=
  let intake := Intake.ofRecords s.objectId records packetId receivedAt
  let s := { s with objectId := records.foldl Record.knownAfter s.objectId }
  let (reply, s) := s.acknowledge packetId intake
  let readings := intake.readings.map .submit
  if intake.authenticated then
    let (admission, s) := s.welcome
    ⟨s, .send reply :: .send admission :: readings⟩
  else ⟨s, .send reply :: readings⟩

/-- **The answer to one packet**, given its octets. -/
def answer (s : Session) (d : Bytes) (receivedAt : Instant) : Turn :=
  match Packet.decode d with
  | .error f => s.refuse f
  | .ok p =>
    match p.frame with
    | .response _ _ _ => ⟨s, []⟩
    | .appData records => s.takeIn p.packetId records receivedAt

end Session

end Telematics
