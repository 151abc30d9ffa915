import Telematics.Error
import Telematics.Wire.Stream

/-!
# Waiting for an acknowledgement

Who has sent a packet reads what comes back, packet by packet, up to the one
that acknowledges it; packets in between are passed over.
-/

namespace Telematics

/-- What a receiver says to a packet. -/
structure Acknowledgement where
  result : ResultCode
  records : List Record

namespace Acknowledgement

/-- What has come back so far. -/
inductive Search where
  /-- More octets are needed, behind these. -/
  | wait (rest : Bytes)
  | found (a : Acknowledgement)
  | failed (e : WireError)

/-- Looks at packets in turn, up to a number of them. -/
def searchIn (packetId : UInt16) : Nat → Bytes → Search
  | 0, d => .wait d
  | fuel + 1, d =>
    match Stream.next maxFrameData d with
    | .wait => .wait d
    | .badPacket e _ => .failed e
    | .stuck e => .failed e
    | .packet p rest =>
      match p.frame with
      | .response id result records =>
        if id = packetId then .found ⟨.ofByte result, records⟩
        else searchIn packetId fuel rest
      | .appData _ => searchIn packetId fuel rest

/-- **The acknowledgement of a packet** among the octets that have come back. -/
def search (packetId : UInt16) (d : Bytes) : Search :=
  searchIn packetId (d.length + 1) d

/-- What is said to one record, as a line shows it. -/
def describe : Subrecord → String
  | .recordResponse p =>
    "RecordResponse(RecordResponse \x7b confirmed_record_number: "
      ++ toString p.recordNumber.toNat ++ ", record_status: "
      ++ toString p.status.toNat
      ++ " \x7d)"
  | s => SubrecordCode.label s.code

end Acknowledgement

end Telematics
