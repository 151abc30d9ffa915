import Telematics.Wire.Packet

/-!
# Packets from a growing buffer

Octets arrive in pieces of any size. `Stream.next` looks at what has been
gathered so far and says one of three things: not enough yet, a packet (or
the fault in it) together with what follows, or a fault that stops the
stream where it is. How the octets were cut into pieces plays no part.
-/

namespace Telematics.Stream

/-- What the buffer yields. -/
inductive Outcome where
  /-- More octets are needed. -/
  | wait
  /-- A packet was taken off the front. -/
  | packet (p : Packet) (rest : Bytes)
  /-- The octets of a packet were taken off the front, but are no packet. -/
  | badPacket (e : WireError) (rest : Bytes)
  /-- Nothing can be taken off the front. -/
  | stuck (e : WireError)
  deriving Repr

/-- The next packet of a buffer, given the most frame data to accept. -/
def next (maxFrame : Nat) (buffer : Bytes) : Outcome :=
  match buffer with
  | marker :: _ :: _ :: _ :: _ :: fdl0 :: fdl1 :: _ :: _ :: _ :: _ =>
    match Packet.announcedLength? buffer with
    | none => .stuck (.notEgts marker)
    | some total =>
      let frameLength := Bytes.toNat [fdl0, fdl1]
      if maxFrame < frameLength
        then .stuck (.tooLarge "frame data" frameLength maxFrame)
      else
        match Bytes.split? total buffer with
        | none => .wait
        | some (d, rest) =>
          -- Taken off whether or not they are a packet; with nothing
          -- announced that is no octet at all.
          match Packet.decode d with
          | .ok p => .packet p rest
          | .error failure => .badPacket failure.error rest
  | _ => .wait

end Telematics.Stream
