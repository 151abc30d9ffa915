import Telematics.Wire.Checksum
import Telematics.Wire.Record

/-!
# Packets

A packet is a header and its frame data, each followed by a checksum; a
packet without frame data ends with its header. Length fields and checksums
are not stored: `Packet.encode` computes them, `Packet.decode` verifies them.

Decoding checks from the outside in – marker, header length, header
checksum, frame length, total length, encryption, compression, packet type,
frame checksum – and only then looks at records. The order is what a terminal
sees, since the first fault decides the result it is told. Whatever fails
after the tenth octet, the packet's number is still reported, so the failure
can be acknowledged.
-/

namespace Telematics

/-- The first octet of every packet. -/
def protocolMarker : UInt8 := 0x01

/-- The octets that have to be read before the length of a packet is
known. -/
def fixedHeaderSize : Nat := 10

/-- The most frame data that a packet may carry. -/
def maxFrameData : Nat := 65517

/-- The octets of the frame checksum. -/
def frameChecksumSize : Nat := 2

/-- Addresses of a packet that is passed on between dispatchers. -/
structure Routing where
  peerAddress : UInt16
  recipientAddress : UInt16
  /-- The hops that are left. -/
  ttl : UInt8
  deriving DecidableEq, Repr

/-- What a packet carries. -/
inductive Frame where
  | appData (records : List Record)
  /-- The acknowledgement of a packet, with acknowledgements of its
  records. -/
  | response (packetId : UInt16) (result : UInt8) (records : List Record)
  deriving DecidableEq, Repr

namespace Frame

/-- The records, whatever the packet is for. -/
def records : Frame → List Record
  | appData rs => rs
  | response _ _ rs => rs

/-- The packet type on the wire. -/
def typeCode : Frame → UInt8
  | response _ _ _ => 0
  | appData _ => 1

/-- The name of the packet type. -/
def typeName : Frame → String
  | response _ _ _ => "Response"
  | appData _ => "AppData"

end Frame

/-- A transport packet. -/
structure Packet where
  securityKeyId : UInt8
  /-- Two bits at the top of the flag byte. -/
  headerVersion : UInt8
  /-- The encryption algorithm; zero is plain text. -/
  encryption : UInt8
  compressed : Bool
  /-- Two bits. -/
  priority : UInt8
  headerEncoding : UInt8
  packetId : UInt16
  routing : Option Routing
  frame : Frame
  deriving DecidableEq, Repr

namespace Packet

/-- A plain packet. -/
def ofFrame (packetId : UInt16) (frame : Frame) : Packet where
  securityKeyId := 0
  headerVersion := 0
  encryption := 0
  compressed := false
  priority := 0
  headerEncoding := 0
  packetId
  routing := none
  frame

/-- The header length, checksum included, of a packet with or without
routing. -/
def headerLength (routed : Bool) : UInt8 := if routed then 16 else 11

/-- The header length of the packet. -/
def headerSize (p : Packet) : UInt8 := headerLength p.routing.isSome

/-- The flag byte. -/
def flags (p : Packet) : UInt8 :=
  (p.headerVersion &&& 0x03) <<< 6
    ||| Octet.ofBits [false, false, p.compressed, false, false,
      p.routing.isSome]
    ||| (p.encryption &&& 0x03) <<< 3 ||| p.priority &&& 0x03

/-- The length of a packet, as its first ten octets announce it. -/
def announcedLength? : Bytes → Option Nat
  | marker :: _ :: _ :: hl :: _ :: fdl0 :: fdl1 :: _ :: _ :: _ :: _ =>
    if marker = protocolMarker then
      let frameLength := Bytes.toNat [fdl0, fdl1]
      some (if frameLength = 0 then hl.toNat
        else hl.toNat + frameLength + frameChecksumSize)
    else none
  | _ => none

/-! ## Writing -/

/-- The frame data. -/
def encodeFrame : Frame → Except WireError Bytes
  | .appData records => Record.encodeSet records
  | .response packetId result records => do
    let rs ← Record.encodeSet records
    pure (Bytes.ofUInt16 packetId ++ [result] ++ rs)

/-- The routing fields. -/
def encodeRouting (r : Routing) : Bytes :=
  Bytes.ofUInt16 r.peerAddress ++ Bytes.ofUInt16 r.recipientAddress ++ [r.ttl]

/-- The header in front of its checksum. -/
def encodeHeader (p : Packet) (frameLength : UInt16) : Bytes :=
  [protocolMarker, p.securityKeyId, p.flags, p.headerSize, p.headerEncoding]
    ++ Bytes.ofUInt16 frameLength ++ Bytes.ofUInt16 p.packetId
    ++ [p.frame.typeCode]
    ++ p.routing.elim [] encodeRouting

/-- The packet on the wire. -/
def encode (p : Packet) : Except WireError Bytes := do
  let data ← encodeFrame p.frame
  if maxFrameData < data.length then
    throw (.tooLarge "frame data" data.length maxFrameData)
  let frameLength ← fitLength "frame data" data.length
  let header := p.encodeHeader frameLength
  let trailer :=
    if data.isEmpty then [] else data ++ Bytes.ofUInt16 (Checksum.frame data)
  pure (header ++ [Checksum.header header] ++ trailer)

/-! ## Reading -/

/-- A fault, with the number of the packet if that much was readable. -/
structure Failure where
  packetId : Option UInt16
  error : WireError
  deriving DecidableEq, Repr

/-- The header, as far as its checksum. -/
structure Header where
  securityKeyId : UInt8
  flags : UInt8
  headerEncoding : UInt8
  frameLength : UInt16
  packetType : UInt8
  routing : Option Routing
  /-- The checksum that the header declares. -/
  checksum : UInt8
  deriving DecidableEq, Repr

/-- The routing fields. -/
def readRouting : Reader Routing := do
  let peerAddress ← Reader.u16 "PRA"
  let recipientAddress ← Reader.u16 "RCA"
  let ttl ← Reader.u8 "TTL"
  pure ⟨peerAddress, recipientAddress, ttl⟩

/-- The header off the front of a packet. -/
def readHeader : Reader Header := do
  let _ ← Reader.u8 "PRV"
  let securityKeyId ← Reader.u8 "SKID"
  let flags ← Reader.u8 "packet flags"
  let size ← Reader.u8 "HL"
  let headerEncoding ← Reader.u8 "HE"
  let frameLength ← Reader.u16 "FDL"
  let _ ← Reader.u16 "PID"
  let packetType ← Reader.u8 "PT"
  let routed := Octet.hasBit flags 5
  -- The length is known from the flags; it is only compared.
  if size ≠ headerLength routed then
    throw (.headerLength (headerLength routed) size)
  let routing ← Reader.whenFlag routed readRouting
  let checksum ← Reader.u8 "HCS"
  pure {
    securityKeyId, flags, headerEncoding, frameLength, packetType, routing
    checksum }

/-- The frame data and its checksum. -/
def readFrameData (frameLength : Nat) : Reader Bytes := do
  if frameLength = 0 then pure []
  else
    let data ← Reader.bytes frameLength "SFRD"
    let declared ← Reader.u16 "SFRCS"
    let computed := Checksum.frame data
    if declared ≠ computed then
      throw (.frameChecksum declared computed)
    pure data

/-- What the frame data says, read as its packet type wants it. -/
def decodeFrame (packetType : UInt8) (data : Bytes) : Except WireError Frame :=
  if packetType = 1 then .appData <$> Record.decodeSet data
  else Prod.fst <$> (do
    let packetId ← Reader.u16 "RPID"
    let result ← Reader.u8 "PR"
    let rest ← Reader.rest
    let records ← liftM (Record.decodeSet rest)
    pure (.response packetId result records) : Reader Frame) data

/-- The packet, once its first ten octets are known to be there. -/
def decodeChecked (d : Bytes) (packetId : UInt16) :
    Except WireError Packet := do
  let (h, rest) ← readHeader d
  let size := (headerLength h.routing.isSome).toNat
  let computed := Checksum.header (d.take (size - 1))
  if h.checksum ≠ computed then
    throw (.headerChecksum h.checksum computed)
  let frameLength := h.frameLength.toNat
  if maxFrameData < frameLength then
    throw (.tooLarge "frame data" frameLength maxFrameData)
  let total :=
    if frameLength = 0 then size else size + frameLength + frameChecksumSize
  if d.length ≠ total then
    throw (.lengthMismatch "packet" total d.length)
  -- From here on the packet is whole, and is refused for what it says.
  let encryption := h.flags >>> 3 &&& 0x03
  if encryption ≠ 0 then
    throw (.encrypted encryption)
  let compressed := Octet.hasBit h.flags 2
  if compressed then
    throw .compressed
  if h.packetType ≠ 0 ∧ h.packetType ≠ 1 then
    throw (.packetType h.packetType)
  let (data, _) ← readFrameData frameLength rest
  let frame ← decodeFrame h.packetType data
  pure
    { securityKeyId := h.securityKeyId
      headerVersion := h.flags >>> 6
      encryption, compressed
      priority := h.flags &&& 0x03
      headerEncoding := h.headerEncoding
      packetId
      routing := h.routing
      frame }

/-- The number of a packet, as its first ten octets give it. -/
def announcedId? : Bytes → Option UInt16
  | _ :: _ :: _ :: _ :: _ :: _ :: _ :: id0 :: id1 :: _ :: _ =>
    some (UInt16.ofNat (Bytes.toNat [id0, id1]))
  | _ => none

/-- **One complete packet.** -/
def decode (d : Bytes) : Except Failure Packet :=
  match d with
  | [] => .error ⟨none, .endOfData "PRV"⟩
  | marker :: _ =>
    if marker ≠ protocolMarker then .error ⟨none, .notEgts marker⟩
    else
      match announcedId? d with
      | none => .error ⟨none, .endOfData "packet header"⟩
      | some packetId =>
        (decodeChecked d packetId).mapError (⟨some packetId, ·⟩)

end Packet

end Telematics
