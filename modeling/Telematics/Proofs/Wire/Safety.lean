import Telematics.Proofs.Wire.Acceptance
import Telematics.Proofs.Wire.Announcement
import Telematics.Proofs.Wire.Strict

/-!
# A packet is decoded within range

A packet comes from outside, and its lengths with it: of the packet and its
header, of the frame data, of every record and of every sub-record in it. The
decoder cuts its octets by these lengths. Here it is written once more with
every cut, place and difference as something that may fail (`Strict`), and it
is the same decoder: nothing is ever out of range (`Packet.decodeStrict_eq`).

For most cuts the check stands in front of them. Three rest on a check made
elsewhere. The header is cut by a length of its own, which was compared with
the one that its flags ask for, and the fields of that many octets were read
by then. The ten octets that the length is computed from are there since the
number of the packet was. And a payload that is not used up is reported with
the octets that were read of it, so a reader must never give back more than it
was given; this is the reason for `Reader.Bounded`, and the payloads are taken
apart for it (`Reader.Enclosed`). A field of a payload is a word, and reading
words has no range; only fixed runs of octets and texts are cut, and the two
payloads that have these are written out.

## What the equations say

Every strict reader has one theorem, and its name ends in `_eq`. The theorem
says that the strict reader is the plain one, embedded. This is more than that
no step leaves its range: it is also the same value, or the same fault at the
same place, so the strict decoder is not a second one whose agreement would
have to be argued for. The equations are put together from the inside out, as
the readers are, and each uses only those of its parts. The one place where
equality takes an argument and not a rewriting is the header: that its length
leads nowhere out of range is known only once it was compared, which
`Header.Stands` remembers.

## The number of a packet

What is reported of a fault does not depend on where it is. The number of the
packet is taken before all checks but that of the marker, and no fault is told
to the terminal as a success. `Packet.decode_correlates` puts the three
statements together: within range, correlated, and never told as a success.
-/

namespace Telematics

/-! ## Readers that give back no more than they were given -/

namespace Reader

variable {α β : Type} {r : Reader α} {n : Nat} {field : String}

/-- A reader that cuts a number of octets off gives back those behind them,
which are no more than there were. -/
theorem Cuts.bounded (h : r.Cuts n) : r.Bounded := fun d a t ha => by
  obtain ⟨-, rfl⟩ := (h d t).1 ⟨a, ha⟩
  exact List.length_drop ▸ Nat.sub_le ..

/-- What takes all that is left gives nothing back. -/
theorem bounded_rest : rest.Bounded := fun d a t h => by
  obtain ⟨-, rfl⟩ := rest_eq_ok.1 h
  exact Nat.zero_le _

/-- To ask whether anything is left takes nothing, and gives back what was
there. -/
theorem bounded_atEnd : atEnd.Bounded := fun d a t h => by
  obtain ⟨-, rfl⟩ := atEnd_eq_ok.1 h
  exact Nat.le_refl _

/-- A choice between two readers gives back no more than they do. The liquid
level and the counters of passengers are read in one of two ways, by a
flag. -/
theorem Bounded.ite {c : Prop} [Decidable c] {r' : Reader α} (h : r.Bounded)
    (h' : r'.Bounded) :
    (if c then r else r').Bounded := by
  split
  · exact h
  · exact h'

theorem bounded_u8 : (u8 field).Bounded := cuts_u8.bounded
theorem bounded_u16 : (u16 field).Bounded := cuts_u16.bounded
theorem bounded_u24 : (u24 field).Bounded := cuts_u24.bounded
theorem bounded_u32 : (u32 field).Bounded := cuts_u32.bounded
theorem bounded_array : (array n field).Bounded := cuts_array.bounded

/-- A text gives back what stands behind its zero octet. -/
theorem bounded_text : (text field).Bounded := fun d a t h => by
  rw [AuthInfo.takes_text] at h
  rw [h.2, List.length_append]
  exact Nat.le_add_left ..

/-- Slots of one size, each of which is there or not by a bit of a flag byte,
are together one cut. -/
theorem Cuts.slots_bounded (h : r.Cuts n) (flags : UInt8) :
    (Slots.read flags r).Bounded :=
  (h.slots flags).bounded

/-- **A payload that is used up**, taken apart: what is read of it, and the
name under which a rest is reported. -/
structure Enclosed (decode : Bytes → Except WireError α) where
  unit : String
  body : Reader α
  eq : decode = whole unit body
  bounded : body.Bounded

namespace Enclosed

variable {decode : Bytes → Except WireError α}

/-- The payload, with the check behind it as it is computed. -/
def strict (e : Enclosed decode) : Bytes → Strict α :=
  StrictReader.whole e.unit (StrictReader.safe e.body)

/-- **The report of a payload that is not used up is within range.** The
number of octets that were read is a difference, and it is one since what is
left is a part of the payload. -/
@[simp] theorem strict_eq (e : Enclosed decode) (d : Bytes) :
    e.strict d = Strict.within (decode d) := by
  rw [strict, StrictReader.whole_eq _ e.bounded, ← e.eq]

end Enclosed

end Reader

open Reader

/-! ## Payloads -/

/-- The acknowledgement of a record: a number and a result. -/
def RecordResponse.enclosed : Enclosed RecordResponse.decode :=
  ⟨_, _, rfl, bounded_u16.bind fun _ => bounded_u8.bind fun _ => .pure _⟩

/-- The result of an authentication: one octet. -/
def AuthResult.enclosed : Enclosed AuthResult.decode :=
  ⟨_, _, rfl, bounded_u8.bind fun _ => .pure _⟩

/-- A fix: words throughout, and at its end one that is there if anything is
left. -/
def Fix.enclosed : Enclosed Fix.decode :=
  ⟨_, _, rfl, bounded_u32.bind fun _ => bounded_u32.bind fun _ =>
    bounded_u32.bind fun _ =>
    bounded_u8.bind fun _ => bounded_u16.bind fun _ => bounded_u8.bind fun _ =>
    bounded_u24.bind fun _ => bounded_u8.bind fun _ => bounded_u8.bind fun _ =>
    (bounded_u24.whenFlag _).bind fun _ => bounded_atEnd.bind fun _ =>
    (bounded_u16.whenFlag _).bind fun _ => .pure _⟩

/-- The quality of a fix: a flag byte and five words that it announces. -/
def FixQuality.enclosed : Enclosed FixQuality.decode :=
  ⟨_, _, rfl, bounded_u8.bind fun _ => (bounded_u16.whenFlag _).bind fun _ =>
    (bounded_u16.whenFlag _).bind fun _ =>
    (bounded_u16.whenFlag _).bind fun _ =>
    (bounded_u8.whenFlag _).bind fun _ => (bounded_u16.whenFlag _).bind fun _ =>
      .pure _⟩

/-- Digital and analog sensors, in slots under a flag byte each. -/
def AdSensors.enclosed : Enclosed AdSensors.decode :=
  ⟨_, _, rfl, bounded_u8.bind fun _ => bounded_u8.bind fun _ =>
    bounded_u8.bind fun _ =>
    (cuts_u8.slots_bounded _).bind fun _ =>
      (cuts_u24.slots_bounded _).bind fun _ => .pure _⟩

/-- Counters, in slots under one flag byte. -/
def Counters.enclosed : Enclosed Counters.decode :=
  ⟨_, _, rfl, bounded_u8.bind fun _ => (cuts_u24.slots_bounded _).bind fun _ =>
    .pure _⟩

/-- The power supply: five octets. -/
def PowerState.enclosed : Enclosed PowerState.decode :=
  ⟨_, _, rfl, bounded_u8.bind fun _ => bounded_u8.bind fun _ =>
    bounded_u8.bind fun _ =>
    bounded_u8.bind fun _ => bounded_u8.bind fun _ => .pure _⟩

/-- Loop inputs, in slots under one flag byte. -/
def LoopInputs.enclosed : Enclosed LoopInputs.decode :=
  ⟨_, _, rfl, bounded_u8.bind fun _ => (cuts_u8.slots_bounded _).bind fun _ =>
    .pure _⟩

/-- One digital input. -/
def InputState.enclosedDigital : Enclosed InputState.decodeDigital :=
  ⟨_, _, rfl, (InputState.cuts_read _ _).bounded⟩

/-- One loop input, which is laid out as a digital one. -/
def InputState.enclosedLoop : Enclosed InputState.decodeLoop :=
  ⟨_, _, rfl, (InputState.cuts_read _ _).bounded⟩

/-- One analog sensor. -/
def NumberedValue.enclosedAnalog : Enclosed NumberedValue.decodeAnalog :=
  ⟨_, _, rfl, (NumberedValue.cuts_read _ _).bounded⟩

/-- One counter, which is laid out as an analog sensor. -/
def NumberedValue.enclosedCounter : Enclosed NumberedValue.decodeCounter :=
  ⟨_, _, rfl, (NumberedValue.cuts_read _ _).bounded⟩

/-- The reading of a liquid sensor is a word, or whatever is left where it is
passed through raw. -/
theorem LiquidSensor.bounded_readReading (raw : Bool) :
    (readReading raw).Bounded :=
  (bounded_rest.bind fun _ => (Subrecord.lift_bounded _).bind fun _ =>
    .pure _).ite
    (bounded_u32.map _)

/-- A liquid sensor: its flags, its address and its reading. -/
def LiquidSensor.enclosed : Enclosed LiquidSensor.decode :=
  ⟨_, _, rfl, bounded_u8.bind fun _ => bounded_u16.bind fun _ =>
    (bounded_readReading _).bind fun _ => .pure _⟩

/-- Counters of passengers: two per door, or raw octets. -/
def Passengers.enclosed : Enclosed Passengers.decode :=
  ⟨_, _, rfl, bounded_u8.bind fun _ => bounded_u8.bind fun _ =>
    bounded_u8.bind fun _ =>
    bounded_u16.bind fun _ => ((bounded_rest.map _).bind fun _ => .pure _).ite
      (((cuts_readDoor.slots_bounded _).map _).bind fun _ => .pure _)⟩

/-! ## Payloads with texts and runs of octets -/

/-- The identity of a terminal. Its runs of octets are split off and copied
into arrays, and both have a range. -/
def TermIdentity.decodeStrict : Bytes → Strict TermIdentity :=
  StrictReader.whole "EGTS_SR_TERM_IDENTITY" do
    let terminalId ← Reader.u32 "TID"
    let flags ← Reader.u8 "TERM_IDENTITY flags"
    let has := Octet.hasBit flags
    let homeDispatcherId ← Reader.whenFlag (has 0) (Reader.u16 "HDID")
    let imei ← StrictReader.whenFlag (has 1) (StrictReader.array 15 "IMEI")
    let imsi ← StrictReader.whenFlag (has 2) (StrictReader.array 16 "IMSI")
    let languageCode ← StrictReader.whenFlag (has 3)
      (StrictReader.array 3 "LNGC")
    let networkId ← StrictReader.whenFlag (has 5) (StrictReader.array 3 "NID")
    let bufferSize ← Reader.whenFlag (has 6) (Reader.u16 "BS")
    let msisdn ← StrictReader.whenFlag (has 7) (StrictReader.array 15 "MSISDN")
    pure ⟨terminalId, homeDispatcherId, imei, imsi, languageCode, networkId,
      bufferSize, msisdn, has 4⟩

/-- **Every run of an identity is as long as the array that it is copied
into**, and what is left behind the last of them is a part of the payload. -/
theorem TermIdentity.decodeStrict_eq (d : Bytes) :
    decodeStrict d = Strict.within (TermIdentity.decode d) := by
  unfold decodeStrict
  simp only [StrictReader.array_eq, StrictReader.whenFlag_safe,
    StrictReader.liftM_eq_safe, StrictReader.pure_eq_safe,
    StrictReader.safe_bind]
  refine StrictReader.whole_eq _ ?_ d
  exact bounded_u32.bind fun _ => bounded_u8.bind fun _ =>
    (bounded_u16.whenFlag _).bind fun _ =>
    (bounded_array.whenFlag _).bind fun _ =>
    (bounded_array.whenFlag _).bind fun _ =>
    (bounded_array.whenFlag _).bind fun _ =>
    (bounded_array.whenFlag _).bind fun _ =>
    (bounded_u16.whenFlag _).bind fun _ =>
      (bounded_array.whenFlag _).bind fun _ => .pure _

/-- A user name and a password, and a third text if anything is left. Each
text is cut at its zero octet, and the octet behind that is a place. -/
def AuthInfo.decodeStrict : Bytes → Strict AuthInfo :=
  StrictReader.whole "EGTS_SR_AUTH_INFO" do
    let userName ← StrictReader.text "UNM"
    let password ← StrictReader.text "UPSW"
    let serverSequence ← StrictReader.whenFlag (!(← Reader.atEnd))
      (StrictReader.text "SS")
    pure ⟨userName, password, serverSequence⟩

/-- **A text is cut only at a zero octet that was found**, so its end and the
place behind it are in the payload. -/
theorem AuthInfo.decodeStrict_eq (d : Bytes) :
    decodeStrict d = Strict.within (AuthInfo.decode d) := by
  unfold decodeStrict
  simp only [StrictReader.text_eq, StrictReader.whenFlag_safe,
    StrictReader.liftM_eq_safe, StrictReader.pure_eq_safe,
    StrictReader.safe_bind]
  refine StrictReader.whole_eq _ ?_ d
  exact bounded_text.bind fun _ => bounded_text.bind fun _ =>
    bounded_atEnd.bind fun _ =>
    (bounded_text.whenFlag _).bind fun _ => .pure _

/-! ## Sub-records and records -/

namespace Subrecord

/-- The sub-record with this code and this payload. -/
def decodeStrict (code : UInt8) (d : Bytes) : Strict Subrecord :=
  match code.toNat with
  | 0 => recordResponse <$> RecordResponse.enclosed.strict d
  | 1 => termIdentity <$> TermIdentity.decodeStrict d
  | 6 =>
    dispatcherIdentity
      <$> (DispatcherIdentity.decode d : Strict DispatcherIdentity)
  | 7 => authInfo <$> AuthInfo.decodeStrict d
  | 9 => authResult <$> AuthResult.enclosed.strict d
  | 16 => fix <$> Fix.enclosed.strict d
  | 17 => fixQuality <$> FixQuality.enclosed.strict d
  | 18 => adSensors <$> AdSensors.enclosed.strict d
  | 19 => counters <$> Counters.enclosed.strict d
  | 20 => powerState <$> PowerState.enclosed.strict d
  | 22 => loopInputs <$> LoopInputs.enclosed.strict d
  | 23 => digitalSensor <$> InputState.enclosedDigital.strict d
  | 24 => analogSensor <$> NumberedValue.enclosedAnalog.strict d
  | 25 => counter <$> NumberedValue.enclosedCounter.strict d
  | 26 => loopInput <$> InputState.enclosedLoop.strict d
  | 27 => liquidSensor <$> LiquidSensor.enclosed.strict d
  | 28 => passengers <$> Passengers.enclosed.strict d
  | _ => pure (unknown code d)

/-- **No payload is read out of its range**, whatever its code: by the
equation of that payload, or since an unknown one is kept as it is. -/
theorem decodeStrict_eq (code : UInt8) (d : Bytes) :
    decodeStrict code d = Strict.within (decode code d) := by
  unfold decodeStrict decode
  generalize code.toNat = k
  split <;> simp_all [TermIdentity.decodeStrict_eq, AuthInfo.decodeStrict_eq]

/-- A unit of announced length, split off once it is known to be there. -/
def readDataStrict (unit field : String) (size : Nat) : StrictReader Bytes := do
  let remaining := (← get).length
  if remaining < size then
    throw (.lengthMismatch unit size remaining)
  StrictReader.bytes size field

/-- The split stands behind a comparison with what is left, and that is the
comparison which the plain reader makes by splitting. -/
theorem readDataStrict_eq (unit field : String) (size : Nat) :
    readDataStrict unit field size
      = StrictReader.safe (readData unit size) := by
  funext d
  unfold readDataStrict
  rw [StrictReader.bytes_eq]
  show (if d.length < size
    then throw (.lengthMismatch unit size d.length) >>= fun _ : PUnit => _
    else StrictReader.safe (Reader.bytes size field) : StrictReader Bytes) d = _
  by_cases h : d.length < size
  · have htake : (d.take size).length ≠ size := by
      rw [List.length_take]
      omega
    rw [if_pos h, StrictReader.safe, readData, Bytes.split?, if_neg htake]
    rfl
  · have htake : (d.take size).length = size :=
      List.length_take_of_le (Nat.le_of_not_lt h)
    rw [if_neg h, StrictReader.safe, StrictReader.safe, readData, Reader.bytes,
      Bytes.split?, if_pos htake]

/-- One sub-record off the front of a record's data. -/
def readStrict : StrictReader Subrecord := do
  let code ← Reader.u8 "SRT"
  let size ← Reader.u16 "SRL"
  let payload ← readDataStrict "sub-record" "SRD" size.toNat
  decodeStrict code payload

/-- One sub-record is read within range: its header is two words, its data are
split off as announced, and they are what its payload is read from. -/
theorem readStrict_eq : readStrict = StrictReader.safe read := by
  unfold readStrict
  simp only [readDataStrict_eq, decodeStrict_eq, StrictReader.liftM_within,
    StrictReader.liftM_eq_safe, StrictReader.safe_bind]
  rfl

/-- The sub-records of a record's data. -/
def decodeSetStrict (d : Bytes) : Strict (List Subrecord) :=
  StrictReader.many readStrict d

/-- **The loop over sub-records ends**, since each takes at least the three
octets of its header; so no round is without progress. -/
theorem decodeSetStrict_eq (d : Bytes) :
    decodeSetStrict d = Strict.within (decodeSet d) := by
  rw [decodeSetStrict, readStrict_eq]
  exact StrictReader.many_eq read_consumes d

end Subrecord

namespace Record

/-- One record off the front of the frame data. -/
def readStrict : StrictReader Record := do
  let size ← Reader.u16 "RL"
  let recordNumber ← Reader.u16 "RN"
  let flags ← Reader.u8 "RFL"
  let has := Octet.hasBit flags
  let objectId ← Reader.whenFlag (has 0) (Reader.u32 "OID")
  let eventId ← Reader.whenFlag (has 1) (Reader.u32 "EVID")
  let time ← Reader.whenFlag (has 2) (Reader.u32 "TM")
  let sourceService ← Reader.u8 "SST"
  let recipientService ← Reader.u8 "RST"
  let data ← Subrecord.readDataStrict "service data record" "RD" size.toNat
  let subrecords ← Subrecord.decodeSetStrict data
  pure
    { recordNumber
      sourceOnDevice := has 7
      recipientOnDevice := has 6
      group := has 5
      priority := flags >>> 3 &&& 0x03
      objectId, eventId, time, sourceService, recipientService, subrecords }

/-- One record is read within range, for the same reasons as a sub-record:
words in front, then data of an announced length. -/
theorem readStrict_eq : readStrict = StrictReader.safe read := by
  unfold readStrict
  simp only [Subrecord.readDataStrict_eq, Subrecord.decodeSetStrict_eq,
    StrictReader.liftM_within, StrictReader.liftM_eq_safe,
    StrictReader.pure_eq_safe, StrictReader.safe_bind]
  rfl

/-- The records of the frame data. -/
def decodeSetStrict (d : Bytes) : Strict (List Record) :=
  StrictReader.many readStrict d

/-- **The loop over records ends** as the one over sub-records does. -/
theorem decodeSetStrict_eq (d : Bytes) :
    decodeSetStrict d = Strict.within (decodeSet d) := by
  rw [decodeSetStrict, readStrict_eq]
  exact StrictReader.many_eq read_consumes d

end Record

/-! ## Packets -/

namespace Packet

variable {d t : Bytes}

/-- The length of a packet, by the places of its first ten octets. -/
def packetLength (fixed : Bytes) : Strict (Option Nat) := do
  let marker ← Strict.octet fixed 0
  if marker ≠ protocolMarker then pure none
  else
    let size ← Strict.octet fixed 3
    let low ← Strict.octet fixed 5
    let high ← Strict.octet fixed 6
    let frameLength := Bytes.toNat [low, high]
    pure (some (if frameLength = 0 then size.toNat
      else size.toNat + frameLength + frameChecksumSize))

/-- **The length of a packet is computed within range.** Four places are
looked up, the highest of them the seventh octet, and the ten octets they are
looked up in are there. -/
theorem packetLength_eq (h : fixedHeaderSize ≤ d.length) :
    packetLength (d.take fixedHeaderSize)
      = Strict.within (.ok (announcedLength? d)) := by
  obtain ⟨b₀, b₁, b₂, b₃, b₄, b₅, b₆, b₇, b₈, b₉, t, rfl⟩ := exists_header h
  -- Ten octets have all of the places that are looked up.
  have hplaces : packetLength ((b₀ :: b₁ :: b₂ :: b₃ :: b₄ :: b₅ :: b₆ :: b₇
    :: b₈ :: b₉ :: t).take
      fixedHeaderSize) = if b₀ ≠ protocolMarker then pure none else pure (some
        (if Bytes.toNat [b₅, b₆] = 0 then b₃.toNat
          else b₃.toNat + Bytes.toNat [b₅, b₆] + frameChecksumSize)) := rfl
  rw [hplaces, announcedLength?]
  by_cases hm : b₀ = protocolMarker
  · rw [if_neg (Decidable.not_not.2 hm), if_pos hm]
    rfl
  · rw [if_pos hm, if_neg hm]
    rfl

/-- The frame data, split off, and its checksum. -/
def readFrameDataStrict (frameLength : Nat) : StrictReader Bytes := do
  if frameLength = 0 then pure []
  else
    let data ← StrictReader.bytes frameLength "SFRD"
    let declared ← Reader.u16 "SFRCS"
    let computed := Checksum.frame data
    if declared ≠ computed then
      throw (.frameChecksum declared computed)
    pure data

/-- The frame data are split off within range: a frame that is too long for
what is left ends in the fault that the octets ran out. -/
theorem readFrameDataStrict_eq (frameLength : Nat) :
    readFrameDataStrict frameLength
      = StrictReader.safe (readFrameData frameLength) := by
  unfold readFrameDataStrict
  simp only [StrictReader.bytes_eq, StrictReader.liftM_eq_safe,
    StrictReader.pure_eq_safe, StrictReader.throw_eq_safe,
    StrictReader.safe_bind, StrictReader.ite_safe]
  rfl

/-- What the frame data says. -/
def decodeFrameStrict (packetType : UInt8) (data : Bytes) : Strict Frame :=
  if packetType = 1 then .appData <$> Record.decodeSetStrict data
  else Prod.fst <$> (do
    let packetId ← Reader.u16 "RPID"
    let result ← Reader.u8 "PR"
    let rest ← Reader.rest
    let records ← Record.decodeSetStrict rest
    pure (.response packetId result records) : StrictReader Frame) data

/-- What a frame says is read within range, be it records or a response. -/
theorem decodeFrameStrict_eq (packetType : UInt8) (data : Bytes) :
    decodeFrameStrict packetType data
      = Strict.within (decodeFrame packetType data) := by
  unfold decodeFrameStrict
  simp only [Record.decodeSetStrict_eq, StrictReader.liftM_within,
    StrictReader.liftM_eq_safe, StrictReader.pure_eq_safe,
    StrictReader.safe_bind, StrictReader.safe, Strict.map_within,
    Strict.ite_within]
  rfl

/-- The checksum of a header, whose length is what its fourth octet says. -/
def headerChecksumStrict (d : Bytes) : Strict UInt8 := do
  let size ← Strict.octet d 3
  let covered ← Strict.upTo d (← Strict.minus size.toNat 1)
  pure (Checksum.header covered)

/-- The length that the packet should have. -/
def totalStrict (d : Bytes) : Strict Nat := do
  let fixed ← Strict.upTo d fixedHeaderSize
  let announced ← packetLength fixed
  pure (announced.getD d.length)

/-- The packet, once its first ten octets are known to be there. -/
def decodeCheckedStrict (d : Bytes) (packetId : UInt16) : Strict Packet := do
  let (h, rest) ← readHeader d
  let computed ← headerChecksumStrict d
  if h.checksum ≠ computed then
    throw (.headerChecksum h.checksum computed)
  let frameLength := h.frameLength.toNat
  if maxFrameData < frameLength then
    throw (.tooLarge "frame data" frameLength maxFrameData)
  let total ← totalStrict d
  if d.length ≠ total then
    throw (.lengthMismatch "packet" total d.length)
  let encryption := h.flags >>> 3 &&& 0x03
  if encryption ≠ 0 then
    throw (.encrypted encryption)
  let compressed := Octet.hasBit h.flags 2
  if compressed then
    throw .compressed
  if h.packetType ≠ 0 ∧ h.packetType ≠ 1 then
    throw (.packetType h.packetType)
  let (data, _) ← readFrameDataStrict frameLength rest
  let frame ← decodeFrameStrict h.packetType data
  pure
    { securityKeyId := h.securityKeyId
      headerVersion := h.flags >>> 6
      encryption, compressed
      priority := h.flags &&& 0x03
      headerEncoding := h.headerEncoding
      packetId
      routing := h.routing
      frame }

/-- **The header is all there** once it was read, since its length was found to
be the one that its flags ask for. -/
theorem headerChecksumStrict_eq {h : Header} {n : UInt16}
    (hs : h.Stands n t d) :
    headerChecksumStrict d = Strict.within
      (.ok (Checksum.header
        (d.take ((headerLength h.routing.isSome).toNat - 1)))) := by
  have hend : 11 ≤ headerEnd d := by
    unfold headerEnd
    split <;> decide
  have hlen : headerEnd d ≤ d.length := hs.length ▸ Nat.le_add_right ..
  have hsize : d[3]? = some (headerLength h.routing.isSome) := by
    rw [← hs.announced, List.getD_eq_getElem?_getD,
      List.getElem?_eq_getElem (by omega)]
    rfl
  have hone : 1 ≤ (headerLength h.routing.isSome).toNat := by
    rw [← hs.size]
    omega
  have hcovered : (headerLength h.routing.isSome).toNat - 1 ≤ d.length := by
    rw [← hs.size]
    omega
  refine (Strict.bind_of_eq (Strict.octet_eq hsize) _).trans ?_
  refine (Strict.bind_of_eq (Strict.minus_eq hone) _).trans ?_
  exact Strict.bind_of_eq (Strict.upTo_eq hcovered) _

/-- **The length that a packet should have** is what its first octets
announce. That they are there is known from the packet's number, and that they
announce a length from the marker. -/
theorem totalStrict_eq {h : Header} {n : UInt16} (hm : d = protocolMarker :: s)
    (hlen : fixedHeaderSize ≤ d.length) (hs : h.Stands n t d) :
    totalStrict d = Strict.within (.ok (if h.frameLength.toNat = 0
      then (headerLength h.routing.isSome).toNat
      else (headerLength h.routing.isSome).toNat + h.frameLength.toNat
        + frameChecksumSize)) := by
  unfold totalStrict
  rw [Strict.upTo_eq hlen]
  refine (Strict.bind_of_eq (packetLength_eq hlen) _).trans ?_
  rw [← hs.announced, ← hs.frameLength]
  obtain ⟨b₀, b₁, b₂, b₃, b₄, b₅, b₆, b₇, b₈, b₉, r, rfl⟩ := exists_header hlen
  obtain rfl : b₀ = protocolMarker := (List.cons.inj hm).1
  rfl

/-- **All checks of a packet are made within range.** They come in the same
order on both sides, so each is taken off in front of what is left
(`Strict.guard_eq`); only the checksum of the header and the length of the
packet are computed with places that a former check has to vouch for. -/
theorem decodeCheckedStrict_eq {n : UInt16} (hlen : fixedHeaderSize ≤ d.length)
    (hm : d = protocolMarker :: t) :
    decodeCheckedStrict d n = Strict.within (decodeChecked d n) := by
  unfold decodeCheckedStrict decodeChecked
  cases hread : readHeader d with
  | error e => rfl
  | ok x =>
    obtain ⟨h, rest⟩ := x
    obtain ⟨hrouting, i, hoctets⟩ := readHeader_eq_ok.1 (hm ▸ hread)
    have hs : h.Stands i rest d := Header.stands hrouting (hm ▸ hoctets)
    show (headerChecksumStrict d >>= _) = Strict.within (if _ then _ else _)
    refine (Strict.bind_of_eq (headerChecksumStrict_eq hs) _).trans
      (Strict.guard_eq ?_)
    refine Strict.guard_eq ?_
    refine (Strict.bind_of_eq (totalStrict_eq hm hlen hs) _).trans
      (Strict.guard_eq ?_)
    refine Strict.guard_eq (Strict.guard_eq (Strict.guard_eq ?_))
    simp only [readFrameDataStrict_eq, decodeFrameStrict_eq, StrictReader.safe,
      Strict.pure_eq_within, Strict.within_bind]
    rfl

/-- One complete packet. The outer `none` is that a step was out of its range,
and the inner results are those of the plain decoder. -/
def decodeStrict (d : Bytes) : Option (Except Failure Packet) :=
  match d with
  | [] => some (.error ⟨none, .endOfData "PRV"⟩)
  | marker :: _ =>
    if marker ≠ protocolMarker then some (.error ⟨none, .notEgts marker⟩)
    else if d.length < fixedHeaderSize
      then some (.error ⟨none, .endOfData "packet header"⟩)
    else do
      let fixed := d.take fixedHeaderSize
      let low ← fixed[7]?
      let high ← fixed[8]?
      let packetId := UInt16.ofNat (Bytes.toNat [low, high])
      let result ← (decodeCheckedStrict d packetId).run
      pure (result.mapError (⟨some packetId, ·⟩))

/-- **No octets lead the decoder out of its range**, and with all its ranges
spelled out it is what it was. -/
theorem decodeStrict_eq (d : Bytes) : decodeStrict d = some (decode d) := by
  unfold decodeStrict decode
  cases d with
  | nil => rfl
  | cons marker s =>
    dsimp only
    by_cases hm : marker = protocolMarker
    · rw [if_neg (Decidable.not_not.2 hm), if_neg (Decidable.not_not.2 hm)]
      by_cases hlen : (marker :: s).length < fixedHeaderSize
      · rw [if_pos hlen, announcedId?_of_lt hlen]
      · rw [if_neg hlen]
        have hlen := Nat.le_of_not_lt hlen
        obtain ⟨low, high, hlow, hhigh, hid⟩ := exists_announcedId? hlen
        have hchecked (n : UInt16) : decodeCheckedStrict (marker :: s) n
            = some (decodeChecked (marker :: s) n) :=
          decodeCheckedStrict_eq hlen (by rw [hm])
        have hfixed {i : Nat} (hi : i < fixedHeaderSize) :
            ((marker :: s).take fixedHeaderSize)[i]? = (marker :: s)[i]? :=
          List.getElem?_take_of_lt hi
        rw [hid, hfixed (by decide), hfixed (by decide), hlow, hhigh]
        simp only [ExceptT.run, hchecked, Option.bind_eq_bind, Option.bind_some]
        rfl
    · rw [if_pos hm, if_pos hm]

/-! ## The number of a packet -/

/-- **The number of a packet** is the word in its eighth and ninth octets, and
is there as soon as ten octets are. -/
theorem announcedId?_eq_some_iff {n : UInt16} :
    announcedId? d = some n
      ↔ fixedHeaderSize ≤ d.length ∧ n.toNat = d.wordAt 7 := by
  by_cases hlen : fixedHeaderSize ≤ d.length
  · obtain ⟨low, high, hlow, hhigh, hid⟩ := exists_announcedId? hlen
    have hword : d.wordAt 7 = low.toNat + 256 * high.toNat := by
      simp [Bytes.wordAt, List.getD_eq_getElem?_getD, hlow, hhigh]
    have hlt : low.toNat + 256 * high.toNat < UInt16.size :=
      hword ▸ Nat.lt_succ_of_le (Bytes.wordAt_le d 7)
    rw [hid, hword, Option.some.injEq, and_iff_right hlen, ← UInt16.toNat_inj,
      UInt16.toNat_ofNat_of_lt' hlt]
    exact eq_comm
  · rw [announcedId?_of_lt (Nat.lt_of_not_le hlen)]
    exact iff_of_false (by simp) (fun h => hlen h.1)

/-- **A fault is reported under the number of the packet**, if the packet
begins with the marker and has one. Without the marker there is no number even
if ten octets are there: what does not begin like a packet has no place where
its number would be. -/
theorem packetId_eq_some_iff {f : Failure} {n : UInt16}
    (h : decode d = .error f) :
    f.packetId = some n
      ↔ d.head? = some protocolMarker ∧ announcedId? d = some n := by
  constructor
  · intro hn
    have hd := h
    unfold decode at hd
    cases d with
    | nil =>
      cases hd
      cases hn
    | cons marker s =>
      dsimp only at hd
      by_cases hm : marker = protocolMarker
      · rw [if_neg (Decidable.not_not.2 hm)] at hd
        cases hid : announcedId? (marker :: s) with
        | none =>
          rw [hid] at hd
          cases hd
          cases hn
        | some m =>
          have hhead : (marker :: s).head? = some protocolMarker :=
            congrArg some hm
          exact ⟨hhead, (packetId_of_decode_error hhead hid h).symm.trans hn⟩
      · rw [if_pos hm] at hd
        cases hd
        cases hn
  · rintro ⟨hm, hid⟩
    exact packetId_of_decode_error hm hid h

/-- An octet from 128 on is neither of the outcomes that are no faults. The
outcomes below 128 are these two alone. -/
theorem ofByte_ne {b : UInt8} (h : 128 ≤ b.toNat) :
    ResultCode.ofByte b ≠ .ok ∧ ResultCode.ofByte b ≠ .inProgress := by
  have hne {c : ResultCode} (hc : c.toByte.toNat < 128) : ResultCode.ofByte b
      ≠ c := by
    rintro rfl
    rw [ResultCode.toByte_ofByte] at hc
    exact absurd hc (Nat.not_lt.2 h)
  exact ⟨hne (by decide), hne (by decide)⟩

/-- **A packet is decoded within range, and its number is never lost.** No
slice, place or difference is out of range for any octets. A fault is reported
under a number exactly if there are ten octets and the first of them is the
marker, whichever check fails; the number is the word that stands in the eighth
and ninth, and so it is where there is no fault. And what the terminal is told
of a fault is neither that all is well nor that work is going on. -/
theorem decode_correlates (d : Bytes) :
    decodeStrict d = some (decode d)
      ∧ (∀ f, decode d = .error f →
          (∀ n, f.packetId = some n
            ↔ 10 ≤ d.length ∧ d.head? = some 0x01 ∧ n.toNat = d.wordAt 7)
          ∧ 128 ≤ f.error.resultCode.toByte.toNat
          ∧ ResultCode.ofByte f.error.resultCode.toByte ≠ .ok
          ∧ ResultCode.ofByte f.error.resultCode.toByte ≠ .inProgress)
      ∧ ∀ p, decode d = .ok p → p.packetId.toNat = d.wordAt 7 := by
  refine ⟨decodeStrict_eq d, fun f hf => ?_, fun p hp => ?_⟩
  · have hcode := f.error.resultCode_ge
    refine ⟨fun n => ?_, hcode, ofByte_ne hcode⟩
    rw [packetId_eq_some_iff hf, announcedId?_eq_some_iff]
    exact and_left_comm
  · obtain ⟨s, n, -, hid, hchecked⟩ := decode_eq_ok_iff_checked.1 hp
    obtain ⟨h, r, data, frame, -, -, -, -, rfl⟩ :=
      decodeChecked_eq_ok.1 hchecked
    exact (announcedId?_eq_some_iff.1 hid).2

end Packet

end Telematics
