import Telematics.Wire.Packet
import Telematics.Proofs.Wire.Entry

/-!
# How a packet stands on the wire

A `Layout` is a packet before any payload is read: the fields of its header,
the acknowledgement that its frame data may begin with, and the entries of its
records. Lengths and both checksums follow from the rest, and what a packet
can not be, such as encrypted or too long, a layout can not be either.
`Layout.octets` writes one out.

A packet is accepted exactly if it is written out from a layout all of whose
payloads are read (`Layout.decode_eq_ok`), and then from one only
(`Layout.octets_injective`). So it makes sense to speak of the sub-records
that stand in the octets of a packet.

From left to right the decoder is opened check by check
(`Packet.decodeChecked_eq_ok`). What its checks say of the header is kept
together in `Packet.Header.Sound`, and a sound header with the frame data that
it announces is the header of a layout (`Layout.exists_header_eq`). From right
to left every check has to pass for octets that are written out, and it does
since lengths and checksums were computed from them (`Layout.sound_header`).
-/

namespace Telematics

variable {d t : Bytes}

namespace Packet

/-! ## The header -/

/-- The octets of a header, as far as its checksum. -/
def Header.octets (h : Header) (packetId : UInt16) : Bytes :=
  [protocolMarker, h.securityKeyId, h.flags, headerLength h.routing.isSome,
    h.headerEncoding]
    ++ Bytes.ofUInt16 h.frameLength ++ Bytes.ofUInt16 packetId ++ [h.packetType]
    ++ h.routing.elim [] encodeRouting

/-- Routing takes five octets. -/
theorem length_encodeRouting (r : Routing) : (encodeRouting r).length = 5 := by
  simp [encodeRouting]

/-- They say what the routing is. -/
theorem encodeRouting_injective {r r' : Routing}
    (h : encodeRouting r = encodeRouting r') :
    r = r' := by
  rcases r with ⟨p, a, n⟩
  rcases r' with ⟨p', a', n'⟩
  simp only [encodeRouting, List.append_assoc] at h
  obtain ⟨hp, h1⟩ := List.append_inj h (by simp)
  obtain ⟨ha, h2⟩ := List.append_inj h1 (by simp)
  rw [Bytes.ofUInt16_injective hp, Bytes.ofUInt16_injective ha,
    (List.cons.inj h2).1]

/-- The header length counts the checksum. -/
theorem Header.length_octets (h : Header) (packetId : UInt16) :
    (h.octets packetId).length + 1 = (headerLength h.routing.isSome).toNat := by
  unfold Header.octets
  cases h.routing with
  | none => simp [headerLength]
  | some r => simp [headerLength, length_encodeRouting]

/-- Routing is read from its octets. -/
theorem takes_routing : readRouting.Takes (fun _ => True) encodeRouting :=
  fun d r t => by
  unfold readRouting encodeRouting
  simp only [Reader.bind_eq_ok, Reader.u16_eq_ok, Reader.u8_eq_ok,
    Reader.pure_eq_ok]
  constructor
  · rintro ⟨p, _, rfl, a, _, rfl, n, _, rfl, rfl, rfl⟩
    simp only [List.append_assoc, List.cons_append, List.nil_append, true_and]
  · rintro ⟨-, rfl⟩
    refine ⟨r.peerAddress, _, ?_, r.recipientAddress, _, rfl, r.ttl, _, rfl,
      rfl, rfl⟩
    simp only [List.append_assoc, List.cons_append, List.nil_append]

/-- A header that begins with the marker is read from its octets. -/
theorem readHeader_eq_ok {h : Header} :
    readHeader (protocolMarker :: d) = .ok (h, t)
      ↔ h.routing.isSome = Octet.hasBit h.flags 5
        ∧ ∃ packetId, protocolMarker :: d
          = h.octets packetId ++ h.checksum :: t := by
  unfold readHeader
  simp only [Reader.bind_eq_ok, Reader.u16_eq_ok, Reader.u8_eq_ok,
    List.cons.injEq]
  constructor
  · rintro ⟨_, _, ⟨rfl, rfl⟩, k, _, rfl, f, _, rfl, n, _, rfl, e, _, rfl, w, _,
      rfl, i, _, rfl, ty, _, rfl, hr⟩
    obtain ⟨hn, hr⟩ := Reader.guard_eq_ok.1 hr
    simp only [Reader.bind_eq_ok, takes_routing.whenFlag, Reader.u8_eq_ok,
      Reader.pure_eq_ok] at hr
    obtain ⟨o, _, ⟨ho, -, rfl⟩, c, _, rfl, rfl, rfl⟩ := hr
    refine ⟨ho, i, ?_⟩
    rw [Decidable.not_not] at hn
    simp only [Header.octets, hn, ho, List.append_assoc, List.cons_append,
      List.nil_append]
  · rintro ⟨ho, i, hd⟩
    simp only [Header.octets, List.append_assoc, List.cons_append,
      List.nil_append, List.cons.injEq, true_and] at hd
    refine ⟨protocolMarker, d, ⟨rfl, rfl⟩, h.securityKeyId, _, hd, h.flags, _,
      rfl, headerLength h.routing.isSome, _, rfl, h.headerEncoding, _, rfl,
      h.frameLength, _, rfl, i, _, rfl, h.packetType, _, rfl, ?_⟩
    refine Reader.guard_eq_ok.2 ⟨fun hn => hn (by rw [ho]), ?_⟩
    simp only [Reader.bind_eq_ok, takes_routing.whenFlag, Reader.u8_eq_ok,
      Reader.pure_eq_ok]
    exact ⟨h.routing, _, ⟨ho, fun _ _ => trivial, rfl⟩, h.checksum, t, rfl,
      rfl, rfl⟩

/-! ## The frame data -/

/-- What follows the header: nothing, or the frame data and its checksum. -/
def trailer (data : Bytes) : Bytes :=
  if data.isEmpty then [] else data ++ Bytes.ofUInt16 (Checksum.frame data)

/-- Frame data has its checksum behind it. -/
theorem trailer_of_ne_nil {data : Bytes} (h : data ≠ []) :
    trailer data = data ++ Bytes.ofUInt16 (Checksum.frame data) := by
  rw [trailer, if_neg (by simpa using h)]

/-- Without frame data nothing follows the header, not even a checksum. -/
theorem length_trailer (data : Bytes) : (trailer data).length =
    if data.length = 0 then 0 else data.length + frameChecksumSize := by
  by_cases h : data = []
  · rw [h]
    rfl
  · rw [trailer_of_ne_nil h,
      if_neg (fun h0 => h (List.eq_nil_of_length_eq_zero h0)),
      List.length_append, Bytes.length_ofUInt16]
    rfl

/-- **The frame data is read** from what is written for it, once the length
of the packet is known to be right. -/
theorem readFrameData_eq_ok {n : Nat} {data : Bytes}
    (ht : t.length = if n = 0 then 0 else n + frameChecksumSize) :
    (∃ s, readFrameData n t = .ok (data, s))
      ↔ data.length = n ∧ t = trailer data := by
  unfold readFrameData
  by_cases hn : n = 0
  · subst hn
    obtain rfl := List.eq_nil_of_length_eq_zero (ht.trans (if_pos rfl))
    simp only [if_pos, Reader.pure_eq_ok]
    constructor
    · rintro ⟨s, rfl, -⟩
      exact ⟨rfl, rfl⟩
    · rintro ⟨hlen, -⟩
      exact ⟨[], (List.eq_nil_of_length_eq_zero hlen).symm, rfl⟩
  · rw [if_neg hn] at ht ⊢
    simp only [Reader.bind_eq_ok, Reader.bytes_eq_ok, Reader.u16_eq_ok]
    constructor
    · rintro ⟨_, a, _, ⟨ha, rfl⟩, w, s, rfl, hr⟩
      obtain ⟨hw, hr⟩ := Reader.guard_eq_ok.1 hr
      obtain ⟨rfl, rfl⟩ := Reader.pure_eq_ok.1 hr
      rw [Decidable.not_not] at hw
      have hrest : s = [] := by
        simp only [List.length_append, Bytes.length_ofUInt16, ha,
          frameChecksumSize] at ht
        exact List.eq_nil_of_length_eq_zero (by omega)
      have hne : a ≠ [] := fun h => hn (by rw [← ha, h]; rfl)
      rw [trailer_of_ne_nil hne, hw, hrest, List.append_nil]
      exact ⟨ha, rfl⟩
    · rintro ⟨hlen, rfl⟩
      have hne : data ≠ [] := fun h => hn (by rw [← hlen, h]; rfl)
      refine ⟨[], data, _, ⟨hlen, trailer_of_ne_nil hne⟩, Checksum.frame data,
        [], (List.append_nil _).symm, ?_⟩
      exact Reader.guard_eq_ok.2
        ⟨fun h => h rfl, Reader.pure_eq_ok.2 ⟨rfl, rfl⟩⟩

/-- The octets of the packet that a response answers, and of the result. -/
def ackOctets (a : UInt16 × UInt8) : Bytes := Bytes.ofUInt16 a.1 ++ [a.2]

/-- The packet type of frame data with or without an acknowledgement. -/
def typeOf (acknowledged : Option (UInt16 × UInt8)) : UInt8 :=
  if acknowledged.isSome then 0 else 1

/-- Records behind an acknowledgement, or on their own. -/
def frameOf : Option (UInt16 × UInt8) → List Record → Frame
  | none, records => .appData records
  | some (packetId, result), records => .response packetId result records

/-- Records are read until nothing is left, and are then a list of entries. -/
theorem decodeSet_eq_ok {set : List Record} :
    Record.decodeSet d = .ok set ↔
      ∃ es : List Entry, es.mapM Entry.record = .ok set
        ∧ d = es.flatMap Entry.octets :=
  Reader.many_eq_ok (fun _ _ _ => Entry.read_eq_ok)

/-- **The frame data is made of entries**, behind an acknowledgement if the
packet type says so. Only two packet types are of a frame, which is what `hty`
asks. -/
theorem decodeFrame_eq_ok {ty : UInt8} (hty : ty = 0 ∨ ty = 1) {f : Frame} :
    decodeFrame ty d = .ok f ↔ ∃ (a : Option (UInt16 × UInt8)) (es : List Entry)
      (set : List Record), ty = typeOf a
        ∧ d = a.elim [] ackOctets ++ es.flatMap Entry.octets
        ∧ es.mapM Entry.record = .ok set ∧ f = frameOf a set := by
  unfold decodeFrame
  rcases hty with rfl | rfl
  · rw [if_neg (by decide), Writing.map_eq_ok]
    simp only [Prod.exists, Reader.bind_eq_ok, Reader.u16_eq_ok,
      Reader.u8_eq_ok, Reader.rest_eq_ok, Reader.liftM_eq_ok, decodeSet_eq_ok,
      Reader.pure_eq_ok]
    constructor
    · rintro ⟨_, _, ⟨i, _, rfl, r, _, rfl, _, _, ⟨rfl, rfl⟩, set, _,
        ⟨⟨es, hes, rfl⟩, rfl⟩, rfl, rfl⟩, rfl⟩
      refine ⟨some (i, r), es, set, rfl, ?_, hes, rfl⟩
      simp only [ackOctets, Option.elim_some, List.append_assoc,
        List.cons_append, List.nil_append]
    · rintro ⟨a, es, set, ha, rfl, hes, rfl⟩
      cases a with
      | none => cases ha
      | some a =>
        refine ⟨_, [], ⟨a.1, _, ?_, a.2, _, rfl, _, _, ⟨rfl, rfl⟩, set, _,
          ⟨⟨es, hes, rfl⟩, rfl⟩, rfl, rfl⟩, rfl⟩
        simp only [ackOctets, Option.elim_some, List.append_assoc,
          List.cons_append, List.nil_append]
  · rw [if_pos rfl, Writing.map_eq_ok]
    simp only [decodeSet_eq_ok]
    constructor
    · rintro ⟨set, ⟨es, hes, rfl⟩, rfl⟩
      exact ⟨none, es, set, rfl, rfl, hes, rfl⟩
    · rintro ⟨a, es, set, ha, rfl, hes, rfl⟩
      cases a with
      | none => exact ⟨set, ⟨es, hes, rfl⟩, rfl⟩
      | some a => cases ha

/-! ## The checks of a packet -/

/-- What a header says of the packet around it, once its own checks have
passed. -/
structure Header.Sound (h : Header) (d : Bytes) : Prop where
  checksum : h.checksum
    = Checksum.header (d.take ((headerLength h.routing.isSome).toNat - 1))
  frameLength : h.frameLength.toNat ≤ maxFrameData
  total : d.length = if h.frameLength.toNat = 0
    then (headerLength h.routing.isSome).toNat
    else (headerLength h.routing.isSome).toNat + h.frameLength.toNat
      + frameChecksumSize
  plain : h.flags &&& 0x1C = 0
  packetType : h.packetType = 0 ∨ h.packetType = 1

/-- The packet that a header and a frame make up. -/
def Header.packet (h : Header) (packetId : UInt16) (frame : Frame) :
    Packet where
  securityKeyId := h.securityKeyId
  headerVersion := h.flags >>> 6
  encryption := 0
  compressed := false
  priority := h.flags &&& 0x03
  headerEncoding := h.headerEncoding
  packetId
  routing := h.routing
  frame

/-- The three flag bits that have to be clear are those of the encryption and
of the compression. -/
theorem plain_iff : ∀ f : UInt8,
    f &&& 0x1C = 0 ↔ f >>> 3 &&& 0x03 = 0 ∧ Octet.hasBit f 2 = false := by
  decide +kernel

/-- **What is checked**, in the order in which it is. -/
theorem decodeChecked_eq_ok {n : UInt16} {p : Packet} :
    decodeChecked d n = .ok p ↔ ∃ h r data frame,
      readHeader d = .ok (h, r) ∧ h.Sound d
      ∧ (∃ s, readFrameData h.frameLength.toNat r = .ok (data, s))
      ∧ decodeFrame h.packetType data = .ok frame ∧ h.packet n frame = p := by
  constructor
  · intro hp
    obtain ⟨⟨h, r⟩, hread, hp⟩ := Writing.bind_eq_ok.1 hp
    obtain ⟨hsum, hp⟩ := Writing.guard_eq_ok.1 hp
    obtain ⟨hmax, hp⟩ := Writing.guard_eq_ok.1 hp
    obtain ⟨htotal, hp⟩ := Writing.guard_eq_ok.1 hp
    obtain ⟨hplain, hp⟩ := Writing.guard_eq_ok.1 hp
    obtain ⟨hcompressed, hp⟩ := Writing.guard_eq_ok.1 hp
    obtain ⟨htype, hp⟩ := Writing.guard_eq_ok.1 hp
    obtain ⟨⟨data, s⟩, hdata, hp⟩ := Writing.bind_eq_ok.1 hp
    obtain ⟨frame, hframe, hp⟩ := Writing.bind_eq_ok.1 hp
    obtain rfl := Writing.pure_eq_ok.1 hp
    rw [Decidable.not_not] at hsum htotal hplain
    rw [Bool.not_eq_true] at hcompressed
    refine ⟨h, r, data, frame, hread, ⟨hsum, Nat.le_of_not_lt hmax, htotal,
      (plain_iff _).2 ⟨hplain, hcompressed⟩, ?_⟩, ⟨s, hdata⟩, hframe, ?_⟩
    · by_cases h0 : h.packetType = 0
      · exact .inl h0
      · exact .inr (Decidable.not_not.1 (fun h1 => htype ⟨h0, h1⟩))
    · rw [Header.packet, hplain, hcompressed]
  · rintro ⟨h, r, data, frame, hread, hsound, ⟨s, hdata⟩, hframe, rfl⟩
    obtain ⟨hplain, hcompressed⟩ := (plain_iff _).1 hsound.plain
    refine Writing.bind_eq_ok.2 ⟨(h, r), hread, ?_⟩
    refine Writing.guard_eq_ok.2 ⟨fun hne => hne hsound.checksum, ?_⟩
    refine Writing.guard_eq_ok.2 ⟨Nat.not_lt.2 hsound.frameLength, ?_⟩
    refine Writing.guard_eq_ok.2 ⟨fun hne => hne hsound.total, ?_⟩
    refine Writing.guard_eq_ok.2 ⟨fun hne => hne hplain, ?_⟩
    refine Writing.guard_eq_ok.2
      ⟨fun hc => Bool.false_ne_true (hcompressed.symm.trans hc), ?_⟩
    refine Writing.guard_eq_ok.2
      ⟨fun hne => hsound.packetType.elim hne.1 hne.2, ?_⟩
    refine Writing.bind_eq_ok.2 ⟨(data, s), hdata, ?_⟩
    refine Writing.bind_eq_ok.2 ⟨frame, hframe, ?_⟩
    rw [Writing.pure_eq_ok, Header.packet, hplain, hcompressed]

/-- The number of a packet is where the header has it. -/
theorem announcedId?_octets (h : Header) (n : UInt16) (t : Bytes) :
    announcedId? (h.octets n ++ t) = some n := by
  have hoctets : announcedId? (h.octets n ++ t)
      = some (UInt16.ofNat (Bytes.toNat (Bytes.ofUInt16 n))) := rfl
  rw [hoctets, Bytes.toNat_ofUInt16, UInt16.ofNat_toNat]

/-- A packet is accepted if it begins with the marker, has a number and passes
the checks. -/
theorem decode_eq_ok_iff_checked {p : Packet} :
    decode d = .ok p ↔ ∃ s n, d = protocolMarker :: s ∧ announcedId? d = some n
      ∧ decodeChecked d n = .ok p := by
  have hmap : ∀ {x : Except WireError Packet} {n : UInt16},
      x.mapError (Failure.mk (some n)) = .ok p ↔ x = .ok p := fun {x _} => by
    cases x with
    | error e =>
      constructor
      · intro h
        cases h
      · intro h
        cases h
    | ok q =>
      show Except.ok q = Except.ok p ↔ _
      rw [Except.ok.injEq, Except.ok.injEq]
  unfold decode
  cases d with
  | nil =>
    constructor
    · intro h
      cases h
    · rintro ⟨_, _, h, -⟩
      cases h
  | cons b s =>
    dsimp only
    by_cases hb : b = protocolMarker
    · rw [if_neg (Decidable.not_not.2 hb)]
      cases announcedId? (b :: s) with
      | none =>
        constructor
        · intro h
          cases h
        · rintro ⟨_, _, -, h, -⟩
          cases h
      | some n =>
        rw [hmap]
        constructor
        · intro h
          exact ⟨s, n, by rw [hb], rfl, h⟩
        · rintro ⟨_, _, -, hn, h⟩
          obtain rfl := Option.some.inj hn
          exact h
    · rw [if_pos hb]
      constructor
      · intro h
        cases h
      · rintro ⟨_, _, hs, -⟩
        exact absurd (List.cons.inj hs).1 hb

end Packet

/-! ## Layouts -/

/-- A packet before any payload is read. -/
structure Layout where
  securityKeyId : UInt8
  flags : UInt8
  headerEncoding : UInt8
  packetId : UInt16
  routing : Option Routing
  /-- The packet that a response answers, and the result. -/
  acknowledged : Option (UInt16 × UInt8)
  entries : List Entry
  routing_isSome : routing.isSome = Octet.hasBit flags 5
  /-- Neither encrypted nor compressed. -/
  plain : flags &&& 0x1C = 0
  size_le : (acknowledged.elim [] Packet.ackOctets
    ++ entries.flatMap Entry.octets).length
    ≤ maxFrameData

namespace Layout

/-- The frame data. -/
def data (l : Layout) : Bytes :=
  l.acknowledged.elim [] Packet.ackOctets ++ l.entries.flatMap Entry.octets

/-- The header, with a checksum. -/
def header (l : Layout) (checksum : UInt8) : Packet.Header where
  securityKeyId := l.securityKeyId
  flags := l.flags
  headerEncoding := l.headerEncoding
  frameLength := UInt16.ofNat l.data.length
  packetType := Packet.typeOf l.acknowledged
  routing := l.routing
  checksum

/-- The octets of the header, which its checksum is not among. -/
def headerOctets (l : Layout) : Bytes := (l.header 0).octets l.packetId

def checksum (l : Layout) : UInt8 := Checksum.header l.headerOctets

/-- The packet on the wire. -/
def octets (l : Layout) : Bytes :=
  l.headerOctets ++ l.checksum :: Packet.trailer l.data

/-- The packet that the octets are read as. -/
def packet (l : Layout) : Except WireError Packet :=
  (fun set =>
    (l.header l.checksum).packet l.packetId (Packet.frameOf l.acknowledged set))
    <$> l.entries.mapM Entry.record

/-- The checksum of a header has no part in its routing. -/
@[simp] theorem header_routing (l : Layout) (c : UInt8) :
    (l.header c).routing = l.routing := rfl

/-- The checksum of a header is the one it is given. -/
@[simp] theorem header_checksum (l : Layout) (c : UInt8) :
    (l.header c).checksum = c := rfl

/-- The frame length is not cut short. -/
theorem toNat_frameLength (l : Layout) (c : UInt8) :
    (l.header c).frameLength.toNat = l.data.length :=
  toNat_ofNat_length (Nat.le_trans l.size_le (by decide))

/-- The header length counts the checksum. -/
theorem length_headerOctets (l : Layout) :
    l.headerOctets.length + 1 = (Packet.headerLength l.routing.isSome).toNat :=
  (l.header 0).length_octets l.packetId

/-- The length of a packet is that of its header and of what follows. -/
theorem length_octets (l : Layout) : l.octets.length =
    (Packet.headerLength l.routing.isSome).toNat
      + (Packet.trailer l.data).length := by
  rw [octets, List.length_append, List.length_cons, ← length_headerOctets]
  omega

/-- The checks pass for what is written out from a layout. -/
theorem sound_header (l : Layout) : (l.header l.checksum).Sound l.octets where
  checksum := by
    rw [header_routing, header_checksum, ← length_headerOctets,
      Nat.add_sub_cancel, octets, List.take_left, checksum]
  frameLength := by
    rw [toNat_frameLength]
    exact l.size_le
  total := by
    rw [toNat_frameLength, header_routing, length_octets, Packet.length_trailer]
    split
    · rfl
    · rw [Nat.add_assoc]
  plain := l.plain
  packetType := by
    show Packet.typeOf l.acknowledged = 0 ∨ Packet.typeOf l.acknowledged = 1
    unfold Packet.typeOf
    split
    · exact .inl rfl
    · exact .inr rfl

/-- The checksum is not among the octets that it is of. -/
theorem headerOctets_eq (l : Layout) (c : UInt8) :
    (l.header c).octets l.packetId = l.headerOctets := rfl

/-- A header that says of its frame data what holds of it is the header of a
layout. -/
theorem exists_header_eq {h : Packet.Header} {a : Option (UInt16 × UInt8)}
  {es : List Entry}
    (n : UInt16) (hrouting : h.routing.isSome = Octet.hasBit h.flags 5)
    (hsound : h.Sound d)
    (hty : h.packetType = Packet.typeOf a)
    (hsize : (a.elim [] Packet.ackOctets ++ es.flatMap Entry.octets).length
      = h.frameLength.toNat) :
    ∃ l : Layout, l.header h.checksum = h ∧ l.packetId = n ∧ l.acknowledged = a
      ∧ l.entries = es := by
  have hle := hsound.frameLength
  rw [← hsize] at hle
  refine ⟨⟨h.securityKeyId, h.flags, h.headerEncoding, n, h.routing, a, es,
    hrouting, hsound.plain, hle⟩, ?_, rfl, rfl, rfl⟩
  show Packet.Header.mk h.securityKeyId h.flags h.headerEncoding
    (UInt16.ofNat (List.length _))
    (Packet.typeOf a) h.routing h.checksum = h
  rw [data, hsize, UInt16.ofNat_toNat, ← hty]

/-- **A packet is accepted exactly if it is written out from a layout whose
payloads are all read.** The layout has everything that is on the wire, in the
order in which it is there, so this is the inverse of reading even where a
packet does not keep all of it. -/
theorem decode_eq_ok {p : Packet} :
    Packet.decode d = .ok p ↔ ∃ l : Layout,
      l.packet = .ok p ∧ l.octets = d := by
  rw [Packet.decode_eq_ok_iff_checked]
  constructor
  · rintro ⟨s, n, rfl, hn, hchecked⟩
    obtain ⟨h, r, data, frame, hread, hsound, hdata, hframe, rfl⟩ :=
      Packet.decodeChecked_eq_ok.1 hchecked
    obtain ⟨hrouting, i, hoctets⟩ := Packet.readHeader_eq_ok.1 hread
    rw [hoctets] at hn hsound ⊢
    obtain rfl : i = n :=
      Option.some.inj ((Packet.announcedId?_octets h i _).symm.trans hn)
    have hlen := h.length_octets i
    have hsum := hsound.checksum
    rw [← hlen, Nat.add_sub_cancel, List.take_left] at hsum
    -- What follows the header is as long as the header says.
    have hr : r.length = if h.frameLength.toNat = 0 then 0
        else h.frameLength.toNat + frameChecksumSize := by
      have htotal := hsound.total
      rw [← hlen, List.length_append, List.length_cons] at htotal
      by_cases h0 : h.frameLength.toNat = 0
      · rw [if_pos h0] at htotal ⊢
        omega
      · rw [if_neg h0] at htotal ⊢
        omega
    obtain ⟨hsize, rfl⟩ := (Packet.readFrameData_eq_ok hr).1 hdata
    obtain ⟨a, es, set, hty, rfl, hset, rfl⟩ :=
      (Packet.decodeFrame_eq_ok hsound.packetType).1 hframe
    -- So header and frame data are those of a layout.
    obtain ⟨l, hh, rfl, rfl, rfl⟩ :=
      exists_header_eq i hrouting hsound hty hsize
    have hoctets : h.octets l.packetId = l.headerOctets := by
      rw [← headerOctets_eq l, hh]
    have hsum : l.checksum = h.checksum := by rw [hsum, hoctets, checksum]
    refine ⟨l, ?_, ?_⟩
    · rw [packet, hsum, hh]
      exact Writing.map_eq_ok.2 ⟨set, hset, rfl⟩
    · rw [octets, hsum, hoctets, data]
  · rintro ⟨l, hp, rfl⟩
    obtain ⟨set, hset, rfl⟩ := Writing.map_eq_ok.1 hp
    obtain ⟨s, hs⟩ : ∃ s, l.octets = protocolMarker :: s := ⟨_, rfl⟩
    refine ⟨s, l.packetId, hs, Packet.announcedId?_octets (l.header 0) _ _, ?_⟩
    have hread : Packet.readHeader l.octets
        = .ok (l.header l.checksum, Packet.trailer l.data) := by
      rw [hs, Packet.readHeader_eq_ok]
      refine ⟨l.routing_isSome, l.packetId, ?_⟩
      rw [headerOctets_eq, header_checksum, ← hs, octets]
    have hr : (Packet.trailer l.data).length
      = if (l.header l.checksum).frameLength.toNat = 0
        then 0 else (l.header l.checksum).frameLength.toNat
          + frameChecksumSize := by
      rw [toNat_frameLength]
      exact Packet.length_trailer l.data
    have hdata :=
      (Packet.readFrameData_eq_ok hr).2 ⟨(toNat_frameLength l _).symm, rfl⟩
    exact Packet.decodeChecked_eq_ok.2 ⟨_, _, l.data, _, hread, l.sound_header,
      hdata, (Packet.decodeFrame_eq_ok l.sound_header.packetType).2
        ⟨l.acknowledged, l.entries, set, rfl, rfl, hset, rfl⟩, rfl⟩

/-! ## One layout only -/

/-- Frame data of one length is found again in what follows a header. -/
theorem trailer_injective {a b : Bytes} (hlen : a.length = b.length)
    (h : Packet.trailer a = Packet.trailer b) : a = b := by
  by_cases ha : a = []
  · rw [ha] at hlen ⊢
    exact (List.eq_nil_of_length_eq_zero hlen.symm).symm
  · have hb : b ≠ [] :=
      fun hb => ha (List.eq_nil_of_length_eq_zero (by rw [hlen, hb]; rfl))
    rw [Packet.trailer_of_ne_nil ha, Packet.trailer_of_ne_nil hb] at h
    exact (List.append_inj h hlen).1

/-- An acknowledgement is found again in its octets. -/
theorem ackOctets_injective {a b : UInt16 × UInt8}
    (h : Packet.ackOctets a = Packet.ackOctets b) : a = b := by
  obtain ⟨hid, hresult⟩ := List.append_inj h (by simp)
  exact Prod.ext (Bytes.ofUInt16_injective hid) (List.cons.inj hresult).1

/-- The packet type says whether there is an acknowledgement. -/
theorem typeOf_eq_zero_iff {a : Option (UInt16 × UInt8)} :
    Packet.typeOf a = 0 ↔ a.isSome = true := by
  unfold Packet.typeOf
  split <;> simp_all

/-- So two packets of one type have one or have none. -/
theorem isSome_of_typeOf {a b : Option (UInt16 × UInt8)}
    (h : Packet.typeOf a = Packet.typeOf b) : a.isSome = b.isSome := by
  rw [Bool.eq_iff_iff, ← typeOf_eq_zero_iff, ← typeOf_eq_zero_iff, h]

/-- **The octets of a packet have one layout.** The header is of a length that
its flags say, the frame data of the length that the header says, and the
records in it are cut in one way only. -/
theorem octets_injective {l m : Layout} (h : l.octets = m.octets) : l = m := by
  rcases l with ⟨k, f, e, i, o, a, es, ho, hp, hle⟩
  rcases m with ⟨k', f', e', i', o', a', es', ho', hp', hle'⟩
  simp only [octets, headerOctets, Packet.Header.octets, header,
    List.append_assoc, List.cons_append, List.nil_append, List.cons.injEq,
    true_and] at h
  obtain ⟨rfl, rfl, -, rfl, h1⟩ := h
  obtain ⟨hsize, h2⟩ := List.append_inj h1 (by simp)
  obtain ⟨hid, h3⟩ := List.append_inj h2 (by simp)
  obtain rfl := Bytes.ofUInt16_injective hid
  obtain ⟨hty, h4⟩ := List.cons.inj h3
  obtain ⟨rfl, h5⟩ := elim_append_inj Packet.length_encodeRouting
    (fun _ _ => Packet.encodeRouting_injective) (ho.trans ho'.symm) h4
  have hlen : (a.elim [] Packet.ackOctets ++ es.flatMap Entry.octets).length
      = (a'.elim [] Packet.ackOctets ++ es'.flatMap Entry.octets).length :=
    length_injective (Nat.le_trans hle (by decide))
      (Nat.le_trans hle' (by decide)) hsize
  -- Both trailers are of frame data of the same length, so the checksum adds
  -- nothing.
  have hdata := trailer_injective hlen (List.cons.inj h5).2
  obtain ⟨rfl, hentries⟩ := elim_append_inj (n := 3) (fun _ => rfl)
    (fun _ _ => ackOctets_injective) (isSome_of_typeOf hty) hdata
  obtain rfl :=
    Entry.prefixFree_octets.flatMap_injective Entry.octets_ne_nil hentries
  rfl

/-! ## Writing a packet back -/

/-- The sub-records, record by record. -/
def items (l : Layout) : List Item := l.entries.flatMap Entry.items

/-- What holds of all items holds of those of every entry. -/
theorem forall_mem_items {l : Layout} {P : Item → Prop} :
    (∀ i ∈ l.items, P i) ↔ ∀ e ∈ l.entries, ∀ i ∈ e.items, P i := by
  unfold items
  simp only [List.mem_flatMap]
  exact ⟨fun h e he i hi => h i ⟨e, he, hi⟩, fun h i ⟨e, he, hi⟩ => h e he i hi⟩

/-- What is left of the packet when it is written back. -/
def canonical (l : Layout) : Layout where
  securityKeyId := l.securityKeyId
  flags := l.flags
  headerEncoding := l.headerEncoding
  packetId := l.packetId
  routing := l.routing
  acknowledged := l.acknowledged
  entries := l.entries.map Entry.canonical
  routing_isSome := l.routing_isSome
  plain := l.plain
  size_le := by
    rw [List.length_append, Entry.length_flatMap_canonical,
      ← List.length_append]
    exact l.size_le

/-- Nothing is left out of a layout exactly if nothing is of its items. -/
theorem canonical_eq_self_iff {l : Layout} :
    l.canonical = l ↔ ∀ i ∈ l.items, i.canonical = i := by
  have hentries : l.entries.map Entry.canonical = l.entries
      ↔ ∀ i ∈ l.items, i.canonical = i := by
    rw [Writing.map_eq_self_iff, forall_mem_items]
    simp only [Entry.canonical_eq_self_iff]
  rw [← hentries]
  constructor
  · exact congrArg entries
  · intro h
    rcases l with ⟨⟩
    exact Layout.mk.injEq .. ▸ ⟨rfl, rfl, rfl, rfl, rfl, rfl, h⟩

end Layout

end Telematics
