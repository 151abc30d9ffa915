import Telematics.Proofs.Wire.Layout

/-!
# Round trips of packets

A packet that is written is read again as the same packet, unless a field
holds a bit that is written from another one (`Packet.Clean`). The other way
round, octets that are accepted are written back as they are, unless one of
their sub-records is of the three kinds that say more than is kept of them;
then the packet is either not written at all or written with the same header,
the same records and the same framing around the payloads without what is
lost. Both follow from how the octets of a packet are laid out.

The layout is what both directions meet in. A packet that is read from a
layout is written back as that layout without what is lost
(`Layout.encode_of_packet`), and what is written for a clean packet is the
octets of a layout that is read as it (`Layout.exists_of_encode`). So the
first round trip is that reading finds this layout, and the second that a
layout is its own canonical form exactly if none of its items is lossy
(`Packet.decode_of_encode`, `Packet.encode_of_decode`). The header and its
checksum never change on the way: no payload changes its length, and neither
length nor checksum depends on anything else in it.
-/

namespace Telematics

variable {d t : Bytes}

namespace Packet

/-! ## Writing the frame -/

/-- **No bit is written from another field**, and no field has more bits
than there is room for. -/
structure Clean (p : Packet) : Prop where
  headerVersion : p.headerVersion ≤ 3
  priority : p.priority ≤ 3
  encryption : p.encryption = 0
  compressed : p.compressed = false
  recordPriority : ∀ r ∈ p.frame.records, r.priority ≤ 3
  subrecords : ∀ r ∈ p.frame.records, ∀ s ∈ r.subrecords, s.Clean

/-- A frame is records behind an acknowledgement, or records on their own. -/
theorem exists_frameOf (f : Frame) : ∃ a set, f = frameOf a set := by
  cases f with
  | appData set => exact ⟨none, set, rfl⟩
  | response i r set => exact ⟨some (i, r), set, rfl⟩

/-- A frame is written as its acknowledgement, if it has one, and its
records. -/
theorem encodeFrame_frameOf {a : Option (UInt16 × UInt8)} {set : List Record} :
    encodeFrame (frameOf a set) = .ok d ↔
      ∃ rs, Record.encodeSet set = .ok rs ∧ d = a.elim [] ackOctets ++ rs := by
  cases a with
  | none =>
    show Record.encodeSet set = _ ↔ _
    simp [eq_comm]
  | some a =>
    show (Record.encodeSet set >>= _) = _ ↔ _
    simp only [Writing.bind_eq_ok, Writing.pure_eq_ok, @eq_comm _ d]
    rfl

/-- The records of a frame do not depend on the acknowledgement. -/
theorem records_frameOf (a : Option (UInt16 × UInt8)) (set : List Record) :
    (frameOf a set).records = set := by
  cases a <;> rfl

/-- The acknowledgement decides the packet type. -/
theorem typeCode_frameOf (a : Option (UInt16 × UInt8)) (set : List Record) :
    (frameOf a set).typeCode = typeOf a := by
  cases a <;> rfl

/-- The flag byte of a packet. -/
def flagByte (headerVersion : UInt8) (compressed routed : Bool)
    (encryption priority : UInt8) : UInt8 :=
  (headerVersion &&& 0x03) <<< 6 ||| Octet.ofBits [false, false, compressed,
    false, false, routed]
    ||| (encryption &&& 0x03) <<< 3 ||| priority &&& 0x03

/-- The parts of the flag byte make it up again, if the packet is neither
encrypted nor compressed. -/
theorem flagByte_parts : ∀ f : UInt8, f &&& 0x1C = 0 →
    flagByte (f >>> 6) false (Octet.hasBit f 5) 0 (f &&& 0x03) = f := by
  decide +kernel

/-- The parts of the flag byte are found in it again, if they have no more
bits than there is room for. -/
theorem flagByte_fields :
    ∀ v : UInt8, v ≤ 3 → ∀ p : UInt8, p ≤ 3 → ∀ routed : Bool,
    flagByte v false routed 0 p &&& 0x1C = 0
      ∧ flagByte v false routed 0 p >>> 6 = v
      ∧ flagByte v false routed 0 p &&& 0x03 = p
      ∧ Octet.hasBit (flagByte v false routed 0 p) 5 = routed := by
  decide +kernel

/-- The header length counts the checksum. -/
theorem length_encodeHeader (p : Packet) (n : UInt16) :
    (p.encodeHeader n).length + 1 = p.headerSize.toNat := by
  unfold encodeHeader headerSize
  cases p.routing with
  | none => simp [headerLength]
  | some r => simp [headerLength, length_encodeRouting]

/-- A packet is written if its frame data is and is not too long. -/
theorem encode_eq_ok {p : Packet} :
    p.encode = .ok d
      ↔ ∃ data, encodeFrame p.frame = .ok data ∧ data.length ≤ maxFrameData
      ∧ d = p.encodeHeader (UInt16.ofNat data.length)
        ++ Checksum.header (p.encodeHeader (UInt16.ofNat data.length))
          :: trailer data := by
  have hfit : maxFrameData ≤ 65535 := by decide
  unfold encode
  rw [Writing.bind_eq_ok]
  constructor
  · rintro ⟨data, hdata, h⟩
    obtain ⟨hle, h⟩ := Writing.guard_eq_ok.1 h
    obtain ⟨w, hw, h⟩ := Writing.bind_eq_ok.1 h
    obtain ⟨-, rfl⟩ := Writing.fitLength_eq_ok.1 hw
    obtain rfl := Writing.pure_eq_ok.1 h
    exact ⟨data, hdata, Nat.le_of_not_lt hle, List.append_assoc _ _ _⟩
  · rintro ⟨data, hdata, hle, rfl⟩
    refine ⟨data, hdata, Writing.guard_eq_ok.2 ⟨Nat.not_lt.2 hle, ?_⟩⟩
    refine Writing.bind_eq_ok.2
      ⟨_, Writing.fitLength_eq_ok.2 ⟨Nat.le_trans hle hfit, rfl⟩, ?_⟩
    exact Writing.pure_eq_ok.2 (List.append_assoc _ _ _)

end Packet

namespace Layout

/-- The header that is written for a packet is that of a layout with the same
fields. -/
theorem encodeHeader_eq {l : Layout} {p : Packet}
    (hkey : p.securityKeyId = l.securityKeyId) (hflags : p.flags = l.flags)
    (hencoding : p.headerEncoding = l.headerEncoding)
    (hid : p.packetId = l.packetId) (hrouting : p.routing = l.routing)
    (htype : p.frame.typeCode = Packet.typeOf l.acknowledged) :
    p.encodeHeader (UInt16.ofNat l.data.length) = l.headerOctets := by
  unfold Packet.encodeHeader Packet.headerSize
  rw [hkey, hflags, hencoding, hid, hrouting, htype]
  rfl

/-- The frame data keeps its length. -/
theorem length_data_canonical (l : Layout) :
    l.canonical.data.length = l.data.length := by
  rw [data, List.length_append]
  show _ + ((l.entries.map Entry.canonical).flatMap Entry.octets).length = _
  rw [Entry.length_flatMap_canonical, ← List.length_append]
  rfl

/-- So the header is what it was. -/
theorem headerOctets_canonical (l : Layout) :
    l.canonical.headerOctets = l.headerOctets := by
  have hheader : l.canonical.header 0 = l.header 0 := by
    unfold header
    rw [length_data_canonical]
    rfl
  rw [headerOctets, hheader]
  rfl

/-- Only the payloads differ, and the checksum behind them. -/
theorem octets_canonical (l : Layout) : l.canonical.octets
    = l.headerOctets ++ l.checksum :: Packet.trailer l.canonical.data := by
  rw [octets, checksum, headerOctets_canonical, checksum]

/-- **A packet is written back** as its layout without what is lost. So a
packet that was read is not written back exactly if one of its descriptions is
too long, and is changed only in what the three lossy codes lose. -/
theorem encode_of_packet {l : Layout} {p : Packet} (h : l.packet = .ok p)
    (w : Bytes) :
    p.encode = .ok w ↔ (∀ i ∈ l.items, ¬ i.Long) ∧ w = l.canonical.octets := by
  obtain ⟨set, hset, rfl⟩ := Writing.map_eq_ok.1 h
  have hdata : l.entries.flatMap (fun e => e.canonical.octets)
      = (l.entries.map Entry.canonical).flatMap Entry.octets :=
    (List.flatMap_map ..).symm
  have hencode : ∀ rs, Record.encodeSet set = .ok rs ↔ (∀ i ∈ l.items, ¬ i.Long)
      ∧ rs = (l.entries.map Entry.canonical).flatMap Entry.octets :=
    fun rs => by
    rw [forall_mem_items, ← hdata]
    exact Writing.flatten_mapM_of_values
      (fun e r he w => Entry.encode_of_record he w) hset
  have hflags : ((l.header l.checksum).packet l.packetId
      (Packet.frameOf l.acknowledged set)).flags = l.flags := by
    show Packet.flagByte (l.flags >>> 6) false l.routing.isSome 0
      (l.flags &&& 0x03) = l.flags
    rw [l.routing_isSome, Packet.flagByte_parts l.flags l.plain]
  have hheader := encodeHeader_eq (l := l.canonical) rfl hflags rfl rfl rfl
    (Packet.typeCode_frameOf l.acknowledged set)
  rw [Packet.encode_eq_ok]
  constructor
  · rintro ⟨a, ha, -, rfl⟩
    obtain ⟨rs, hrs, rfl⟩ := Packet.encodeFrame_frameOf.1 ha
    obtain ⟨hnot, rfl⟩ := (hencode rs).1 hrs
    have hframe : l.acknowledged.elim [] Packet.ackOctets
        ++ (l.entries.map Entry.canonical).flatMap Entry.octets
          = l.canonical.data := rfl
    refine ⟨hnot, ?_⟩
    rw [hframe, hheader, octets, checksum]
  · rintro ⟨hnot, rfl⟩
    refine ⟨l.canonical.data,
      Packet.encodeFrame_frameOf.2 ⟨_, (hencode _).2 ⟨hnot, rfl⟩, rfl⟩,
      l.canonical.size_le, ?_⟩
    rw [hheader, octets, checksum]

/-- What is written for a clean packet is a layout that is read as it. -/
theorem exists_of_encode {p : Packet} (hp : p.Clean) (h : p.encode = .ok d) :
    ∃ l : Layout, l.packet = .ok p ∧ l.octets = d := by
  obtain ⟨data, hframe, hle, rfl⟩ := Packet.encode_eq_ok.1 h
  rcases p with ⟨k, v, enc, comp, pr, e, i, o, f⟩
  obtain ⟨a, set, rfl⟩ := Packet.exists_frameOf f
  obtain ⟨hv, hpr, henc, hcomp, hrecords, hsubrecords⟩ := hp
  obtain ⟨rs, hrs, rfl⟩ := Packet.encodeFrame_frameOf.1 hframe
  simp only [Packet.records_frameOf] at hrecords hsubrecords
  obtain ⟨es, hes, rfl⟩ := Writing.exists_units_of_flatten_mapM
    (fun r hr w hw =>
      Entry.exists_of_encode (hrecords r hr) (hsubrecords r hr) hw) hrs
  subst henc hcomp
  obtain ⟨hplain, hversion, hpriority, hrouted⟩ :=
    Packet.flagByte_fields v hv pr hpr o.isSome
  let l : Layout := ⟨k, Packet.flagByte v false o.isSome 0 pr, e, i, o, a, es,
    hrouted.symm, hplain, hle⟩
  have hheader :
    (Packet.mk k v 0 false pr e i o (Packet.frameOf a set)).encodeHeader
      (UInt16.ofNat l.data.length) = l.headerOctets :=
    encodeHeader_eq rfl rfl rfl rfl rfl (Packet.typeCode_frameOf a set)
  have hframe : a.elim [] Packet.ackOctets ++ es.flatMap Entry.octets
    = l.data := rfl
  refine ⟨l, Writing.map_eq_ok.2 ⟨set, hes, ?_⟩, ?_⟩
  · show Packet.mk k (l.flags >>> 6) 0 false
      (l.flags &&& 0x03) e i o (Packet.frameOf a set) = _
    rw [hversion, hpriority]
  · rw [hframe, hheader, octets, checksum]

end Layout

/-! ## Both round trips -/

namespace Packet

/-- **What is written for a packet is read as that packet**, if no field holds
a bit that is written from another one. By the layout that both are of: what
is written for the packet are the octets of one, and no other packet has
them. -/
theorem decode_of_encode {p : Packet} (hp : p.Clean) (h : p.encode = .ok d) :
    decode d = .ok p :=
  Layout.decode_eq_ok.2 (Layout.exists_of_encode hp h)

/-- A packet that is passed on between dispatchers, read again from what is
written for it. -/
theorem decode_of_encode_routed_packet :
    decode [1, 0, 35, 16, 0, 13, 0, 7, 0, 1, 1, 0, 2, 0, 3, 130, 6, 0, 1, 0,
        0, 2, 2, 17, 3, 0, 2, 120, 0, 13, 206]
      = .ok { ofFrame 7 (.appData [.ofService 1 teledataService
          [.fixQuality ⟨none, some 120, none, none, none⟩]]) with
        routing := some ⟨1, 2, 3⟩, priority := 3 } :=
  decode_of_encode ⟨by decide, by decide, rfl, rfl, by decide, by decide⟩
    (by decide +kernel)

/-- The sub-record stands in the octets of a packet. -/
def Holds (d : Bytes) (i : Item) : Prop :=
  ∃ l : Layout, l.octets = d ∧ i ∈ l.items

/-- **Octets that are accepted are written back as they are** exactly if
none of the sub-records in them is lossy. Whatever is in them, the header is
written back with its checksum, and behind it the same records and the same
sub-records with the same lengths, each payload without what is lost of it
alone; only a description that is too long keeps the packet from being
written. -/
theorem encode_of_decode {p : Packet} (h : decode d = .ok p) :
    (p.encode = .ok d ↔ ∀ i, Holds d i → ¬ i.Lossy)
      ∧ ∃ l : Layout, l.octets = d ∧ l.packet = .ok p
        ∧ ∀ w, p.encode = .ok w ↔ (∀ i ∈ l.items, ¬ i.Long)
          ∧ w = l.headerOctets ++ l.checksum :: trailer l.canonical.data := by
  obtain ⟨l, hl, rfl⟩ := Layout.decode_eq_ok.1 h
  -- The octets have one layout, so its sub-records are those that stand in
  -- them.
  have hholds : ∀ i, Holds l.octets i ↔ i ∈ l.items := fun i => by
    constructor
    · rintro ⟨m, hm, hi⟩
      exact Layout.octets_injective hm ▸ hi
    · intro hi
      exact ⟨l, rfl, hi⟩
  refine ⟨?_, l, rfl, hl, fun w => ?_⟩
  · rw [Layout.encode_of_packet hl]
    simp only [hholds, Item.not_lossy_iff]
    constructor
    · rintro ⟨hlong, hoctets⟩ i hi
      have hcanonical := Layout.octets_injective hoctets.symm
      exact ⟨hlong i hi, Layout.canonical_eq_self_iff.1 hcanonical i hi⟩
    · intro hi
      refine ⟨fun i h => (hi i h).1, ?_⟩
      rw [Layout.canonical_eq_self_iff.2 (fun i h => (hi i h).2)]
  · rw [Layout.encode_of_packet hl, Layout.octets_canonical]

/-- The sixth flag of a fix's quality, in a packet. -/
theorem packet_with_quality_flag :
    ∃ p, decode [1, 0, 0, 11, 0, 11, 0, 7, 0, 1, 188, 4, 0, 1, 0, 0, 2, 2, 17,
      1, 0, 0x20, 233, 223] = .ok p
      ∧ p.encode ≠ .ok [1, 0, 0, 11, 0, 11, 0, 7, 0, 1, 188, 4, 0, 1, 0, 0, 2,
        2, 17, 1, 0, 0x20, 233, 223] := by
  let l : Layout := ⟨0, 0, 0, 7, none, none, [⟨1, 0, none, none, none, 2, 2,
    [⟨17, [0x20], by decide⟩], rfl, rfl, rfl, by decide⟩], rfl, rfl, by decide⟩
  have hl : l.octets = [1, 0, 0, 11, 0, 11, 0, 7, 0, 1, 188, 4, 0, 1, 0, 0, 2,
    2, 17, 1, 0, 0x20, 233, 223] := by decide +kernel
  have h := Layout.decode_eq_ok.2 ⟨l, (by decide +kernel :
    l.packet = .ok (ofFrame 7 (.appData [.ofService 1 teledataService
      [.fixQuality ⟨none, none, none, none, none⟩]]))), hl⟩
  refine ⟨_, h, fun he => ?_⟩
  exact (encode_of_decode h).1.1 he ⟨17, [0x20], by decide⟩ ⟨l, hl, .head _⟩
    (.qualityFlags (.inl rfl))

end Packet

end Telematics
