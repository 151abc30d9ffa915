import Mathlib.Data.List.GetD
import Telematics.Proofs.Wire.Announcement
import Telematics.Proofs.Wire.Layout

/-!
# The format of a packet

Which octets are a packet can be said of the octets alone, by place and by
length: where the header ends, which words announce how much, and what the
octets behind it fall into. That is what `Packet.Formed` does, from the marker
down to the sub-records, for whose payloads it refers to the reader of their
code. It knows of no order in which the octets are looked at.

Reading a packet is a dozen checks in a fixed order around three loops.
Together they accept what has the format, all of it and nothing else
(`Packet.isOk_decode_iff_formed`). Records and sub-records are pieces whose
length stands in them, so each loop has one way only to go through its data,
and a list of pieces is all that the format has to say of it.

The proof goes by way of what the octets are written from. A sub-record of the
format is the octets of an item, a record of the format those of an entry
(`Subrecord.formed_iff`, `Record.formed_iff`), and pieces of either kind are
what a list of units is written as (`Bytes.pieces_iff`). A packet has one more
thing to say of itself: that the words at its fixed places are those of its
header, which is what `Packet.Header.Stands` collects. Everything the format
asks for is then said of the header, and the checks of the decoder are, too.
-/

namespace Telematics

variable {d t u : Bytes}

namespace Bytes

/-- The word of sixteen bits at a place. -/
def wordAt (d : Bytes) (i : Nat) : Nat :=
  (d.getD i 0).toNat + 256 * (d.getD (i + 1) 0).toNat

/-- **Pieces of one kind**, one after the other and nothing else. -/
def Pieces (P : Bytes → Prop) (d : Bytes) : Prop :=
  ∃ us : List Bytes, d = us.flatten ∧ ∀ u ∈ us, P u

end Bytes

/-! ## The format -/

/-- **A sub-record on the wire**: its code, the length of its payload in two
octets, and so many octets that the code has a reading for. -/
def Subrecord.Formed (u : Bytes) : Prop :=
  u.length = 3 + u.wordAt 1
    ∧ ∃ s, Subrecord.decode (u.getD 0 0) (u.drop 3) = .ok s

namespace Record

/-- Where the sub-records of a record begin: behind seven octets, and four
more for each of the three low bits of the flag byte. -/
def dataStart (u : Bytes) : Nat :=
  7 + 4 * [0, 1, 2].countP (Octet.hasBit (u.getD 4 0))

/-- **A record on the wire**: its header, which begins with the length of
what follows it, and sub-records of that length. -/
def Formed (u : Bytes) : Prop :=
  u.length = dataStart u + u.wordAt 0
    ∧ Bytes.Pieces Subrecord.Formed (u.drop (dataStart u))

end Record

namespace Packet

/-- Where the header of a packet ends, by the route flag. -/
def headerEnd (d : Bytes) : Nat :=
  if Octet.hasBit (d.getD 2 0) 5 then 16 else 11

/-- The octets of the frame data. -/
def frameData (d : Bytes) : Bytes := (d.drop (headerEnd d)).take (d.wordAt 5)

/-- The octets at the front of the frame data that are no record: those of
the packet that a response answers and of the result. -/
def recordStart (d : Bytes) : Nat := if d.getD 9 0 = 0 then 3 else 0

/-- **A packet on the wire.** -/
structure Formed (d : Bytes) : Prop where
  marker : d.getD 0 0 = 0x01
  /-- The fourth octet says where the header ends. -/
  announced : (d.getD 3 0).toNat = headerEnd d
  header : headerEnd d ≤ d.length
  headerChecksum : d.getD (headerEnd d - 1) 0
    = Checksum.header (d.take (headerEnd d - 1))
  frameLength : d.wordAt 5 ≤ 65517
  length : d.length = if d.wordAt 5 = 0 then headerEnd d
    else headerEnd d + d.wordAt 5 + 2
  /-- Neither encrypted nor compressed. -/
  plain : d.getD 2 0 &&& 0x1C = 0
  packetType : d.getD 9 0 = 0 ∨ d.getD 9 0 = 1
  /-- The last two octets are the checksum of the frame data. -/
  frameChecksum : d.wordAt 5 ≠ 0 →
    d.drop (headerEnd d + d.wordAt 5)
      = Bytes.ofUInt16 (Checksum.frame (frameData d))
  acknowledged : recordStart d ≤ (frameData d).length
  records : Bytes.Pieces Record.Formed ((frameData d).drop (recordStart d))

end Packet

/-! ## Octets of words -/

namespace Bytes

/-- The word in two octets is written as them. -/
theorem ofUInt16_wordAt (lo hi : UInt8) (t : Bytes) :
    ofUInt16 (UInt16.ofNat (wordAt (lo :: hi :: t) 0)) = [lo, hi] := by
  have hword : wordAt (lo :: hi :: t) 0 = toNat [lo, hi] := rfl
  have hlt : toNat [lo, hi] < Nat.pow 256 2 := toNat_lt _
  rw [hword, ofUInt16, UInt16.toNat_ofNat_of_lt' hlt]
  exact ofNat_toNat [lo, hi]

/-- A word that was written is found at its place. -/
theorem wordAt_ofUInt16 (w : UInt16) (t : Bytes) :
    wordAt (ofUInt16 w ++ t) 0 = w.toNat :=
  toNat_ofUInt16 w

theorem wordAt_le (d : Bytes) (i : Nat) : d.wordAt i ≤ 65535 := by
  have hlo := (d.getD i 0).toNat_lt
  have hhi := (d.getD (i + 1) 0).toNat_lt
  unfold wordAt
  omega

theorem exists_ofUInt16 (lo hi : UInt8) : ∃ w, ofUInt16 w = [lo, hi] :=
  ⟨_, ofUInt16_wordAt lo hi []⟩

theorem exists_ofUInt32 {a : Bytes} (h : a.length = 4) :
    ∃ w, ofUInt32 w = a := by
  have hlt : toNat a < Nat.pow 256 4 := h ▸ toNat_lt a
  refine ⟨UInt32.ofNat (toNat a), ?_⟩
  rw [ofUInt32, UInt32.toNat_ofNat_of_lt' hlt, ← h]
  exact ofNat_toNat a

/-- An optional word is cut off as its flag says, if there are enough
octets. -/
theorem exists_optional (present : Bool) (h : 4 * present.toNat ≤ d.length) :
    ∃ (o : Option UInt32) (t : Bytes), o.isSome = present
      ∧ d = o.elim [] ofUInt32 ++ t
      ∧ d.length = 4 * present.toNat + t.length := by
  cases present with
  | false => exact ⟨none, d, rfl, rfl, (Nat.zero_add _).symm⟩
  | true =>
    obtain ⟨w, hw⟩ := exists_ofUInt32 (List.length_take_of_le h)
    refine ⟨some w, d.drop 4, rfl, ?_, ?_⟩
    · rw [Option.elim_some, hw]
      exact (List.take_append_drop 4 d).symm
    · rw [List.length_drop]
      exact (Nat.add_sub_cancel' h).symm

/-- What follows the front of a run is as long as the run without it. -/
theorem drop_eq_of_append {start : Nat} {a : Bytes}
    (hlen : start + t.length = d.length) (hd : d = a ++ t) :
    d.drop start = t := by
  rw [hd, List.length_append] at hlen
  rw [hd, List.drop_left' (Nat.add_right_cancel hlen).symm]

/-- **Pieces are what units are written as**, if each of them is. The
condition on a piece is turned into a value and the octets that are written
for it, so that reading one piece after the other is a statement about
lists. -/
theorem pieces_iff {P : Bytes → Prop} {υ ε α : Type} {value : υ → Except ε α}
    {write : υ → Bytes}
    (h : ∀ u, P u ↔ ∃ x, u = write x ∧ ∃ a, value x = .ok a) :
    Pieces P d ↔ ∃ (xs : List υ) (as : List α),
      xs.mapM value = .ok as ∧ d = xs.flatMap write := by
  constructor
  · rintro ⟨us, rfl, hus⟩
    induction us with
    | nil => exact ⟨[], [], rfl, rfl⟩
    | cons u us ih =>
      obtain ⟨hu, hrest⟩ := List.forall_mem_cons.1 hus
      obtain ⟨x, rfl, a, ha⟩ := (h u).1 hu
      obtain ⟨xs, as, has, hflat⟩ := ih hrest
      refine ⟨x :: xs, a :: as,
        Writing.mapM_cons_eq_ok.2 ⟨a, as, ha, has, rfl⟩, ?_⟩
      rw [List.flatten_cons, List.flatMap_cons, hflat]
  · rintro ⟨xs, as, has, rfl⟩
    refine ⟨xs.map write, List.flatMap_def ..,
      List.forall_mem_map.2 fun x hx => ?_⟩
    induction xs generalizing as with
    | nil => cases hx
    | cons y xs ih =>
      obtain ⟨a, rest, ha, hrest, -⟩ := Writing.mapM_cons_eq_ok.1 has
      rcases List.mem_cons.1 hx with rfl | hx
      · exact (h _).2 ⟨x, rfl, a, ha⟩
      · exact ih rest hrest hx

end Bytes

/-! ## Pieces and what they are read as -/

/-- **A sub-record has the format** exactly if it is the octets of an item
whose payload is read. The format says where the length is and that it is the
length of the rest; whether the payload is one of its code is left to the
reader of that code. -/
theorem Subrecord.formed_iff :
    Formed u ↔ ∃ i : Item, u = i.octets ∧ ∃ s, i.subrecord = .ok s := by
  constructor
  · rintro ⟨hlen, s, hs⟩
    rcases u with _ | ⟨c, _ | ⟨lo, _ | ⟨hi, a⟩⟩⟩
    all_goals try (simp only [List.length_nil, List.length_cons] at hlen; omega)
    have hword : Bytes.wordAt (c :: lo :: hi :: a) 1
      = Bytes.wordAt (lo :: hi :: a) 0 := rfl
    have ha : a.length = Bytes.wordAt (lo :: hi :: a) 0 := by
      simp only [List.length_cons, hword] at hlen
      omega
    have hsize : Bytes.ofUInt16 (UInt16.ofNat a.length) = [lo, hi] := by
      rw [ha, Bytes.ofUInt16_wordAt]
    refine ⟨⟨c, a, ha ▸ Bytes.wordAt_le _ _⟩, ?_, s, hs⟩
    show _ = c :: Bytes.ofUInt16 (UInt16.ofNat a.length) ++ a
    rw [hsize]
    rfl
  · rintro ⟨i, rfl, s, hs⟩
    refine ⟨?_, s, hs⟩
    have hword : Bytes.wordAt i.octets 1 = i.payload.length :=
      (Bytes.wordAt_ofUInt16 _ i.payload).trans (toNat_ofNat_length i.size_le)
    rw [hword, Item.octets, List.length_append, List.length_cons,
      Bytes.length_ofUInt16]

namespace Record

/-- The header of a record with these fields. -/
def headerOctets (size number : Bytes) (flags : UInt8)
    (objectId eventId time : Option UInt32) (services : Bytes) : Bytes :=
  size ++ number ++ [flags] ++ objectId.elim [] Bytes.ofUInt32
    ++ eventId.elim [] Bytes.ofUInt32
    ++ time.elim [] Bytes.ofUInt32 ++ services

/-- An entry is written as its header and its data. -/
theorem octets_eq (e : Entry) :
    e.octets = headerOctets (Bytes.ofUInt16 (UInt16.ofNat e.data.length))
        (Bytes.ofUInt16 e.recordNumber) e.flags e.objectId e.eventId e.time
        [e.sourceService, e.recipientService]
      ++ e.data := rfl

/-- Where the sub-records begin, flag by flag. -/
theorem dataStart_eq {f : UInt8} (h : u.getD 4 0 = f) : dataStart u
    = 7 + 4 * ((Octet.hasBit f 0).toNat + (Octet.hasBit f 1).toNat
      + (Octet.hasBit f 2).toNat) := by
  have hcount : ∀ bit : Nat → Bool,
      [0, 1, 2].countP bit = (bit 0).toNat + (bit 1).toNat + (bit 2).toNat :=
        fun bit => by
    simp only [List.countP_cons, List.countP_nil]
    cases bit 0 <;> cases bit 1 <;> cases bit 2 <;> rfl
  rw [dataStart, h, hcount]

/-- The sub-records of an entry begin where its flags say. -/
theorem dataStart_octets (e : Entry) :
    dataStart e.octets + e.data.length = e.octets.length := by
  rw [dataStart_eq (f := e.flags) rfl, ← e.objectId_isSome, ← e.eventId_isSome,
    ← e.time_isSome, octets_eq, headerOctets]
  simp only [List.length_append, Bytes.length_ofUInt16,
    Writing.length_elim Bytes.length_ofUInt32, List.length_cons,
    List.length_nil]
  omega

/-- **The header of a record** is cut off, field by field. -/
theorem exists_header (h : dataStart u ≤ u.length) :
    ∃ (lo hi : UInt8) (n : UInt16) (f : UInt8) (o v tm : Option UInt32)
      (ss rs : UInt8) (data : Bytes),
      o.isSome = Octet.hasBit f 0 ∧ v.isSome = Octet.hasBit f 1
        ∧ tm.isSome = Octet.hasBit f 2 ∧ dataStart u + data.length = u.length
        ∧ u = headerOctets [lo, hi] (Bytes.ofUInt16 n) f o v tm [ss, rs]
          ++ data := by
  rcases u with _ | ⟨lo, _ | ⟨hi, _ | ⟨n₀, _ | ⟨n₁, _ | ⟨f, s⟩⟩⟩⟩⟩
  all_goals try (
    simp only [dataStart, List.length_nil, List.length_cons] at h
    omega)
  obtain ⟨n, hn⟩ := Bytes.exists_ofUInt16 n₀ n₁
  have hstart := dataStart_eq (u := lo :: hi :: n₀ :: n₁ :: f :: s) (f := f) rfl
  rw [hstart] at h ⊢
  simp only [List.length_cons] at h
  -- Each optional field takes four octets of what is left, if its flag is set.
  obtain ⟨o, s, ho, rfl, hs⟩ :=
    Bytes.exists_optional (d := s) (Octet.hasBit f 0) (by omega)
  obtain ⟨v, s, hv, rfl, hs'⟩ :=
    Bytes.exists_optional (d := s) (Octet.hasBit f 1) (by omega)
  obtain ⟨tm, s, htm, rfl, hs''⟩ :=
    Bytes.exists_optional (d := s) (Octet.hasBit f 2) (by omega)
  rcases s with _ | ⟨ss, _ | ⟨rs, data⟩⟩
  all_goals try (simp only [List.length_nil, List.length_cons] at hs''; omega)
  refine ⟨lo, hi, n, f, o, v, tm, ss, rs, data, ho, hv, htm, ?_, ?_⟩
  · simp only [List.length_cons] at hs'' ⊢
    omega
  · rw [headerOctets, hn]
    simp only [List.append_assoc, List.cons_append, List.nil_append]

/-- **A record has the format** exactly if it is the octets of an entry all of
whose payloads are read. Which of the optional words are there is decided by
the flags alone, so the octets can be taken apart before anything is known of
the sub-records. -/
theorem formed_iff :
    Formed u ↔ ∃ e : Entry, u = e.octets ∧ ∃ r, e.record = .ok r := by
  have hdata : ∀ a : Bytes, Bytes.Pieces Subrecord.Formed a
      ↔ ∃ (is : List Item) (set : List Subrecord), is.mapM Item.subrecord
        = .ok set
        ∧ a = is.flatMap Item.octets :=
    fun a => Bytes.pieces_iff fun _ => Subrecord.formed_iff
  constructor
  · rintro ⟨hlen, hpieces⟩
    obtain ⟨lo, hi, n, f, o, v, tm, ss, rs, data, ho, hv, htm, hstart, hu⟩ :=
      exists_header (u := u) (by omega)
    have hword : u.wordAt 0 = Bytes.wordAt [lo, hi] 0 := by rw [hu]; rfl
    have hsize : data.length = Bytes.wordAt [lo, hi] 0 := by omega
    rw [Bytes.drop_eq_of_append hstart hu] at hpieces
    obtain ⟨is, set, hset, rfl⟩ := (hdata data).1 hpieces
    rw [← Bytes.ofUInt16_wordAt lo hi [], ← hsize] at hu
    exact ⟨⟨n, f, o, v, tm, ss, rs, is, ho, hv, htm,
      hsize ▸ Bytes.wordAt_le _ _⟩, hu, _,
      Writing.bind_eq_ok.2 ⟨set, hset, rfl⟩⟩
  · rintro ⟨e, rfl, r, hr⟩
    obtain ⟨set, hset, -⟩ := Writing.bind_eq_ok.1 hr
    have hword : Bytes.wordAt e.octets 0 = e.data.length :=
      (Bytes.wordAt_ofUInt16 _ _).trans (toNat_ofNat_length e.size_le)
    have hstart := dataStart_octets e
    refine ⟨by rw [hword, hstart], ?_⟩
    rw [Bytes.drop_eq_of_append hstart (octets_eq e)]
    exact (hdata _).2 ⟨e.items, set, hset, rfl⟩

end Record

/-! ## Packets -/

namespace Packet

variable {h : Header} {n : UInt16} {p : Packet}

/-- **What stands where** in octets that begin with a header and its
checksum. -/
structure Header.Stands (h : Header) (n : UInt16) (t d : Bytes) : Prop where
  marker : d.getD 0 0 = 0x01
  flags : d.getD 2 0 = h.flags
  announced : d.getD 3 0 = headerLength h.routing.isSome
  frameLength : d.wordAt 5 = h.frameLength.toNat
  packetType : d.getD 9 0 = h.packetType
  size : headerEnd d = (headerLength h.routing.isSome).toNat
  octets : d.take (headerEnd d - 1) = h.octets n
  checksum : d.getD (headerEnd d - 1) 0 = h.checksum
  length : d.length = headerEnd d + t.length
  rest : d.drop (headerEnd d) = t

theorem Header.stands (hrouting : h.routing.isSome = Octet.hasBit h.flags 5)
    (hd : d = h.octets n ++ h.checksum :: t) : h.Stands n t d := by
  subst hd
  have hlen := h.length_octets n
  have hend : headerEnd (h.octets n ++ h.checksum :: t)
      = (headerLength h.routing.isSome).toNat := by
    show (if Octet.hasBit h.flags 5 then 16 else 11) = _
    rw [← hrouting]
    cases h.routing <;> rfl
  have hpred : headerEnd (h.octets n ++ h.checksum :: t) - 1
    = (h.octets n).length := by omega
  refine ⟨rfl, rfl, rfl, Bytes.toNat_ofUInt16 _, rfl, hend, ?_, ?_, ?_, ?_⟩
  · rw [hpred, List.take_left]
  · rw [hpred, List.getD_append_right _ _ _ _ (Nat.le_refl _), Nat.sub_self]
    rfl
  · rw [hend, ← hlen, List.length_append, List.length_cons]
    omega
  · rw [hend, ← hlen, ← List.drop_drop, List.drop_left]
    rfl

/-- The routing fields are cut off as their flag says, with the octet behind
them. -/
theorem exists_routing (routed : Bool)
    (h : (headerLength routed).toNat ≤ d.length + 10) :
    ∃ (o : Option Routing) (c : UInt8) (t : Bytes),
      o.isSome = routed ∧ d = o.elim [] encodeRouting ++ c :: t := by
  cases routed with
  | false =>
    rcases d with _ | ⟨c, t⟩
    · exact absurd h (by decide)
    · exact ⟨none, c, t, rfl, rfl⟩
  | true =>
    rcases d with _ | ⟨p₀, _ | ⟨p₁, _ | ⟨a₀, _ | ⟨a₁, _ | ⟨ttl, _ | ⟨c, t⟩⟩⟩⟩⟩⟩
    all_goals try (simp [headerLength] at h; done)
    obtain ⟨peer, hp⟩ := Bytes.exists_ofUInt16 p₀ p₁
    obtain ⟨recipient, ha⟩ := Bytes.exists_ofUInt16 a₀ a₁
    refine ⟨some ⟨peer, recipient, ttl⟩, c, t, rfl, ?_⟩
    rw [Option.elim_some, encodeRouting, hp, ha]
    rfl

/-- What follows a sound header is as long as it says. -/
theorem Header.Stands.length_rest (hs : h.Stands n t d) (hsound : h.Sound d) :
    t.length = if h.frameLength.toNat = 0 then 0
      else h.frameLength.toNat + frameChecksumSize := by
  have htotal := hsound.total
  rw [← hs.size, hs.length] at htotal
  by_cases h0 : h.frameLength.toNat = 0
  · rw [if_pos h0] at htotal ⊢
    omega
  · rw [if_neg h0] at htotal ⊢
    omega

/-- **The header of a packet** is cut off, field by field. -/
theorem exists_stands (hm : d.getD 0 0 = 0x01)
    (ha : (d.getD 3 0).toNat = headerEnd d) (hlen : headerEnd d ≤ d.length) :
    ∃ (h : Header) (n : UInt16) (t : Bytes),
      h.routing.isSome = Octet.hasBit h.flags 5
        ∧ d = h.octets n ++ h.checksum :: t := by
  have hge : 11 ≤ headerEnd d := by
    unfold headerEnd
    split <;> decide
  obtain ⟨b₀, b₁, b₂, b₃, b₄, b₅, b₆, b₇, b₈, b₉, s, rfl⟩ :=
    Telematics.exists_header (d := d)
      (Nat.le_trans (by decide) (Nat.le_trans hge hlen))
  obtain rfl : b₀ = protocolMarker := hm
  have hend : headerEnd
    (protocolMarker :: b₁ :: b₂ :: b₃ :: b₄ :: b₅ :: b₆ :: b₇ :: b₈ :: b₉ :: s)
      = (headerLength (Octet.hasBit b₂ 5)).toNat := by
    show (if Octet.hasBit b₂ 5 then 16 else 11) = _
    cases Octet.hasBit b₂ 5 <;> rfl
  rw [hend] at ha hlen
  obtain rfl : b₃ = headerLength (Octet.hasBit b₂ 5) := UInt8.toNat_inj.1 ha
  simp only [List.length_cons] at hlen
  obtain ⟨fdl, hfdl⟩ := Bytes.exists_ofUInt16 b₅ b₆
  obtain ⟨n, hn⟩ := Bytes.exists_ofUInt16 b₇ b₈
  obtain ⟨o, c, t, ho, rfl⟩ := exists_routing (Octet.hasBit b₂ 5) hlen
  refine ⟨⟨b₁, b₂, b₄, fdl, b₉, o, c⟩, n, t, ho, ?_⟩
  rw [Header.octets, hfdl, hn, ho]
  simp only [List.cons_append, List.nil_append]

/-- **The frame data ends in its checksum**, if there is any. Without frame
data there is no checksum either, and nothing is asked. -/
theorem eq_trailer_iff {k : Nat} {data : Bytes}
    (ht : t.length = if k = 0 then 0 else k + 2) :
    data.length = k ∧ t = trailer data ↔
      data = t.take k
        ∧ (k ≠ 0 → t.drop k = Bytes.ofUInt16 (Checksum.frame data)) := by
  by_cases hk : k = 0
  · subst hk
    obtain rfl := List.eq_nil_of_length_eq_zero (ht.trans (if_pos rfl))
    constructor
    · rintro ⟨hlen, -⟩
      exact ⟨List.eq_nil_of_length_eq_zero hlen, fun hne => absurd rfl hne⟩
    · rintro ⟨rfl, -⟩
      exact ⟨rfl, rfl⟩
  · rw [if_neg hk] at ht
    constructor
    · rintro ⟨rfl, rfl⟩
      rw [trailer_of_ne_nil (List.length_pos_iff.1 (Nat.pos_of_ne_zero hk)),
        List.take_left, List.drop_left]
      exact ⟨rfl, fun _ => rfl⟩
    · rintro ⟨rfl, hsum⟩
      have hlen : (t.take k).length = k := List.length_take_of_le (by omega)
      have hne : t.take k ≠ [] := List.length_pos_iff.1 (by omega)
      rw [trailer_of_ne_nil hne, ← hsum hk, List.take_append_drop]
      exact ⟨hlen, rfl⟩

/-- **Frame data is read** if it falls into records, behind three octets if
the packet is a response. -/
theorem isOk_decodeFrame_iff {ty : UInt8} (hty : ty = 0 ∨ ty = 1) :
    (∃ frame, decodeFrame ty d = .ok frame)
      ↔ (if ty = 0 then 3 else 0) ≤ d.length
      ∧ Bytes.Pieces Record.Formed (d.drop (if ty = 0 then 3 else 0)) := by
  have hrecords : ∀ a : Bytes, Bytes.Pieces Record.Formed a
      ↔ ∃ (es : List Entry) (set : List Record), es.mapM Entry.record = .ok set
        ∧ a = es.flatMap Entry.octets :=
    fun a => Bytes.pieces_iff fun _ => Record.formed_iff
  simp only [decodeFrame_eq_ok hty, hrecords]
  constructor
  · rintro ⟨frame, a, es, set, rfl, rfl, hset, rfl⟩
    cases a with
    | none => exact ⟨Nat.zero_le _, es, set, hset, rfl⟩
    | some a => exact ⟨Nat.le_add_left .., es, set, hset, rfl⟩
  · rintro ⟨hlen, es, set, hset, hd⟩
    rcases hty with rfl | rfl
    · rcases d with _ | ⟨lo, _ | ⟨hi, _ | ⟨result, d⟩⟩⟩
      all_goals try (simp at hlen; done)
      obtain ⟨w, hw⟩ := Bytes.exists_ofUInt16 lo hi
      refine ⟨_, some (w, result), es, set, rfl, ?_, hset, rfl⟩
      rw [Option.elim_some, ackOctets, hw, ← hd]
      rfl
    · exact ⟨_, none, es, set, rfl, hd, hset, rfl⟩

/-- **The format, behind a header**: what is asked of the header itself, of
the checksum of the frame data, and of what the frame data falls into. -/
theorem Header.Stands.formed_iff (hs : h.Stands n t d) : Formed d ↔ h.Sound d
    ∧ (h.frameLength.toNat ≠ 0 → t.drop h.frameLength.toNat
      = Bytes.ofUInt16 (Checksum.frame (t.take h.frameLength.toNat)))
    ∧ (if h.packetType = 0 then 3 else 0) ≤ (t.take h.frameLength.toNat).length
    ∧ Bytes.Pieces Record.Formed
      ((t.take h.frameLength.toNat).drop
        (if h.packetType = 0 then 3 else 0)) := by
  have hdata : frameData d = t.take h.frameLength.toNat := by
    rw [frameData, hs.rest, hs.frameLength]
  have hend : d.drop (headerEnd d + d.wordAt 5)
      = t.drop h.frameLength.toNat := by
    rw [← List.drop_drop, hs.rest, hs.frameLength]
  have hstart : recordStart d = if h.packetType = 0 then 3 else 0 := by
    rw [recordStart, hs.packetType]
  rw [← hdata, ← hend, ← hstart, ← hs.frameLength]
  constructor
  · intro hf
    refine ⟨⟨?_, ?_, ?_, ?_, ?_⟩, hf.frameChecksum, hf.acknowledged, hf.records⟩
    · rw [← hs.size, ← hs.checksum]
      exact hf.headerChecksum
    · rw [← hs.frameLength]
      exact hf.frameLength
    · rw [← hs.size, ← hs.frameLength]
      exact hf.length
    · rw [← hs.flags]
      exact hf.plain
    · rw [← hs.packetType]
      exact hf.packetType
  · rintro ⟨hsound, hsum, hack, hrecords⟩
    refine ⟨hs.marker, ?_, ?_, ?_, ?_, ?_, ?_, ?_, hsum, hack, hrecords⟩
    · rw [hs.announced, hs.size]
    · rw [hs.length]
      exact Nat.le_add_right _ _
    · rw [hs.checksum, hs.size]
      exact hsound.checksum
    · rw [hs.frameLength]
      exact hsound.frameLength
    · rw [hs.size, hs.frameLength]
      exact hsound.total
    · rw [hs.flags]
      exact hsound.plain
    · rw [hs.packetType]
      exact hsound.packetType

/-- **Octets with a header** are a packet exactly if they have the format. No
other part of the header is assumed to be sound: what is wrong with it is
wrong on both sides. -/
theorem isOk_decode_iff_of_stands
    (hrouting : h.routing.isSome = Octet.hasBit h.flags 5)
    (hd : d = h.octets n ++ h.checksum :: t) :
    (∃ p, decode d = .ok p) ↔ Formed d := by
  have hs := Header.stands hrouting hd
  obtain ⟨s, hmarker⟩ : ∃ s, d = protocolMarker :: s := ⟨_, hd⟩
  have hread : readHeader d = .ok (h, t) := by
    rw [hmarker, readHeader_eq_ok]
    exact ⟨hrouting, n, hmarker ▸ hd⟩
  have hid : announcedId? d = some n := hd ▸ announcedId?_octets h n _
  rw [hs.formed_iff]
  simp only [decode_eq_ok_iff_checked, decodeChecked_eq_ok]
  constructor
  · rintro ⟨p, -, n', -, -, h', r, data, frame, hread', hsound, hdata,
      hframe, -⟩
    obtain ⟨rfl, rfl⟩ := Prod.mk.inj (Except.ok.inj (hread.symm.trans hread'))
    have ht := hs.length_rest hsound
    obtain ⟨rfl, hsum⟩ :=
      (eq_trailer_iff ht).1 ((readFrameData_eq_ok ht).1 hdata)
    exact ⟨hsound, hsum, (isOk_decodeFrame_iff hsound.packetType).1
      ⟨frame, hframe⟩⟩
  · rintro ⟨hsound, hsum, hrecords⟩
    have ht := hs.length_rest hsound
    have hdata := (readFrameData_eq_ok ht).2 ((eq_trailer_iff ht).2 ⟨rfl, hsum⟩)
    obtain ⟨frame, hframe⟩ :=
      (isOk_decodeFrame_iff hsound.packetType).2 hrecords
    exact ⟨_, s, n, hmarker, hid, h, t, _, frame, hread, hsound, hdata,
      hframe, rfl⟩

/-- **A packet is accepted exactly if it has the format.** The format is a
list of conditions on octets at their places; that there is no other, and that
none of them is missing, is what the equivalence says. -/
theorem isOk_decode_iff_formed : (∃ p, decode d = .ok p) ↔ Formed d := by
  constructor
  · rintro ⟨p, hp⟩
    obtain ⟨s, n, hd, -, hchecked⟩ := decode_eq_ok_iff_checked.1 hp
    obtain ⟨h, t, -, -, hread, -⟩ := decodeChecked_eq_ok.1 hchecked
    rw [hd, readHeader_eq_ok, ← hd] at hread
    obtain ⟨hrouting, i, hoctets⟩ := hread
    exact (isOk_decode_iff_of_stands hrouting hoctets).1 ⟨p, hp⟩
  · intro hf
    obtain ⟨h, n, t, hrouting, hd⟩ :=
      exists_stands hf.marker hf.announced hf.header
    exact (isOk_decode_iff_of_stands hrouting hd).2 hf

end Packet

end Telematics
