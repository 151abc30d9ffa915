import Telematics.Wire.Record
import Telematics.Proofs.Wire.Payload

/-!
# How records stand on the wire

An `Item` is a sub-record before its payload is read: a code and octets. An
`Entry` is a record before that: the fields of its header and its items.
Lengths are not part of either, since they follow from the rest, and what can
not stand on the wire, such as a payload whose length needs more than sixteen
bits, is not an item.

Reading takes the octets of an item or of an entry off the front, and reads
the payloads; no two of them begin alike (`Item.prefixFree_octets`,
`Entry.prefixFree_octets`), so what is taken is determined. Writing back what
was read gives the octets of the item or the entry without what its payloads
lose (`Item.encode_of_subrecord`, `Entry.encode_of_record`).

So between octets and values there is a third thing, which is determined by
the octets and determines the value. It is what statements about the octets of
a record are made of: which sub-records stand in them, which of these lose
something when they are written back, and what is written then. A value could
not tell, since two payloads that differ in what is lost are read alike.
-/

namespace Telematics

variable {d t : Bytes}

/-- A length of sixteen bits is written and read again. -/
theorem toNat_ofNat_length {n : Nat} (h : n ≤ 65535) :
    (UInt16.ofNat n).toNat = n :=
  UInt16.toNat_ofNat_of_lt' (Nat.lt_succ_of_le h)

/-- Two lengths that are written alike are the same. -/
theorem length_injective {m n : Nat} (hm : m ≤ 65535) (hn : n ≤ 65535)
    (h : Bytes.ofUInt16 (UInt16.ofNat m) = Bytes.ofUInt16 (UInt16.ofNat n)) :
    m = n := by
  rw [← toNat_ofNat_length hm, ← toNat_ofNat_length hn,
    Bytes.ofUInt16_injective h]

/-- So many octets are split off the front, whatever they are. -/
theorem Subrecord.readData_eq_ok {unit : String} {size : Nat} {a : Bytes} :
    Subrecord.readData unit size d = .ok (a, t)
      ↔ a.length = size ∧ d = a ++ t := by
  rw [← Bytes.split?_eq_some_iff, Subrecord.readData]
  split <;> simp_all

/-- An optional word is cut off as its flag says. -/
theorem elim_append_inj {write : α → Bytes} {n : Nat}
    (hlen : ∀ a, (write a).length = n) (hinj : ∀ a b, write a = write b → a = b)
    {o o' : Option α} (hsome : o.isSome = o'.isSome) {s s' : Bytes}
    (h : o.elim [] write ++ s = o'.elim [] write ++ s') : o = o' ∧ s = s' := by
  cases o with
  | none =>
    cases o' with
    | none => exact ⟨rfl, h⟩
    | some b => cases hsome
  | some a =>
    cases o' with
    | none => cases hsome
    | some b =>
      obtain ⟨hab, hs⟩ := List.append_inj h ((hlen a).trans (hlen b).symm)
      exact ⟨congrArg some (hinj a b hab), hs⟩

/-! ## Sub-records -/

/-- A code and a payload that fits behind it. -/
structure Item where
  code : UInt8
  payload : Bytes
  size_le : payload.length ≤ 65535

namespace Item

/-- The sub-record that the payload is read as. -/
def subrecord (i : Item) : Except WireError Subrecord :=
  Subrecord.decode i.code i.payload

/-- The octets: the code, the length of the payload and the payload. -/
def octets (i : Item) : Bytes :=
  i.code :: Bytes.ofUInt16 (UInt16.ofNat i.payload.length) ++ i.payload

/-- An item takes three octets at least. -/
theorem octets_ne_nil (i : Item) : i.octets ≠ [] := nofun

/-- **No two items begin alike**: the code and the length are taken first, and
the length says where the payload ends. So a row of items can be taken apart
in one way only. -/
theorem prefixFree_octets : Writing.PrefixFree octets := by
  rintro ⟨c, a, ha⟩ ⟨c', a', ha'⟩ s t h
  simp only [octets, List.cons_append, List.append_assoc, List.cons.injEq] at h
  obtain ⟨rfl, h⟩ := h
  obtain ⟨hsize, h⟩ := List.append_inj h (by simp)
  obtain ⟨rfl, rfl⟩ := List.append_inj h (length_injective ha ha' hsize)
  exact ⟨rfl, rfl⟩

/-- **A sub-record is read** off the front of the octets of an item. What is
left behind it is not looked at. -/
theorem read_eq_ok {s : Subrecord} :
    Subrecord.read d = .ok (s, t) ↔ ∃ i : Item,
      i.subrecord = .ok s ∧ d = i.octets ++ t := by
  unfold Subrecord.read
  simp only [Reader.bind_eq_ok, Reader.u8_eq_ok, Reader.u16_eq_ok,
    Subrecord.readData_eq_ok, Reader.liftM_eq_ok]
  constructor
  · rintro ⟨c, _, rfl, w, _, rfl, a, _, ⟨ha, rfl⟩, hs, rfl⟩
    have hsize : UInt16.ofNat a.length = w := by rw [ha, UInt16.ofNat_toNat]
    refine ⟨⟨c, a, ha ▸ Nat.le_of_lt_succ w.toNat_lt⟩, hs, ?_⟩
    simp only [octets, hsize, List.cons_append, List.append_assoc]
  · rintro ⟨⟨c, a, ha⟩, hs, rfl⟩
    refine ⟨c, _, rfl, UInt16.ofNat a.length, _, List.append_assoc _ _ _, a, t,
      ⟨(toNat_ofNat_length ha).symm, rfl⟩, hs, rfl⟩

/-- What is left of the payload when it is written back. -/
def canonical (i : Item) : Item where
  code := i.code
  payload := Subrecord.canonical i.code i.payload
  size_le := Nat.le_trans (Nat.le_of_eq Subrecord.length_canonical) i.size_le

/-- The description of a dispatching centre in it is too long to be written. -/
def Long (i : Item) : Prop := Subrecord.LongDescription i.code i.payload

/-- The payload is not written back as it is. -/
def Lossy (i : Item) : Prop := Subrecord.Lossy i.code i.payload

/-- **A sub-record is written back** as the item without what is lost. -/
theorem encode_of_subrecord {i : Item} {s : Subrecord} (h : i.subrecord = .ok s)
    (w : Bytes) :
    s.encode = .ok w ↔ ¬ i.Long ∧ w = i.canonical.octets := by
  obtain ⟨hcode, -, hpayload⟩ := Subrecord.of_decode_eq_ok h
  unfold Subrecord.encode Subrecord.rewritten at *
  rw [hpayload, hcode]
  by_cases hl : Subrecord.LongDescription i.code i.payload
  · rw [if_pos hl]
    constructor
    · intro h
      cases h
    · rintro ⟨hn, -⟩
      exact absurd hl hn
  · rw [if_neg hl]
    simp only [Writing.bind_eq_ok, Except.ok.injEq, Writing.fitLength_eq_ok,
      Writing.pure_eq_ok]
    constructor
    · rintro ⟨_, rfl, _, ⟨-, rfl⟩, rfl⟩
      exact ⟨hl, rfl⟩
    · rintro ⟨-, rfl⟩
      exact ⟨_, rfl, _, ⟨i.canonical.size_le, rfl⟩, rfl⟩

/-- What is written for a clean sub-record is an item that is read as it. -/
theorem exists_of_encode {s : Subrecord} (hs : s.Clean) {w : Bytes}
    (h : s.encode = .ok w) :
    ∃ i : Item, i.subrecord = .ok s ∧ i.octets = w := by
  unfold Subrecord.encode at h
  simp only [Writing.bind_eq_ok, Writing.fitLength_eq_ok,
    Writing.pure_eq_ok] at h
  obtain ⟨a, ha, _, ⟨hle, rfl⟩, rfl⟩ := h
  exact ⟨⟨s.code, a, hle⟩, Subrecord.decode_of_encodePayload hs ha, rfl⟩

/-- What is lost is cleared and not cut off. -/
theorem length_octets_canonical (i : Item) :
    i.canonical.octets.length = i.octets.length := by
  simp only [octets, canonical, List.cons_append, List.length_cons,
    List.length_append, Subrecord.length_canonical, Bytes.length_ofUInt16]

/-- So a row of items keeps its length. -/
theorem length_flatMap_canonical (is : List Item) :
    ((is.map canonical).flatMap octets).length = (is.flatMap octets).length :=
  Writing.length_flatMap_map length_octets_canonical is

/-- Nothing is lost exactly if the item is its own canonical form and can be
written. -/
theorem not_lossy_iff {i : Item} : ¬ i.Lossy ↔ ¬ i.Long ∧ i.canonical = i := by
  have hcanon : i.canonical = i
      ↔ Subrecord.canonical i.code i.payload = i.payload := by
    rcases i with ⟨c, a, ha⟩
    simp [canonical]
  constructor
  · intro h
    have hlong : ¬ i.Long := fun hl => h (Subrecord.lossy_of_longDescription hl)
    exact ⟨hlong, hcanon.2 ((Subrecord.canonical_eq_self_iff hlong).2 h)⟩
  · rintro ⟨hlong, h⟩
    exact (Subrecord.canonical_eq_self_iff hlong).1 (hcanon.1 h)

end Item

/-! ## Records -/

/-- The header of a record, and its sub-records. -/
structure Entry where
  recordNumber : UInt16
  flags : UInt8
  objectId : Option UInt32
  eventId : Option UInt32
  time : Option UInt32
  sourceService : UInt8
  recipientService : UInt8
  items : List Item
  objectId_isSome : objectId.isSome = Octet.hasBit flags 0
  eventId_isSome : eventId.isSome = Octet.hasBit flags 1
  time_isSome : time.isSome = Octet.hasBit flags 2
  size_le : (items.flatMap Item.octets).length ≤ 65535

namespace Entry

/-- The octets of the sub-records. -/
def data (e : Entry) : Bytes := e.items.flatMap Item.octets

/-- The octets: the length of the sub-records, the header and the
sub-records. -/
def octets (e : Entry) : Bytes :=
  Bytes.ofUInt16 (UInt16.ofNat e.data.length) ++ Bytes.ofUInt16 e.recordNumber
    ++ [e.flags]
    ++ e.objectId.elim [] Bytes.ofUInt32 ++ e.eventId.elim [] Bytes.ofUInt32
    ++ e.time.elim [] Bytes.ofUInt32 ++ [e.sourceService, e.recipientService]
    ++ e.data

/-- The record that the octets are read as. -/
def record (e : Entry) : Except WireError Record := do
  let subrecords ← e.items.mapM Item.subrecord
  pure
    { recordNumber := e.recordNumber
      sourceOnDevice := Octet.hasBit e.flags 7
      recipientOnDevice := Octet.hasBit e.flags 6
      group := Octet.hasBit e.flags 5
      priority := e.flags >>> 3 &&& 0x03
      objectId := e.objectId
      eventId := e.eventId
      time := e.time
      sourceService := e.sourceService
      recipientService := e.recipientService
      subrecords }

/-- An entry is not empty. -/
theorem octets_ne_nil (e : Entry) : e.octets ≠ [] := by
  rcases e with ⟨⟩
  exact nofun

/-- A record takes seven octets at least. -/
theorem length_octets_ge (e : Entry) : 7 ≤ e.octets.length := by
  simp only [octets, List.length_append, Bytes.length_ofUInt16,
    List.length_cons]
  omega

/-- **No two entries begin alike.** The flags say which optional words follow,
and the length in front says where the sub-records end. -/
theorem prefixFree_octets : Writing.PrefixFree octets := by
  rintro ⟨rn, f, o, v, tm, ss, rs, is, ho, hv, htm, hle⟩
    ⟨rn', f', o', v', tm', ss', rs', is', ho', hv', htm', hle'⟩ s t h
  simp only [octets, data, List.append_assoc, List.cons_append,
    List.nil_append] at h
  obtain ⟨hsize, h1⟩ := List.append_inj h (by simp)
  obtain ⟨hrn, h2⟩ := List.append_inj h1 (by simp)
  obtain ⟨rfl, h3⟩ := List.cons.inj h2
  have hword : ∀ a b : UInt32, Bytes.ofUInt32 a = Bytes.ofUInt32 b → a = b :=
    fun _ _ =>
    Bytes.ofUInt32_injective
  -- The flags are the same, so the same optional fields are there.
  obtain ⟨rfl, h4⟩ :=
    elim_append_inj Bytes.length_ofUInt32 hword (ho.trans ho'.symm) h3
  obtain ⟨rfl, h5⟩ :=
    elim_append_inj Bytes.length_ofUInt32 hword (hv.trans hv'.symm) h4
  obtain ⟨rfl, h6⟩ :=
    elim_append_inj Bytes.length_ofUInt32 hword (htm.trans htm'.symm) h5
  obtain ⟨rfl, h7⟩ := List.cons.inj h6
  obtain ⟨rfl, h8⟩ := List.cons.inj h7
  -- The length in front says where the sub-records end.
  obtain ⟨hitems, rfl⟩ := List.append_inj h8 (length_injective hle hle' hsize)
  obtain rfl := Bytes.ofUInt16_injective hrn
  obtain rfl :=
    Item.prefixFree_octets.flatMap_injective Item.octets_ne_nil hitems
  exact ⟨rfl, rfl⟩

/-- **A record is read** off the front of the octets of an entry. The entry
holds what was read and also what the record does not keep, which is how the
octets can be told from the record at all. -/
theorem read_eq_ok {r : Record} :
    Record.read d = .ok (r, t) ↔ ∃ e : Entry,
      e.record = .ok r ∧ d = e.octets ++ t := by
  have hset : ∀ a set, Subrecord.decodeSet a = .ok set ↔
      ∃ is : List Item, is.mapM Item.subrecord = .ok set
        ∧ a = is.flatMap Item.octets :=
    fun _ _ => Reader.many_eq_ok (fun _ _ _ => Item.read_eq_ok)
  unfold Record.read record
  simp only [Reader.bind_eq_ok, Reader.u16_eq_ok, Reader.u8_eq_ok,
    Reader.takes_u32.whenFlag, Subrecord.readData_eq_ok, Reader.liftM_eq_ok,
    hset, Reader.pure_eq_ok, Writing.bind_eq_ok, Writing.pure_eq_ok]
  constructor
  · rintro ⟨w, _, rfl, rn, _, rfl, f, _, rfl, o, _, ⟨ho, -, rfl⟩, v, _,
      ⟨hv, -, rfl⟩, tm, _, ⟨htm, -, rfl⟩, ss, _, rfl, rs, _, rfl, a, _,
      ⟨ha, rfl⟩, set, _, ⟨⟨is, his, rfl⟩, rfl⟩, rfl, rfl⟩
    have hsize : UInt16.ofNat (is.flatMap Item.octets).length = w := by
      rw [ha, UInt16.ofNat_toNat]
    have hle : (is.flatMap Item.octets).length ≤ 65535 :=
      ha ▸ Nat.le_of_lt_succ w.toNat_lt
    refine ⟨⟨rn, f, o, v, tm, ss, rs, is, ho, hv, htm, hle⟩,
      ⟨set, his, rfl⟩, ?_⟩
    simp only [octets, data, hsize, List.append_assoc, List.cons_append,
      List.nil_append]
  · rintro ⟨⟨rn, f, o, v, tm, ss, rs, is, ho, hv, htm, hle⟩,
      ⟨set, his, rfl⟩, rfl⟩
    refine ⟨UInt16.ofNat (is.flatMap Item.octets).length, _, ?_, rn, _, rfl,
      f, _, rfl, o, _, ⟨ho, by simp, rfl⟩, v, _, ⟨hv, by simp, rfl⟩, tm, _,
      ⟨htm, by simp, rfl⟩, ss, _, rfl, rs, _, rfl, is.flatMap Item.octets, t,
      ⟨(toNat_ofNat_length hle).symm, rfl⟩, set, t, ⟨⟨is, his, rfl⟩, rfl⟩, rfl,
      rfl⟩
    simp only [octets, data, List.append_assoc, List.cons_append,
      List.nil_append]

/-- The flag byte of a record. -/
def flagByte (objectId eventId time group recipient source : Bool)
    (priority : UInt8) : UInt8 :=
  Octet.ofBits [objectId, eventId, time, false, false, group, recipient, source]
    ||| (priority &&& 0x03) <<< 3

/-- The parts of the flag byte make it up again. -/
theorem flagByte_parts : ∀ b : UInt8,
    flagByte (Octet.hasBit b 0) (Octet.hasBit b 1) (Octet.hasBit b 2)
      (Octet.hasBit b 5)
      (Octet.hasBit b 6) (Octet.hasBit b 7) (b >>> 3 &&& 0x03) = b := by
  decide +kernel

/-- The parts of the flag byte are found in it again, if the priority has two
bits. -/
theorem flagByte_fields : ∀ p : UInt8, p ≤ 3 → ∀ o v t g r s : Bool,
    flagByte o v t g r s p >>> 3 &&& 0x03 = p
      ∧ [0, 1, 2, 5, 6, 7].map (Octet.hasBit (flagByte o v t g r s p))
        = [o, v, t, g, r, s] := by
  decide +kernel

/-- What is left of the sub-records when they are written back. -/
def canonical (e : Entry) : Entry where
  recordNumber := e.recordNumber
  flags := e.flags
  objectId := e.objectId
  eventId := e.eventId
  time := e.time
  sourceService := e.sourceService
  recipientService := e.recipientService
  items := e.items.map Item.canonical
  objectId_isSome := e.objectId_isSome
  eventId_isSome := e.eventId_isSome
  time_isSome := e.time_isSome
  size_le :=
    Nat.le_trans (Nat.le_of_eq (Item.length_flatMap_canonical e.items))
      e.size_le

/-- A record keeps its length when it is written back. -/
theorem length_octets_canonical (e : Entry) :
    e.canonical.octets.length = e.octets.length := by
  have hdata : e.canonical.data.length = e.data.length :=
    Item.length_flatMap_canonical e.items
  simp only [octets, List.length_append, List.length_cons, hdata]
  rfl

/-- So a row of records does. -/
theorem length_flatMap_canonical (es : List Entry) :
    ((es.map canonical).flatMap octets).length = (es.flatMap octets).length :=
  Writing.length_flatMap_map length_octets_canonical es

/-- Nothing is left out of an entry exactly if nothing is of its items. -/
theorem canonical_eq_self_iff {e : Entry} :
    e.canonical = e ↔ ∀ i ∈ e.items, i.canonical = i := by
  rw [← Writing.map_eq_self_iff]
  constructor
  · exact congrArg items
  · intro h
    rcases e with ⟨⟩
    exact Entry.mk.injEq .. ▸ ⟨rfl, rfl, rfl, rfl, rfl, rfl, rfl, h⟩

/-- **A record is written back** as the entry without what is lost. It is not
written if a description is too long for its length to be written in one
octet, although it was read. -/
theorem encode_of_record {e : Entry} {r : Record} (h : e.record = .ok r)
    (w : Bytes) :
    r.encode = .ok w ↔ (∀ i ∈ e.items, ¬ i.Long) ∧ w = e.canonical.octets := by
  unfold record at h
  simp only [Writing.bind_eq_ok, Writing.pure_eq_ok] at h
  obtain ⟨set, hset, rfl⟩ := h
  have hflags := flagByte_parts e.flags
  rw [← e.objectId_isSome, ← e.eventId_isSome, ← e.time_isSome, flagByte]
    at hflags
  have hdata : e.items.flatMap (fun i => i.canonical.octets)
      = e.canonical.data :=
    (List.flatMap_map ..).symm
  unfold Record.encode Subrecord.encodeSet Record.flags
  simp only [Writing.bind_eq_ok, Writing.fitLength_eq_ok, Writing.pure_eq_ok,
    Writing.flatten_mapM_of_values
      (fun i s hi w => Item.encode_of_subrecord hi w) hset, hflags,
    hdata]
  constructor
  · rintro ⟨_, ⟨hlong, rfl⟩, _, ⟨-, rfl⟩, rfl⟩
    exact ⟨hlong, rfl⟩
  · rintro ⟨hlong, rfl⟩
    exact ⟨_, ⟨hlong, rfl⟩, _, ⟨e.canonical.size_le, rfl⟩, rfl⟩

/-- What is written for a clean record is an entry that is read as it. -/
theorem exists_of_encode {r : Record} (hp : r.priority ≤ 3)
    (hs : ∀ s ∈ r.subrecords, s.Clean) {w : Bytes} (h : r.encode = .ok w) :
    ∃ e : Entry, e.record = .ok r ∧ e.octets = w := by
  unfold Record.encode Subrecord.encodeSet at h
  simp only [Writing.bind_eq_ok, Writing.fitLength_eq_ok,
    Writing.pure_eq_ok] at h
  obtain ⟨a, ha, _, ⟨hle, rfl⟩, rfl⟩ := h
  obtain ⟨is, his, rfl⟩ := Writing.exists_units_of_flatten_mapM
    (fun s hmem w hw => Item.exists_of_encode (hs s hmem) hw) ha
  obtain ⟨hpriority, hbits⟩ :=
    flagByte_fields r.priority hp r.objectId.isSome r.eventId.isSome
    r.time.isSome r.group r.recipientOnDevice r.sourceOnDevice
  simp only [List.map_cons, List.map_nil, List.cons.injEq, and_true] at hbits
  obtain ⟨ho, hv, htm, hg, hr, hso⟩ := hbits
  refine ⟨⟨r.recordNumber, r.flags, r.objectId, r.eventId, r.time,
    r.sourceService, r.recipientService, is, ho.symm, hv.symm, htm.symm, hle⟩,
    ?_, rfl⟩
  unfold record
  rw [his]
  show Except.ok (Record.mk _ _ _ _ _ _ _ _ _ _ _) = _
  unfold Record.flags
  unfold flagByte at hg hr hso hpriority
  rw [hg, hr, hso, hpriority]

end Entry

end Telematics
