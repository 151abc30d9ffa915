import Mathlib
import Telematics.Proofs.Wire.RoundTrip

/-!
# Which packets are written, and how long they are

Writing a packet fails where a value does not fit: a field may have more bits
than the wire has for it, a text a zero octet, a description or raw data too
many octets, and three lengths – that of a payload, of a record and of the
frame data – are written themselves. The checks lie with the fields, so
whether a packet can be written is decided in a dozen places.

Here it is decided in one. `Subrecord.Fits` is what is asked of the fields,
and `Frame.size` counts the octets of the frame data off the fields, without
writing any. A packet is written exactly if its fields fit and the count is
within the limit, and the count is then its length
(`Packet.isOk_encode_iff_fits`).

The two lengths of sixteen bits inside the frame data are not asked about:
payloads and records are parts of the frame data, which is within a limit that
sixteen bits hold. So these checks never fail alone, and no length that is
written is cut short (`Record.fits_iff_of_size_le`).

That something is written under a condition, and how long it is then, are said
together by `Writing.Measured`. They have to be: whether a record can be
written depends on how long its sub-records came out, so a statement about the
one cannot be carried on without the other. With both in one the laws are
those of the writer's own steps, one after the other and each of a list.
-/

namespace Telematics

/-! ## Writing and counting -/

namespace Writing

variable {ε α β : Type} {x : Except ε (List β)} {P Q : Prop} {m n : Nat}

/-- **What is written exactly under a condition**, and then has a known
length. -/
structure Measured (x : Except ε (List β)) (P : Prop) (n : Nat) : Prop where
  isOk_iff : (∃ w, x = .ok w) ↔ P
  length_eq : ∀ w, x = .ok w → w.length = n

namespace Measured

/-- If there is one thing that is written under a condition then its length is
known. -/
theorem of_eq_ok_iff {v : List β} (h : ∀ w, x = .ok w ↔ P ∧ v = w)
    (hn : v.length = n) :
    Measured x P n where
  isOk_iff := by simp [h]
  length_eq w hw := by rw [← ((h w).1 hw).2, hn]

/-- What is written without a check has a length that is known. -/
theorem ok {v : List β} (hn : v.length = n) :
    Measured (.ok v : Except ε (List β)) True n :=
  of_eq_ok_iff (fun w => by simp) hn

/-- The condition may be put in other words. -/
theorem congr (h : Measured x P n) (hP : P ↔ Q) : Measured x Q n where
  isOk_iff := h.isOk_iff.trans hP
  length_eq := h.length_eq

/-- A second step may look at the length of the first, which is known although
what was written is not. -/
theorem bind {f : List β → Except ε (List β)} (h : Measured x P n)
    (hf : ∀ w, w.length = n → Measured (f w) Q m) :
    Measured (x >>= f) (P ∧ Q) m where
  isOk_iff := by
    simp only [bind_eq_ok]
    constructor
    · rintro ⟨w, v, hv, hw⟩
      exact ⟨h.isOk_iff.1 ⟨v, hv⟩, (hf v (h.length_eq v hv)).isOk_iff.1 ⟨w, hw⟩⟩
    · rintro ⟨hP, hQ⟩
      obtain ⟨v, hv⟩ := h.isOk_iff.2 hP
      obtain ⟨w, hw⟩ := (hf v (h.length_eq v hv)).isOk_iff.2 hQ
      exact ⟨w, v, hv, hw⟩
  length_eq w hw := by
    obtain ⟨v, hv, hw⟩ := bind_eq_ok.1 hw
    exact (hf v (h.length_eq v hv)).length_eq w hw

/-- Octets in front of what is written. -/
theorem append (h : Measured x P n) (front : List β) :
    Measured (x >>= fun w => pure (front ++ w)) P (front.length + n) :=
  (h.bind fun w hw => ok (by rw [List.length_append, hw])).congr
    (and_iff_left trivial)

/-- A length in front of a unit has sixteen bits. -/
theorem sized {unit : String} {g : UInt16 → List β}
    (hg : ∀ size, (g size).length = m) (n : Nat) :
    Measured (fitLength unit n >>= fun size => pure (g size))
      (n ≤ 65535) m where
  isOk_iff := by
    simp only [bind_eq_ok, fitLength_eq_ok, pure_eq_ok]
    constructor
    · rintro ⟨_, _, ⟨h, -⟩, -⟩
      exact h
    · exact fun h => ⟨_, _, ⟨h, rfl⟩, rfl⟩
  length_eq w hw := by
    obtain ⟨size, -, hw⟩ := bind_eq_ok.1 hw
    rw [← pure_eq_ok.1 hw, hg]

/-- Units are written one after the other if each of them is. -/
theorem flatten_mapM {encode : α → Except ε (List β)} {fits : α → Prop}
    {size : α → Nat} (h : ∀ a, Measured (encode a) (fits a) (size a))
    (as : List α) :
    Measured (List.flatten <$> as.mapM encode) (∀ a ∈ as, fits a)
      (as.map size).sum := by
  induction as with
  | nil => exact (ok rfl).congr (by simp)
  | cons a as ih =>
    have hcons : List.flatten <$> (a :: as).mapM encode
        = encode a >>= fun w => (List.flatten <$> as.mapM encode) >>= fun v =>
          pure (w ++ v) := by
      simp only [List.mapM_cons, map_eq_pure_bind, bind_assoc, pure_bind,
        List.flatten_cons]
    rw [hcons]
    refine ((h a).bind fun w hw => ?_).congr List.forall_mem_cons.symm
    rw [List.map_cons, List.sum_cons, ← hw]
    exact ih.append w

end Measured

end Writing

open Writing (Measured)

/-- The octets of a text are counted by the text itself. -/
theorem Utf8.length_encode (s : String) :
    (encode s).length = s.utf8ByteSize := by
  rw [encode, toList_eq_data]
  rfl

namespace Slots

variable {α : Type}

/-- How many places are filled. -/
def count (s : Slots α) : Nat := s.toList.countP Option.isSome

/-- As many values are in the places as places are filled. -/
theorem length_filled (s : Slots α) : s.filled.length = s.count :=
  List.length_filterMap_eq_countP

/-- Values of one size take that size as often as places are filled. -/
theorem length_flatMap_filled {write : α → Bytes} {k : Nat}
    (h : ∀ a, (write a).length = k) (s : Slots α) :
    (s.filled.flatMap write).length = k * s.count := by
  rw [Writing.length_flatMap_of_forall h, length_filled]

end Slots

/-! ## Payloads -/

namespace Subrecord

/-- **Every field fits the bits that the wire has for it.** A field whose
values all fit is not mentioned. -/
def Fits : Subrecord → Prop
  | dispatcherIdentity p => p.description.length ≤ 255
  | authInfo p => 0 ∉ Utf8.encode p.userName ∧ 0 ∉ Utf8.encode p.password
      ∧ ∀ s ∈ p.serverSequence, 0 ∉ Utf8.encode s
  | fix p => p.Fits
  | adSensors p => ∀ a ∈ p.analogSensors.filled, a.toNat < 16777216
  | counters p => ∀ a ∈ p.counters.filled, a.toNat < 16777216
  | digitalSensor p => p.Fits
  | loopInput p => p.Fits
  | analogSensor p => p.value.toNat < 16777216
  | counter p => p.value.toNat < 16777216
  | liquidSensor p => p.number.toNat < 8 ∧ p.reading.Fits
  | _ => True

end Subrecord

-- What is asked of all values in a place is decided by those that are there,
-- not by all that a word can have.
instance (p : Fix) : Decidable p.Fits :=
  letI : Decidable (∀ a ∈ p.altitude, a.toNat < 16777216) :=
    Option.decidableForallMem _
  decidable_of_iff (p.speed.toNat < 16384 ∧ p.direction.toNat < 512
      ∧ p.odometer.toNat < 16777216 ∧ ∀ a ∈ p.altitude, a.toNat < 16777216)
    ⟨fun ⟨hs, hd, ho, ha⟩ => ⟨hs, hd, ho, ha⟩,
      fun ⟨hs, hd, ho, ha⟩ => ⟨hs, hd, ho, ha⟩⟩

instance (p : InputState) : Decidable p.Fits :=
  decidable_of_iff (p.number.toNat < 4096 ∧ p.state.toNat < 16)
    ⟨fun ⟨hn, hs⟩ => ⟨hn, hs⟩, fun ⟨hn, hs⟩ => ⟨hn, hs⟩⟩

instance : DecidablePred LiquidReading.Fits
  | .value _ => inferInstanceAs (Decidable True)
  | .raw a => inferInstanceAs (Decidable (a.length ≤ LiquidSensor.maxRaw))

instance : DecidablePred Subrecord.Fits
  | .dispatcherIdentity p =>
    inferInstanceAs (Decidable (p.description.length ≤ 255))
  | .authInfo p =>
    decidable_of_iff ((Utf8.encode p.userName).all (· ≠ 0)
        ∧ (Utf8.encode p.password).all (· ≠ 0)
        ∧ p.serverSequence.all fun s => (Utf8.encode s).all (· ≠ 0))
      (by simp [Subrecord.Fits, Option.all_eq_true, List.forall_mem_ne'])
  | .fix p => inferInstanceAs (Decidable p.Fits)
  | .adSensors _ | .counters _ => List.decidableBAll _ _
  | .digitalSensor p | .loopInput p => inferInstanceAs (Decidable p.Fits)
  | .analogSensor p | .counter p =>
    inferInstanceAs (Decidable (p.value.toNat < 16777216))
  | .liquidSensor p =>
    inferInstanceAs (Decidable (p.number.toNat < 8 ∧ p.reading.Fits))
  | .recordResponse _ | .termIdentity _ | .authResult _ | .fixQuality _
    | .powerState _
  | .loopInputs _ | .passengers _ | .unknown _ _ =>
    inferInstanceAs (Decidable True)

/-! ### Their sizes

What a payload takes is counted off its fields: so much for those that are
always there, and so much for each optional one that is. -/

namespace TermIdentity

/-- The octets of a terminal's identity. -/
def size (p : TermIdentity) : Nat :=
  5 + 2 * p.homeDispatcherId.isSome.toNat + 15 * p.imei.isSome.toNat + 16
    * p.imsi.isSome.toNat
    + 3 * p.languageCode.isSome.toNat + 3 * p.networkId.isSome.toNat
    + 2 * p.bufferSize.isSome.toNat + 15 * p.msisdn.isSome.toNat

/-- **A terminal's identity is as long as its fields say**, and is always
written. -/
theorem length_encode (p : TermIdentity) : p.encode.length = p.size := by
  have hrun : ∀ n (v : Vector UInt8 n), v.toList.length = n :=
    fun _ _ => Vector.length_toList
  simp only [encode, size, List.length_append, List.length_singleton,
    Bytes.length_ofUInt32, Writing.length_elim Bytes.length_ofUInt16,
    Writing.length_elim (hrun _)]

end TermIdentity

namespace AuthInfo

/-- The octets of a text, with the zero octet behind it. -/
def textSize (s : String) : Nat := s.utf8ByteSize + 1

/-- The octets of a user name and a password. -/
def size (p : AuthInfo) : Nat :=
  textSize p.userName + textSize p.password + p.serverSequence.elim 0 textSize

/-- A text takes its own octets and one more. -/
theorem length_textOctets (s : String) :
    (textOctets s).length = textSize s := by
  rw [textOctets, List.length_append, Utf8.length_encode, List.length_singleton,
    textSize]

/-- **A user name and a password are written unless a text has a zero octet**,
which would end it early. -/
theorem measured_encode (p : AuthInfo) :
    Measured p.encode (Subrecord.authInfo p).Fits p.size := by
  refine .of_eq_ok_iff
    (fun w => encode_eq_ok.trans (and_congr_right' eq_comm)) ?_
  have hsequence : (p.serverSequence.elim [] textOctets).length
      = p.serverSequence.elim 0 textSize := by
    cases p.serverSequence with
    | none => rfl
    | some s => exact length_textOctets s
  rw [size, List.length_append, List.length_append, length_textOctets,
    length_textOctets, hsequence]

end AuthInfo

namespace Fix

/-- The octets of a fix. -/
def size (p : Fix) : Nat :=
  21 + 3 * p.altitude.isSome.toNat + 2 * p.sourceData.isSome.toNat

/-- **A fix is as long as its fields say**: the altitude and what the source
adds are the two that may be missing. -/
theorem length_octets (p : Fix) : p.octets.length = p.size := by
  simp only [octets, size, List.length_append, List.length_cons,
    List.length_nil, Bytes.length_ofUInt16, Bytes.length_ofUInt24,
    Bytes.length_ofUInt32, Writing.length_elim Bytes.length_ofUInt16,
    Writing.length_elim Bytes.length_ofUInt24]

end Fix

namespace FixQuality

/-- The octets of a fix's quality. -/
def size (q : FixQuality) : Nat :=
  1 + 2 * q.vdop.isSome.toNat + 2 * q.hdop.isSome.toNat + 2
    * q.pdop.isSome.toNat
    + q.satellites.isSome.toNat + 2 * q.navigationSystem.isSome.toNat

/-- **The quality of a fix is as long as its fields say**, and is always
written. -/
theorem length_encode (q : FixQuality) : q.encode.length = q.size := by
  have hone : ∀ b : UInt8, [b].length = 1 := fun _ => rfl
  simp only [encode, size, List.length_cons, List.length_append,
    Writing.length_elim Bytes.length_ofUInt16, Writing.length_elim hone]
  omega

end FixQuality

/-- Eight places of twenty-four bits, behind what stands in front of them. -/
theorem Slots.measured_encodeUInt24 (field : String) (s : Slots UInt32)
    (front : Bytes) :
    Measured (s.encodeUInt24 field >>= fun w => pure (front ++ w))
      (∀ a ∈ s.filled, a.toNat < 16777216) (front.length + 3 * s.count) := by
  have hs : Measured (s.encodeUInt24 field) (∀ a ∈ s.filled, a.toNat < 16777216)
      (3 * s.count) :=
    .of_eq_ok_iff (fun w => encodeUInt24_eq_ok.trans (and_congr_right' eq_comm))
      (length_flatMap_filled Bytes.length_ofUInt24 s)
  exact hs.append front

/-- A numbered value is written if it has no more than twenty-four bits. -/
theorem NumberedValue.measured_encode (field : String) (p : NumberedValue) :
    Measured (p.encode field) (p.value.toNat < 16777216) 4 := by
  have hvalue : Measured (encodeUInt24 field p.value)
      (p.value.toNat < 16777216) 3 := by
    refine .of_eq_ok_iff (v := Bytes.ofUInt24 p.value) (fun w => ?_)
      (Bytes.length_ofUInt24 _)
    simp only [encodeUInt24, Writing.bind_eq_ok, Writing.fitBits_eq_ok,
      Writing.pure_eq_ok, exists_const]
  exact hvalue.append [p.number]

namespace LiquidSensor

/-- The octets of a liquid level. -/
def size (p : LiquidSensor) : Nat :=
  match p.reading with
  | .value _ => 7
  | .raw d => 3 + d.length

/-- **A liquid level is written if its number has three bits** and its raw
data are within their bound. -/
theorem measured_encode (p : LiquidSensor) :
    Measured p.encode (Subrecord.liquidSensor p).Fits p.size := by
  refine .of_eq_ok_iff (fun w => encode_eq_ok) ?_
  rw [List.cons_append, List.length_cons, List.length_append,
    Bytes.length_ofUInt16, size]
  cases p.reading with
  | value l => rfl
  | raw d => exact Nat.add_right_comm 2 d.length 1

end LiquidSensor

namespace Passengers

/-- The octets of passenger counters. -/
def size (p : Passengers) : Nat :=
  match p.counts with
  | .doors counts => 5 + 2 * counts.count
  | .raw d => 5 + d.length

/-- **Passenger counters are as long as their counts say**, and are always
written. -/
theorem length_encode (p : Passengers) : p.encode.length = p.size := by
  rw [encode_eq, List.length_cons, List.length_cons, List.length_cons,
    List.length_append, Bytes.length_ofUInt16, size]
  cases p.counts with
  | doors counts =>
    have hdoor : ∀ c, (doorOctets c).length = 2 := fun _ => rfl
    rw [PassengerCounts.octets, Slots.length_flatMap_filled hdoor]
    exact Nat.add_right_comm 2 (2 * counts.count) 3
  | raw d => exact Nat.add_right_comm 2 d.length 3

end Passengers

namespace Subrecord

/-- **The octets of a payload**, counted off its fields. -/
def payloadSize : Subrecord → Nat
  | recordResponse _ => 3
  | termIdentity p => p.size
  | dispatcherIdentity p => 5 + p.description.length
  | authInfo p => p.size
  | authResult _ => 1
  | fix p => p.size
  | fixQuality q => q.size
  | adSensors p => 3 + p.digitalInputs.count + 3 * p.analogSensors.count
  | counters p => 1 + 3 * p.counters.count
  | powerState _ => 5
  | loopInputs p => 1 + p.states.count
  | digitalSensor _ => 2
  | analogSensor _ => 4
  | counter _ => 4
  | loopInput _ => 2
  | liquidSensor p => p.size
  | passengers p => p.size
  | unknown _ d => d.length

/-- The octets of a sub-record: its code, its length and its payload. -/
def size (s : Subrecord) : Nat := 3 + s.payloadSize

/-- **A payload is written if its fields fit**, and is as long as they say.
One case for each kind of sub-record, by what was shown of it above. -/
theorem measured_encodePayload (s : Subrecord) :
    Measured s.encodePayload s.Fits s.payloadSize := by
  cases s with
  | recordResponse p => exact .ok rfl
  | termIdentity p => exact .ok p.length_encode
  | dispatcherIdentity p =>
    exact .of_eq_ok_iff (fun w => DispatcherIdentity.encode_eq_ok)
      p.length_octets
  | authInfo p => exact p.measured_encode
  | authResult p => exact .ok rfl
  | fix p => exact .of_eq_ok_iff (fun w => Fix.encode_eq_ok) p.length_octets
  | fixQuality q => exact .ok q.length_encode
  | adSensors p =>
    have hfront : ([p.digitalInputs.flags, p.digitalOutputs,
      p.analogSensors.flags]
        ++ p.digitalInputs.filled).length = 3 + p.digitalInputs.count := by
      rw [List.length_append, Slots.length_filled]
      rfl
    rw [payloadSize, ← hfront]
    exact p.analogSensors.measured_encodeUInt24 "ANS" _
  | counters p => exact p.counters.measured_encodeUInt24 "CN" [p.counters.flags]
  | powerState p => exact .ok rfl
  | loopInputs p =>
    refine .ok ?_
    rw [LoopInputs.encode, List.length_cons, Slots.length_filled]
    exact Nat.add_comm ..
  | digitalSensor p =>
    exact .of_eq_ok_iff (fun w => InputState.encode_eq_ok) rfl
  | analogSensor p => exact p.measured_encode "ASV"
  | counter p => exact p.measured_encode "CNV"
  | loopInput p => exact .of_eq_ok_iff (fun w => InputState.encode_eq_ok) rfl
  | liquidSensor p => exact p.measured_encode
  | passengers p => exact .ok p.length_encode
  | unknown c d => exact .ok rfl

/-- A sub-record is written if its payload is, and the length of the payload
has sixteen bits. -/
theorem measured_encode (s : Subrecord) :
    Measured s.encode (s.Fits ∧ s.payloadSize ≤ 65535) s.size :=
  s.measured_encodePayload.bind fun w hw => hw ▸ Measured.sized (fun size => by
    rw [Subrecord.size, List.cons_append, List.length_cons, List.length_append,
      hw, Bytes.length_ofUInt16]
    omega) w.length

end Subrecord

/-! ## Records and packets -/

namespace Record

/-- The octets of the sub-records. -/
def dataSize (r : Record) : Nat := (r.subrecords.map Subrecord.size).sum

/-- The octets of a record, header included. -/
def size (r : Record) : Nat :=
  7 + 4 * r.objectId.isSome.toNat + 4 * r.eventId.isSome.toNat + 4
    * r.time.isSome.toNat
    + r.dataSize

/-- The fields fit, and so do the lengths that stand in the record. -/
def Fits (r : Record) : Prop :=
  (∀ s ∈ r.subrecords, s.Fits ∧ s.payloadSize ≤ 65535) ∧ r.dataSize ≤ 65535

/-- **A record is written if its sub-records are**, and their length has
sixteen bits. -/
theorem measured_encode (r : Record) : Measured r.encode r.Fits r.size := by
  refine (Measured.flatten_mapM Subrecord.measured_encode r.subrecords).bind
    fun w hw => ?_
  rw [dataSize, ← hw]
  refine .sized (fun size => ?_) w.length
  simp only [List.length_append, List.length_cons, List.length_nil,
    Bytes.length_ofUInt16, Writing.length_elim Bytes.length_ofUInt32, hw,
    Record.size, dataSize]
  omega

/-- **In a record that is not too long, every length fits.** A sub-record is
shorter than its record, so its length has room in sixteen bits with that of
the record. What is left is a matter of each payload by itself. -/
theorem fits_iff_of_size_le {r : Record} (h : r.size ≤ 65535) :
    r.Fits ↔ ∀ s ∈ r.subrecords, s.Fits := by
  have hdata : r.dataSize ≤ 65535 := Nat.le_trans (Nat.le_add_left ..) h
  have hpayload : ∀ s ∈ r.subrecords, s.payloadSize ≤ 65535 := fun s hs =>
    calc s.payloadSize ≤ s.size := Nat.le_add_left ..
      _ ≤ r.dataSize := List.le_sum_of_mem (List.mem_map_of_mem hs)
      _ ≤ 65535 := hdata
  exact ⟨fun hr s hs => (hr.1 s hs).1,
    fun hr => ⟨fun s hs => ⟨hr s hs, hpayload s hs⟩, hdata⟩⟩

end Record

/-- **The octets of the frame data**, counted off its fields. -/
def Frame.size : Frame → Nat
  | appData records => (records.map Record.size).sum
  | response _ _ records => 3 + (records.map Record.size).sum

namespace Packet

/-- The frame data is written if its records are. -/
theorem measured_encodeFrame (f : Frame) :
    Measured (encodeFrame f) (∀ r ∈ f.records, r.Fits) f.size := by
  cases f with
  | appData records =>
    exact Measured.flatten_mapM Record.measured_encode records
  | response packetId result records =>
    exact (Measured.flatten_mapM Record.measured_encode records).append
      (Bytes.ofUInt16 packetId ++ [result])

/-- Within the limit of the frame data no length in it is too long. -/
theorem forall_fits_iff_of_size_le {f : Frame} (h : f.size ≤ maxFrameData) :
    (∀ r ∈ f.records, r.Fits) ↔ ∀ r ∈ f.records, ∀ s ∈ r.subrecords,
      s.Fits := by
  have hsum : (f.records.map Record.size).sum ≤ f.size := by
    cases f with
    | appData records => exact Nat.le_refl _
    | response packetId result records => exact Nat.le_add_left ..
  refine forall₂_congr fun r hr => Record.fits_iff_of_size_le ?_
  calc r.size ≤ (f.records.map Record.size).sum :=
        List.le_sum_of_mem (List.mem_map_of_mem hr)
    _ ≤ 65535 := Nat.le_trans hsum (Nat.le_trans h (by decide))

/-- **A packet is written exactly if everything in it fits**: every field of
its sub-records, and the frame data as counted off the fields. Then its
length is that of the header and, unless there is no frame data, of the frame
data and its checksum. -/
theorem isOk_encode_iff_fits (p : Packet) :
    ((∃ w, p.encode = .ok w) ↔
        (∀ r ∈ p.frame.records, ∀ s ∈ r.subrecords, s.Fits)
          ∧ p.frame.size ≤ 65517)
      ∧ ∀ w, p.encode = .ok w → w.length = (if p.routing.isSome then 16 else 11)
          + if p.frame.size = 0 then 0 else p.frame.size + 2 := by
  have hframe := measured_encodeFrame p.frame
  constructor
  · constructor
    · rintro ⟨w, hw⟩
      obtain ⟨data, hdata, hle, -⟩ := encode_eq_ok.1 hw
      rw [hframe.length_eq data hdata] at hle
      exact ⟨(forall_fits_iff_of_size_le hle).1
        (hframe.isOk_iff.1 ⟨data, hdata⟩), hle⟩
    · rintro ⟨hfits, hle⟩
      obtain ⟨data, hdata⟩ :=
        hframe.isOk_iff.2 ((forall_fits_iff_of_size_le hle).2 hfits)
      rw [← hframe.length_eq data hdata] at hle
      exact ⟨_, encode_eq_ok.2 ⟨data, hdata, hle, rfl⟩⟩
  · intro w hw
    obtain ⟨data, hdata, -, rfl⟩ := encode_eq_ok.1 hw
    have hheader := length_encodeHeader p (UInt16.ofNat data.length)
    have hsize : p.headerSize.toNat = if p.routing.isSome then 16 else 11 := by
      unfold headerSize headerLength
      split <;> rfl
    rw [List.length_append, List.length_cons, length_trailer,
      ← hframe.length_eq data hdata, ← hsize, ← hheader, frameChecksumSize]
    omega

/-- A response with a record that holds a full level and a fix of its widest
values. -/
def fullResponse : Packet :=
  ofFrame 7 (.response 6 0 [.ofService 1 2
    [.liquidSensor ⟨7, false, .percent, 1, .raw [1, 2, 3], false⟩,
      .fix ⟨0, 0, 0, 1, 16383, 511, 16777215, 0, 0, some 16777215, false,
        none⟩]])

/-- The widest values are written, in as many octets as they are counted to
have. -/
theorem isOk_encode_fullResponse : (∃ w, fullResponse.encode = .ok w)
    ∧ ∀ w, fullResponse.encode = .ok w → w.length = 59 :=
  ⟨(isOk_encode_iff_fits fullResponse).1.2 (by decide),
    (isOk_encode_iff_fits fullResponse).2⟩

end Packet

end Telematics
