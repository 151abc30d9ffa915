import Mathlib.Data.List.Induction
import Telematics.Proofs.Session.Replies
import Telematics.Proofs.Wire.Capacity
import Telematics.Terminal.Sample

/-!
# What a terminal builds is read as it was built

The wire has fourteen bits for a speed, nine for a course and twenty-four for
an altitude, and a value that does not fit keeps the whole fix from being
written. Kilometres per hour, degrees and metres know no such bounds: a speed
may be no number at all, and an altitude the lowest of thirty-two bits. So
every field is bounded where it is set, and no fix that is put together from
physical units, in whatever order, is refused by the writer or read as
another one (`Fix.transmissible_built`).

What the bounds leave of an altitude and of a time can be said in the units
that they were given in. An altitude keeps its sign and loses what its modulus
has above twenty-four bits; a time loses the fraction of its second and is
moved to the nearer end of the protocol's clock if it lies outside. For a
place and a speed the rounding is that of the floating-point arithmetic, and
nothing is said of it here.
-/

namespace Telematics

namespace Fix

variable {p : Fix}

/-- **The fix arrives**: it can be written, and what is written is read as
that fix. -/
def Transmissible (p : Fix) : Prop := ∃ w, p.encode = .ok w ∧ decode w = .ok p

/-- A fix arrives if its fields fit and it leaves the altitude flag to the
altitude. -/
theorem transmissible_iff :
    p.Transmissible ↔ p.Fits ∧ Octet.hasBit p.flags altitudeBit = false := by
  constructor
  · rintro ⟨w, hw, hread⟩
    exact ⟨(encode_eq_ok.1 hw).1, (decode_eq_ok.1 hread).1⟩
  · rintro ⟨hfits, hflag⟩
    have hw : p.encode = .ok p.octets := encode_eq_ok.2 ⟨hfits, rfl⟩
    exact ⟨_, hw, decode_eq_ok.2 ⟨hflag, hw⟩⟩

/-! ## One step of the building -/

/-- A fix that has a time and a place, and nothing else, arrives. -/
theorem transmissible_ofDegrees (time : Instant) (latitude longitude : Float) :
    (ofDegrees time latitude longitude).Transmissible := by
  have hflag : ∀ south west : Bool, Octet.hasBit (Octet.ofBits
      [true, false, false, false, false, south, west, false]) altitudeBit
        = false := by decide
  refine transmissible_iff.2 ⟨⟨?_, ?_, ?_, nofun⟩, hflag _ _⟩ <;>
    exact Nat.zero_lt_succ _

/-- The modulus of an altitude, bounded by the field. -/
theorem toNat_modulus (metres : Int32) :
    (UInt32.ofNat (min metres.toInt.natAbs 0xFFFFFF)).toNat
      = min metres.toInt.natAbs 0xFFFFFF :=
  UInt32.toNat_ofNat_of_lt'
    (Nat.lt_of_le_of_lt (Nat.min_le_right _ _) (by decide))

/-- An altitude is bounded where it is set, so the fix still arrives. -/
theorem Transmissible.withAltitude (h : p.Transmissible) (metres : Int32) :
    (p.withAltitude metres).Transmissible := by
  obtain ⟨hfits, hflag⟩ := transmissible_iff.1 h
  refine transmissible_iff.2
    ⟨⟨hfits.speed, hfits.direction, hfits.odometer, ?_⟩, hflag⟩
  rintro _ ⟨⟩
  rw [toNat_modulus]
  exact Nat.lt_of_le_of_lt (Nat.min_le_right _ _) (by decide)

/-- So are a speed, also one that is no number, and a course. -/
theorem Transmissible.withMotion (h : p.Transmissible) (speed : Float)
    (course : UInt16) :
    (p.withMotion speed course).Transmissible := by
  obtain ⟨hfits, hflag⟩ := transmissible_iff.1 h
  refine transmissible_iff.2 ⟨⟨?_, ?_, hfits.odometer, hfits.altitude⟩, hflag⟩
  · have hle : min (scale (speed * 10.0) 1.0).toNat 0x3FFF ≤ 0x3FFF :=
      Nat.min_le_right _ _
    show (UInt16.ofNat _).toNat < 16384
    rw [UInt16.toNat_ofNat_of_lt' (Nat.lt_of_le_of_lt hle (by decide))]
    exact Nat.lt_succ_of_le hle
  · have hlt : course.toNat % 360 < 360 := Nat.mod_lt _ (by decide)
    show (course % 360).toNat < 512
    rw [UInt16.toNat_mod]
    exact Nat.lt_trans hlt (by decide)

/-- **The altitude of a fix that was given one**: the same, up to what
twenty-four bits hold. An altitude is sent as a sign and an amount, so the
bound is the same below zero and above. -/
theorem toInt_altitudeMetres_withAltitude (p : Fix) (metres : Int32) :
    (p.withAltitude metres).altitudeMetres.map Int32.toInt
      = some (max (-16777215) (min metres.toInt 16777215)) := by
  have hlt : min metres.toInt.natAbs 0xFFFFFF < 0x80000000 :=
    Nat.lt_of_le_of_lt (Nat.min_le_right _ _) (by decide)
  have hsigned : (if decide (metres.toInt < 0)
      then -((min metres.toInt.natAbs 0xFFFFFF : Nat) : Int)
      else (min metres.toInt.natAbs 0xFFFFFF : Nat))
      = max (-16777215) (min metres.toInt 16777215) := by
    simp only [decide_eq_true_iff]
    split <;> omega
  simp only [altitudeMetres, withAltitude, toNat_modulus, hlt, if_true,
    Option.bind_eq_bind, Option.bind_some, Option.map_some, hsigned]
  rw [Int32.toInt_ofInt_of_le (by omega) (by omega)]

/-! ## A fix that is built -/

/-- What is said of a fix besides its time and its place. -/
inductive Detail where
  /-- Metres above sea level. -/
  | altitude (metres : Int32)
  /-- Kilometres per hour, and degrees. -/
  | motion (speed : Float) (course : UInt16)

/-- The altitude, if the detail is one. -/
def Detail.metres? : Detail → Option Int32
  | altitude metres => some metres
  | motion _ _ => none

/-- The fix with a detail. -/
def detailed (p : Fix) : Detail → Fix
  | .altitude metres => p.withAltitude metres
  | .motion speed course => p.withMotion speed course

/-- **The fix that is built** from a time, a place and details in any order. -/
def built (time : Instant) (latitude longitude : Float)
    (details : List Detail) : Fix :=
  details.foldl detailed (ofDegrees time latitude longitude)

/-- The altitude that was given, the last one if there are several. -/
def given (details : List Detail) : Option Int32 :=
  (details.filterMap Detail.metres?).getLast?

/-- The last detail is set last. -/
theorem built_concat (time : Instant) (latitude longitude : Float)
    (details : List Detail) (d : Detail) :
    built time latitude longitude (details ++ [d])
      = (built time latitude longitude details).detailed d :=
  List.foldl_concat ..

/-- An altitude that is given last counts. -/
theorem given_concat (details : List Detail) (d : Detail) :
    given (details ++ [d]) = d.metres?.or (given details) := by
  unfold given
  rw [List.filterMap_append, List.getLast?_append]
  cases d <;> rfl

/-- A detail of either kind leaves a fix that arrives. -/
theorem Transmissible.detailed (h : p.Transmissible) (d : Detail) :
    (p.detailed d).Transmissible := by
  cases d with
  | altitude metres => exact h.withAltitude metres
  | motion speed course => exact h.withMotion speed course

/-- **Every fix that is built arrives.** No detail can be given that a fix
does not have room for: each is brought within its bounds when it is set. -/
theorem transmissible_built (time : Instant) (latitude longitude : Float)
    (details : List Detail) :
    (built time latitude longitude details).Transmissible :=
  List.foldlRecOn _ _ (transmissible_ofDegrees time latitude longitude)
    fun _ h d _ => h.detailed d

/-- **The altitude of a fix that is built** is the one that was given last,
whatever else was set behind it. A fix that was given none has none. -/
theorem toInt_altitudeMetres_built (time : Instant) (latitude longitude : Float)
    (details : List Detail) :
    (built time latitude longitude details).altitudeMetres.map Int32.toInt
      = (given details).map fun metres =>
        max (-16777215) (min metres.toInt 16777215) := by
  induction details using List.reverseRecOn with
  | nil => rfl
  | append_singleton details d ih =>
    rw [built_concat, given_concat]
    cases d with
    | altitude metres => exact toInt_altitudeMetres_withAltitude _ metres
    | motion speed course => exact ih

/-- The clock of the protocol runs from 2010 for as many seconds as
thirty-two bits count. -/
theorem ofProtocol_toProtocol (t : Instant) : Instant.ofProtocol t.toProtocol
    = ⟨max protocolEpoch (min t.second (protocolEpoch + 4294967295)), 0⟩ := by
  have hlt : min (t.second - protocolEpoch).toNat 4294967295 < UInt32.size :=
    Nat.lt_of_le_of_lt (Nat.min_le_right _ _) (by decide)
  rw [Instant.ofProtocol, Instant.toProtocol, UInt32.toNat_ofNat_of_lt' hlt,
    Instant.mk.injEq]
  exact ⟨by omega, rfl⟩

example : (Instant.ofProtocol 0).toRfc3339 = "2010-01-01T00:00:00Z" := by
  decide +kernel

/-- **The time of a fix that is built** is not changed by any detail. Times
before the epoch of the protocol are sent as the epoch, and those that
thirty-two bits of seconds do not reach as the last one that they do. -/
theorem time_built (time : Instant) (latitude longitude : Float)
    (details : List Detail) :
    (built time latitude longitude details).time
      = ⟨max protocolEpoch (min time.second (protocolEpoch + 4294967295)),
        0⟩ := by
  rw [← ofProtocol_toProtocol]
  -- No detail touches the time.
  refine List.foldlRecOn (motive := fun p : Fix => p.time = _) _ _ rfl
    fun p h d _ => ?_
  cases d <;> exact h

end Fix

/-! ## Sample packets -/

/-- **A clean packet arrives if everything in it fits.** Clean means that no
value has a bit that is written from another field, so what arrives is the
packet itself. -/
theorem Packet.transmissible_of_fits {p : Packet} (hclean : p.Clean)
    (hfits : ∀ r ∈ p.frame.records, ∀ s ∈ r.subrecords, s.Fits)
    (hsize : p.frame.size ≤ maxFrameData) : p.Transmissible := by
  have hframe := measured_encodeFrame p.frame
  obtain ⟨data, hdata⟩ :=
    hframe.isOk_iff.2 ((forall_fits_iff_of_size_le hsize).2 hfits)
  have hlen : data.length ≤ maxFrameData :=
    (hframe.length_eq data hdata).trans_le hsize
  have hwritten := encode_eq_ok.2 ⟨data, hdata, hlen, rfl⟩
  exact ⟨_, hwritten,
    Layout.decode_eq_ok.2 (Layout.exists_of_encode hclean hwritten)⟩

namespace Sample

/-- The fix of a sample is one that is built. -/
theorem transmissible_fix (s : Sample) : s.fix.Transmissible :=
  Fix.transmissible_built s.time s.latitude s.longitude [.altitude 30,
    .motion 3.4 172]

/-- The sub-records of a sample hold no bit that is written from another
field, and all of their fields fit. -/
theorem clean_and_fits (s : Sample) : ∀ x ∈ s.subrecords, x.Clean ∧ x.Fits := by
  obtain ⟨hfits, hflag⟩ := Fix.transmissible_iff.1 s.transmissible_fix
  have hfix : (Subrecord.fix s.fix).Clean ∧ (Subrecord.fix s.fix).Fits :=
    ⟨hflag, hfits⟩
  unfold subrecords
  cases s.kind with
  | auth => exact List.forall_mem_singleton.2 ⟨trivial, by decide +kernel⟩
  | telemetry => exact List.forall_mem_singleton.2 hfix
  | mixed =>
    have hnumber : (1 : UInt8).toNat < 8 := by decide
    exact List.forall_mem_cons.2
      ⟨hfix, List.forall_mem_singleton.2 ⟨trivial, hnumber, trivial⟩⟩

/-- **Every sample packet arrives.** A sample is made of nothing that could be
too long. -/
theorem transmissible_packet (s : Sample) : s.packet.Transmissible := by
  have hrecords : ∀ r ∈ s.packet.frame.records, r = s.record :=
    fun r => List.mem_singleton.1
  refine Packet.transmissible_of_fits ?_ ?_ ?_
  · exact
      { headerVersion := (by decide : (0 : UInt8) ≤ 3)
        priority := (by decide : priority ≤ 3)
        encryption := rfl
        compressed := rfl
        recordPriority := fun r hr => by
          rw [hrecords r hr]
          exact (by decide : priority ≤ 3)
        subrecords := fun r hr x hx => by
          rw [hrecords r hr] at hx
          exact (s.clean_and_fits x hx).1 }
  · intro r hr x hx
    rw [hrecords r hr] at hx
    exact (s.clean_and_fits x hx).2
  · obtain ⟨kind, packetId, objectId, time, latitude, longitude, liquidLevel⟩ :=
      s
    cases kind <;> exact Nat.le_of_ble_eq_true rfl

end Sample

/-- **What a terminal builds is read as it was built.** From any time and
place, with any altitude, speed and course in any combination, a fix is put
together that can be written and is read again as that fix. Its altitude is
the one that was given, clamped to twenty-four bits and a sign, and its time
the given one, cut to whole seconds and clamped to the protocol's clock. So
every sample packet can be written and is read again as that packet. -/
theorem Fix.built_survives (time : Instant) (latitude longitude : Float)
    (details : List Detail) :
    (∃ w, (built time latitude longitude details).encode = .ok w
        ∧ decode w = .ok (built time latitude longitude details))
      ∧ (built time latitude longitude details).altitudeMetres.map Int32.toInt
        = (given details).map
          (fun metres => max (-16777215) (min metres.toInt 16777215))
      ∧ (built time latitude longitude details).time
        = ⟨max protocolEpoch (min time.second (protocolEpoch + 4294967295)), 0⟩
      ∧ ∀ s : Sample, ∃ w, s.packet.encode = .ok w
        ∧ Packet.decode w = .ok s.packet :=
  ⟨transmissible_built time latitude longitude details,
    toInt_altitudeMetres_built time latitude longitude details,
    time_built time latitude longitude details, Sample.transmissible_packet⟩

end Telematics
