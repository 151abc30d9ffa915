import Telematics.Wire.Fix
import Telematics.Proofs.Wire.Reading
import Telematics.Proofs.Wire.Writing

/-!
# A fix is read and written alike

The word of the speed also holds the sign of the altitude and the high bit of
the course, and the altitude flag follows the altitude. Once both are known to
be put together as they are taken apart, reading a fix from octets and writing
it to them are the same equation, for every fix that does not itself set the
altitude flag.

Words are compared bit by bit (`Word.ext`). A mask is known by the bits that
it has (`hasBit_speedMask` and the three beside it), and a word that is put
together by which part each of its bits is from (`hasBit_speedWord`,
`hasBit_course`). That a part is found again, and that the parts make the word
up again, are then two readings of the same bits; the first needs that the
part fits into its bits, the second does not.

Nothing is asked of the octets beyond that they are read: a speed of fourteen
bits, a course of nine and numbers of twenty-four are all that octets can
hold, so the fields of a fix that was read always fit. The quality of a fix,
below, is read from octets that may have more flags than it has fields, and
there reading loses them (`FixQuality.decode_eq_ok`).
-/

namespace Telematics

variable {d t : Bytes}

namespace Fix

/-! ## The word of the speed -/

/-- The speed, the sign of the altitude and the high bit of the course in
one word. -/
def speedWord (speed : UInt16) (negative high : Bool) : UInt16 :=
  speed ||| (if negative then 0x4000 else 0) ||| (if high then 0x8000 else 0)

/-- The mask of the speed has the bits below the fourteenth. -/
theorem hasBit_speedMask :
    ∀ i < 16, Word.hasBit 0x3FFF i = decide (i < 14) := by decide

/-- The mask of the sign has one bit, the fourteenth. -/
theorem hasBit_signMask :
    ∀ i < 16, Word.hasBit 0x4000 i = decide (i = 14) := by decide

/-- The mask of the high bit of the course has one bit, the fifteenth. -/
theorem hasBit_highMask :
    ∀ i < 16, Word.hasBit 0x8000 i = decide (i = 15) := by decide

/-- In the course itself that bit is the eighth. -/
theorem hasBit_courseMask :
    ∀ i < 16, Word.hasBit 0x100 i = decide (i = 8) := by decide

/-- **A bit of the word** is one of the speed, or the sign, or the high bit of
the course. A speed that does not fit would lend its high bits to the other
two. -/
theorem hasBit_speedWord (speed : UInt16) (negative high : Bool) {i : Nat}
    (hi : i < 16) :
    Word.hasBit (speedWord speed negative high) i
      = (Word.hasBit speed i || (negative && decide (i = 14))
        || (high && decide (i = 15))) := by
  cases negative <;> cases high <;>
    simp [speedWord, hasBit_signMask i hi, hasBit_highMask i hi]

/-- The parts of the word make it up again. -/
theorem speedWord_parts (w : UInt16) :
    speedWord (w &&& 0x3FFF) (Word.hasBit w 14) (Word.hasBit w 15) = w := by
  refine Word.ext (fun i hi => ?_)
  rw [hasBit_speedWord _ _ _ hi, Word.hasBit_and, hasBit_speedMask i hi]
  -- The speed has the fourteen low bits, and its two neighbours one each.
  have hcases : i < 14 ∨ i = 14 ∨ i = 15 := by omega
  rcases hcases with h | rfl | rfl
  · simp [h, Nat.ne_of_lt h, Nat.ne_of_lt (Nat.lt_succ_of_lt h)]
  · simp
  · simp

/-- A speed of fourteen bits is found in the word again. -/
theorem speedWord_and_speedMask {speed : UInt16} (h : speed.toNat < 16384)
    (negative high : Bool) :
    speedWord speed negative high &&& 0x3FFF = speed := by
  refine Word.ext (fun i hi => ?_)
  rw [Word.hasBit_and, hasBit_speedWord _ _ _ hi, hasBit_speedMask i hi]
  have hcases : i < 14 ∨ i = 14 ∨ i = 15 := by omega
  rcases hcases with hi | rfl | rfl
  · simp [hi, Nat.ne_of_lt hi, Nat.ne_of_lt (Nat.lt_succ_of_lt hi)]
  · simp [Word.hasBit_of_lt (k := 14) h (Nat.le_refl 14)]
  · simp [Word.hasBit_of_lt (k := 14) (i := 15) h (by decide)]

/-- The sign is found in the word again, if the speed leaves it its bit. -/
theorem speedWord_hasBit_sign {speed : UInt16} (h : speed.toNat < 16384)
    (negative high : Bool) :
    Word.hasBit (speedWord speed negative high) 14 = negative := by
  rw [hasBit_speedWord _ _ _ (by decide),
    Word.hasBit_of_lt (k := 14) h (Nat.le_refl 14)]
  simp

/-- So is the high bit of the course. -/
theorem speedWord_hasBit_high {speed : UInt16} (h : speed.toNat < 16384)
    (negative high : Bool) :
    Word.hasBit (speedWord speed negative high) 15 = high := by
  rw [hasBit_speedWord _ _ _ (by decide),
    Word.hasBit_of_lt (k := 14) h (by decide)]
  simp

theorem speedWord_lt (w : UInt16) : (w &&& 0x3FFF).toNat < 16384 := by
  rw [UInt16.toNat_and]
  exact Nat.and_lt_two_pow (n := 14) w.toNat (by decide)

/-! ## The course -/

/-- A course of nine bits, from its high bit and its low octet. -/
def course (high : Bool) (low : UInt8) : UInt16 :=
  (if high then 0x100 else 0) ||| low.toUInt16

/-- A bit of the course is its high bit or one of its low octet. -/
theorem hasBit_course (high : Bool) (low : UInt8) {i : Nat} (hi : i < 16) :
    Word.hasBit (course high low) i
      = (high && decide (i = 8) || Octet.hasBit low i) := by
  cases high <;> simp [course, hasBit_courseMask i hi, Word.hasBit_toUInt16]

theorem octet_hasBit_of_le {b : UInt8} {i : Nat} (hi : 8 ≤ i) :
    Octet.hasBit b i = false :=
  Nat.testBit_lt_two_pow
    (Nat.lt_of_lt_of_le b.toNat_lt (Nat.pow_le_pow_right (by decide) hi))

theorem course_lt (high : Bool) (low : UInt8) :
    (course high low).toNat < 512 := by
  refine Word.lt_of_hasBit (k := 9) (fun i hi => ?_)
  by_cases h : i < 16
  · rw [hasBit_course _ _ h, octet_hasBit_of_le (Nat.le_of_succ_le hi)]
    simp [Nat.ne_of_gt (Nat.lt_of_lt_of_le (Nat.lt_succ_self 8) hi)]
  · exact Word.hasBit_of_lt (course high low).toNat_lt (Nat.le_of_not_lt h)

/-- The low octet of a course is found in it again. -/
theorem course_toUInt8 (high : Bool) (low : UInt8) :
    (course high low).toUInt8 = low := by
  refine Octet.ext (fun i hi => ?_)
  rw [Word.hasBit_toUInt8 hi, hasBit_course _ _ (Nat.lt_trans hi (by decide))]
  simp [Nat.ne_of_lt hi]

/-- The high bit of a course is found in it again. -/
theorem course_hasBit_high (high : Bool) (low : UInt8) :
    Word.hasBit (course high low) 8 = high := by
  rw [hasBit_course _ _ (by decide), octet_hasBit_of_le (Nat.le_refl 8)]
  simp

/-- A course of nine bits is its high bit and its low octet. -/
theorem course_parts {c : UInt16} (h : c.toNat < 512) :
    course (Word.hasBit c 8) c.toUInt8 = c := by
  refine Word.ext (fun i hi => ?_)
  rw [hasBit_course _ _ hi]
  have hcases : i < 8 ∨ i = 8 ∨ 9 ≤ i := by omega
  rcases hcases with h8 | rfl | h9
  · rw [Word.hasBit_toUInt8 h8]
    simp [Nat.ne_of_lt h8]
  · rw [octet_hasBit_of_le (Nat.le_refl 8)]
    simp
  · rw [octet_hasBit_of_le (Nat.le_of_succ_le h9),
      Word.hasBit_of_lt (k := 9) h h9]
    simp [Nat.ne_of_gt (Nat.lt_of_lt_of_le (Nat.lt_succ_self 8) h9)]

/-! ## The whole fix -/

/-- Every field fits into its bits. A fix that was read does; one that is made
may not, and then it is not written. -/
structure Fits (p : Fix) : Prop where
  speed : p.speed.toNat < 16384
  direction : p.direction.toNat < 512
  odometer : p.odometer.toNat < 16777216
  altitude : ∀ a ∈ p.altitude, a.toNat < 16777216

/-- The flag byte on the wire. -/
def flagByte (p : Fix) : UInt8 :=
  if p.altitude.isSome then p.flags ||| altitudeMask else p.flags
    &&& ~~~altitudeMask

/-- The octets of a fix whose fields fit. -/
def octets (p : Fix) : Bytes :=
  Bytes.ofUInt32 p.navigationTime ++ Bytes.ofUInt32 p.latitudeRaw
    ++ Bytes.ofUInt32 p.longitudeRaw ++ [p.flagByte]
    ++ Bytes.ofUInt16
      (speedWord p.speed p.altitudeNegative (Word.hasBit p.direction 8))
    ++ [p.direction.toUInt8] ++ Bytes.ofUInt24 p.odometer
    ++ [p.digitalInputs, p.source]
    ++ p.altitude.elim [] Bytes.ofUInt24 ++ p.sourceData.elim [] Bytes.ofUInt16

/-- A choice by a mask of one bit is a choice by that bit. -/
theorem if_and_eq_zero {w m x y : UInt16} {k : Nat} (hk : k < 16)
    (hm : ∀ i < 16, Word.hasBit m i = decide (i = k)) :
    (if w &&& m = 0 then x else y) = if Word.hasBit w k then y else x := by
  simp only [Word.and_eq_zero_iff hk hm]
  cases Word.hasBit w k <;> rfl

/-- A flag taken with a mask of one bit is that bit. -/
theorem decide_and_ne_zero {w m : UInt16} {k : Nat} (hk : k < 16)
    (hm : ∀ i < 16, Word.hasBit m i = decide (i = k)) :
    decide (w &&& m ≠ 0) = Word.hasBit w k := by
  simp only [ne_eq, Word.and_eq_zero_iff hk hm]
  cases Word.hasBit w k <;> rfl

/-- **A fix is written exactly if its fields fit**, and then as its octets
say. The two cases are that an altitude is there and that none is, since only
the first has an altitude to check. -/
theorem encode_eq_ok {p : Fix} : p.encode = .ok d ↔ p.Fits ∧ p.octets = d := by
  unfold encode octets flagByte speedWord
  rw [if_and_eq_zero (by decide) hasBit_courseMask]
  cases ha : p.altitude with
  | none =>
    simp only [Writing.bind_eq_ok, Writing.fitBits_eq_ok, Writing.pure_eq_ok,
      exists_const]
    constructor
    · rintro ⟨hs, hd, ho, rfl⟩
      exact ⟨⟨hs, hd, ho, by simp [ha]⟩, rfl⟩
    · rintro ⟨⟨hs, hd, ho, -⟩, rfl⟩
      exact ⟨hs, hd, ho, rfl⟩
  | some a =>
    simp only [Writing.bind_eq_ok, Writing.fitBits_eq_ok, Writing.pure_eq_ok,
      exists_const]
    constructor
    · rintro ⟨hs, hd, ho, hal, rfl⟩
      exact ⟨⟨hs, hd, ho, by simpa [ha] using hal⟩, rfl⟩
    · rintro ⟨⟨hs, hd, ho, hal⟩, rfl⟩
      exact ⟨hs, hd, ho, hal a ha, rfl⟩

/-- Clearing the altitude flag leaves it clear, and the flag of an altitude
that is there sets it again. -/
theorem flagByte_of_clear : ∀ b : UInt8,
    (if Octet.hasBit b altitudeBit then (b &&& ~~~altitudeMask) ||| altitudeMask
      else (b &&& ~~~altitudeMask) &&& ~~~altitudeMask) = b := by
  decide +kernel

/-- A flag byte without the altitude flag gets it for an altitude, and then
gives it back when it is cleared. -/
theorem flagByte_hasBit : ∀ b : UInt8, Octet.hasBit b altitudeBit = false →
    ∀ present : Bool,
      Octet.hasBit (if present then b ||| altitudeMask
        else b &&& ~~~altitudeMask) altitudeBit
        = present
      ∧ (if present then b ||| altitudeMask else b &&& ~~~altitudeMask)
        &&& ~~~altitudeMask
        = b := by
  decide +kernel

/-- What is read has the altitude flag cleared. -/
theorem clear_hasBit :
    ∀ b : UInt8, Octet.hasBit (b &&& ~~~altitudeMask) altitudeBit = false := by
  decide +kernel

/-- **A fix is read from what is written for it**, if it leaves the altitude
flag to the altitude. From left to right the fields that were read fit, and
are put together to the octets that they were read from; from right to left
each field is found where it was written. A fix that sets the flag itself is
written like the one that does not, so only one of the two is read. -/
theorem decode_eq_ok {p : Fix} :
    decode d = .ok p
      ↔ Octet.hasBit p.flags altitudeBit = false ∧ p.encode = .ok d := by
  rw [encode_eq_ok]
  unfold decode
  simp only [Reader.whole_eq_ok, Reader.bind_eq_ok, Reader.u32_eq_ok,
    Reader.u24_eq_ok, Reader.u16_eq_ok, Reader.u8_eq_ok,
    Reader.takes_u24.whenFlag, Reader.takes_u16.whenFlag,
    Reader.atEnd_eq_ok, Reader.pure_eq_ok]
  constructor
  · rintro ⟨ntm, _, rfl, lat, _, rfl, long, _, rfl, flg, _, rfl, spd, _, rfl,
      dir, _, rfl, odm, _, ⟨ho, rfl⟩, din, _, rfl, src, _, rfl, alt, _,
      ⟨hpresent, ha, rfl⟩, _, _, ⟨rfl, rfl⟩, srcd, _, ⟨-, -, rfl⟩, rfl, rfl⟩
    have hdir : (if spd &&& 0x8000 = 0 then (0 : UInt16) else 0x100)
      ||| dir.toUInt16
        = course (Word.hasBit spd 15) dir := by
      rw [if_and_eq_zero (by decide) hasBit_highMask, course]
    have hneg : decide (spd &&& 0x4000 ≠ 0) = Word.hasBit spd 14 :=
      decide_and_ne_zero (by decide) hasBit_signMask
    refine ⟨clear_hasBit flg, ⟨speedWord_lt spd, ?_, ho, ha⟩, ?_⟩
    · rw [hdir]
      exact course_lt _ _
    · unfold octets flagByte
      simp only [hdir, hneg, course_hasBit_high, course_toUInt8,
        speedWord_parts, hpresent, flagByte_of_clear]
      simp only [List.append_assoc, List.cons_append, List.nil_append,
        List.append_nil]
  · rintro ⟨hclear, ⟨hs, hd, ho, ha⟩, rfl⟩
    -- The flag is clear in the value, so the altitude alone decides it on the
    -- wire.
    obtain ⟨hflag, hflags⟩ := flagByte_hasBit p.flags hclear p.altitude.isSome
    have hdir :
      (if speedWord p.speed p.altitudeNegative (Word.hasBit p.direction 8)
          &&& 0x8000 = 0
        then (0 : UInt16) else 0x100) ||| p.direction.toUInt8.toUInt16
        = p.direction := by
      rw [if_and_eq_zero (by decide) hasBit_highMask, speedWord_hasBit_high hs]
      exact course_parts hd
    have hneg :
      decide (speedWord p.speed p.altitudeNegative (Word.hasBit p.direction 8)
        &&& 0x4000 ≠ 0) = p.altitudeNegative := by
      rw [decide_and_ne_zero (by decide) hasBit_signMask,
        speedWord_hasBit_sign hs]
    refine ⟨p.navigationTime, _, ?_, p.latitudeRaw, _, rfl, p.longitudeRaw, _,
      rfl, p.flagByte, _, rfl,
      speedWord p.speed p.altitudeNegative (Word.hasBit p.direction 8), _, rfl,
      p.direction.toUInt8, _, rfl, p.odometer, _, ⟨ho, rfl⟩, p.digitalInputs, _,
      rfl, p.source, _, rfl, p.altitude, _, ⟨hflag.symm, ha, rfl⟩, _, _,
      ⟨rfl, rfl⟩, p.sourceData, _, ⟨?_, by simp, (List.append_nil _).symm⟩, ?_,
      rfl⟩
    · unfold octets
      simp only [List.append_assoc, List.cons_append, List.nil_append]
    · cases p.sourceData with
      | none => rfl
      | some w => simp [Bytes.ofUInt16, Bytes.ofNat]
    · rw [hdir, hneg, speedWord_and_speedMask hs]
      unfold flagByte
      rw [hflags]

end Fix

namespace FixQuality

/-- The flag bits that stand for a field. -/
def knownFlags : UInt8 := 0x1F

/-- **The flags say which fields are there**, one bit for each of the five. -/
theorem flags_eq_iff {q : FixQuality} {b : UInt8} :
    q.flags = b &&& knownFlags ↔
      q.vdop.isSome = Octet.hasBit b 0 ∧ q.hdop.isSome = Octet.hasBit b 1
        ∧ q.pdop.isSome = Octet.hasBit b 2
        ∧ q.satellites.isSome = Octet.hasBit b 3
        ∧ q.navigationSystem.isSome = Octet.hasBit b 4 := by
  have hbits : ∀ b : UInt8,
    Octet.ofBits [Octet.hasBit b 0, Octet.hasBit b 1, Octet.hasBit b 2,
      Octet.hasBit b 3, Octet.hasBit b 4]
        = b &&& knownFlags := by decide +kernel
  have hinj : ∀ v h p s n v' h' p' s' n' : Bool,
      Octet.ofBits [v, h, p, s, n] = Octet.ofBits [v', h', p', s', n'] ↔
        v = v' ∧ h = h' ∧ p = p' ∧ s = s' ∧ n = n' := by decide +kernel
  rw [← hbits, flags, hinj]

/-- What is written has no flags beyond those of the five fields. -/
theorem flags_and_knownFlags (q : FixQuality) :
    q.flags &&& knownFlags = q.flags := by
  have hbits : ∀ v h p s n : Bool,
      Octet.ofBits [v, h, p, s, n] &&& knownFlags
        = Octet.ofBits [v, h, p, s, n] := by decide
  exact hbits _ _ _ _ _

/-- **The quality of a fix** is read from octets whose first, without its
three high bits, begins what is written for it. So reading is not injective
here: octets that differ in these bits are read alike, and written back
without them. -/
theorem decode_eq_ok {q : FixQuality} :
    decode d = .ok q ↔ ∃ flags rest, d = flags :: rest
      ∧ q.encode = (flags &&& knownFlags) :: rest := by
  unfold decode encode
  simp only [Reader.whole_eq_ok, Reader.bind_eq_ok, Reader.u8_eq_ok,
    Reader.takes_u16.whenFlag, Reader.takes_u8.whenFlag, Reader.pure_eq_ok,
    List.cons.injEq]
  constructor
  · rintro ⟨b, _, rfl, v, _, ⟨hv, -, rfl⟩, h, _, ⟨hh, -, rfl⟩, p, _,
      ⟨hp, -, rfl⟩, s, _, ⟨hs, -, rfl⟩, n, _, ⟨hn, -, rfl⟩, rfl, rfl⟩
    refine ⟨b, _, rfl, flags_eq_iff.2 ⟨hv, hh, hp, hs, hn⟩, ?_⟩
    simp only [List.append_assoc, List.append_nil]
  · rintro ⟨b, rest, rfl, hb, rfl⟩
    obtain ⟨hv, hh, hp, hs, hn⟩ := flags_eq_iff.1 hb
    refine ⟨b, _, rfl, q.vdop, _, ⟨hv, by simp, ?_⟩, q.hdop, _,
      ⟨hh, by simp, rfl⟩,
      q.pdop, _, ⟨hp, by simp, rfl⟩, q.satellites, _, ⟨hs, by simp, rfl⟩,
      q.navigationSystem, _, ⟨hn, by simp, (List.append_nil _).symm⟩, rfl, rfl⟩
    simp only [List.append_assoc]

end FixQuality

end Telematics
