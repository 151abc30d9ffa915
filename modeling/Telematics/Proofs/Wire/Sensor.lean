import Telematics.Wire.Sensor
import Telematics.Proofs.Wire.Reading
import Telematics.Proofs.Wire.Writing

/-!
# Sensor payloads are read and written alike

Eight optional places behind a flag byte are read from exactly the octets that
are written for them, because the flags of the places are the bits that the
places were read by. What is left for each payload is its own packing:
reserved flags around three known ones, a number across two octets, a unit
between two bit fields. Passenger counters that were sent raw are the one
payload whose octets say more than the value keeps, namely which doors the
sensor has.

The places are treated once, for a field of any kind (`Slots.read_eq_ok`);
inputs, outputs, counters and doors only name their field. Packings within one
octet are settled by going through its values. The number of an input, which
lies across two octets, is not: there the packing is put as arithmetic, since
a shift by four bits is a multiplication and the low bits are a remainder.
-/

namespace Telematics

variable {d t : Bytes}

/-! ## Places -/

namespace Slots

variable {α : Type} {r : Reader α} {bound : α → Prop} {write : α → Bytes}

/-- Optional fields one after the other, each behind its flag. By induction on
the flags. -/
theorem mapM_whenFlag_eq_ok (h : r.Takes bound write) {bits : List Bool}
    {os : List (Option α)} :
    (bits.mapM (Reader.whenFlag · r)) d = .ok (os, t)
      ↔ os.map Option.isSome = bits ∧ (∀ a ∈ os.filterMap id, bound a)
        ∧ d = (os.filterMap id).flatMap write ++ t := by
  induction bits generalizing d os t with
  | nil =>
    rw [List.mapM_nil, Reader.pure_eq_ok, List.map_eq_nil_iff]
    constructor
    · rintro ⟨rfl, rfl⟩
      simp
    · rintro ⟨rfl, -, rfl⟩
      simp
  | cons b bits ih =>
    rw [List.mapM_cons]
    simp only [Reader.bind_eq_ok, h.whenFlag, ih, Reader.pure_eq_ok]
    constructor
    · rintro ⟨o, _, ⟨rfl, ho, rfl⟩, os, _, ⟨rfl, hos, rfl⟩, rfl, rfl⟩
      cases o with
      | none => exact ⟨rfl, hos, rfl⟩
      | some a =>
        refine ⟨rfl, List.forall_mem_cons.2 ⟨ho a rfl, hos⟩, ?_⟩
        exact (List.append_assoc _ _ _).symm
    · rintro ⟨hb, hbound, rfl⟩
      cases os with
      | nil => cases hb
      | cons o os =>
        obtain ⟨rfl, rfl⟩ := List.cons.inj hb
        cases o with
        | none =>
          exact ⟨none, _, ⟨rfl, by simp, rfl⟩, os, t, ⟨rfl, hbound, rfl⟩,
            rfl, rfl⟩
        | some a =>
          obtain ⟨ha, hos⟩ := List.forall_mem_cons.1 hbound
          exact ⟨some a, _, ⟨rfl, by simpa using ha, List.append_assoc _ _ _⟩,
            os, t, ⟨rfl, hos, rfl⟩, rfl, rfl⟩

/-- The places are read off the bits of the flag byte. -/
theorem toList_map_read (flags : UInt8) (r : Reader α) :
    Vector.toList <$> read flags r
      = ((List.range 8).map (Octet.hasBit flags)).mapM
        (Reader.whenFlag · r) := by
  have hlist : (Vector.finRange 8).toList.map Fin.val = List.range 8 := by
    decide
  rw [← hlist, List.map_map, List.mapM_map, ← Vector.toList_toArray,
    ← Array.toList_mapM, ← Vector.toArray_mapM, ← LawfulFunctor.comp_map]
  rfl

/-- **The places are read from what is written for them**, behind their own
flag byte. -/
theorem read_eq_ok (h : r.Takes bound write) {flags : UInt8} {s : Slots α} :
    read flags r d = .ok (s, t)
      ↔ s.flags = flags ∧ (∀ a ∈ s.filled, bound a)
        ∧ d = s.filled.flatMap write ++ t := by
  have hlist : read flags r d = .ok (s, t)
      ↔ (Vector.toList <$> read flags r) d = .ok (s.toList, t) := by
    rw [Reader.map_eq_ok]
    constructor
    · intro hs
      exact ⟨s, hs, rfl⟩
    · rintro ⟨s', hs, heq⟩
      rw [Vector.toList_inj] at heq
      exact heq ▸ hs
  rw [hlist, toList_map_read, mapM_whenFlag_eq_ok h, Slots.flags,
    Octet.ofBits_eq_iff (by simp)]
  rfl

/-- Octets in the places are written as they are. -/
theorem flatMap_singleton_filled (s : Slots UInt8) :
    s.filled.flatMap (fun b => [b]) = s.filled :=
      List.flatMap_singleton' s.filled

/-- Numbers in the places are written if each has twenty-four bits. -/
theorem encodeUInt24_eq_ok {field : String} {s : Slots UInt32} :
    s.encodeUInt24 field = .ok d
      ↔ (∀ a ∈ s.filled, a.toNat < 16777216)
        ∧ d = s.filled.flatMap Bytes.ofUInt24 := by
  refine Writing.flatten_mapM_eq_ok (fun a w => ?_)
  simp only [Telematics.encodeUInt24, Writing.bind_eq_ok, Writing.fitBits_eq_ok,
    Writing.pure_eq_ok, exists_const, @eq_comm _ w]

end Slots

namespace AdSensors

/-- **Inputs, outputs and analog sensors** are read from what is written for
them. -/
theorem decode_eq_ok {p : AdSensors} : decode d = .ok p ↔ p.encode = .ok d := by
  unfold decode encode
  simp only [Reader.whole_eq_ok, Reader.bind_eq_ok, Reader.u8_eq_ok,
    Slots.read_eq_ok Reader.takes_u8, Slots.read_eq_ok Reader.takes_u24,
    Reader.pure_eq_ok,
    Writing.bind_eq_ok, Slots.encodeUInt24_eq_ok, Writing.pure_eq_ok,
    Slots.flatMap_singleton_filled]
  constructor
  · rintro ⟨_, _, rfl, out, _, rfl, _, _, rfl, din, _, ⟨rfl, -, rfl⟩, an, _,
      ⟨rfl, han, rfl⟩, rfl, rfl⟩
    refine ⟨_, ⟨han, rfl⟩, ?_⟩
    simp only [List.cons_append, List.nil_append, List.append_nil]
  · rintro ⟨_, ⟨han, rfl⟩, rfl⟩
    exact ⟨_, _, rfl, p.digitalOutputs, _, rfl, _, _, rfl, p.digitalInputs, _,
      ⟨rfl, fun _ _ => trivial, rfl⟩, p.analogSensors, _,
      ⟨rfl, han, (List.append_nil _).symm⟩, rfl, rfl⟩

end AdSensors

namespace Counters

/-- **Counters** are read from what is written for them. -/
theorem decode_eq_ok {p : Counters} : decode d = .ok p ↔ p.encode = .ok d := by
  unfold decode encode
  simp only [Reader.whole_eq_ok, Reader.bind_eq_ok, Reader.u8_eq_ok,
    Slots.read_eq_ok Reader.takes_u24, Reader.pure_eq_ok, Writing.bind_eq_ok,
    Slots.encodeUInt24_eq_ok, Writing.pure_eq_ok]
  constructor
  · rintro ⟨_, _, rfl, c, _, ⟨rfl, hc, rfl⟩, rfl, rfl⟩
    exact ⟨_, ⟨hc, rfl⟩, by rw [List.append_nil]⟩
  · rintro ⟨_, ⟨hc, rfl⟩, rfl⟩
    exact ⟨_, _, rfl, p.counters, _, ⟨rfl, hc, (List.append_nil _).symm⟩,
      rfl, rfl⟩

end Counters

namespace LoopInputs

/-- **Loop inputs** are read from what is written for them. -/
theorem decode_eq_ok {p : LoopInputs} : decode d = .ok p ↔ p.encode = d := by
  unfold decode encode
  simp only [Reader.whole_eq_ok, Reader.bind_eq_ok, Reader.u8_eq_ok,
    Slots.read_eq_ok Reader.takes_u8, Reader.pure_eq_ok,
    Slots.flatMap_singleton_filled]
  constructor
  · rintro ⟨_, _, rfl, s, _, ⟨rfl, -, rfl⟩, rfl, rfl⟩
    rw [List.append_nil]
  · rintro rfl
    exact ⟨_, _, rfl, p.states, _,
      ⟨rfl, fun _ _ => trivial, (List.append_nil _).symm⟩, rfl, rfl⟩

end LoopInputs

/-! ## Bit fields -/

namespace PowerState

/-- The flag byte with reserved bits. -/
def flagByte (backup internal navigation : Bool) (reserved : UInt8) : UInt8 :=
  Octet.ofBits [backup, internal, navigation] ||| reserved &&& ~~~flagMask

/-- The parts of the flag byte make it up again. -/
theorem flagByte_parts : ∀ b : UInt8,
    flagByte (Octet.hasBit b 0) (Octet.hasBit b 1) (Octet.hasBit b 2)
      (b &&& ~~~flagMask) = b := by
  decide +kernel

/-- Reserved flags that were read leave the known ones alone. -/
theorem reserved_and_mask :
    ∀ b : UInt8, (b &&& ~~~flagMask) &&& flagMask = 0 := by
  decide +kernel

/-- The parts of the flag byte are found in it again, if the reserved flags
leave the known ones alone. -/
theorem hasBit_flagByte : ∀ r : UInt8, r &&& flagMask = 0 → ∀ b i n : Bool,
    Octet.hasBit (flagByte b i n r) 0 = b
      ∧ Octet.hasBit (flagByte b i n r) 1 = i
      ∧ Octet.hasBit (flagByte b i n r) 2 = n
      ∧ flagByte b i n r &&& ~~~flagMask = r := by
  decide +kernel

/-- **The state of the terminal** is read from what is written for it, if its
reserved flags leave the known ones alone. A known flag that is also among the
reserved ones would be written twice. -/
theorem decode_eq_ok {p : PowerState} :
    decode d = .ok p ↔ p.reservedFlags &&& flagMask = 0 ∧ p.encode = d := by
  unfold decode encode
  simp only [Reader.whole_eq_ok, Reader.bind_eq_ok, Reader.u8_eq_ok,
    Reader.pure_eq_ok]
  constructor
  · rintro ⟨st, _, rfl, mps, _, rfl, bb, _, rfl, ib, _, rfl, f, _, rfl,
      rfl, rfl⟩
    have hf := flagByte_parts f
    rw [flagByte] at hf
    exact ⟨reserved_and_mask f, by simp only [hf]⟩
  · rintro ⟨hr, rfl⟩
    obtain ⟨hb, hi, hn, hres⟩ :=
      hasBit_flagByte p.reservedFlags hr p.backupBatteryUsed
      p.internalBatteryUsed p.navigationEnabled
    rw [flagByte] at hb hi hn hres
    refine ⟨p.state, _, rfl, p.mainPowerVoltage, _, rfl, p.backupBatteryVoltage,
      _, rfl, p.internalBatteryVoltage, _, rfl, _, _, rfl, ?_, rfl⟩
    rw [hb, hi, hn, hres]

end PowerState

namespace InputState

variable {low high field : String}

/-- The number and the state fit into their bits. -/
structure Fits (p : InputState) : Prop where
  number : p.number.toNat < 4096
  state : p.state.toNat < 16

/-- The octet of the state and the low bits of the number. -/
def lowOctet (p : InputState) : UInt8 :=
  (p.number &&& 0x0F).toUInt8 <<< 4 ||| p.state

/-- The high bits of the number. -/
def highOctet (p : InputState) : UInt8 := (p.number >>> 4).toUInt8

/-- A number shifted by four bits leaves them to another. -/
theorem shiftLeft_or (a : Nat) {b : Nat} (hb : b < 16) :
    a <<< 4 ||| b = 16 * a + b := by
  rw [← Nat.shiftLeft_add_eq_or_of_lt (i := 4) hb, Nat.shiftLeft_eq]
  omega

/-- The low octet holds the state and the low four bits of the number. -/
theorem toNat_lowOctet {p : InputState} (h : p.Fits) :
    p.lowOctet.toNat = 16 * (p.number.toNat % 16) + p.state.toNat := by
  have hmod : p.number.toNat &&& 15 = p.number.toNat % 16 :=
    Nat.and_two_pow_sub_one_eq_mod p.number.toNat 4
  have hfour : (4 : UInt8).toNat % 8 = 4 := rfl
  have hshift : (p.number.toNat % 16 % 256) <<< 4 % 256
      = (p.number.toNat % 16) <<< 4 := by
    simp only [Nat.shiftLeft_eq]
    omega
  have hand : (p.number &&& 0x0F).toNat = p.number.toNat % 16 := by
    rw [UInt16.toNat_and]
    exact hmod
  rw [lowOctet, UInt8.toNat_or, UInt8.toNat_shiftLeft, UInt16.toNat_toUInt8,
    hand, hfour]
  exact (congrArg (· ||| p.state.toNat) hshift).trans (shiftLeft_or _ h.state)

/-- The high octet holds the other eight. -/
theorem toNat_highOctet {p : InputState} (h : p.Fits) :
    p.highOctet.toNat = p.number.toNat / 16 := by
  have hlt := h.number
  rw [highOctet, UInt16.toNat_toUInt8, UInt16.toNat_shiftRight]
  have hdiv : p.number.toNat >>> ((4 : UInt16).toNat % 16)
      = p.number.toNat / 16 :=
    Nat.shiftRight_eq_div_pow p.number.toNat 4
  rw [hdiv]
  omega

/-- The number that the two octets hold. -/
theorem toNat_number (b0 b1 : UInt8) :
    (b1.toUInt16 <<< 4 ||| (b0 >>> 4).toUInt16).toNat
      = 16 * b1.toNat + b0.toNat / 16 := by
  have h0 : b0.toNat < 256 := b0.toNat_lt
  have h1 : b1.toNat < 256 := b1.toNat_lt
  have hlow : ((b0 >>> 4).toUInt16).toNat = b0.toNat / 16 := by
    rw [UInt8.toNat_toUInt16, UInt8.toNat_shiftRight]
    exact Nat.shiftRight_eq_div_pow b0.toNat 4
  have hhigh : (b1.toUInt16 <<< 4).toNat = b1.toNat <<< 4 := by
    rw [UInt16.toNat_shiftLeft, UInt8.toNat_toUInt16]
    show b1.toNat <<< 4 % 65536 = b1.toNat <<< 4
    rw [Nat.shiftLeft_eq]
    omega
  rw [UInt16.toNat_or, hlow, hhigh]
  exact shiftLeft_or _ (by omega)

/-- The state that an octet holds. -/
theorem toNat_state (b0 : UInt8) : (b0 &&& 0x0F).toNat = b0.toNat % 16 := by
  rw [UInt8.toNat_and]
  exact Nat.and_two_pow_sub_one_eq_mod b0.toNat 4

/-- **An input's state** is read from its two octets. -/
theorem read_eq_ok {p : InputState} :
    read low high d = .ok (p, t)
      ↔ p.Fits ∧ d = p.lowOctet :: p.highOctet :: t := by
  unfold read
  simp only [Reader.bind_eq_ok, Reader.u8_eq_ok, Reader.pure_eq_ok]
  constructor
  · rintro ⟨b0, _, rfl, b1, _, rfl, rfl, rfl⟩
    have h0 : b0.toNat < 256 := b0.toNat_lt
    have h1 : b1.toNat < 256 := b1.toNat_lt
    have hfits : Fits
        ⟨b1.toUInt16 <<< 4 ||| (b0 >>> 4).toUInt16, b0 &&& 0x0F⟩ :=
      ⟨by rw [toNat_number]; omega, by rw [toNat_state]; omega⟩
    refine ⟨hfits, ?_⟩
    rw [List.cons.injEq, List.cons.injEq, ← UInt8.toNat_inj, ← UInt8.toNat_inj,
      toNat_lowOctet hfits, toNat_highOctet hfits]
    simp only [toNat_number, toNat_state]
    exact ⟨by omega, by omega, trivial⟩
  · rintro ⟨h, rfl⟩
    have hnum := h.number
    have hst := h.state
    have hnumber : p.highOctet.toUInt16 <<< 4 ||| (p.lowOctet >>> 4).toUInt16
        = p.number := by
      rw [← UInt16.toNat_inj, toNat_number, toNat_lowOctet h, toNat_highOctet h]
      omega
    have hstate : p.lowOctet &&& 0x0F = p.state := by
      rw [← UInt8.toNat_inj, toNat_state, toNat_lowOctet h]
      omega
    exact ⟨p.lowOctet, _, rfl, p.highOctet, _, rfl,
      by rw [hnumber, hstate], rfl⟩

/-- An input's state is written if number and state fit. -/
theorem encode_eq_ok {p : InputState} :
    p.encode field = .ok d ↔ p.Fits ∧ [p.lowOctet, p.highOctet] = d := by
  unfold encode lowOctet highOctet
  simp only [Writing.bind_eq_ok, Writing.fitBits_eq_ok, Writing.pure_eq_ok,
    exists_const]
  constructor
  · rintro ⟨hn, hs, rfl⟩
    exact ⟨⟨hn, hs⟩, rfl⟩
  · rintro ⟨⟨hn, hs⟩, rfl⟩
    exact ⟨hn, hs, rfl⟩

theorem whole_read_eq_ok {unit : String} {p : InputState} :
    Reader.whole unit (read low high) d = .ok p ↔ p.encode field = .ok d := by
  rw [Reader.whole_eq_ok, read_eq_ok, encode_eq_ok, eq_comm (a := d)]

end InputState

namespace NumberedValue

variable {number value field : String}

/-- **A numbered value** is read from what is written for it. -/
theorem whole_read_eq_ok {unit : String} {p : NumberedValue} :
    Reader.whole unit (read number value) d = .ok p
      ↔ p.encode field = .ok d := by
  unfold read encode encodeUInt24
  simp only [Reader.whole_eq_ok, Reader.bind_eq_ok, Reader.u8_eq_ok,
    Reader.u24_eq_ok, Reader.pure_eq_ok, Writing.bind_eq_ok,
    Writing.fitBits_eq_ok, Writing.pure_eq_ok, exists_const]
  constructor
  · rintro ⟨n, _, rfl, v, _, ⟨hv, rfl⟩, rfl, rfl⟩
    exact ⟨_, ⟨hv, rfl⟩, by rw [List.append_nil]⟩
  · rintro ⟨_, ⟨hv, rfl⟩, rfl⟩
    exact ⟨p.number, _, rfl, p.value, _, ⟨hv, (List.append_nil _).symm⟩,
      rfl, rfl⟩

end NumberedValue

/-! ## Levels and passengers -/

namespace LiquidReading

/-- The sensor's own octets. -/
def isRaw : LiquidReading → Bool
  | value _ => false
  | raw _ => true

/-- Raw data within its bound. -/
def Fits : LiquidReading → Prop
  | value _ => True
  | raw a => a.length ≤ LiquidSensor.maxRaw

/-- The octets of the reading. -/
def octets : LiquidReading → Bytes
  | value level => Bytes.ofUInt32 level
  | raw a => a

end LiquidReading

namespace LiquidSensor

/-- Raw data are accepted within their bound. -/
theorem checkRaw_eq_ok {a : Bytes} {u : Unit} :
    checkRaw a = .ok u ↔ a.length ≤ maxRaw := by
  unfold checkRaw
  split <;> simp_all

/-- The reading is what is left of the payload. -/
theorem readReading_eq_ok {raw : Bool} {x : LiquidReading} :
    readReading raw d = .ok (x, [])
      ↔ x.isRaw = raw ∧ x.Fits ∧ d = x.octets := by
  unfold readReading
  cases raw with
  | false =>
    rw [if_neg Bool.false_ne_true, Reader.map_eq_ok]
    simp only [Reader.u32_eq_ok, List.append_nil]
    constructor
    · rintro ⟨l, rfl, rfl⟩
      exact ⟨rfl, trivial, rfl⟩
    · rintro ⟨hraw, -, rfl⟩
      cases x with
      | value l => exact ⟨l, rfl, rfl⟩
      | raw a => cases hraw
  | true =>
    rw [if_pos rfl]
    simp only [Reader.bind_eq_ok, Reader.rest_eq_ok, Reader.liftM_eq_ok,
      checkRaw_eq_ok, Reader.pure_eq_ok, exists_const]
    constructor
    · rintro ⟨a, _, ⟨rfl, rfl⟩, _, ⟨ha, rfl⟩, rfl, -⟩
      exact ⟨rfl, ha, rfl⟩
    · rintro ⟨hraw, ha, rfl⟩
      cases x with
      | value l => cases hraw
      | raw a => exact ⟨a, [], ⟨rfl, rfl⟩, [], ⟨ha, rfl⟩, rfl, rfl⟩

/-- The flag byte, from the number, the flags and the unit. -/
def flagByte (number : UInt8) (raw error reserved : Bool) (unit : LiquidUnit) :
    UInt8 :=
  Octet.ofBits [false, false, false, raw, false, false, error, reserved]
    ||| unit.bits <<< 4 ||| number

/-- The parts of the flag byte make it up again. -/
theorem flagByte_parts : ∀ b : UInt8,
    flagByte (b &&& 0x07) (Octet.hasBit b 3) (Octet.hasBit b 6)
      (Octet.hasBit b 7)
      (LiquidUnit.ofBits (b >>> 4)) = b := by
  decide +kernel

theorem number_lt : ∀ b : UInt8, (b &&& 0x07).toNat < 8 := by
  decide +kernel

/-- The parts of the flag byte are found in it again. -/
theorem flagByte_fields {number : UInt8} (h : number.toNat < 8)
    (raw error reserved : Bool) (unit : LiquidUnit) :
    flagByte number raw error reserved unit &&& 0x07 = number
      ∧ Octet.hasBit (flagByte number raw error reserved unit) 3 = raw
      ∧ Octet.hasBit (flagByte number raw error reserved unit) 6 = error
      ∧ Octet.hasBit (flagByte number raw error reserved unit) 7 = reserved
      ∧ LiquidUnit.ofBits (flagByte number raw error reserved unit >>> 4)
        = unit := by
  revert number raw error reserved
  cases unit <;> decide +kernel

/-- The flags that are written are the flag byte of the parts. -/
theorem flags_eq (p : LiquidSensor) :
    p.flags = flagByte p.number p.reading.isRaw p.error p.reserved p.unit := by
  unfold flags value? flagByte
  cases p.reading <;> rfl

/-- A liquid level is written if its number and its reading fit. -/
theorem encode_eq_ok {p : LiquidSensor} :
    p.encode = .ok d ↔ (p.number.toNat < 8 ∧ p.reading.Fits)
      ∧ p.flags :: Bytes.ofUInt16 p.moduleAddress ++ p.reading.octets = d := by
  unfold encode
  cases p.reading with
  | value l =>
    simp only [Writing.bind_eq_ok, Writing.fitBits_eq_ok, Writing.pure_eq_ok,
      exists_const]
    constructor
    · rintro ⟨hn, _, rfl, rfl⟩
      exact ⟨⟨hn, trivial⟩, rfl⟩
    · rintro ⟨⟨hn, -⟩, rfl⟩
      exact ⟨hn, _, rfl, rfl⟩
  | raw a =>
    simp only [Writing.bind_eq_ok, Writing.fitBits_eq_ok, checkRaw_eq_ok,
      Writing.pure_eq_ok, exists_const]
    constructor
    · rintro ⟨hn, ha, _, rfl, rfl⟩
      exact ⟨⟨hn, ha⟩, rfl⟩
    · rintro ⟨⟨hn, ha⟩, rfl⟩
      exact ⟨hn, ha, _, rfl, rfl⟩

/-- **A liquid level** is read from what is written for it. -/
theorem decode_eq_ok {p : LiquidSensor} :
    decode d = .ok p ↔ p.encode = .ok d := by
  rw [encode_eq_ok, flags_eq]
  unfold decode
  simp only [Reader.whole_eq_ok, Reader.bind_eq_ok, Reader.u8_eq_ok,
    Reader.u16_eq_ok, Reader.pure_eq_ok]
  constructor
  · rintro ⟨b, _, rfl, m, _, rfl, x, _, hx, rfl, rfl⟩
    obtain ⟨hraw, hfits, rfl⟩ := readReading_eq_ok.1 hx
    refine ⟨⟨number_lt b, hfits⟩, ?_⟩
    simp only [hraw, flagByte_parts, List.cons_append]
  · rintro ⟨⟨hn, hfits⟩, rfl⟩
    obtain ⟨hnum, hraw, herr, hres, hunit⟩ :=
      flagByte_fields hn p.reading.isRaw p.error p.reserved p.unit
    refine ⟨_, _, rfl, p.moduleAddress, _, rfl, p.reading, [],
      readReading_eq_ok.2 ⟨hraw.symm, hfits, rfl⟩, ?_, rfl⟩
    rw [hnum, herr, hres, hunit]

end LiquidSensor

/-- The two counts of a door. -/
def Passengers.doorOctets (c : UInt8 × UInt8) : Bytes := [c.1, c.2]

namespace PassengerCounts

/-- The sensor's own octets. -/
def isRaw : PassengerCounts → Bool
  | doors _ => false
  | raw _ => true

/-- The flags of the doors that there are counts of. -/
def doorFlags : PassengerCounts → UInt8
  | doors counts => counts.flags
  | raw _ => 0

/-- The octets of the counts. -/
def octets : PassengerCounts → Bytes
  | doors counts => counts.filled.flatMap Passengers.doorOctets
  | raw a => a

end PassengerCounts

namespace Passengers

/-- A door is read from its two counts. -/
theorem takes_door : readDoor.Takes (fun _ => True) doorOctets :=
  fun d c t => by
  unfold readDoor doorOctets
  simp only [Reader.bind_eq_ok, Reader.u8_eq_ok, Reader.pure_eq_ok]
  constructor
  · rintro ⟨i, _, rfl, o, _, rfl, rfl, rfl⟩
    exact ⟨trivial, rfl⟩
  · rintro ⟨-, rfl⟩
    exact ⟨c.1, _, rfl, c.2, _, rfl, rfl, rfl⟩

/-- The flag byte with reserved bits. -/
def flagByte (raw : Bool) (reserved : UInt8) : UInt8 :=
  (if raw then 1 else 0) ||| reserved &&& ~~~1

/-- The parts of the flag byte make it up again, and reserved flags that were
read leave the low one alone. -/
theorem flagByte_parts :
    ∀ b : UInt8, flagByte (Octet.hasBit b 0) (b &&& ~~~1) = b
      ∧ Octet.hasBit (b &&& ~~~1) 0 = false := by
  decide +kernel

/-- The parts of the flag byte are found in it again, if the reserved flags
leave the low one alone. -/
theorem flagByte_fields : ∀ r : UInt8, Octet.hasBit r 0 = false → ∀ raw : Bool,
    Octet.hasBit (flagByte raw r) 0 = raw ∧ flagByte raw r &&& ~~~1 = r := by
  decide +kernel

/-- Passenger counters are written as their flags, the doors and the
counts. -/
theorem encode_eq (p : Passengers) :
    p.encode = flagByte p.counts.isRaw p.reservedFlags :: p.counts.doorFlags
      :: p.doorsReleased
      :: (Bytes.ofUInt16 p.moduleAddress ++ p.counts.octets) := by
  unfold encode parts
  cases p.counts <;> rfl

/-- The doors that are written for the doors of a payload: none if the
counts are raw. -/
def keptDoors (flags doors : UInt8) : UInt8 :=
  if Octet.hasBit flags 0 then 0 else doors

/-- The counts are what is left of the payload. -/
theorem readCounts_eq_ok {flags doors : UInt8} {x : PassengerCounts} :
    (if Octet.hasBit flags 0 then PassengerCounts.raw <$> Reader.rest
        else PassengerCounts.doors <$> Slots.read doors readDoor) d
          = .ok (x, [])
      ↔ x.isRaw = Octet.hasBit flags 0 ∧ x.doorFlags = keptDoors flags doors
        ∧ d = x.octets := by
  unfold keptDoors
  cases Octet.hasBit flags 0 with
  | true =>
    rw [if_pos rfl, if_pos rfl, Reader.map_eq_ok]
    simp only [Reader.rest_eq_ok]
    constructor
    · rintro ⟨a, ⟨rfl, -⟩, rfl⟩
      exact ⟨rfl, rfl, rfl⟩
    · rintro ⟨hraw, -, rfl⟩
      cases x with
      | doors c => cases hraw
      | raw a => exact ⟨a, ⟨rfl, trivial⟩, rfl⟩
  | false =>
    rw [if_neg Bool.false_ne_true, if_neg Bool.false_ne_true, Reader.map_eq_ok]
    simp only [Slots.read_eq_ok takes_door, List.append_nil]
    constructor
    · rintro ⟨c, ⟨hc, -, rfl⟩, rfl⟩
      exact ⟨rfl, hc, rfl⟩
    · rintro ⟨hraw, hc, rfl⟩
      cases x with
      | doors c => exact ⟨c, ⟨hc, fun _ _ => trivial, rfl⟩, rfl⟩
      | raw a => cases hraw

/-- **Passenger counters** are read from octets that, without the doors of raw
counts, are what is written for them. Raw counts pass through as they are, and
with them no door is looked at; the flags that name some are lost. -/
theorem decode_eq_ok {p : Passengers} :
    decode d = .ok p ↔ Octet.hasBit p.reservedFlags 0 = false
      ∧ ∃ flags doors rest, d = flags :: doors :: rest
        ∧ p.encode = flags :: keptDoors flags doors :: rest := by
  rw [encode_eq]
  unfold decode
  simp only [Reader.whole_eq_ok, Reader.bind_eq_ok, Reader.u8_eq_ok,
    Reader.u16_eq_ok, Reader.ite_bind, Reader.pure_eq_ok, List.cons.injEq]
  constructor
  · rintro ⟨f, _, rfl, dpr, _, rfl, drl, _, rfl, m, _, rfl, x, _, hx, rfl, rfl⟩
    obtain ⟨hraw, hdoors, rfl⟩ := readCounts_eq_ok.1 hx
    obtain ⟨hf, hclear⟩ := flagByte_parts f
    exact ⟨hclear, f, dpr, _, rfl, by rw [hraw, hf], hdoors, rfl⟩
  · rintro ⟨hclear, f, dpr, rest, rfl, hf, hdoors, rfl⟩
    obtain ⟨hraw, hres⟩ := flagByte_fields p.reservedFlags hclear p.counts.isRaw
    rw [hf] at hraw hres
    refine ⟨f, _, rfl, dpr, _, rfl, p.doorsReleased, _, rfl, p.moduleAddress, _,
      rfl, p.counts, [], readCounts_eq_ok.2 ⟨hraw.symm, hdoors, rfl⟩, ?_, rfl⟩
    rw [hres]

/-- What is written for passenger counters is read as them. -/
theorem decode_encode {p : Passengers}
    (h : Octet.hasBit p.reservedFlags 0 = false) :
    decode p.encode = .ok p := by
  have hraw := (flagByte_fields p.reservedFlags h p.counts.isRaw).1
  have hkept : keptDoors (flagByte p.counts.isRaw p.reservedFlags)
    p.counts.doorFlags
      = p.counts.doorFlags := by
    unfold keptDoors
    rw [hraw]
    cases p.counts <;> rfl
  rw [decode_eq_ok, encode_eq]
  exact ⟨h, _, _, _, rfl, by rw [hkept]⟩

end Passengers

end Telematics
