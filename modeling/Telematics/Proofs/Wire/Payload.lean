import Telematics.Wire.Subrecord
import Telematics.Proofs.Wire.Fix
import Telematics.Proofs.Wire.Identity
import Telematics.Proofs.Wire.Sensor

/-!
# Payloads of sub-records are read and written alike

The payloads are put together by their code. In one direction nothing is lost:
what is written for a sub-record is read as that sub-record, unless a field
holds a bit that is written from another one (`Subrecord.Clean`). In the other
direction three payloads say more than is kept of them: the quality of a fix
keeps five bits of its flags, raw passenger counts do not keep the doors, and
a dispatching centre's description may be too long to be written.
`Subrecord.Lossy` is these three, and `Subrecord.rewritten` is what is written
for a payload that was read, whichever it is.

Both directions are the equations of the single payloads, put together by a
case for each code. For all codes but the three, reading and writing are one
equation, so nothing of the payload has to be opened again
(`Subrecord.of_encodePayload_eq_ok`). A code without a layout keeps its
payload as it came; that the codes with a layout are those that have a name is
decided over all of them (`Subrecord.name?_eq_none_or_mem`).
-/

namespace Telematics

variable {c : UInt8} {d : Bytes}

namespace Subrecord

/-! ## From a value to its octets -/

/-- **No bit is written from another field.** The altitude flag of a fix
belongs to the altitude, the low flags of the terminal's state to its three
conditions, the low flag of passenger counters to the kind of counts, and a
code with a layout to the sub-record that has it. -/
def Clean : Subrecord → Prop
  | fix p => Octet.hasBit p.flags Fix.altitudeBit = false
  | powerState p => p.reservedFlags &&& PowerState.flagMask = 0
  | passengers p => Octet.hasBit p.reservedFlags 0 = false
  | unknown c _ => SubrecordCode.name? c = none
  | _ => True

instance : DecidablePred Clean := fun s => by
  cases s <;> unfold Clean <;> infer_instance

/-- A code without a name has no layout. -/
theorem decode_of_name?_eq_none (h : SubrecordCode.name? c = none) :
    decode c d = .ok (unknown c d) := by
  have hne : ∀ k, SubrecordCode.name? (UInt8.ofNat k) ≠ none → c.toNat ≠ k :=
    fun k hk heq => by
    rw [← heq, UInt8.ofNat_toNat] at hk
    exact hk h
  unfold decode
  split
  all_goals first
    | rfl
    | next heq => exact absurd heq (hne _ (by decide))

/-- Every other code is that of a layout. -/
theorem name?_eq_none_or_mem : ∀ c : UInt8, SubrecordCode.name? c = none ∨
    c.toNat ∈ [0, 1, 6, 7, 9, 16, 17, 18, 19, 20, 22, 23, 24, 25, 26, 27,
      28] := by
  decide +kernel

/-- **What is written for a sub-record is read as that sub-record.** There are
values that nothing is read as, those with a reserved bit that is written from
another field, and of these it is not claimed. -/
theorem decode_of_encodePayload {s : Subrecord} (hs : s.Clean)
    (h : s.encodePayload = .ok d) :
    decode s.code d = .ok s := by
  cases s with
  | recordResponse p =>
    exact Writing.map_of_eq_ok (RecordResponse.decode_eq_ok.2 (Except.ok.inj h))
  | termIdentity p =>
    exact Writing.map_of_eq_ok (TermIdentity.decode_eq_ok.2 (Except.ok.inj h))
  | dispatcherIdentity p =>
    obtain ⟨-, hoctets⟩ := DispatcherIdentity.encode_eq_ok.1 h
    exact Writing.map_of_eq_ok (DispatcherIdentity.decode_eq_ok.2 hoctets)
  | authInfo p => exact Writing.map_of_eq_ok (AuthInfo.decode_eq_ok.2 h)
  | authResult p =>
    exact Writing.map_of_eq_ok (AuthResult.decode_eq_ok.2 (Except.ok.inj h))
  | fix p => exact Writing.map_of_eq_ok (Fix.decode_eq_ok.2 ⟨hs, h⟩)
  | fixQuality p =>
    obtain rfl := Except.ok.inj h
    refine Writing.map_of_eq_ok
      (FixQuality.decode_eq_ok.2 ⟨p.flags, _, rfl, ?_⟩)
    rw [FixQuality.flags_and_knownFlags]
    rfl
  | adSensors p => exact Writing.map_of_eq_ok (AdSensors.decode_eq_ok.2 h)
  | counters p => exact Writing.map_of_eq_ok (Counters.decode_eq_ok.2 h)
  | powerState p =>
    exact Writing.map_of_eq_ok (PowerState.decode_eq_ok.2 ⟨hs, Except.ok.inj h⟩)
  | loopInputs p =>
    exact Writing.map_of_eq_ok (LoopInputs.decode_eq_ok.2 (Except.ok.inj h))
  | digitalSensor p =>
    exact Writing.map_of_eq_ok (InputState.whole_read_eq_ok.2 h)
  | analogSensor p =>
    exact Writing.map_of_eq_ok (NumberedValue.whole_read_eq_ok.2 h)
  | counter p => exact Writing.map_of_eq_ok (NumberedValue.whole_read_eq_ok.2 h)
  | loopInput p => exact Writing.map_of_eq_ok (InputState.whole_read_eq_ok.2 h)
  | liquidSensor p => exact Writing.map_of_eq_ok (LiquidSensor.decode_eq_ok.2 h)
  | passengers p =>
    obtain rfl := Except.ok.inj h
    exact Writing.map_of_eq_ok (Passengers.decode_encode hs)
  | unknown c a =>
    obtain rfl := Except.ok.inj h
    exact decode_of_name?_eq_none hs

/-! ## From octets to a value and back -/

/-- The description of a dispatching centre is longer than it may be
written. -/
def LongDescription (c : UInt8) (d : Bytes) : Prop :=
  c = 6 ∧ 5 + DispatcherIdentity.maxDescription < d.length

instance : Decidable (LongDescription c d) :=
  inferInstanceAs (Decidable (_ ∧ _))

/-- The octets of a payload without what is not kept of them. -/
def canonical (c : UInt8) (d : Bytes) : Bytes :=
  match c.toNat, d with
  | 17, flags :: rest => (flags &&& FixQuality.knownFlags) :: rest
  | 28, flags :: doors :: rest =>
    flags :: Passengers.keptDoors flags doors :: rest
  | _, d => d

/-- What is not kept is cleared and not cut off. -/
theorem length_canonical : (canonical c d).length = d.length := by
  unfold canonical
  split <;> rfl

/-- **What is written for a payload that was read.** -/
def rewritten (c : UInt8) (d : Bytes) : Except WireError Bytes :=
  if LongDescription c d then
    .error (.tooLarge "DSCR" (d.length - 5) DispatcherIdentity.maxDescription)
  else .ok (canonical c d)

/-- Two codes have something to clear. -/
theorem canonical_eq_self (h17 : c.toNat ≠ 17) (h28 : c.toNat ≠ 28) :
    canonical c d = d := by
  unfold canonical
  split <;> first | rfl | contradiction

/-- Three codes have something to lose. -/
theorem rewritten_eq_self (h6 : c.toNat ≠ 6) (h17 : c.toNat ≠ 17)
    (h28 : c.toNat ≠ 28) :
    rewritten c d = .ok d := by
  have hnot : ¬ LongDescription c d := fun h => h6 (congrArg UInt8.toNat h.1)
  rw [rewritten, canonical_eq_self h17 h28, if_neg hnot]

/-- A payload whose code is not one of the three is written back as it was
read. -/
theorem of_encodePayload_eq_ok {k : Nat} {s : Subrecord} (hc : c.toNat = k)
    (hs : s.Clean) (hcode : s.code.toNat = k) (hk : k ≠ 6 ∧ k ≠ 17 ∧ k ≠ 28)
    (h : s.encodePayload = .ok d) :
    s.code = c ∧ s.Clean ∧ s.encodePayload = rewritten c d := by
  obtain rfl := UInt8.toNat_inj.1 (hcode.trans hc.symm)
  subst hc
  refine ⟨rfl, hs, ?_⟩
  rw [h, rewritten_eq_self hk.1 hk.2.1 hk.2.2]

/-- A dispatching centre's identity is written back, or its description is too
long. -/
theorem encodePayload_dispatcherIdentity (p : DispatcherIdentity) :
    (dispatcherIdentity p).encodePayload = rewritten 6 p.octets := by
  have hlen := p.length_octets
  show p.encode = _
  by_cases h : p.description.length ≤ DispatcherIdentity.maxDescription
  · have hnot : ¬ LongDescription 6 p.octets := fun hl => by
      have := hl.2
      omega
    rw [DispatcherIdentity.encode_eq_ok.2 ⟨h, rfl⟩, rewritten, if_neg hnot,
      canonical_eq_self (by decide) (by decide)]
  · have hlong : LongDescription 6 p.octets := ⟨rfl, by omega⟩
    rw [rewritten, if_pos hlong, hlen, Nat.add_sub_cancel_left,
      DispatcherIdentity.encode, if_neg h]

/-- The quality of a fix is written back without the flags that stand for no
field. -/
theorem encodePayload_fixQuality {q : FixQuality}
    (h : FixQuality.decode d = .ok q) :
    (fixQuality q).encodePayload = rewritten 17 d := by
  obtain ⟨flags, rest, rfl, hq⟩ := FixQuality.decode_eq_ok.1 h
  rw [rewritten, if_neg (fun hl => absurd hl.1 (by decide))]
  exact congrArg Except.ok hq

/-- Passenger counters are written back without the doors of raw counts. -/
theorem encodePayload_passengers {p : Passengers}
    (h : Passengers.decode d = .ok p) :
    (passengers p).Clean ∧ (passengers p).encodePayload = rewritten 28 d := by
  obtain ⟨hclean, flags, doors, rest, rfl, hp⟩ := Passengers.decode_eq_ok.1 h
  rw [rewritten, if_neg (fun hl => absurd hl.1 (by decide))]
  exact ⟨hclean, congrArg Except.ok hp⟩

/-- **A sub-record that was read** has the code and the payload it was read
from, apart from what is not kept of the payload, and its fields leave each
other's bits alone. -/
theorem of_decode_eq_ok {s : Subrecord} (h : decode c d = .ok s) :
    s.code = c ∧ s.Clean ∧ s.encodePayload = rewritten c d := by
  unfold decode at h
  split at h
  case h_18 =>
    -- No case of the decoder matched, so the code has no name.
    obtain rfl := Except.ok.inj h
    obtain hnone | hmem := name?_eq_none_or_mem c
    · exact of_encodePayload_eq_ok rfl hnone rfl
        ⟨by assumption, by assumption, by assumption⟩ rfl
    · simp_all
  -- In every other case one payload is read, and its own equivalence writes it
  -- back.
  all_goals
    rename_i hc
    obtain ⟨p, hp, rfl⟩ := Writing.map_eq_ok.1 h
  · exact of_encodePayload_eq_ok hc trivial rfl (by decide)
      (congrArg _ (RecordResponse.decode_eq_ok.1 hp))
  · exact of_encodePayload_eq_ok hc trivial rfl (by decide)
      (congrArg _ (TermIdentity.decode_eq_ok.1 hp))
  · obtain rfl : c = 6 := UInt8.toNat_inj.1 hc
    obtain rfl := DispatcherIdentity.decode_eq_ok.1 hp
    exact ⟨rfl, trivial, encodePayload_dispatcherIdentity p⟩
  · exact of_encodePayload_eq_ok hc trivial rfl (by decide)
      (AuthInfo.decode_eq_ok.1 hp)
  · exact of_encodePayload_eq_ok hc trivial rfl (by decide)
      (congrArg _ (AuthResult.decode_eq_ok.1 hp))
  · obtain ⟨hclean, henc⟩ := Fix.decode_eq_ok.1 hp
    exact of_encodePayload_eq_ok hc hclean rfl (by decide) henc
  · obtain rfl : c = 17 := UInt8.toNat_inj.1 hc
    exact ⟨rfl, trivial, encodePayload_fixQuality hp⟩
  · exact of_encodePayload_eq_ok hc trivial rfl (by decide)
      (AdSensors.decode_eq_ok.1 hp)
  · exact of_encodePayload_eq_ok hc trivial rfl (by decide)
      (Counters.decode_eq_ok.1 hp)
  · obtain ⟨hclean, henc⟩ := PowerState.decode_eq_ok.1 hp
    exact of_encodePayload_eq_ok hc hclean rfl (by decide) (congrArg _ henc)
  · exact of_encodePayload_eq_ok hc trivial rfl (by decide)
      (congrArg _ (LoopInputs.decode_eq_ok.1 hp))
  · exact of_encodePayload_eq_ok hc trivial rfl (by decide)
      (InputState.whole_read_eq_ok.1 hp)
  · exact of_encodePayload_eq_ok hc trivial rfl (by decide)
      (NumberedValue.whole_read_eq_ok.1 hp)
  · exact of_encodePayload_eq_ok hc trivial rfl (by decide)
      (NumberedValue.whole_read_eq_ok.1 hp)
  · exact of_encodePayload_eq_ok hc trivial rfl (by decide)
      (InputState.whole_read_eq_ok.1 hp)
  · exact of_encodePayload_eq_ok hc trivial rfl (by decide)
      (LiquidSensor.decode_eq_ok.1 hp)
  · obtain rfl : c = 28 := UInt8.toNat_inj.1 hc
    exact ⟨rfl, encodePayload_passengers hp⟩

/-! ## What is lost -/

/-- **The payloads that are not written back as they were read.** -/
inductive Lossy : UInt8 → Bytes → Prop where
  /-- The quality of a fix with one of the flags that stand for no field. -/
  | qualityFlags {flags : UInt8} {rest : Bytes}
      (h : Octet.hasBit flags 5 ∨ Octet.hasBit flags 6 ∨ Octet.hasBit flags 7) :
      Lossy 17 (flags :: rest)
  /-- Raw passenger counts, in a payload that names doors all the same. -/
  | rawDoors {flags doors : UInt8} {rest : Bytes} (hraw : Octet.hasBit flags 0)
      (hdoors : doors ≠ 0) : Lossy 28 (flags :: doors :: rest)
  /-- A dispatching centre with too long a description. -/
  | longDescription {d : Bytes}
    (h : 5 + DispatcherIdentity.maxDescription < d.length) :
      Lossy 6 d

/-- No flag is cleared if none of the three is set. -/
theorem and_knownFlags_eq_self : ∀ b : UInt8, b &&& FixQuality.knownFlags = b ↔
    ¬ (Octet.hasBit b 5 ∨ Octet.hasBit b 6 ∨ Octet.hasBit b 7) := by
  decide +kernel

/-- The doors are kept unless raw counts name some. -/
theorem keptDoors_eq_self {flags doors : UInt8} :
    Passengers.keptDoors flags doors = doors
      ↔ ¬ (Octet.hasBit flags 0 ∧ doors ≠ 0) := by
  unfold Passengers.keptDoors
  by_cases h : Octet.hasBit flags 0 = true
  · rw [if_pos h, eq_comm]
    simp [h]
  · rw [if_neg h]
    simp [h]

/-- Apart from long descriptions, what is lost is what `canonical` clears. -/
theorem canonical_eq_self_iff (hlong : ¬ LongDescription c d) :
    canonical c d = d ↔ ¬ Lossy c d := by
  constructor
  · intro heq hl
    cases hl with
    | qualityFlags h =>
      exact (and_knownFlags_eq_self _).1 (List.cons.inj heq).1 h
    | rawDoors hraw hdoors =>
      exact keptDoors_eq_self.1 (List.cons.inj (List.cons.inj heq).2).1
        ⟨hraw, hdoors⟩
    | longDescription h => exact hlong ⟨rfl, h⟩
  · intro hl
    unfold canonical
    split
    · next flags rest hc =>
      obtain rfl : c = 17 := UInt8.toNat_inj.1 hc
      rw [(and_knownFlags_eq_self flags).2 (fun h => hl (.qualityFlags h))]
    · next flags doors rest hc =>
      obtain rfl : c = 28 := UInt8.toNat_inj.1 hc
      rw [keptDoors_eq_self.2 (fun h => hl (.rawDoors h.1 h.2))]
    · rfl

/-- A description that is too long is lost, and all with it. -/
theorem lossy_of_longDescription (h : LongDescription c d) : Lossy c d := by
  obtain ⟨rfl, hlong⟩ := h
  exact .longDescription hlong

/-- A payload is written back as it was exactly if it loses nothing. -/
theorem rewritten_eq_ok_iff : rewritten c d = .ok d ↔ ¬ Lossy c d := by
  unfold rewritten
  split
  · next hlong => simpa using lossy_of_longDescription hlong
  · next hlong => rw [Except.ok.injEq, canonical_eq_self_iff hlong]

/-- **A payload is written back as it was read** exactly if it is not one of
the three that lose something. Whatever it is, it keeps its code, and what
is written for it differs at most in the flags that stand for no field and
in the doors of raw counts, unless a description is too long to be written. -/
theorem encodePayload_of_decode {s : Subrecord} (h : decode c d = .ok s) :
    (s.encodePayload = .ok d ↔ ¬ Lossy c d) ∧ s.code = c
      ∧ s.encodePayload = rewritten c d := by
  obtain ⟨hcode, -, hpayload⟩ := of_decode_eq_ok h
  refine ⟨?_, hcode, hpayload⟩
  rw [hpayload, rewritten_eq_ok_iff]

/-- The sixth flag of a fix's quality is read and not written back. -/
theorem quality_flag_is_lost :
    ∃ s, decode 17 [0x20] = .ok s ∧ s.encodePayload = .ok [0x00]
      ∧ s.encodePayload ≠ .ok [0x20] :=
  ⟨.fixQuality ⟨none, none, none, none, none⟩, rfl, rfl,
    fun h => absurd (Except.ok.inj h) (by decide)⟩

/-- Raw counts of a sensor that names no doors are kept as they are. -/
theorem encodePayload_of_raw_counts :
    decode 28 [1, 0, 3, 5, 0, 9] = .ok (.passengers ⟨3, 5, .raw [9], 0⟩)
      ∧ (passengers ⟨3, 5, .raw [9], 0⟩).encodePayload = .ok [1, 0, 3, 5, 0, 9]
      ∧ ¬ Lossy 28 [1, 0, 3, 5, 0, 9] :=
  have h : decode 28 [1, 0, 3, 5, 0, 9]
    = .ok (.passengers ⟨3, 5, .raw [9], 0⟩) := rfl
  ⟨h, rfl, (encodePayload_of_decode h).1.1 rfl⟩

end Subrecord

end Telematics
