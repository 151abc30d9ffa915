import Telematics.Wire.Checksum
import Telematics.Proofs.Wire.Bits

/-!
# What a checksum tells apart

A shift of either register is linear over exclusive or and loses nothing,
since both polynomials have their lowest bit set. So what follows a difference
in a register can never take the difference away, and octets that differ in a
single place have different checksums.

The frame register is two octets wide. Two octets that it takes in one after
the other are the sixteen bits of one word (`step16_step16`), so data that
differ in two neighbouring octets have different checksums, too.

Both registers are `shift` at a width of their own, and what is said of the
shift is said once for both. No property of the polynomials is used but their
lowest bit. In particular it does not matter how many errors they detect in
general, and nothing is claimed of octets that differ in two places which are
not neighbours: of those some have the same checksum.
-/

namespace Telematics.Checksum

/-! ## The register -/

/-- One shift of a register of any width. -/
def shift {w : Nat} (poly r : BitVec w) : BitVec w :=
  if r.msb then r <<< 1 ^^^ poly else r <<< 1

section Shift

variable {w n : Nat} {poly a b : BitVec w}

/-- **A shift is linear.** The polynomial is added if the highest bit is set,
and the highest bit of a sum is that of one of its parts, or of none. -/
theorem shift_xor : shift poly (a ^^^ b) = shift poly a ^^^ shift poly b := by
  unfold shift
  rw [BitVec.msb_xor, BitVec.shiftLeft_xor_distrib]
  cases a.msb <;> cases b.msb
  · rfl
  · exact BitVec.xor_assoc _ _ _
  · show a <<< 1 ^^^ b <<< 1 ^^^ poly = a <<< 1 ^^^ poly ^^^ b <<< 1
    rw [BitVec.xor_assoc, BitVec.xor_comm (b <<< 1), BitVec.xor_assoc]
  · show a <<< 1 ^^^ b <<< 1 = a <<< 1 ^^^ poly ^^^ (b <<< 1 ^^^ poly)
    rw [BitVec.xor_comm (b <<< 1) poly, BitVec.xor_assoc,
      ← BitVec.xor_assoc poly, BitVec.xor_self, BitVec.zero_xor]

/-- The lowest bit after a shift is the highest one before it: a shift moves a
zero there, and the polynomial has a one. -/
theorem getLsbD_zero_shift (hw : 0 < w) (hpoly : poly.getLsbD 0 = true) :
    (shift poly a).getLsbD 0 = a.msb := by
  unfold shift
  cases h : a.msb <;> simp [hpoly, hw]

/-- **A shift loses nothing.** The bit that is shifted out is the lowest one
of the result, and with it known the rest is shifted back. -/
theorem shift_injective (hw : 0 < w) (hpoly : poly.getLsbD 0 = true) :
    Function.Injective (shift poly) := by
  intro a b h
  have hmsb : a.msb = b.msb := by
    rw [← getLsbD_zero_shift (a := a) hw hpoly, h, getLsbD_zero_shift hw hpoly]
  have hrest : a <<< 1 = b <<< 1 := by
    unfold shift at h
    rw [hmsb] at h
    split at h
    · exact (BitVec.xor_left_inj poly).1 h
    · exact h
  apply BitVec.eq_of_getElem_eq
  intro i hi
  by_cases hlast : i + 1 < w
  · have hbit := congrArg (BitVec.getLsbD · (i + 1)) hrest
    simpa [hlast] using hbit
  · -- The bit that is shifted out is the highest.
    obtain rfl : i = w - 1 := by omega
    rwa [BitVec.msb_eq_getLsbD_last, BitVec.msb_eq_getLsbD_last,
      BitVec.getLsbD_eq_getElem hi, BitVec.getLsbD_eq_getElem hi] at hmsb

end Shift

/-- What loses nothing once loses nothing in any number of turns. -/
theorem repeat_injective {f : α → α} (hf : Function.Injective f) :
    ∀ n, Function.Injective (Nat.repeat f n)
  | 0 => fun _ _ h => h
  | n + 1 => hf.comp (repeat_injective hf n)

/-- What distributes over an operation does so when it is repeated. -/
theorem repeat_op {f : α → α} {op : α → α → α}
    (hf : ∀ a b, f (op a b) = op (f a) (f b)) (a b : α) :
    ∀ n, Nat.repeat f n (op a b) = op (Nat.repeat f n a) (Nat.repeat f n b)
  | 0 => rfl
  | n + 1 => by
    show f (Nat.repeat f n (op a b)) = _
    rw [repeat_op hf a b n, hf]
    rfl

/-- A register that tells states apart at every step tells its starts apart
at the end. -/
theorem foldl_injective {step : α → β → α}
    (h : ∀ b, Function.Injective (step · b)) :
    ∀ d : List β, Function.Injective (d.foldl step ·)
  | [] => fun _ _ heq => heq
  | b :: d => (foldl_injective h d).comp (h b)

/-- A register that tells states and octets apart tells apart whether an octet
was replaced. Before the place the two runs are in one state, at the place the
octets have to be the same, and behind it the states have. -/
theorem set_eq_self_of_foldl {step : α → UInt8 → α} {r : α}
    (hleft : ∀ b, Function.Injective (step · b))
    (hright : ∀ r, Function.Injective (step r)) {d : Bytes} {i : Nat}
    {b : UInt8} (h : (d.set i b).foldl step r = d.foldl step r) :
    d.set i b = d := by
  by_cases hi : i < d.length
  · have hd : d.take i ++ d[i] :: d.drop (i + 1) = d := by
      rw [← List.drop_eq_getElem_cons hi, List.take_append_drop]
    rw [List.set_eq_take_append_cons_drop, if_pos hi] at h ⊢
    conv at h => rhs; rw [← hd]
    rw [List.foldl_append, List.foldl_append, List.foldl_cons,
      List.foldl_cons] at h
    rw [hright _ (foldl_injective hleft _ h), hd]
  · exact List.set_eq_of_length_le (Nat.le_of_not_lt hi)

/-! ## The header checksum -/

/-- `x⁵ + x⁴ + 1`, below the leading power. -/
def headerPolynomial : BitVec 8 := 0x31

/-- The header's shift is the shift at a width of eight. -/
theorem toBitVec_shift8 :
    ∀ r : UInt8, (shift8 r).toBitVec = shift headerPolynomial r.toBitVec := by
  decide +kernel

/-- So it loses nothing. -/
theorem shift8_injective : Function.Injective shift8 := by
  intro a b h
  apply UInt8.toBitVec_inj.1
  apply shift_injective (by decide)
    (by decide : headerPolynomial.getLsbD 0 = true)
  rw [← toBitVec_shift8, ← toBitVec_shift8, h]

/-- An octet keeps states of the header's register apart. -/
theorem step8_injective_left (b : UInt8) : Function.Injective (step8 · b) :=
  fun _ _ h =>
  (UInt8.xor_left_inj b).1 (repeat_injective shift8_injective 8 h)

/-- A state of the header's register keeps octets apart. -/
theorem step8_injective_right (r : UInt8) : Function.Injective (step8 r) :=
  fun _ _ h =>
  (UInt8.xor_right_inj r).1 (repeat_injective shift8_injective 8 h)

/-- **No octet of a header can be replaced** under the same checksum. Behind
the octet the two registers differ, since a step is injective in the octet;
and as it is injective in the register too, they never meet again. -/
theorem set_eq_self_of_header {d : Bytes} {i : Nat} {b : UInt8}
    (h : header (d.set i b) = header d) : d.set i b = d :=
  set_eq_self_of_foldl step8_injective_left step8_injective_right h

/-! ## The frame checksum -/

/-- `x¹² + x⁵ + 1`, below the leading power. -/
def framePolynomial : BitVec 16 := 0x1021

/-- The mask of the highest bit looks it up. -/
theorem and_highBit_eq_zero_iff (r : UInt16) :
    r &&& 0x8000 = 0 ↔ r.toBitVec.msb = false := by
  rw [Word.and_eq_zero_iff (k := 15) (by decide) (by decide),
    BitVec.msb_eq_getLsbD_last]
  rfl

/-- The frame's shift is the shift at a width of sixteen. -/
theorem toBitVec_shift16 (r : UInt16) :
    (shift16 r).toBitVec = shift framePolynomial r.toBitVec := by
  unfold shift16 shift
  cases h : r.toBitVec.msb with
  | false => rw [if_pos ((and_highBit_eq_zero_iff r).2 h)]; rfl
  | true =>
    rw [if_neg (fun hz => by simp [(and_highBit_eq_zero_iff r).1 hz] at h)]
    rfl

theorem shift16_injective : Function.Injective shift16 := by
  intro a b h
  apply UInt16.toBitVec_inj.1
  apply shift_injective (by decide)
    (by decide : framePolynomial.getLsbD 0 = true)
  rw [← toBitVec_shift16, ← toBitVec_shift16, h]

theorem shift16_xor (a b : UInt16) :
    shift16 (a ^^^ b) = shift16 a ^^^ shift16 b := by
  apply UInt16.toBitVec_inj.1
  rw [UInt16.toBitVec_xor, toBitVec_shift16, toBitVec_shift16, toBitVec_shift16,
    UInt16.toBitVec_xor, shift_xor]

/-- An octet keeps states of the frame's register apart. -/
theorem step16_injective_left (b : UInt8) : Function.Injective (step16 · b) :=
  fun _ _ h =>
  (UInt16.xor_left_inj _).1 (repeat_injective shift16_injective 8 h)

/-- An octet in the low half of the register goes to the high half in eight
shifts, as nothing is shifted out. -/
theorem repeat_shift16_low : ∀ b : UInt8,
    Nat.repeat shift16 8 b.toUInt16 = b.toUInt16 <<< 8 := by
  decide +kernel

/-- The word with these two octets, high one first. -/
def word (a b : UInt8) : UInt16 := a.toUInt16 <<< 8 ^^^ b.toUInt16

/-- **Two octets in turn are one word of sixteen bits.** The second octet goes
to the high half of the register, and by linearity it might have gone there
before the first eight shifts, from the low half. -/
theorem step16_step16 (r : UInt16) (a b : UInt8) :
    step16 (step16 r a) b
      = Nat.repeat shift16 8 (Nat.repeat shift16 8 (r ^^^ word a b)) := by
  unfold step16 word
  rw [← UInt16.xor_assoc, repeat_op shift16_xor (r ^^^ _), repeat_shift16_low]

/-- A word has its two octets in it. -/
theorem word_injective {a b a' b' : UInt8} (h : word a b = word a' b') :
    a = a' ∧ b = b' := by
  have hlow : ∀ a : UInt8, (a.toUInt16 <<< 8).toUInt8 = 0 := by decide +kernel
  have hhigh : ∀ a : UInt8, (a.toUInt16 <<< 8 >>> 8).toUInt8 = a := by
    decide +kernel
  have hb : ∀ a b, (word a b).toUInt8 = b := fun a b => by
    rw [word, UInt16.toUInt8_xor, hlow, UInt8.zero_xor, UInt8.toUInt8_toUInt16]
  obtain rfl : b = b' := by rw [← hb a b, h, hb]
  have ha := (UInt16.xor_left_inj b.toUInt16).1 h
  exact ⟨by rw [← hhigh a, ha, hhigh], rfl⟩

/-- Different pairs of octets leave different registers. -/
theorem step16_step16_injective {r : UInt16} {a b a' b' : UInt8}
    (h : step16 (step16 r a) b = step16 (step16 r a') b') :
    a = a' ∧ b = b' := by
  have hinj := repeat_injective shift16_injective 8
  rw [step16_step16, step16_step16] at h
  exact word_injective ((UInt16.xor_right_inj r).1 (hinj (hinj h)))

/-- A state of the frame's register keeps octets apart: in front of one more
octet they would be two different pairs. -/
theorem step16_injective_right (r : UInt16) : Function.Injective (step16 r) :=
  fun _ _ h =>
  (step16_step16_injective (congrArg (step16 · 0) h)).1

/-- **No octet of frame data can be replaced** under the same checksum. The
argument is the same, with a register of sixteen bits. -/
theorem set_eq_self_of_frame {d : Bytes} {i : Nat} {b : UInt8}
    (h : frame (d.set i b) = frame d) : d.set i b = d :=
  set_eq_self_of_foldl step16_injective_left step16_injective_right h

/-- **No two neighbouring octets of frame data can be replaced** under the
same checksum. Two steps together are injective in the two octets, which fill
the register of sixteen bits between them, and from there on the registers
differ as before. -/
theorem set_set_eq_self_of_frame {d : Bytes} {i : Nat} {b c : UInt8}
    (hi : i + 1 < d.length) (h : frame ((d.set i b).set (i + 1) c) = frame d) :
    (d.set i b).set (i + 1) c = d := by
  have hd : d = d.take i ++ d[i] :: d[i + 1] :: d.drop (i + 2) := by
    rw [← List.drop_eq_getElem_cons hi,
      ← List.drop_eq_getElem_cons (Nat.lt_of_succ_lt hi), List.take_append_drop]
  have hlen : (d.take i).length = i := List.length_take_of_le (by omega)
  generalize d.take i = s, d[i] = u, d[i + 1] = v, d.drop (i + 2) = t at hd hlen
  subst hd hlen
  have hset : ((s ++ u :: v :: t).set s.length b).set (s.length + 1) c
      = s ++ b :: c :: t := by
    simp
  rw [hset] at h ⊢
  unfold frame at h
  simp only [List.foldl_append, List.foldl_cons] at h
  obtain ⟨rfl, rfl⟩ :=
    step16_step16_injective (foldl_injective step16_injective_left _ h)
  rfl

end Telematics.Checksum
