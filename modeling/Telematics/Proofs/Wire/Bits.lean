import Telematics.Wire.Bytes

/-!
# Bits of flag bytes and of words

A flag byte is determined by its eight bits, and `Octet.ofBits` puts them
where `Octet.hasBit` finds them. That is all a payload needs in order to be
written back: the flags of its optional fields are read off the fields, and
the fields were read where the flags said so.

Statements about one byte are finite, so the instance below lets `decide`
settle them. A word of sixteen bits is taken apart with masks, and what a mask
leaves is said bit by bit: two words with the same bits are the same
(`Word.ext`), and the bits of a conjunction and of a disjunction are those of
its parts. No statement about words is settled by going through them.
-/

namespace Telematics.Octet

/-- What holds of every byte can be checked byte by byte. -/
instance decidableForall {p : UInt8 → Prop} [DecidablePred p] :
    Decidable (∀ b, p b) :=
  decidable_of_iff (∀ n : Fin 256, p (UInt8.ofFin n))
    ⟨fun h b => UInt8.ofFin_toFin b ▸ h b.toFin, fun h n => h (UInt8.ofFin n)⟩

/-! ## A byte and its bits -/

/-- **A byte is its eight bits.** -/
theorem ext {a b : UInt8} (h : ∀ i < 8, hasBit a i = hasBit b i) : a = b := by
  apply UInt8.toNat_inj.1
  apply Nat.eq_of_testBit_eq
  intro i
  by_cases hi : i < 8
  · exact h i hi
  · -- A byte has no bits from the eighth on.
    have high : ∀ c : UInt8, c.toNat.testBit i = false := fun c =>
      Nat.testBit_lt_two_pow
        (Nat.lt_of_lt_of_le c.toNat_lt
          (Nat.pow_le_pow_right (by decide) (Nat.le_of_not_lt hi)))
    rw [high a, high b]

/-- The number that bits write out, lowest first. -/
def weight : List Bool → Nat
  | [] => 0
  | b :: r => b.toNat + 2 * weight r

/-- So many bits write out a number of so many bits. -/
theorem weight_lt : ∀ bs : List Bool, weight bs < Nat.pow 2 bs.length
  | [] => Nat.one_pos
  | b :: r => by
    have hr := weight_lt r
    have hb : b.toNat < 2 := Bool.toNat_lt b
    have hpow : Nat.pow 2 (r.length + 1) = Nat.pow 2 r.length * 2 := rfl
    simp only [weight, List.length_cons, hpow]
    omega

/-- A bit of that number is the one that was put there, and there are no
others. -/
theorem testBit_weight : ∀ (bs : List Bool) (i : Nat),
    (weight bs).testBit i = bs[i]?.getD false
  | [], i => by simp [weight]
  | b :: r, 0 => by cases b <;> simp [weight, Nat.testBit_zero]
  | b :: r, i + 1 => by
    have half : (b.toNat + 2 * weight r) / 2 = weight r := by
      have hb : b.toNat < 2 := Bool.toNat_lt b
      omega
    rw [weight, Nat.testBit_succ, half, testBit_weight r i,
      List.getElem?_cons_succ]

theorem toNat_ofBits :
    ∀ {bs : List Bool}, bs.length ≤ 8 → (ofBits bs).toNat = weight bs
  | [], _ => rfl
  | b :: r, h => by
    have hr : r.length ≤ 7 := Nat.le_of_succ_le_succ h
    have hlt : weight r < 128 :=
      Nat.lt_of_lt_of_le (weight_lt r) (Nat.pow_le_pow_right (by decide) hr)
    have ih : (ofBits r).toNat = weight r := toNat_ofBits (Nat.le_succ_of_le hr)
    cases b <;> simp [ofBits, weight, ih] <;> omega

/-- **A packed bit is found where it was put.** Behind the last of them every
bit is clear. -/
theorem hasBit_ofBits {bs : List Bool} (h : bs.length ≤ 8) (i : Nat) :
    hasBit (ofBits bs) i = bs[i]?.getD false := by
  rw [hasBit, toNat_ofBits h, testBit_weight]

/-- **Eight bits are the bits of a byte** exactly if packing them gives the
byte. So flags that are read one by one make up the byte that they were read
from, and no other. -/
theorem ofBits_eq_iff {bs : List Bool} (h : bs.length = 8) (b : UInt8) :
    ofBits bs = b ↔ bs = (List.range 8).map (hasBit b) := by
  constructor
  · rintro rfl
    refine List.ext_getElem (by simp [h]) (fun i hi _ => ?_)
    rw [List.getElem_map, List.getElem_range, hasBit_ofBits (Nat.le_of_eq h),
      List.getElem?_eq_getElem hi, Option.getD_some]
  · rintro rfl
    refine ext (fun i hi => ?_)
    rw [hasBit_ofBits (by simp)]
    simp [hi]

end Telematics.Octet

/-! ## Words of sixteen bits -/

namespace Telematics.Word

/-- Bit `i` of a word is set. -/
def hasBit (w : UInt16) (i : Nat) : Bool := w.toNat.testBit i

/-- A bit of a conjunction is set if it is set in both words. -/
@[simp] theorem hasBit_and (a b : UInt16) (i : Nat) :
    hasBit (a &&& b) i = (hasBit a i && hasBit b i) := by
  simp [hasBit]

/-- A bit of a disjunction is set if it is set in one of the words. -/
@[simp] theorem hasBit_or (a b : UInt16) (i : Nat) :
    hasBit (a ||| b) i = (hasBit a i || hasBit b i) := by
  simp [hasBit]

@[simp] theorem hasBit_zero (i : Nat) : hasBit 0 i = false := by
  simp [hasBit]

/-- A number below a power of two has no bit from there on. -/
theorem hasBit_of_lt {w : UInt16} {k i : Nat} (hw : w.toNat < Nat.pow 2 k)
    (hi : k ≤ i) :
    hasBit w i = false :=
  Nat.testBit_lt_two_pow
    (Nat.lt_of_lt_of_le hw (Nat.pow_le_pow_right (by decide) hi))

/-- **A word is its sixteen bits.** Two words that agree in each of them are
equal, which is how packed fields are put together again. -/
theorem ext {a b : UInt16} (h : ∀ i < 16, hasBit a i = hasBit b i) : a = b := by
  apply UInt16.toNat_inj.1
  apply Nat.eq_of_testBit_eq
  intro i
  by_cases hi : i < 16
  · exact h i hi
  · have hle : 16 ≤ i := Nat.le_of_not_lt hi
    exact (hasBit_of_lt a.toNat_lt hle).trans (hasBit_of_lt b.toNat_lt hle).symm

/-- A word without bits from a place on is below that power of two. -/
theorem lt_of_hasBit {w : UInt16} {k : Nat}
    (h : ∀ i, k ≤ i → hasBit w i = false) :
    w.toNat < Nat.pow 2 k :=
  Nat.lt_pow_two_of_testBit _ h

/-- A mask of one bit looks that bit up. -/
theorem and_eq_zero_iff {w m : UInt16} {k : Nat} (hk : k < 16)
    (hm : ∀ i < 16, hasBit m i = decide (i = k)) :
    w &&& m = 0 ↔ hasBit w k = false := by
  constructor
  · intro h
    have hbit : hasBit (w &&& m) k = false := by rw [h, hasBit_zero]
    rw [hasBit_and, hm k hk] at hbit
    simpa using hbit
  · intro h
    refine ext (fun i hi => ?_)
    rw [hasBit_and, hm i hi, hasBit_zero]
    by_cases hik : i = k
    · rw [hik, h, Bool.false_and]
    · simp [hik]

/-- An octet has its bits as a word. -/
theorem hasBit_toUInt16 (b : UInt8) (i : Nat) :
    hasBit b.toUInt16 i = Octet.hasBit b i := by
  simp [hasBit, Octet.hasBit]

/-- The low octet of a word has the low eight of its bits. -/
theorem hasBit_toUInt8 {w : UInt16} {i : Nat} (hi : i < 8) :
    Octet.hasBit w.toUInt8 i = hasBit w i := by
  simp only [hasBit, Octet.hasBit, UInt16.toNat_toUInt8]
  exact (Nat.testBit_mod_two_pow w.toNat 8 i).trans (by simp [hi])

end Telematics.Word
