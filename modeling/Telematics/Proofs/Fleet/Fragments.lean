import Telematics.Fleet.PartOf
import Mathlib.Data.Nat.Digits.Lemmas
import Mathlib.Data.Nat.Log

/-!
# What a fragment of a number is

A number counts as a fragment of another if its octets, or its decimal digits,
begin or end those of the other. The tests of `isPartOf` never write a digit
down: they compare a word with a quotient or a remainder of the other by a
power of the base. Both views are brought together here over numerals to any
base (`numeral_suffix_iff`, `numeral_prefix_iff`).

What could part them is the arithmetic of words. A remainder may have fewer
digits than were cut off, and it is then equal to no numeral of that length,
since a numeral has no zero in front; a fragment that is longer than the whole
leaves the whole as remainder and as quotient, from which its length keeps it
apart; and the one power of ten that no word holds belongs to numerals of
twenty digits, which are as long as any (`Fits`).

The three steps are kept apart. What it means to begin or end is said of lists
of digits, and turned into a quotient or a remainder of natural numbers. How
long a numeral is, the program finds by counting bits or by dividing
(`byteCount_eq`, `digitCount_eq`). And the shifts, masks and powers of the
program are quotients, remainders and powers of natural numbers as long as
nothing overflows (`toNat_and_lowBytesMask`, `toNat_shiftRight_octets`,
`toNat_of_powerOfTen?`). `isPartOf_iff_fragment` needs all three.
-/

namespace Telematics.PartOf

/-! ## Numerals -/

/-- **The numeral of a number**: its digits to a base, high digit first, one at
least. -/
def numeral (base n : Nat) : List Nat :=
  if n = 0 then [0] else (Nat.digits base n).reverse

/-- The octets of a number, high octet first; a zero is one octet. -/
def octets (n : UInt64) : List UInt8 := (numeral 256 n.toNat).map UInt8.ofNat

/-- The decimal digits of a number, as they are printed. -/
def decimal (n : UInt64) : List Char := (toString n.toNat).toList

section Numeral

variable {base : Nat} (hbase : 1 < base)

include hbase

/-- A digit is below the base. -/
theorem lt_of_mem_numeral {n d : Nat} (hd : d ∈ numeral base n) : d < base := by
  unfold numeral at hd
  split at hd
  · rw [List.mem_singleton.1 hd]
    exact Nat.zero_lt_of_lt hbase
  · exact Nat.digits_lt_base hbase (List.mem_reverse.1 hd)

/-- A numeral is as long as its logarithm says, and one more. -/
theorem length_numeral (n : Nat) :
    (numeral base n).length = Nat.log base n + 1 := by
  unfold numeral
  split
  · next h => simp [h]
  · next h => rw [List.length_reverse, Nat.length_digits base n hbase h]

theorem lt_pow_length_numeral (n : Nat) :
    n < base ^ (numeral base n).length := by
  rw [length_numeral hbase]
  exact Nat.lt_pow_succ_log_self hbase n

/-- So a number below a power has no more digits than that. -/
theorem length_numeral_le {k n : Nat} (hk : 0 < k) (h : n < base ^ k) :
    (numeral base n).length ≤ k := by
  rw [length_numeral hbase]
  rcases Nat.eq_zero_or_pos n with rfl | hn
  · rwa [Nat.log_zero_right]
  · exact Nat.log_lt_of_lt_pow hn.ne' h

theorem length_numeral_pos (n : Nat) : 0 < (numeral base n).length :=
  length_numeral hbase n ▸ Nat.succ_pos _

omit hbase in
/-- A numeral read from its low digit up is the number. -/
theorem ofDigits_reverse_numeral (n : Nat) :
    Nat.ofDigits base (numeral base n).reverse = n := by
  unfold numeral
  split
  · next h => simp [h]
  · rw [List.reverse_reverse, Nat.ofDigits_digits]

/-- Two lists of digits of one length are equal if they are read as the same
number. -/
theorem eq_iff_ofDigits_reverse {l k : List Nat} (hlen : l.length = k.length)
    (hl : ∀ d ∈ l, d < base) (hk : ∀ d ∈ k, d < base) :
    l = k ↔ Nat.ofDigits base l.reverse = Nat.ofDigits base k.reverse := by
  refine ⟨fun h => h ▸ rfl, fun h => List.reverse_injective ?_⟩
  refine Nat.ofDigits_inj_of_len_eq hbase (by simpa using hlen) ?_ ?_ h
  · exact fun d hd => hl d (List.mem_reverse.1 hd)
  · exact fun d hd => hk d (List.mem_reverse.1 hd)

/-- **A numeral ends another** exactly if its number is the remainder of the
other by the power of its length. If the remainder is the number then the last
digits of the other are read as it, and there are as many of them. -/
theorem numeral_suffix_iff (m n : Nat) :
    numeral base m <:+ numeral base n
      ↔ m = n % base ^ (numeral base m).length := by
  rcases Nat.lt_or_ge (numeral base n).length (numeral base m).length with
    hlt | hle
  · have hn : n < base ^ (numeral base m).length :=
      (lt_pow_length_numeral hbase n).trans (Nat.pow_lt_pow_right hbase hlt)
    rw [Nat.mod_eq_of_lt hn]
    constructor
    · exact fun h => absurd h.length_le (Nat.not_le.2 hlt)
    · exact fun h => h ▸ List.suffix_rfl
  · have hdigits := fun d => lt_of_mem_numeral hbase (n := n) (d := d)
    rw [List.suffix_iff_eq_drop, eq_iff_ofDigits_reverse hbase (by simp; omega)
      (fun d => lt_of_mem_numeral hbase)
        (fun d hd => hdigits d (List.mem_of_mem_drop hd)),
      ofDigits_reverse_numeral, List.reverse_drop, Nat.sub_sub_self hle,
      ← Nat.ofDigits_mod_pow_eq_ofDigits_take _ (Nat.zero_lt_of_lt hbase) _
        (fun d hd => hdigits d (List.mem_reverse.1 hd)),
          ofDigits_reverse_numeral]

/-- **A numeral begins another** exactly if its number is the quotient of the
other by the power of the difference of their lengths. If it is the longer one
the difference is zero, and the quotient is a number with fewer digits. -/
theorem numeral_prefix_iff (m n : Nat) :
    numeral base m <+: numeral base n
      ↔ m = n / base ^ ((numeral base n).length - (numeral base m).length) := by
  rcases Nat.lt_or_ge (numeral base n).length (numeral base m).length with
    hlt | hle
  · rw [Nat.sub_eq_zero_of_le hlt.le, Nat.pow_zero, Nat.div_one]
    constructor
    · exact fun h => absurd h.length_le (Nat.not_le.2 hlt)
    · exact fun h => h ▸ List.prefix_rfl
  · have hdigits := fun d => lt_of_mem_numeral hbase (n := n) (d := d)
    rw [List.prefix_iff_eq_take, eq_iff_ofDigits_reverse hbase (by simp [hle])
      (fun d => lt_of_mem_numeral hbase)
        (fun d hd => hdigits d (List.mem_of_mem_take hd)),
      ofDigits_reverse_numeral, List.reverse_take,
      ← Nat.ofDigits_div_pow_eq_ofDigits_drop _ (Nat.zero_lt_of_lt hbase) _
        (fun d hd => hdigits d (List.mem_reverse.1 hd)),
          ofDigits_reverse_numeral]

end Numeral

/-! ## Written numerals -/

section Written

variable {α β : Type} {f : α → β} {g : β → α} {l k : List α}

/-- Lists begin alike if what stands for their members does, and can be taken
back. -/
theorem map_prefix_map_iff (hl : (l.map f).map g = l)
  (hk : (k.map f).map g = k) :
    l.map f <+: k.map f ↔ l <+: k :=
  ⟨fun h => hl ▸ hk ▸ h.map g, fun h => h.map f⟩

/-- The same of ends. -/
theorem map_suffix_map_iff (hl : (l.map f).map g = l)
  (hk : (k.map f).map g = k) :
    l.map f <:+ k.map f ↔ l <:+ k :=
  ⟨fun h => hl ▸ hk ▸ h.map g, fun h => h.map f⟩

end Written

/-- The octets are digits to the base 256. -/
theorem map_toNat_octets (n : UInt64) :
    (octets n).map UInt8.toNat = numeral 256 n.toNat := by
  rw [octets, List.map_map]
  refine (List.map_congr_left fun d hd => ?_).trans (List.map_id _)
  exact UInt8.toNat_ofNat_of_lt (lt_of_mem_numeral (by decide) hd)

/-- A number is printed as its numeral to the base ten. -/
theorem toDigits_eq_map_numeral (n : Nat) :
    Nat.toDigits 10 n = (numeral 10 n).map Nat.digitChar := by
  induction n using Nat.strong_induction_on with
  | _ n ih =>
    rcases Nat.lt_or_ge n 10 with hlt | hge
    · rw [Nat.toDigits_of_lt_base hlt]
      interval_cases n <;> rfl
    · have hq : n / 10 ≠ 0 := by omega
      have hn : n ≠ 0 := by omega
      rw [Nat.toDigits_of_base_le (by decide) hge, ih (n / 10) (by omega),
        numeral, numeral, if_neg hq, if_neg hn,
        Nat.digits_def' (by decide) (Nat.pos_of_ne_zero hn),
        List.reverse_cons, List.map_append, List.map_singleton]

/-- So are the decimal digits of a word. -/
theorem decimal_eq (n : UInt64) :
    decimal n = (numeral 10 n.toNat).map Nat.digitChar :=
  Nat.toList_repr.trans (toDigits_eq_map_numeral n.toNat)

/-- What a digit is worth. -/
def digitValue (c : Char) : Nat := c.toNat - 48

/-- The value of a character takes it back to its digit. -/
theorem map_digitValue_decimal (n : UInt64) :
    ((numeral 10 n.toNat).map Nat.digitChar).map digitValue
      = numeral 10 n.toNat := by
  rw [List.map_map]
  refine (List.map_congr_left fun d hd => ?_).trans (List.map_id _)
  show (Nat.digitChar d).toNat - 48 = d
  rw [Nat.toNat_digitChar_of_lt_ten (lt_of_mem_numeral (by decide) hd),
    Nat.add_sub_cancel_left]

/-! ## Widths -/

/-- The program counts octets by the leading zeros of the word. -/
theorem byteCount_eq (n : UInt64) :
    byteCount n = (numeral 256 n.toNat).length := by
  have hlog : Nat.log 256 n.toNat = n.toNat.log2 / 8 := by
    rw [Nat.log2_eq_log_two]
    exact Nat.log_pow_left 2 8 n.toNat
  rw [length_numeral (by decide), byteCount, hlog]
  split
  · next h => simp [h]
  · rfl

/-- It counts digits by dividing, as often as there are any. -/
theorem digitsBelow_eq {k n : Nat} (h : n < 10 ^ k) :
    digitsBelow k n = Nat.log 10 n + 1 := by
  induction k generalizing n with
  | zero =>
    obtain rfl : n = 0 := Nat.lt_one_iff.1 h
    simp [digitsBelow]
  | succ k ih =>
    unfold digitsBelow
    split
    · next hlt => rw [Nat.log_of_lt hlt]
    · next hge =>
      rw [ih (Nat.div_lt_of_lt_mul (by rwa [← Nat.pow_succ'])),
        Nat.log_of_one_lt_of_le (by decide) (Nat.le_of_not_lt hge)]

/-- The count of the program is the length of the numeral. -/
theorem digitCount_eq (n : UInt64) :
    digitCount n = (numeral 10 n.toNat).length := by
  rw [length_numeral (by decide)]
  exact digitsBelow_eq (n.toNat_lt.trans (by decide))

theorem byteCount_le (n : UInt64) : byteCount n ≤ 8 :=
  byteCount_eq n ▸ length_numeral_le (by decide) (by decide) n.toNat_lt

theorem byteCount_pos (n : UInt64) : 0 < byteCount n :=
  byteCount_eq n ▸ length_numeral_pos (by decide) n.toNat

theorem lt_pow_byteCount (n : UInt64) : n.toNat < 256 ^ byteCount n :=
  byteCount_eq n ▸ lt_pow_length_numeral (by decide) n.toNat

theorem digitCount_le (n : UInt64) : digitCount n ≤ 20 :=
  digitCount_eq n ▸ length_numeral_le (by decide) (by decide)
    (n.toNat_lt.trans (by decide))

theorem digitCount_pos (n : UInt64) : 0 < digitCount n :=
  digitCount_eq n ▸ length_numeral_pos (by decide) n.toNat

/-! ## Arithmetic of words -/

/-- A shift by fewer than eight octets is one by fewer bits than a word
has. -/
theorem toNat_shift {n : Nat} (h : n < 8) :
    (UInt64.ofNat (8 * n)).toNat % 64 = 8 * n := by
  rw [UInt64.toNat_ofNat']
  omega

/-- The bit above `n` octets is still one of the word. -/
theorem toNat_one_shiftLeft {n : Nat} (h : n < 8) :
    ((1 : UInt64) <<< UInt64.ofNat (8 * n)).toNat = 256 ^ n := by
  have hpow : 256 ^ n < 2 ^ 64 := Nat.pow_lt_pow_right (by decide) h
  rw [UInt64.toNat_shiftLeft, toNat_shift h, UInt64.toNat_one,
    Nat.one_shiftLeft, Nat.pow_mul]
  exact Nat.mod_eq_of_lt hpow

/-- A mask of so many octets has all their bits. -/
theorem toNat_lowBytesMask {n : Nat} (h : n ≤ 8) :
    (lowBytesMask n).toNat = 256 ^ n - 1 := by
  unfold lowBytesMask
  split
  · obtain rfl : n = 8 := by omega
    rfl
  · next hlt =>
    have hone := toNat_one_shiftLeft (Nat.lt_of_not_le hlt)
    have hle : (1 : UInt64) ≤ 1 <<< UInt64.ofNat (8 * n) := by
      rw [UInt64.le_iff_toNat_le, hone]
      exact Nat.one_le_pow n 256 (by decide)
    rw [UInt64.toNat_sub_of_le _ _ hle, hone, UInt64.toNat_one]

/-- The mask leaves a remainder. -/
theorem toNat_and_lowBytesMask (b : UInt64) {n : Nat} (h : n ≤ 8) :
    (b &&& lowBytesMask n).toNat = b.toNat % 256 ^ n := by
  have hpow : 256 ^ n = 2 ^ (8 * n) := (Nat.pow_mul 2 8 n).symm
  rw [UInt64.toNat_and, toNat_lowBytesMask h, hpow,
    Nat.and_two_pow_sub_one_eq_mod]

/-- A shift to the right leaves a quotient. -/
theorem toNat_shiftRight_octets (b : UInt64) {n : Nat} (h : n < 8) :
    (b >>> UInt64.ofNat (8 * n)).toNat = b.toNat / 256 ^ n := by
  rw [UInt64.toNat_shiftRight, toNat_shift h, Nat.shiftRight_eq_div_pow,
    Nat.pow_mul]

/-- A power of ten that a word holds is that power. -/
theorem toNat_of_powerOfTen? {n : Nat} {m : UInt64}
    (h : powerOfTen? n = some m) :
    m.toNat = 10 ^ n := by
  unfold powerOfTen? at h
  split at h
  · next hlt =>
    cases h
    exact UInt64.toNat_ofNat_of_lt' hlt
  · cases h

theorem le_of_powerOfTen? {n : Nat} (h : powerOfTen? n = none) :
    UInt64.size ≤ 10 ^ n := by
  unfold powerOfTen? at h
  split at h
  · cases h
  · next hge => exact Nat.le_of_not_lt hge

/-- Only the highest of the powers of ten that numerals need is no word. -/
theorem exists_powerOfTen? {n : Nat} (h : n < 20) :
    ∃ m, powerOfTen? n = some m ∧ m.toNat = 10 ^ n := by
  have hlt : 10 ^ n < UInt64.size :=
    (Nat.pow_le_pow_right (by decide) (Nat.le_of_lt_succ h)).trans_lt
      (by decide : 10 ^ 19 < UInt64.size)
  exact ⟨_, if_pos hlt, UInt64.toNat_ofNat_of_lt' hlt⟩

/-! ## The four tests -/

variable (a b : UInt64)

/-- **The octets of the one end those of the other**: the program compares
with a remainder by a mask, or with the whole word if no mask is needed. With
eight octets there is no mask to be made, and a shift by so many bits would
not be one. -/
theorem isByteSuffix_iff :
    isByteSuffix a b (byteCount a) = true ↔ octets a <:+ octets b := by
  rw [octets, octets,
    map_suffix_map_iff (map_toNat_octets a) (map_toNat_octets b),
    numeral_suffix_iff (by decide), ← byteCount_eq]
  unfold isByteSuffix
  split
  · next hle =>
    have hb : b.toNat < 256 ^ byteCount a :=
      (lt_pow_byteCount b).trans_le (Nat.pow_le_pow_right (by decide) hle)
    rw [decide_eq_true_iff, Nat.mod_eq_of_lt hb, UInt64.toNat_inj]
  · rw [decide_eq_true_iff, ← UInt64.toNat_inj,
      toNat_and_lowBytesMask b (byteCount_le a)]

/-- **The octets of the one begin those of the other**: the program compares
with the word shifted down. The shift is by the octets that the longer number
has more. -/
theorem isBytePrefix_iff :
    isBytePrefix a b (byteCount a) = true ↔ octets a <+: octets b := by
  rw [octets, octets,
    map_prefix_map_iff (map_toNat_octets a) (map_toNat_octets b),
    numeral_prefix_iff (by decide), ← byteCount_eq, ← byteCount_eq]
  unfold isBytePrefix
  dsimp only
  split
  · next hle =>
    rw [decide_eq_true_iff, Nat.sub_eq_zero_of_le hle, Nat.pow_zero,
      Nat.div_one, UInt64.toNat_inj]
  · next hlt =>
    have hlt := Nat.lt_of_not_le hlt
    have hshift : byteCount b - byteCount a < 8 := by
      have := byteCount_le b
      have := byteCount_pos a
      omega
    -- What the mask takes away is zero already.
    have htop : b.toNat / 256 ^ (byteCount b - byteCount a)
        < 256 ^ byteCount a := by
      refine Nat.div_lt_of_lt_mul ?_
      rw [← Nat.pow_add, Nat.sub_add_cancel hlt.le]
      exact lt_pow_byteCount b
    rw [decide_eq_true_iff, ← UInt64.toNat_inj,
      toNat_and_lowBytesMask _ (byteCount_le a),
      toNat_shiftRight_octets b hshift, Nat.mod_eq_of_lt htop]

/-- **The digits of the one end those of the other**: the program compares
with a remainder by a power of ten, or with the whole word if that power is no
word. -/
theorem isDigitSuffix_iff :
    isDigitSuffix a b (digitCount a) = true ↔ decimal a <:+ decimal b := by
  rw [decimal_eq, decimal_eq,
    map_suffix_map_iff (map_digitValue_decimal a) (map_digitValue_decimal b),
    numeral_suffix_iff (by decide), ← digitCount_eq]
  unfold isDigitSuffix
  split
  · next m hm =>
    rw [decide_eq_true_iff, ← UInt64.toNat_inj, UInt64.toNat_mod,
      toNat_of_powerOfTen? hm]
  · next hnone =>
    have hb : b.toNat < 10 ^ digitCount a :=
      b.toNat_lt.trans_le (le_of_powerOfTen? hnone)
    rw [decide_eq_true_iff, Nat.mod_eq_of_lt hb, UInt64.toNat_inj]

/-- The quotient is taken by a power that a word holds. -/
theorem sub_digitCount_lt : digitCount b - digitCount a < 20 := by
  have := digitCount_le b
  have := digitCount_pos a
  omega

/-- **The digits of the one begin those of the other**: the program compares
with a quotient by a power of ten. The power fits into a word, since one
number has at most nineteen digits more than another. -/
theorem isDigitPrefix_iff :
    isDigitPrefix a b (digitCount a) = true ↔ decimal a <+: decimal b := by
  obtain ⟨m, hm, hpow⟩ := exists_powerOfTen? (sub_digitCount_lt a b)
  rw [decimal_eq, decimal_eq,
    map_prefix_map_iff (map_digitValue_decimal a) (map_digitValue_decimal b),
    numeral_prefix_iff (by decide), ← digitCount_eq, ← digitCount_eq,
    isDigitPrefix, hm, Option.any_some, decide_eq_true_iff, ← UInt64.toNat_inj,
    UInt64.toNat_div, hpow]

/-- **Nothing overflows** when `a` is looked for in `b`. -/
structure Fits (a b : UInt64) : Prop where
  /-- The bit that a mask is made from is one of the word. -/
  maskBit : byteCount a < 8 →
    8 * byteCount a < 64 ∧
      ((1 : UInt64) <<< UInt64.ofNat (8 * byteCount a)).toNat
        = 256 ^ byteCount a
  /-- A mask has the bits of its octets and no others. -/
  mask : (lowBytesMask (byteCount a)).toNat = 256 ^ byteCount a - 1
  /-- A number is shifted down by fewer bits than it has. -/
  shift : byteCount a < byteCount b → 8 * (byteCount b - byteCount a) < 64
  /-- The power of ten by which a quotient is taken is a word. -/
  divisor : ∃ m, powerOfTen? (digitCount b - digitCount a) = some m ∧
    m.toNat = 10 ^ (digitCount b - digitCount a)
  /-- The power of ten by which a remainder is taken is a word, or the numeral
  is as long as numerals of words get and is compared as a whole. -/
  modulus : (∃ m, powerOfTen? (digitCount a) = some m
    ∧ m.toNat = 10 ^ digitCount a) ∨
    (powerOfTen? (digitCount a) = none ∧ ∀ c, digitCount c ≤ digitCount a)

/-- Nothing overflows, whatever the two numbers are. -/
theorem fits : Fits a b where
  maskBit h := ⟨by omega, toNat_one_shiftLeft h⟩
  mask := toNat_lowBytesMask (byteCount_le a)
  shift h := by
    have := byteCount_le b
    have := byteCount_pos a
    omega
  divisor := exists_powerOfTen? (sub_digitCount_lt a b)
  modulus := by
    rcases (digitCount_le a).lt_or_eq with hlt | heq
    · exact .inl (exists_powerOfTen? hlt)
    · exact .inr ⟨heq ▸ by decide, fun c => heq ▸ digitCount_le c⟩

/-- **A number is a fragment of another** exactly if its octets or its decimal
digits begin or end those of the other, and nothing overflows on the way. A
number is never divided into the digits of which the right side speaks: the
program works with remainders, quotients and shifts of machine words
throughout. -/
theorem isPartOf_iff_fragment :
    (isPartOf a b = true ↔ (octets a <+: octets b ∨ octets a <:+ octets b) ∨
      (decimal a <+: decimal b ∨ decimal a <:+ decimal b)) ∧ Fits a b := by
  refine ⟨?_, fits a b⟩
  unfold isPartOf
  rw [Bool.or_eq_true, Bool.or_eq_true, Bool.or_eq_true, isByteSuffix_iff,
    isBytePrefix_iff, isDigitSuffix_iff, isDigitPrefix_iff,
    or_comm (a := octets a <:+ octets b), or_assoc,
    or_comm (a := decimal a <:+ decimal b)]

end Telematics.PartOf
