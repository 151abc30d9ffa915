/-!
# Octets and little-endian words

Everything on the wire is a list of octets, and every integer is written
low octet first. One pair of functions covers all widths: `Bytes.ofNat`
writes a number into a given count of octets, `Bytes.toNat` reads a list
back. A reader of sixteen, twenty-four or thirty-two bits is this pair at a
fixed count, so the round trip is proved once, here.

A byte that carries flags is a list of bits, lowest first; `Octet.ofBits`
packs it, `Octet.hasBit` looks one up.
-/

namespace Telematics

/-- The contents of a buffer, a packet or a payload. -/
abbrev Bytes := List UInt8

namespace Bytes

/-- The number written low octet first. -/
def toNat : Bytes → Nat
  | [] => 0
  | b :: r => b.toNat + 256 * toNat r

/-- The low `width` octets of a number, low octet first. -/
def ofNat : Nat → Nat → Bytes
  | 0, _ => []
  | width + 1, n => UInt8.ofNat n :: ofNat width (n / 256)

@[simp] theorem length_ofNat (width n : Nat) :
    (ofNat width n).length = width := by
  induction width generalizing n with
  | zero => rfl
  | succ w ih => simp [ofNat, ih]

/-- **Writing and reading back** keeps what fits into the octets. -/
theorem toNat_ofNat (width n : Nat) :
    toNat (ofNat width n) = n % Nat.pow 256 width := by
  induction width generalizing n with
  | zero => simp [ofNat, toNat, Nat.mod_one]
  | succ w ih =>
    have hpow : Nat.pow 256 (w + 1) = 256 * Nat.pow 256 w := Nat.mul_comm ..
    simp only [ofNat, toNat, ih, UInt8.toNat_ofNat', hpow]
    exact (Nat.mod_mul).symm

/-- **Reading and writing back** keeps every octet. -/
theorem ofNat_toNat (d : Bytes) : ofNat d.length (toNat d) = d := by
  induction d with
  | nil => rfl
  | cons b r ih =>
    have hb : b.toNat < 256 := b.toNat_lt
    have hlow : UInt8.ofNat (b.toNat + 256 * toNat r) = b := by
      apply UInt8.toNat_inj.1
      rw [UInt8.toNat_ofNat']
      omega
    have hhigh : (b.toNat + 256 * toNat r) / 256 = toNat r := by omega
    simp [ofNat, toNat, hlow, hhigh, ih]

theorem toNat_lt (d : Bytes) : toNat d < Nat.pow 256 d.length := by
  induction d with
  | nil => simp [toNat]
  | cons b r ih =>
    have hb : b.toNat < 256 := b.toNat_lt
    have hpow : Nat.pow 256 (r.length + 1) = Nat.pow 256 r.length * 256 := rfl
    simp only [toNat, List.length_cons, hpow]
    omega

/-- The sixteen bits of a word, low octet first. -/
def ofUInt16 (w : UInt16) : Bytes := ofNat 2 w.toNat

/-- The thirty-two bits of a word, low octet first. -/
def ofUInt32 (w : UInt32) : Bytes := ofNat 4 w.toNat

/-- The low twenty-four bits of a word, low octet first. -/
def ofUInt24 (w : UInt32) : Bytes := ofNat 3 w.toNat

@[simp] theorem length_ofUInt16 (w : UInt16) : (ofUInt16 w).length = 2 :=
  length_ofNat ..
@[simp] theorem length_ofUInt24 (w : UInt32) : (ofUInt24 w).length = 3 :=
  length_ofNat ..
@[simp] theorem length_ofUInt32 (w : UInt32) : (ofUInt32 w).length = 4 :=
  length_ofNat ..

/-- The first `n` octets and what follows them, if there are so many. -/
def split? (n : Nat) (d : Bytes) : Option (Bytes × Bytes) :=
  if (d.take n).length = n then some (d.take n, d.drop n) else none

theorem split?_eq_some_iff {n : Nat} {d a b : Bytes} :
    split? n d = some (a, b) ↔ a.length = n ∧ d = a ++ b := by
  unfold split?
  constructor
  · intro h
    split at h
    · next hn =>
      simp only [Option.some.injEq, Prod.mk.injEq] at h
      exact ⟨h.1 ▸ hn, by rw [← h.1, ← h.2, List.take_append_drop]⟩
    · cases h
  · rintro ⟨rfl, rfl⟩
    simp

@[simp] theorem split?_append (a b : Bytes) :
    split? a.length (a ++ b) = some (a, b) :=
  split?_eq_some_iff.2 ⟨rfl, rfl⟩

end Bytes

/-! ## Flag bytes -/

namespace Octet

/-- Bit `i` of a flag byte is set. -/
def hasBit (b : UInt8) (i : Nat) : Bool := b.toNat.testBit i

/-- The flag byte with these bits, lowest first. -/
def ofBits : List Bool → UInt8
  | [] => 0
  | b :: r => (if b then 1 else 0) + 2 * ofBits r

end Octet

end Telematics
