/-!
# Object numbers that are fragments of an identity

A terminal may report only a piece of its equipment identity. A number `a`
counts as a fragment of `b` if its bytes, high byte first and none but the
last zero in front, begin or end the bytes of `b`, or if its decimal digits
begin or end those of `b`. The tests below do this with shifts, masks and
powers of ten on words; the width is always that of `a`.
-/

namespace Telematics.PartOf

/-- The bytes of a number, one at least. -/
def byteCount (n : UInt64) : Nat := if n = 0 then 1 else n.toNat.log2 / 8 + 1

/-- The decimal digits of a number below a power of ten, one at least. -/
def digitsBelow : Nat → Nat → Nat
  | 0, _ => 1
  | k + 1, n => if n < 10 then 1 else digitsBelow k (n / 10) + 1

/-- The decimal digits of a number, one at least. -/
def digitCount (n : UInt64) : Nat := digitsBelow 20 n.toNat

/-- The low bytes of a word. -/
def lowBytesMask (n : Nat) : UInt64 :=
  -- A shift by all sixty-four bits would be none.
  if 8 ≤ n then 0xFFFFFFFFFFFFFFFF else (1 <<< UInt64.ofNat (8 * n)) - 1

/-- A power of ten that fits a word. -/
def powerOfTen? (n : Nat) : Option UInt64 :=
  if Nat.pow 10 n < UInt64.size then some (UInt64.ofNat (Nat.pow 10 n))
    else none

/-- `a` is the low `n` bytes of `b`, or `b` itself. -/
def isByteSuffix (a b : UInt64) (n : Nat) : Bool :=
  if byteCount b ≤ n then a = b else a = b &&& lowBytesMask n

/-- `a` is the high `n` bytes of `b`, or `b` itself. -/
def isBytePrefix (a b : UInt64) (n : Nat) : Bool :=
  let width := byteCount b
  if width ≤ n then a = b
  else a = b >>> UInt64.ofNat (8 * (width - n)) &&& lowBytesMask n

/-- `a` is the low `n` digits of `b`, or `b` itself. -/
def isDigitSuffix (a b : UInt64) (n : Nat) : Bool :=
  match powerOfTen? n with
  | some m => a = b % m
  | none => a = b

/-- `a` is the high `n` digits of `b`. -/
def isDigitPrefix (a b : UInt64) (n : Nat) : Bool :=
  (powerOfTen? (digitCount b - n)).any fun m => a = b / m

end Telematics.PartOf

namespace Telematics

/-- **The number `a` may be a fragment of `b`.** -/
def isPartOf (a b : UInt64) : Bool :=
  PartOf.isByteSuffix a b (PartOf.byteCount a)
    || PartOf.isBytePrefix a b (PartOf.byteCount a)
    || PartOf.isDigitSuffix a b (PartOf.digitCount a)
    || PartOf.isDigitPrefix a b (PartOf.digitCount a)

end Telematics
