import Telematics.Text.Scan

/-!
# Decimal texts of binary fractions

A finite double is `m · 2^q` with natural `m`. Two texts of it are needed:
the one with the fewest digits that still reads back as the same double, and
the one with a fixed number of places. Both are computed in exact arithmetic
on natural numbers.

For the first, the reals that round to a double form an interval whose ends
lie halfway to its neighbours; the ends belong to it exactly when `m` is
even. On the grid of `n`-digit decimals the two points next to the double
are the only candidates, and the first grid with a candidate inside the
interval has the shortest text. The nearer candidate is taken, and of two at
the same distance the even one.
-/

namespace Telematics

/-- A decimal fraction `± digits · 10^exponent`. -/
structure Decimal where
  negative : Bool
  digits : Nat
  exponent : Int
  deriving DecidableEq, Repr

namespace Decimal

/-- The smallest `m` that takes all the bits of a double. -/
def hiddenBit : Nat := 0x10000000000000

/-- Sign, `m` and `q` of a finite double. -/
def parts (x : Float) : Bool × Nat × Int :=
  let bits := x.toBits.toNat
  let fraction : Nat := bits % hiddenBit
  let biased : Nat := bits / hiddenBit % 2048
  let negative : Bool := 0x8000000000000000 ≤ bits
  if biased = 0 then (negative, fraction, -1074)
  else (negative, hiddenBit + fraction, (biased : Int) - 1075)

/-- The comparison of `a · 2^p` with `b · 10^k`, over a common
denominator. -/
def scaled (a : Nat) (p : Int) (b : Nat) (k : Int) : Nat × Nat :=
  (a * Nat.pow 2 p.toNat * Nat.pow 10 (-k).toNat,
    b * Nat.pow 10 k.toNat * Nat.pow 2 (-p).toNat)

/-- The number of decimal digits. -/
def width (n : Nat) : Nat := (toString n).length

/-- The exponent `e` with `10^(e-1) ≤ m · 2^q < 10^e`. -/
def magnitude (m : Nat) (q : Int) : Int :=
  if 0 ≤ q then width (m * Nat.pow 2 q.toNat)
  else
    let den := Nat.pow 2 (-q).toNat
    if den ≤ m then width (m / den) else 1 - (width (den / m) : Int)

/-- The candidate on the grid of `10^k`, if one lies within the interval of
`m · 2^q`. `low` and `high` are the ends in quarters of a unit of `m`. -/
def candidate? (m : Nat) (q k : Int) (low high : Nat) : Option Nat :=
  let p := q - 2
  let inside (c : Nat) : Bool :=
    let (lo, x) := scaled low p c k
    let (hi, _) := scaled high p c k
    if m % 2 = 0 then lo ≤ x && x ≤ hi else lo < x && x < hi
  let (v, unit) := scaled (4 * m) p 1 k
  let floor := v / unit
  let rest := v % unit
  let nearer :=
    if 2 * rest < unit then floor
    else if unit < 2 * rest then floor + 1
    else if floor % 2 = 0 then floor else floor + 1
  let other := if nearer = floor then floor + 1 else floor
  if inside nearer then some nearer
  else if inside other then some other
  else none

/-- The first grid with a candidate, from `n` digits on. -/
def search (m : Nat) (q e : Int) (low high : Nat) : Nat → Nat → Nat × Int
  | 0, n => (0, e - n)
  | steps + 1, n =>
    match candidate? m q (e - n) low high with
    | some c => (c, e - n)
    | none => search m q e low high steps (n + 1)

/-- Without zeros at the end. -/
def strip : Nat → Nat → Int → Nat × Int
  | 0, digits, exponent => (digits, exponent)
  | steps + 1, digits, exponent =>
    if digits ≠ 0 ∧ digits % 10 = 0
      then strip steps (digits / 10) (exponent + 1)
    else (digits, exponent)

/-- **The shortest decimal** that reads back as a finite double. -/
def shortest (x : Float) : Decimal :=
  let (negative, m, q) := parts x
  if m = 0 then ⟨negative, 0, 0⟩
  else
    let high := 4 * m + 2
    let low := if m = hiddenBit ∧ q ≠ -1074 then 4 * m - 1 else 4 * m - 2
    let (digits, exponent) := search m q (magnitude m q) low high 17 1
    let (digits, exponent) := strip 20 digits exponent
    ⟨negative, digits, exponent⟩

/-- The double nearest to a decimal. -/
def toFloat (d : Decimal) : Float :=
  let x :=
    if d.exponent < 0 then Float.ofScientific d.digits true d.exponent.natAbs
    else Float.ofScientific d.digits false d.exponent.toNat
  if d.negative then -x else x

/-- The sign as it is written. -/
def sign (negative : Bool) : List Char := if negative then ['-'] else []

/-- The digits with the point at its place. A whole number has no point. -/
def positional (d : Decimal) : List Char :=
  let ds := (toString d.digits).toList
  if 0 ≤ d.exponent then ds ++ List.replicate d.exponent.toNat '0'
  else
    let places := d.exponent.natAbs
    let ds := List.replicate (places + 1 - ds.length) '0' ++ ds
    ds.take (ds.length - places) ++ ['.'] ++ ds.drop (ds.length - places)

/-- A double in positional notation, with as many digits as it needs and no
more. -/
def plain (x : Float) : String :=
  if x.isNaN then "NaN"
  else if x.isInf then (if x < 0.0 then "-inf" else "inf")
  else
    let d := shortest x
    String.ofList (sign d.negative ++ positional d)

/-- `num / den`, rounded to the nearest, a half to the even neighbour. -/
def roundDiv (num den : Nat) : Nat :=
  let q := num / den
  let r := num % den
  if 2 * r < den then q else if den < 2 * r then q + 1 else q + q % 2

/-- A double with a fixed number of places. -/
def fixed (places : Nat) (x : Float) : String :=
  if x.isNaN then "NaN"
  else if x.isInf then (if x < 0.0 then "-inf" else "inf")
  else
    let (negative, m, q) := parts x
    let n :=
      roundDiv (m * Nat.pow 2 q.toNat * Nat.pow 10 places)
        (Nat.pow 2 (-q).toNat)
    let ds := Text.padded (places + 1) n
    String.ofList <| sign negative ++ ds.take (ds.length - places)
      ++ (if places = 0 then [] else '.' :: ds.drop (ds.length - places))

/-! ## Reading -/

/-- Digits, perhaps with a point among them and an exponent after them. At
least one digit stands somewhere. -/
def scanUnsigned : Scan (Nat × Int) := do
  let whole ← Scan.takeWhile Text.isDigit
  let fraction ← match ← Scan.peek? with
    | some '.' => do
      Scan.char '.'
      Scan.takeWhile Text.isDigit
    | _ => pure []
  Scan.require (!(whole ++ fraction).isEmpty)
  let exponent ← match ← Scan.peek? with
    | some 'e' | some 'E' => do
      let _ ← Scan.charWhere fun _ => true
      let negative ← match ← Scan.peek? with
        | some '-' => do Scan.char '-'; pure true
        | some '+' => do Scan.char '+'; pure false
        | _ => pure false
      let n ← Scan.number
      pure (if negative then -(n : Int) else n)
    | _ => pure 0
  pure (Text.decimal (whole ++ fraction), exponent - fraction.length)

/-- The bound on exponents beyond which a text is zero or infinite. -/
def clampExponent (digits : Nat) (exponent : Int) : Int :=
  let bound : Int := 400 + width digits
  if exponent < -bound then -bound else if bound < exponent then bound
    else exponent

/-- A double as the command line takes it: a decimal text with a sign, or
one of the names of the values that have no digits. -/
def float? (cs : List Char) : Option Float :=
  let (negative, body) := match cs with
    | '-' :: r => (true, r)
    | '+' :: r => (false, r)
    | cs => (false, cs)
  let signed (x : Float) : Float := if negative then -x else x
  let name := String.ofList (Text.lower body)
  if name = "nan" then some (signed (0.0 / 0.0))
  else if name = "inf" ∨ name = "infinity" then some (signed (1.0 / 0.0))
  else (Scan.whole? scanUnsigned body).map fun (digits, exponent) =>
    toFloat ⟨negative, digits, clampExponent digits exponent⟩

end Decimal

end Telematics
