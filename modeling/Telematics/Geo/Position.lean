import Telematics.Text.Decimal

/-!
# Positions and distances

A position is a latitude, a longitude and perhaps an altitude. Its distance
to another is measured along the great circle, and combined with the
difference of the altitudes only if both have one.

The length of a plane vector is the double nearest to the exact root of the
sum of squares. Taking the root of the rounded sum would be off in the last
place now and then, and a distance that is compared with a tolerance must
not depend on that.
-/

namespace Telematics

namespace Plane

/-- The bits of the integer square root, from bit `i` down. -/
def sqrtBits (n : Nat) : Nat → Nat → Nat
  | 0, r => r
  | i + 1, r =>
    let c := r + Nat.pow 2 i
    if c * c ≤ n then sqrtBits n i c else sqrtBits n i r

/-- The integer square root. -/
def isqrt (n : Nat) : Nat := sqrtBits n (n.log2 / 2 + 1) 0

/-- The root of `n · 2^(2·e)`, rounded to the nearest double. The integer
root is taken with about sixty bits, and a last bit says whether anything
was cut off, so that the final rounding has everything it needs. -/
def root (n : Nat) (e : Int) : Float :=
  let half := n.log2 / 2
  let up := 60 - half
  let down := half - 60
  let r := isqrt (n * Nat.pow 4 up / Nat.pow 4 down)
  let rest := if r * r * Nat.pow 4 down = n * Nat.pow 4 up then 0 else 1
  (UInt64.ofNat (2 * r + rest)).toFloat.scaleB (e - up + down - 1)

/-- The length of a vector. -/
def length (x y : Float) : Float :=
  if x.isInf || y.isInf then 1.0 / 0.0
  else if x.isNaN || y.isNaN then 0.0 / 0.0
  else
    let (_, mx, qx) := Decimal.parts x
    let (_, my, qy) := Decimal.parts y
    let e := if mx = 0 then qy else if my = 0 then qx else min qx qy
    let a := mx * Nat.pow 2 (qx - e).toNat
    let b := my * Nat.pow 2 (qy - e).toNat
    if a = 0 then y.abs
    else if b = 0 then x.abs
    else root (a * a + b * b) e

end Plane

/-- A place, in degrees. -/
structure Position where
  latitude : Float
  longitude : Float
  /-- Metres above sea level. -/
  altitude : Option Int32

namespace Position

/-- The mean radius of the Earth in metres. -/
def earthRadius : Float := 6371000.0

/-- An angle of a degree. -/
def radian : Float := 3.14159265358979323846264338327950288 / 180.0

/-- The great-circle distance in metres. -/
def horizontalDistance (a b : Position) : Float :=
  let latitude1 := a.latitude * radian
  let latitude2 := b.latitude * radian
  let halfLatitude := ((b.latitude - a.latitude) * radian / 2.0).sin
  let halfLongitude := ((b.longitude - a.longitude) * radian / 2.0).sin
  let h := halfLatitude * halfLatitude
    + latitude1.cos * latitude2.cos * (halfLongitude * halfLongitude)
  earthRadius * (2.0 * Float.atan2 h.sqrt (1.0 - h).sqrt)

/-- The distance in metres, with the difference in altitude if both
positions have one. -/
def distance (a b : Position) : Float :=
  let horizontal := a.horizontalDistance b
  match a.altitude, b.altitude with
  | some x, some y =>
    Plane.length horizontal (Float.ofInt x.toInt - Float.ofInt y.toInt)
  | _, _ => horizontal

/-- The distance is no larger than a tolerance. -/
def within (tolerance : Float) (a b : Position) : Bool :=
  a.distance b ≤ tolerance

end Position

end Telematics
