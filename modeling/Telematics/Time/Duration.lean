import Telematics.Time.Instant

/-!
# Durations

A duration is a count of nanoseconds. A span, by which an instant can be
moved, is a duration of at most 2⁶³ – 1 milliseconds.
-/

namespace Telematics

/-- A length of time. -/
structure Duration where
  nanos : Nat
  deriving DecidableEq, Repr, Inhabited

namespace Duration

def zero : Duration := ⟨0⟩
def ofSeconds (n : Nat) : Duration := ⟨n * 1000000000⟩
def ofMillis (n : Nat) : Duration := ⟨n * 1000000⟩

/-- Whole milliseconds. -/
def millis (d : Duration) : Nat := d.nanos / 1000000

/-- A count of a unit with a fraction of it, in `10^places` parts, without zeros
at the end. -/
def decimalText (count fraction places : Nat) : String :=
  let ds := (Text.padded places fraction).reverse.dropWhile (· = '0')
  toString count ++ (if ds.isEmpty then "" else "." ++ String.ofList ds.reverse)

/-- The duration in the largest unit, up to seconds, of which it has one. -/
def toText (d : Duration) : String :=
  if 1000000000 ≤ d.nanos then
    decimalText (d.nanos / 1000000000) (d.nanos % 1000000000) 9 ++ "s"
  else if 1000000 ≤ d.nanos then
    decimalText (d.nanos / 1000000) (d.nanos % 1000000) 6 ++ "ms"
  else if 1000 ≤ d.nanos
    then decimalText (d.nanos / 1000) (d.nanos % 1000) 3 ++ "µs"
  else toString d.nanos ++ "ns"

/-- The duration as a span, if it is not too long for one. -/
def toSpan? (d : Duration) : Option Duration :=
  if d.nanos ≤ 0x7FFFFFFFFFFFFFFF * 1000000 then some d else none

end Duration

namespace Instant

/-- The instant a span later. From within a leap second an addition either
stays in it or counts from the second before, as if the leap second were not
there. -/
def plus (t : Instant) (d : Duration) : Instant :=
  if 1000000000 ≤ t.nano ∧ t.nano + d.nanos < 2000000000 then
    ⟨t.second, t.nano + d.nanos⟩
  else
    let nanos := (if 1000000000 ≤ t.nano then t.nano - 1000000000 else t.nano)
      + d.nanos
    ⟨t.second + nanos / 1000000000, nanos % 1000000000⟩

/-- The instant a span earlier. From within a leap second a subtraction of
less than a second stays in it or in the second before, and any other counts
from the second after. -/
def minus (t : Instant) (d : Duration) : Instant :=
  if 1000000000 ≤ t.nano ∧ d.nanos < 1000000000
    then ⟨t.second, t.nano - d.nanos⟩
  else
    let nanos : Int := t.nano - d.nanos
    ⟨t.second + nanos / 1000000000, (nanos % 1000000000).toNat⟩

/-- The time from one instant to a later one; none at all to an earlier
one. -/
def since (t u : Instant) : Duration :=
  ⟨((t.second - u.second) * 1000000000 + (t.nano - u.nano : Int)).toNat⟩

end Instant

end Telematics
