import Telematics.Text.Scan
import Telematics.Time.Duration

/-!
# Durations in words

A duration is written as counts of units, the largest first: `2days 3h`. A month
is 30.44 days and a year 365.25, so every unit is a whole number of seconds or
nanoseconds. Reading takes the units in any order and repeated, under several
names each, and a decimal fraction where it comes out even.

Counts are limited to sixty-four bits, and so is the sum on the way: an amount
below a second has to fit beside the nanoseconds that are there already. Whether
a text is a duration can thus depend on the order of its counts.
-/

namespace Telematics

/-- A unit of time. -/
structure TimeUnit where
  /-- Nanoseconds in it. -/
  nanos : Nat
  /-- What a fraction of it has to be a multiple of, in nanoseconds; `none` for
  the smallest unit, which has no fractions. -/
  grain : Option Nat
  names : List String

namespace TimeUnit

/-- The units, the smallest first. -/
def all : List TimeUnit :=
  [⟨1, none, ["nanos", "nsec", "ns"]⟩,
   ⟨1000, some 1, ["usec", "us", "µs"]⟩,
   ⟨1000000, some 1, ["millis", "msec", "ms"]⟩,
   ⟨1000000000, some 1, ["seconds", "second", "secs", "sec", "s"]⟩,
   ⟨60 * 1000000000, some 1, ["minutes", "minute", "mins", "min", "m"]⟩,
   ⟨3600 * 1000000000, some 1000000000, ["hours", "hour", "hrs", "hr", "h"]⟩,
   ⟨86400 * 1000000000, some 1000000000, ["days", "day", "d"]⟩,
   ⟨604800 * 1000000000, some 1000000000, ["weeks", "week", "wks", "wk", "w"]⟩,
   ⟨2630016 * 1000000000, some 1000000000, ["months", "month", "M"]⟩,
   ⟨31557600 * 1000000000, some 1000000000,
     ["years", "year", "yrs", "yr", "y"]⟩]

/-- The unit of a name. -/
def ofName? (name : String) : Option TimeUnit :=
  all.find? (·.names.contains name)

/-- The unit that counts are kept in: seconds, or nanoseconds below a second. -/
def base (u : TimeUnit) : Nat := if u.nanos < 1000000000 then 1 else 1000000000

/-- So many units, in nanoseconds. -/
def times? (u : TimeUnit) (count : Nat) : Option Nat :=
  if count * (u.nanos / u.base) < UInt64.size then some (count * u.nanos)
    else none

/-- A fraction of a unit, in nanoseconds, if it comes out even. -/
def fraction? (u : TimeUnit) (numerator denominator : Nat) : Option Nat := do
  let grain ← u.grain
  let scaled := numerator * (u.nanos / grain)
  guard (scaled < UInt64.size && scaled % denominator = 0)
  pure (scaled / denominator * grain)

/-- An amount on top of a total, both in nanoseconds. An amount that is counted
in nanoseconds has to fit beside those of the total. -/
def plus? (total amount countedIn : Nat) : Option Nat :=
  if countedIn = 1 ∧ UInt64.size ≤ total % 1000000000 + amount then none
  else some (total + amount)

/-- So many units and a fraction of one, given by its decimals, on top of a
total. -/
def addTo? (u : TimeUnit) (total count : Nat) (decimals : Option (List Char)) :
    Option Nat := do
  let total ← plus? total (← u.times? count) u.base
  match decimals with
  | none => pure total
  | some ds => do
    let part ← u.fraction? (Text.decimal ds) (Nat.pow 10 ds.length)
    plus? total part (← u.grain)

end TimeUnit

namespace Duration

/-! ## Writing -/

/-- A count of a unit, left out where it is zero. -/
def countText (count : Nat) (unit : String) : List String :=
  if count = 0 then [] else [toString count ++ unit]

/-- A count of a unit that is a word; more than one take an s. -/
def countWord (count : Nat) (unit : String) : List String :=
  countText count (if 1 < count then unit ++ "s" else unit)

/-- **The duration in words.** -/
def toWords (d : Duration) : String :=
  if d.nanos = 0 then "0s"
  else
    let seconds := d.nanos / 1000000000
    let nanos := d.nanos % 1000000000
    let ofYear := seconds % 31557600
    let ofMonth := ofYear % 2630016
    let ofDay := ofMonth % 86400
    String.intercalate " " <|
      countWord (seconds / 31557600) "year"
        ++ countWord (ofYear / 2630016) "month"
        ++ countWord (ofMonth / 86400) "day" ++ countText (ofDay / 3600) "h"
        ++ countText (ofDay % 3600 / 60) "m" ++ countText (ofDay % 60) "s"
        ++ countText (nanos / 1000000) "ms"
        ++ countText (nanos / 1000 % 1000) "us"
        ++ countText (nanos % 1000) "ns"

/-! ## Reading -/

/-- Digits, between which blanks may stand. -/
def scanDigits : Scan (List Char) := do
  let cs ← Scan.takeWhile fun c => Text.isDigit c || Text.isBlank c
  pure (cs.filter Text.isDigit)

/-- A letter of a unit. -/
def isUnitLetter (c : Char) : Bool := c.isAlpha || c = 'µ'

/-- A count and its unit, on top of a total of nanoseconds. -/
def scanCount (total : Nat) : Scan Nat := do
  match ← Scan.peek? with
  | some c => Scan.require (Text.isDigit c)
  | none => Scan.refuse
  let count := Text.decimal (← scanDigits)
  Scan.require (count < UInt64.size)
  let decimals ← match ← Scan.peek? with
    | some '.' => do
      Scan.char '.'
      let ds ← scanDigits
      Scan.require (!ds.isEmpty && Nat.pow 10 ds.length < UInt64.size)
      pure (some ds)
    | _ => pure none
  let name ← Scan.takeWhile isUnitLetter
  match (TimeUnit.ofName? (String.ofList name)).bind
    (·.addTo? total count decimals) with
  | some total => pure total
  | none => Scan.refuse

/-- Counts up to the end of the text, one at least, on top of a total. -/
def scanCounts : Nat → Nat → Scan Nat
  | 0, _ => Scan.refuse
  | fuel + 1, total => do
    Scan.blanks
    let total ← scanCount total
    Scan.blanks
    match ← Scan.peek? with
    | none => pure total
    | some _ => scanCounts fuel total

/-- **The duration that a text says.** A zero needs no unit. -/
def ofWords? (s : String) : Option Duration :=
  let cs := s.toList
  if cs = ['0'] then some zero
  else ((Scan.whole? (scanCounts (cs.length + 1) 0) cs).filter
    fun n => n / 1000000000 < UInt64.size).map Duration.mk

end Duration

end Telematics
