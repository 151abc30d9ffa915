import Telematics.Time.Instant

/-!
# Time zones

A zone has a standard offset from Coordinated Universal Time and perhaps a rule
that puts its clocks forward for part of every year; before the rule, its
clocks may have had a history. A reading of the clock then need not belong to
exactly one instant: none when the clocks are put forward, two when they are
put back. `Zone.resolve?` answers only where it belongs to one.

A rule is laid down up to the year 2099. From then on the clocks stay as they
were last put, which south of the equator is forward.
-/

namespace Telematics

/-- When the clocks are changed: at a time of the first day of some name that is
not before a day of the month. -/
structure ClockChange where
  month : Nat
  day : Nat
  /-- The day of the week, Sunday being 1. -/
  weekday : Nat := 1
  /-- Seconds from the midnight in front, by the standard time of the zone. -/
  time : Int
  /-- The time is universal time instead. -/
  isUniversal : Bool := false
  deriving DecidableEq, Repr

namespace ClockChange

/-- The day of the change in a year. -/
def date (c : ClockChange) (year : Int) : Date :=
  let first : Date := ⟨year, c.month, c.day⟩
  .ofDays (first.toDays + ((c.weekday + 7 - first.weekday) % 7 : Nat))

/-- The instant of the change in a year, as seconds, where standard time is so
many seconds east of Greenwich. -/
def second (c : ClockChange) (standard year : Int) : Int :=
  (c.date year).toDays * 86400 + c.time
    - (if c.isUniversal then 0 else standard)

end ClockChange

/-- Clocks are put forward at one time of the year and back at another. -/
structure DaylightRule where
  forward : ClockChange
  back : ClockChange
  /-- By how many seconds. -/
  amount : Int := 3600
  deriving DecidableEq, Repr

namespace DaylightRule

/-- The last year with changes. -/
def lastYear : Int := 2099

/-- The clocks are forward at an instant of a year, given as seconds. North of
the equator that is between the changes of the year, south of it outside of
them. -/
def isForward (r : DaylightRule) (standard year second : Int) : Bool :=
  let forward := r.forward.second standard (min year lastYear)
  let back := r.back.second standard (min year lastYear)
  if forward ≤ back then forward ≤ second && second < back
  else second < back || forward ≤ second

end DaylightRule

/-- A time zone. -/
structure Zone where
  name : String
  /-- Seconds east of Greenwich, daylight saving apart. -/
  standard : Int
  rule : Option DaylightRule := none
  /-- The offsets before those, each with the instant up to which it held, as
  seconds, the earliest first. -/
  history : List (Int × Int) := []
  deriving DecidableEq, Repr

namespace Zone

/-- Seconds east of Greenwich at an instant that is no longer history. -/
def presentOffset (z : Zone) (second : Int) : Int :=
  match z.rule with
  | none => z.standard
  | some r =>
    let year := (Date.ofDays ((second + z.standard) / 86400)).year
    if r.isForward z.standard year second then z.standard + r.amount
      else z.standard

/-- Seconds east of Greenwich at an instant, given as seconds. -/
def offsetAt (z : Zone) (second : Int) : Int :=
  match z.history.find? (second < ·.1) with
  | some (_, offset) => offset
  | none => z.presentOffset second

/-- What the clocks of the zone show, as seconds. -/
def toLocal (z : Zone) (second : Int) : Int := second + z.offsetAt second

/-- The one instant at which the clocks show this, if there is exactly one.
Clocks are never changed twice within two days, so the offset is that of the
day before or of the day after. -/
def resolve? (z : Zone) (shown : Int) : Option Int :=
  let offsets :=
    [z.offsetAt (shown - 86400), z.offsetAt (shown + 86400)].eraseDups
  match (offsets.map (shown - ·)).filter fun second => z.toLocal second
    = shown with
  | [second] => some second
  | _ => none

/-- Coordinated Universal Time. -/
def utc : Zone := { name := "UTC", standard := 0 }

end Zone

end Telematics
