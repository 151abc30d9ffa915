import Telematics.Error
import Telematics.Text.Scan
import Telematics.Time.Duration
import Telematics.Time.Zone

/-!
# Cron expressions

An expression lists the seconds, minutes, hours, days of the month, months,
days of the week and years in which something happens; the seconds may be left
out, and then are zero, and so may the years. Each field is a list of items: an
asterisk, a number, a range, a name or a range of names, and a step behind any
of these but a name. Sunday is the first day of the week.

Blanks are free around numbers, names and whole fields, so it is the items and
not the blanks that say where a field ends. An asterisk or a question mark has
no blanks of its own: `5 ,*` is one field and `* ,5` is none.
-/

namespace Telematics

/-- A field of an expression. -/
structure CronField where
  least : Nat
  greatest : Nat
  /-- A question mark stands for an asterisk. -/
  allowsAny : Bool
  /-- The names of values, in lower case. -/
  names : List (String × Nat)

namespace CronField

def second : CronField := ⟨0, 59, false, []⟩
def minute : CronField := ⟨0, 59, false, []⟩
def hour : CronField := ⟨0, 23, false, []⟩
def dayOfMonth : CronField := ⟨1, 31, true, []⟩
def year : CronField := ⟨1970, 2100, false, []⟩

def month : CronField where
  least := 1
  greatest := 12
  allowsAny := false
  names :=
    [("jan", 1), ("january", 1), ("feb", 2), ("february", 2), ("mar", 3),
      ("march", 3), ("apr", 4), ("april", 4), ("may", 5), ("jun", 6),
      ("june", 6), ("jul", 7), ("july", 7),
      ("aug", 8), ("august", 8), ("sep", 9), ("september", 9), ("oct", 10),
      ("october", 10),
      ("nov", 11), ("november", 11), ("dec", 12), ("december", 12)]

def dayOfWeek : CronField where
  least := 1
  greatest := 7
  allowsAny := true
  names :=
    [("sun", 1), ("sunday", 1), ("mon", 2), ("monday", 2), ("tue", 3),
      ("tues", 3), ("tuesday", 3), ("wed", 4), ("wednesday", 4), ("thu", 5),
      ("thurs", 5), ("thursday", 5),
      ("fri", 6), ("friday", 6), ("sat", 7), ("saturday", 7)]

/-- The numbers from one to another, both included. -/
def interval (low high : Nat) : List Nat := List.range' low (high + 1 - low)

/-- Every value of the field. -/
def all (f : CronField) : List Nat := interval f.least f.greatest

/-- A value of the field. -/
def has (f : CronField) (n : Nat) : Bool := f.least ≤ n && n ≤ f.greatest

end CronField

/-- What stands in front of a step, or alone. -/
inductive CronRange where
  | all
  | point (n : Nat)
  | numbers (low high : Nat)
  | named (low high : String)
  deriving DecidableEq, Repr

/-- One item of a field. -/
inductive CronItem where
  | range (r : CronRange)
  | stepped (r : CronRange) (step : Nat)
  | name (s : String)
  deriving DecidableEq, Repr

namespace CronItem

/-! ## What items stand for -/

/-- The numbers between two ends, if both are values of the field in order. -/
def between? (f : CronField) (low high : Nat) : Option (List Nat) :=
  if f.has low && f.has high && low ≤ high
    then some (CronField.interval low high) else none

/-- The value of a name, in letters of either case. -/
def named? (f : CronField) (s : String) : Option Nat :=
  f.names.lookup (String.ofList (Text.lower s.toList))

/-- The values of a range. -/
def rangeValues? (f : CronField) : CronRange → Option (List Nat)
  | .all => some f.all
  | .point n => some [n]
  | .numbers low high => between? f low high
  | .named low high => do
    let low ← named? f low
    let high ← named? f high
    between? f low high

/-- Every so many of a list, from its first on. -/
def everyNth (step : Nat) (values : List Nat) : List Nat :=
  (values.zipIdx.filter fun (_, i) => i % step = 0).map (·.1)

/-- The values of an item. A number in front of a step stands for all from it
on. -/
def values? (f : CronField) : CronItem → Option (List Nat)
  | .range r => rangeValues? f r
  | .name s => (named? f s).map fun n => [n]
  | .stepped _ 0 => none
  | .stepped (.point n) step =>
    if f.has n then some (everyNth step (CronField.interval n f.greatest))
      else none
  | .stepped r step => (rangeValues? f r).map (everyNth step)

/-- The values of a field, ascending: those of any of its items, all of which
have to be values of the field. -/
def fieldValues? (f : CronField) (items : List CronItem) :
    Option (List Nat) := do
  let values ← items.mapM (values? f)
  guard (values.flatten.all f.has)
  pure (f.all.filter values.flatten.contains)

/-! ## Reading items -/

/-- A blank between items. -/
def isGap (c : Char) : Bool := c = ' ' || c = '\t' || c = '\r' || c = '\n'

/-- Blanks between items. -/
def gap : Scan Unit := fun cs => some ((), cs.dropWhile isGap)

/-- A value with blanks around it. -/
def spaced (p : Scan α) : Scan α := do
  gap
  let a ← p
  gap
  pure a

/-- A number of thirty-two bits. -/
def scanNumber : Scan Nat := spaced do
  let n ← Scan.number
  Scan.require (n < UInt32.size)
  pure n

/-- A run of letters. -/
def scanName : Scan String := spaced do
  let cs ← Scan.takeWhile Char.isAlpha
  Scan.require !cs.isEmpty
  pure (String.ofList cs)

/-- Two values with a hyphen between them. -/
def scanPair (p : Scan α) : Scan (α × α) := do
  let a ← p
  Scan.char '-'
  let b ← p
  pure (a, b)

/-- A range. -/
def scanRange (f : CronField) : Scan CronRange :=
  (do Scan.require f.allowsAny; Scan.char '?'; pure .all)
    <|> (do Scan.char '*'; pure .all)
    <|> (do let (a, b) ← scanPair scanNumber; pure (.numbers a b))
    <|> (do pure (.point (← scanNumber)))
    <|> (do let (a, b) ← scanPair scanName; pure (.named a b))

/-- An item. -/
def scan (f : CronField) : Scan CronItem :=
  (do
    let r ← scanRange f
    Scan.char '/'
    let step ← scanNumber
    pure (.stepped r step))
    <|> (do pure (.range (← scanRange f)))
    <|> (do pure (.name (← scanName)))

/-- More items of a field, each behind a comma; a comma without an item is left
where it is. -/
def scanMore (f : CronField) : Nat → Scan (List CronItem)
  | 0 => pure []
  | fuel + 1 =>
    (do
      Scan.char ','
      let item ← scan f
      let items ← scanMore f fuel
      pure (item :: items))
      <|> pure []

/-- A field: items between commas. -/
def scanField (f : CronField) : Scan (List Nat) := spaced do
  let item ← scan f
  let cs ← get
  let items ← scanMore f cs.length
  match fieldValues? f (item :: items) with
  | some values => pure values
  | none => Scan.refuse

end CronItem

/-- The values of each field of an expression, ascending. -/
structure Cron where
  seconds : List Nat
  minutes : List Nat
  hours : List Nat
  daysOfMonth : List Nat
  months : List Nat
  daysOfWeek : List Nat
  years : List Nat
  deriving DecidableEq, Repr

namespace Cron

/-- The fields, the seconds first. -/
def scan : Scan Cron := do
  let seconds ← CronItem.scanField .second
  let minutes ← CronItem.scanField .minute
  let hours ← CronItem.scanField .hour
  let daysOfMonth ← CronItem.scanField .dayOfMonth
  let months ← CronItem.scanField .month
  let daysOfWeek ← CronItem.scanField .dayOfWeek
  let years ← CronItem.scanField .year <|> pure CronField.year.all
  pure { seconds, minutes, hours, daysOfMonth, months, daysOfWeek, years }

/-- The words of a text, which blanks separate. -/
def wordCount (cs : List Char) : Nat :=
  ((Text.splitAt Text.isBlank cs).filter fun w => !w.isEmpty).length

/-- The expression that a text is: with five words the seconds are zero. -/
def ofText (s : String) : Except ScheduleFault Cron :=
  let cs := Text.trim s.toList
  let words := wordCount cs
  if words < 5 ∨ 7 < words then .error (.fieldCount words)
  else
    match Scan.whole? scan (if words = 5 then '0' :: ' ' :: cs else cs) with
    | some c => .ok c
    | none => .error .malformed

/-! ## When it happens -/

/-- A reading of the clock. -/
structure Reading where
  date : Date
  hour : Nat
  minute : Nat
  second : Nat
  deriving DecidableEq, Repr

/-- A reading as a count of seconds, and back. -/
def Reading.toSeconds (r : Reading) : Int :=
  r.date.toDays * 86400 + (r.hour * 3600 + r.minute * 60 + r.second : Nat)

/-- The reading that a count of seconds stands for. -/
def Reading.ofSeconds (n : Int) : Reading :=
  let s := (n % 86400).toNat
  ⟨Date.ofDays (n / 86400), s / 3600, s / 60 % 60, s % 60⟩

/-- The values that are not below a bound, each with the bound on what is inside
it: the first value, if it is the bound itself, hands the bound on. -/
def fromBound (values : List Nat) (bound : Option Reading)
    (part : Reading → Nat) : List (Nat × Option Reading) :=
  match bound with
  | none => values.map (·, none)
  | some b =>
    (values.filter (part b ≤ ·)).map fun v =>
      (v, if v = part b then some b else none)

/-- The first moment of a day, not before a bound, that the clocks of a zone
show exactly once. -/
def firstInDay (c : Cron) (z : Zone) (date : Date) (bound : Option Reading) :
    Option Int :=
  if c.daysOfWeek.contains date.weekday then
    (fromBound c.hours bound (·.hour)).findSome? fun (hour, bound) =>
      (fromBound c.minutes bound (·.minute)).findSome? fun (minute, bound) =>
        (fromBound c.seconds bound (·.second)).findSome? fun (second, _) =>
          z.resolve? (Reading.toSeconds ⟨date, hour, minute, second⟩)
  else none

/-- The first moment of a month, not before a bound. A bound behind the end of
the month counts as its last day. -/
def firstInMonth (c : Cron) (z : Zone) (year : Int) (month : Nat)
    (bound : Option Reading) : Option Int :=
  let length := Date.daysInMonth year month
  let from? := bound.map fun b => min b.date.day length
  let days := c.daysOfMonth.filter fun d => from?.getD 1 ≤ d && d ≤ length
  days.findSome? fun d =>
    let inner :=
      bound.filter fun b => from? = some d && c.daysOfMonth.contains b.date.day
    c.firstInDay z ⟨year, month, d⟩ inner

/-- The first moment of a year, not before a bound. -/
def firstInYear (c : Cron) (z : Zone) (year : Nat) (bound : Option Reading) :
    Option Int :=
  (fromBound c.months bound (·.date.month)).findSome? fun (month, bound) =>
    c.firstInMonth z year month bound

/-- **The first moment after an instant**, as seconds. The month, day and time
of the instant bound the first year that is tried even where that year is a
later one. Nothing follows an instant in a year below zero. -/
def nextAfter (c : Cron) (z : Zone) (after : Instant) : Option Int :=
  let start := Reading.ofSeconds (z.toLocal (after.plus (.ofSeconds 1)).second)
  if start.date.year < 0 then none
  else
    match c.years.filter fun y : Nat => start.date.year ≤ (y : Int) with
    | [] => none
    | first :: rest =>
      (c.firstInYear z first (some start)).or
        (rest.findSome? fun year => c.firstInYear z year none)

end Cron

end Telematics
