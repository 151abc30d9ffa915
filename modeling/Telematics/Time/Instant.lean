import Telematics.Text.Scan
import Telematics.Time.Civil

/-!
# Instants

An instant is a count of seconds since 1970-01-01T00:00:00Z and a count of
nanoseconds within the second. The nanoseconds of the second before a leap
second run on past a whole second; that is how `23:59:60` is told apart from
the midnight after it.

Instants are written with the fewest of zero, three, six or nine fraction
digits that lose nothing. Reading is more lenient than writing: a blank or a
lower-case `t` may stand between date and time, blanks may stand before
every part, and the offset may lack its colon.
-/

namespace Telematics

/-- A point in time, to the nanosecond. -/
structure Instant where
  /-- Whole seconds since 1970-01-01T00:00:00Z. -/
  second : Int
  /-- Nanoseconds since that second; from 10⁹ on, within a leap second. -/
  nano : Nat
  deriving DecidableEq, Repr, Inhabited

namespace Instant

/-- Earlier, or the same instant. -/
def ble (a b : Instant) : Bool :=
  a.second < b.second || (a.second = b.second && a.nano ≤ b.nano)

instance : LE Instant := ⟨fun a b => a.ble b = true⟩
instance : LT Instant := ⟨fun a b => a ≤ b ∧ a ≠ b⟩
instance (a b : Instant) : Decidable (a ≤ b) :=
  inferInstanceAs (Decidable (a.ble b = true))
instance (a b : Instant) : Decidable (a < b) :=
  inferInstanceAs (Decidable (_ ∧ _))

theorem le_iff {a b : Instant} :
    a ≤ b ↔ a.second < b.second ∨ (a.second = b.second ∧ a.nano ≤ b.nano) := by
  show a.ble b = true ↔ _
  simp [ble]

theorem le_refl (a : Instant) : a ≤ a := by simp [le_iff]

theorem le_trans {a b c : Instant} (hab : a ≤ b) (hbc : b ≤ c) : a ≤ c := by
  rw [le_iff] at *
  omega

theorem le_antisymm {a b : Instant} (hab : a ≤ b) (hba : b ≤ a) : a = b := by
  rw [le_iff] at *
  cases a
  cases b
  simp only [mk.injEq] at *
  omega

theorem le_total (a b : Instant) : a ≤ b ∨ b ≤ a := by
  rw [le_iff, le_iff]
  omega

/-- The calendar day. -/
def date (t : Instant) : Date := Date.ofDays (t.second / 86400)

/-- Seconds since midnight. -/
def secondOfDay (t : Instant) : Nat := (t.second % 86400).toNat

/-! ## Writing -/

/-- The fraction of a second, with three, six or nine digits. -/
def fraction (nano : Nat) : List Char :=
  if nano = 0 then []
  else if nano % 1000000 = 0 then '.' :: Text.padded 3 (nano / 1000000)
  else if nano % 1000 = 0 then '.' :: Text.padded 6 (nano / 1000)
  else '.' :: Text.padded 9 nano

/-- A year of four digits, or a longer one with its sign. -/
def yearText (year : Int) : List Char :=
  if 0 ≤ year ∧ year ≤ 9999 then Text.padded 4 year.toNat
  else (if year < 0 then '-' else '+') :: Text.padded 4 year.natAbs

/-- The instant in Coordinated Universal Time. -/
def toRfc3339 (t : Instant) : String :=
  let d := t.date
  let s := t.secondOfDay
  let leap := t.nano / 1000000000
  String.ofList <|
    yearText d.year ++ ['-'] ++ Text.padded 2 d.month ++ ['-']
      ++ Text.padded 2 d.day
      ++ ['T'] ++ Text.padded 2 (s / 3600) ++ [':']
      ++ Text.padded 2 (s / 60 % 60)
      ++ [':'] ++ Text.padded 2 (s % 60 + leap)
      ++ fraction (t.nano % 1000000000) ++ ['Z']

/-! ## Reading -/

/-- A year: four digits at most, or any number of them after a sign. -/
def scanYear : Scan Int := do
  Scan.blanks
  match ← Scan.peek? with
  | some '-' =>
    Scan.char '-'
    let n ← Scan.number
    pure (-(n : Int))
  | some '+' =>
    Scan.char '+'
    let n ← Scan.number
    pure n
  | _ =>
    let n ← Scan.digits 1 4
    pure n

/-- One or two digits, perhaps after blanks. -/
def scanPair : Scan Nat := do
  Scan.blanks
  Scan.digits 1 2

/-- A mark, perhaps after blanks. -/
def scanMark (c : Char) : Scan Unit := do
  Scan.blanks
  Scan.char c

/-- The nanoseconds of a fraction; digits beyond the ninth are dropped. -/
def scanFraction : Scan Nat := do
  match ← Scan.peek? with
  | some '.' =>
    Scan.char '.'
    let ds ← Scan.takeWhile Text.isDigit
    Scan.require !ds.isEmpty
    pure (Text.decimal (ds.take 9 ++ List.replicate (9 - ds.length) '0'))
  | _ => pure 0

/-- Seconds east of Greenwich. -/
def scanOffset : Scan Int := do
  match ← Scan.peek? with
  | some 'Z' | some 'z' =>
    let _ ← Scan.charWhere fun _ => true
    pure 0
  | some c =>
    Scan.require (c = '+' || c = '-' || c = '−')
    let _ ← Scan.charWhere fun _ => true
    let hours ← Scan.digits 2 2
    let _ ← Scan.takeWhile fun c => c = ':' || Text.isBlank c
    let minutes ← Scan.digits 2 2
    Scan.require (minutes < 60 && hours < 24)
    let seconds : Int := hours * 3600 + minutes * 60
    pure (if c = '+' then seconds else -seconds)
  | none => Scan.refuse

/-- The name of Coordinated Universal Time, or an offset. -/
def scanZone : Scan Int := do
  Scan.blanks
  let cs ← get
  if Text.lower (cs.take 3) = ['u', 't', 'c'] then
    set (cs.drop 3)
    pure 0
  else scanOffset

/-- The years in which an instant may lie, both where it is written and at
Greenwich. -/
def minYear : Int := -262143
def maxYear : Int := 262142

/-- The instant lies in one of those years. -/
def inYears (t : Instant) : Bool :=
  (Date.toDays ⟨minYear, 1, 1⟩) * 86400 ≤ t.second
    && t.second < (Date.toDays ⟨maxYear + 1, 1, 1⟩) * 86400

/-- An instant as text. -/
def scan : Scan Instant := do
  let year ← scanYear
  scanMark '-'
  let month ← scanPair
  scanMark '-'
  let day ← scanPair
  let _ ← Scan.charWhere fun c => c = 'T' || c = 't' || c = ' '
  let hour ← scanPair
  scanMark ':'
  let minute ← scanPair
  scanMark ':'
  let second ← scanPair
  let nano ← scanFraction
  let offset ← scanZone
  Scan.blanks
  let date : Date := ⟨year, month, day⟩
  Scan.require (minYear ≤ year && year ≤ maxYear && date.isValid)
  Scan.require (hour < 24 && minute < 60 && second ≤ 60)
  -- A leap second is kept as another second of nanoseconds.
  let leap := second / 60
  let t : Instant :=
    ⟨date.toDays * 86400 + (hour * 3600 + minute * 60 + (second - leap) : Nat)
      - offset, nano + leap * 1000000000⟩
  Scan.require t.inYears
  pure t

/-- The instant that a text writes out, if it does. -/
def ofRfc3339? (s : String) : Option Instant := Scan.whole? scan s.toList

end Instant

end Telematics
