/-!
# The recording window

Readings are kept during some months of the year only: from one month to
another, both included, perhaps over the new year. A month that does not
exist falls back to the usual season.
-/

namespace Telematics

/-- The months during which readings are kept. -/
structure RecordingWindow where
  first : Nat
  last : Nat
  deriving DecidableEq, Repr

namespace RecordingWindow

/-- The usual season: May to September. -/
def defaultFirst : Nat := 5
def defaultLast : Nat := 9

/-- A month, or what stands for it if there is none. -/
def monthOr (fallback month : Nat) : Nat :=
  if 1 ≤ month ∧ month ≤ 12 then month else fallback

/-- The window between two months. -/
def ofMonths (first last : Nat) : RecordingWindow :=
  ⟨monthOr defaultFirst first, monthOr defaultLast last⟩

/-- The usual season. -/
def season : RecordingWindow := ⟨defaultFirst, defaultLast⟩

/-- The whole year. -/
def always : RecordingWindow := ⟨1, 12⟩

/-- The window goes over the new year. -/
def wraps (w : RecordingWindow) : Bool := w.last < w.first

/-- A month lies in the window. -/
def contains (w : RecordingWindow) (month : Nat) : Bool :=
  if w.wraps then w.first ≤ month || month ≤ w.last
    else w.first ≤ month && month ≤ w.last

end RecordingWindow

end Telematics
