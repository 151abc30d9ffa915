import Telematics.Error
import Telematics.Geo.Thinning
import Telematics.Pipeline.Request
import Telematics.Time.Duration

/-!
# Thinning what is stored

A pass looks at the points received within a span up to now, track by track,
and deletes those that thinning does not keep. A deletion that fails is
counted and the pass goes on.
-/

namespace Telematics

namespace Track

/-- The numbers of the points that thinning keeps. -/
def keptIds (t : Track) (tolerance : Float) : List PointId :=
  let points := t.points.toArray
  (Thinning.keptPoints
    (t.points.map fun p => (p.position.longitude, p.position.latitude))
    tolerance).filterMap fun i => points[i]?.map (·.id)

/-- The numbers of the points that thinning drops. -/
def droppedIds (t : Track) (tolerance : Float) : List PointId :=
  let kept := Table.ofList ((t.keptIds tolerance).map fun id => (id.val, ()))
  (t.points.map (·.id)).filter fun id => (kept.find? id.val).isNone

end Track

/-- What a pass did. -/
structure ThinningReport where
  tracks : Nat
  points : Nat
  deleted : Nat
  /-- Deletions that failed. -/
  failed : Nat
  deriving DecidableEq, Repr

namespace Thinner

/-- Deletes points one after the other. -/
def deleteAll : List PointId → ThinningReport → Program ThinningReport
  | [], report => pure report
  | id :: rest, report => do
    match ← Program.request (.deletePoint id) with
    | .ok _ => deleteAll rest { report with deleted := report.deleted + 1 }
    | .error _ => deleteAll rest { report with failed := report.failed + 1 }

/-- Thins tracks one after the other. -/
def thinAll (tolerance : Float) :
    List Track → ThinningReport → Program ThinningReport
  | [], report => pure report
  | t :: rest, report => do
    let report := { report with
      tracks := report.tracks + 1
      points := report.points + t.points.length }
    let report ← deleteAll (t.droppedIds tolerance) report
    thinAll tolerance rest report

/-- **A pass** over what was received within a span up to now. -/
def run (tolerance : Float) (lookback : Duration) (now : Instant) :
    Task Error ThinningReport := do
  match lookback.toSpan? with
  | none => throw (.invalidConfig .lookbackOutOfRange)
  | some span =>
    let start := now.minus span
    -- A span may be shorter than the longest there is and still begin in a
    -- year that no calendar has.
    if start.inYears then
      let tracks ← (Task.request (.listTracks none start now)).mapError .store
      ExceptT.lift (thinAll tolerance tracks ⟨0, 0, 0, 0⟩)
    else throw .outOfCalendar

theorem completes_deleteAll (ids : List PointId) (report : ThinningReport) :
    (deleteAll ids report).Completes := by
  induction ids generalizing report with
  | nil => exact .pure _
  | cons id rest ih =>
    refine .bind (.request rfl) fun x => ?_
    split <;> exact ih _

theorem completes_thinAll (tolerance : Float) (ts : List Track)
    (report : ThinningReport) :
    (thinAll tolerance ts report).Completes := by
  induction ts generalizing report with
  | nil => exact .pure _
  | cons t rest ih =>
    exact .bind (completes_deleteAll _ _) fun report => ih report

/-- **A pass comes to its end**: it enters nothing. -/
theorem completes_run (tolerance : Float) (lookback : Duration)
    (now : Instant) :
    (run tolerance lookback now).Completes := by
  unfold run
  split
  · exact .throw _
  · dsimp only
    split
    · exact .bind (.mapError _ (.request rfl)) fun _ =>
        .lift (completes_thinAll _ _ _)
    · exact .throw _

end Thinner

end Telematics
