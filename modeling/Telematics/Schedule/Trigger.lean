import Telematics.Schedule.Cron
import Telematics.Time.Zone.Names

/-!
# Triggers

What says when a periodic job is due: a cron expression on the clocks of a zone,
or a fixed interval.
-/

namespace Telematics

/-- What says when a job is due. -/
inductive Trigger where
  /-- The expression is also kept as it was written. -/
  | cron (text : String) (c : Cron) (z : Zone)
  | every (d : Duration)

namespace Trigger

/-- The trigger of an expression, on the clocks of a zone. -/
def ofCron (expression : String) (z : Zone) : Except Error Trigger :=
  match Cron.ofText expression with
  | .ok c => .ok (.cron (String.ofList (Text.trim expression.toList)) c z)
  | .error fault => .error (.schedule expression fault)

/-- The zone of a name. -/
def findZone (name : String) : Except Error Zone :=
  match Zone.ofName? name with
  | some z => .ok z
  | none => .error (.invalidConfig (.unknownTimezone name))

/-- **When the job is due next** after an instant, if ever. -/
def nextAfter (t : Trigger) (after : Instant) : Option Instant :=
  match t with
  | cron _ c z => (c.nextAfter z after).map (⟨·, 0⟩)
  | every d => d.toSpan?.map after.plus

/-- The trigger in words. -/
def describe : Trigger → String
  | cron text _ z => text ++ " (" ++ z.name ++ ")"
  | every d => "every " ++ d.toText

/-- The times at which the job is due, up to a number of them; `none` ends the
list if it is not due any more. -/
def upcoming (t : Trigger) : Nat → Instant → List (Option Instant)
  | 0, _ => []
  | count + 1, after =>
    match t.nextAfter after with
    | none => [none]
    | some next => some next :: t.upcoming count next

end Trigger

end Telematics
