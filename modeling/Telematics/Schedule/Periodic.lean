import Telematics.Schedule.Trigger

/-!
# Periodic jobs

A job runs whenever its trigger is due. Only one run goes on at a time: the
next due time is looked up when a run is over, so one that takes long makes the
job miss what came due meanwhile. A shutdown ends the waiting; a run that is
going on ends first.

Time is counted in milliseconds from the start of the job.
-/

namespace Telematics

/-- What became of a periodic job. -/
structure PeriodicLog where
  /-- When the runs started. -/
  runs : List Nat
  /-- When the job was over. -/
  ended : Nat
  deriving DecidableEq, Repr

namespace PeriodicLog

/-- Milliseconds from one instant to another, a begun one counting. -/
def millisUntil (now due : Instant) : Nat :=
  ((due.since now).nanos + 999999) / 1000000

/-- The job from a moment on, for a bounded number of runs. -/
def runFrom (t : Trigger) (start : Instant) (takes shutdown : Nat) :
    Nat → Nat → PeriodicLog
  | 0, time => ⟨[], time⟩
  | fuel + 1, time =>
    let now := start.plus (.ofMillis time)
    match t.nextAfter now with
    | none => ⟨[], time⟩
    | some due =>
      let begin := time + millisUntil now due
      if shutdown ≤ begin then ⟨[], max time shutdown⟩
      else
        let log := runFrom t start takes shutdown fuel (begin + takes)
        { log with runs := begin :: log.runs }

/-- **A job that is started at an instant, takes the same time on each run, and
is told to shut down after a while.** A run or the wait for it takes a
millisecond at least, which bounds their number. -/
def simulate (t : Trigger) (start : Instant) (takes shutdown : Nat) :
    PeriodicLog :=
  runFrom t start takes shutdown (shutdown + 1) 0

end PeriodicLog

end Telematics
