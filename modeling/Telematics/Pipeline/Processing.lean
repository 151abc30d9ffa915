import Telematics.Pipeline.WorkerPool

/-!
# Processing what is queued

A pool, the pipeline that its workers apply, what they work on, and the clock
that says in which month they do. Here the work is done by one worker at a
time and at once: a sender that finds the queue full waits until one job is
done, and whenever nothing else is to do the queue is worked off. All jobs come
through one sender, which counts each as soon as it is in the queue.

A job without an outcome takes its worker along, who stays busy with it for
good, and the next worker goes on. When the last one is gone the queue is
closed: what is submitted then is lost, and not counted.
-/

namespace Telematics

/-- Workers at work. -/
structure Processing where
  pipeline : Pipeline
  faults : Faults
  backend : Backend
  pool : WorkerPool Job
  clock : Instant

namespace Processing

/-- The first worker that is left. -/
def worker (x : Processing) : Nat := x.pool.workers.findIdx Worker.isIdle

/-- That worker takes the next job and does it. -/
def workOne (x : Processing) : Processing :=
  match x.pool.queue, x.pool.step? (.take x.worker) with
  | job :: _, some busy =>
    match (x.pipeline.process job x.clock.date.month).runIn x.faults
      x.backend with
    | (some outcome, backend) =>
      { x with backend, pool :=
        (busy.step? (.finish x.worker outcome)).getD busy }
    | (none, backend) => { x with backend, pool := busy }
  | _, _ => x

/-- The queue is worked off. -/
def workOff (x : Processing) : Processing :=
  Nat.repeat workOne x.pool.queue.length x

/-- A job is submitted, as soon as there is room for it and unless the queue is
closed. -/
def submit (x : Processing) (job : Job) : Processing :=
  let x := if x.pool.hasRoom then x else x.workOne
  if x.pool.workers.any Worker.isIdle then
    { x with pool := (x.pool.run? [.submit 0 job, .count 0]).getD x.pool }
  else x

/-- Jobs are submitted in order and worked off. -/
def submitAll (x : Processing) (jobs : List Job) : Processing :=
  (jobs.foldl submit x).workOff

end Processing

end Telematics
