import Telematics.Pipeline.Process

/-!
# The queue and its workers

Readings wait in a queue of bounded length until a worker takes one, processes
it and counts the outcome. Senders may be added and dropped; once none is left
and the queue is empty, workers leave.

A sender puts a job into the queue first and counts it then. In between the
job may be taken and even be done, but the sender cannot be dropped, since it
is still at work.

A pool is a value, and what can happen to it is a list of events, each with
the condition under which it can happen. Which of the possible events comes
next is left open: that is the freedom of the scheduler.
-/

namespace Telematics

/-- How many readings went which way. The counters are not bounded here; a
counter of 64 bits that wraps shows the remainder of what stands in them. -/
structure QueueStats where
  submitted : Nat
  saved : Nat
  skipped : Nat
  failed : Nat
  deriving DecidableEq, Repr

namespace QueueStats

/-- Nothing happened yet. -/
def zero : QueueStats := ⟨0, 0, 0, 0⟩

/-- One more outcome. -/
def record (s : QueueStats) : Except Error SaveOutcome → QueueStats
  | .ok (.saved _) => { s with saved := s.saved + 1 }
  | .ok (.skipped _) => { s with skipped := s.skipped + 1 }
  | .error _ => { s with failed := s.failed + 1 }

end QueueStats

/-- What a worker is doing. -/
inductive Worker (α : Type) where
  | idle
  | busy (job : α)
  | gone
  deriving DecidableEq, Repr

/-- The worker is free to take a job. -/
def Worker.isIdle : Worker α → Bool
  | idle => true
  | busy _ | gone => false

/-- A queue and its workers. -/
structure WorkerPool (α : Type) where
  capacity : Nat
  /-- The jobs that wait, first come first. -/
  queue : List α
  workers : List (Worker α)
  /-- The handles through which jobs can still come; of each, how many jobs it
  has put into the queue and not counted yet. -/
  senders : List Nat
  stats : QueueStats
  deriving DecidableEq, Repr

/-- What can happen to a pool. -/
inductive PoolEvent (α : Type) where
  /-- A sender puts a job behind those that wait. -/
  | submit (sender : Nat) (job : α)
  /-- A sender counts a job that it has put there. -/
  | count (sender : Nat)
  /-- A worker takes the first job that waits. -/
  | take (worker : Nat)
  /-- A worker is done with its job. -/
  | finish (worker : Nat) (outcome : Except Error SaveOutcome)
  /-- One more handle is made from another. -/
  | addSender
  | dropSender (sender : Nat)
  /-- A worker leaves. -/
  | leave (worker : Nat)

namespace WorkerPool

/-- A pool with one sender; there is room for one job and one worker at
least. -/
def start (capacity workers : Nat) : WorkerPool α where
  capacity := max capacity 1
  queue := []
  workers := List.replicate (max workers 1) .idle
  senders := [0]
  stats := .zero

/-- There is room for another job. -/
def hasRoom (p : WorkerPool α) : Bool := p.queue.length < p.capacity

/-- **The pool after an event**, if the event can happen. -/
def step? (p : WorkerPool α) : PoolEvent α → Option (WorkerPool α)
  | .submit s job =>
    match p.senders[s]? with
    | some n =>
      if p.hasRoom then
        some { p with
          queue := p.queue ++ [job]
          senders := p.senders.set s (n + 1) }
      else none
    | none => none
  | .count s =>
    match p.senders[s]? with
    | some (n + 1) =>
      some { p with
        senders := p.senders.set s n
        stats := { p.stats with submitted := p.stats.submitted + 1 } }
    | _ => none
  | .take i =>
    match p.queue, p.workers[i]? with
    | job :: rest, some .idle =>
      some { p with queue := rest, workers := p.workers.set i (.busy job) }
    | _, _ => none
  | .finish i outcome =>
    match p.workers[i]? with
    | some (.busy _) =>
      some { p with
        workers := p.workers.set i .idle, stats := p.stats.record outcome }
    | _ => none
  | .addSender =>
    if p.senders = [] then none else some { p with senders := p.senders ++ [0] }
  | .dropSender s =>
    match p.senders[s]? with
    -- What it put into the queue has been counted.
    | some 0 => some { p with senders := p.senders.eraseIdx s }
    | _ => none
  | .leave i =>
    match p.workers[i]? with
    | some .idle =>
      if p.senders = [] ∧ p.queue = [] then
        some { p with workers := p.workers.set i .gone }
      else none
    | _ => none

/-- The pool after events in order, if all of them can happen. -/
def run? (p : WorkerPool α) (events : List (PoolEvent α)) :
    Option (WorkerPool α) :=
  events.foldlM step? p

end WorkerPool

end Telematics
