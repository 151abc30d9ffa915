import Mathlib.Algebra.Ring.Nat
import Mathlib.Data.List.Perm.Basic
import Telematics.Pipeline.WorkerPool

/-!
# No job is lost and none is done twice

Any number of senders and workers share one queue, and which of them is next
is left open. What a run does to jobs can be read off its events: which jobs
got into the queue (`accepted`), which were handed to a worker (`handed`) and
which a worker was done with, and how (`finished`).

One event moves at most one job, from a sender into the queue, from its front
to a worker, or out of the hands of a worker, and so every job is in one of
three places for as long as the run goes on (`WorkerPool.Accounted`). The
count of submitted jobs lags behind: a job is in the queue before it is
counted, and it may be done by then. What the count lacks is what the senders
have still to count; and as none of them is dropped with that left to do, the
count is right once there are no senders, which is before the first worker
leaves.

What is proved of a run is proved of one event first (`Accounted.step`), with
one case for each kind of event, and the three lists of jobs grow by what that
event moves; the run follows by induction on its events (`Accounted.run`).
`WorkerPool.each_job_once` reads the result off an account that began with
nothing. That a run goes on is not claimed: a worker may sit on a job for
ever, and then the job is in its hands for ever.
-/

open scoped List

namespace Telematics

variable {α : Type}

/-- The job that an event puts into the queue. -/
def PoolEvent.accepted? : PoolEvent α → Option α
  | submit _ job => some job
  | _ => none

/-- The job that a worker is at. -/
def Worker.job? : Worker α → Option α
  | busy job => some job
  | _ => none

/-- What is counted when readings came to these ends, in this order. -/
def QueueStats.tally (ends : List (Except Error SaveOutcome)) : QueueStats :=
  ends.foldl QueueStats.record .zero

/-! ## Lists with one element in place of another -/

/-- What is out and what is in change places. -/
theorem cons_perm_cons_set {β : Type} {l : List β} {i : Nat} {a : β}
    (h : l[i]? = some a) (b : β) :
    b :: l ~ a :: l.set i b := by
  obtain ⟨hi, rfl⟩ := List.getElem?_eq_some_iff.1 h
  calc b :: l
    _ ~ b :: l[i] :: l.eraseIdx i :=
      ((List.getElem_cons_eraseIdx_perm hi).symm).cons b
    _ ~ l[i] :: b :: l.eraseIdx i := .swap ..
    _ ~ l[i] :: l.set i b := ((List.set_perm_cons_eraseIdx hi b).symm).cons _

/-- One number takes the place of another, and the sum changes by as much. -/
theorem add_sum_set {l : List Nat} {i a : Nat} (h : l[i]? = some a) (b : Nat) :
    b + l.sum = a + (l.set i b).sum := by
  simpa only [List.sum_cons] using (cons_perm_cons_set h b).sum_nat

/-- A number is taken out, and the sum is less by it. -/
theorem sum_eraseIdx {l : List Nat} {i a : Nat} (h : l[i]? = some a) :
    a + (l.eraseIdx i).sum = l.sum := by
  obtain ⟨hi, rfl⟩ := List.getElem?_eq_some_iff.1 h
  simpa only [List.sum_cons] using (List.getElem_cons_eraseIdx_perm hi).sum_nat

/-- What is picked from a list begins with what is picked from its first
element. -/
theorem filterMap_cons_append {β γ : Type} (f : β → Option γ) (b : β)
    (l : List β) :
    (b :: l).filterMap f = (f b).toList ++ l.filterMap f := by
  rw [List.filterMap_cons]
  cases f b <;> rfl

/-- A worker turns to something else: the jobs in hand are those of before,
with its new one in place of its old one. -/
theorem filterMap_job?_set {ws : List (Worker α)} {i : Nat} {w : Worker α}
    (h : ws[i]? = some w) (v : Worker α) :
    v.job?.toList ++ ws.filterMap Worker.job? ~
      w.job?.toList ++ (ws.set i v).filterMap Worker.job? := by
  rw [← filterMap_cons_append, ← filterMap_cons_append]
  exact (cons_perm_cons_set h v).filterMap Worker.job?

/-! ## Counting -/

namespace QueueStats

theorem record_submitted (s : QueueStats) (o : Except Error SaveOutcome) :
    (s.record o).submitted = s.submitted := by
  rcases o with e | (v | r) <;> rfl

/-- An outcome is counted beside what was submitted, whatever that is. -/
theorem record_with_submitted (s : QueueStats) (n : Nat)
    (o : Except Error SaveOutcome) :
    ({ s with submitted := n } : QueueStats).record o = { s.record o with
      submitted := n } := by
  rcases o with e | (v | r) <;> rfl

theorem record_total (s : QueueStats) (o : Except Error SaveOutcome) :
    (s.record o).saved + (s.record o).skipped + (s.record o).failed =
      s.saved + s.skipped + s.failed + 1 := by
  rcases o with e | (v | r) <;> simp only [record] <;> omega

theorem tally_concat (ends : List (Except Error SaveOutcome))
    (o : Except Error SaveOutcome) :
    tally (ends ++ [o]) = (tally ends).record o :=
  List.foldl_concat ..

theorem foldl_record_total (ends : List (Except Error SaveOutcome))
    (s : QueueStats) :
    (ends.foldl record s).saved + (ends.foldl record s).skipped
      + (ends.foldl record s).failed =
      s.saved + s.skipped + s.failed + ends.length := by
  induction ends generalizing s with
  | nil => rfl
  | cons o ends ih =>
    rw [List.foldl_cons, ih, record_total, List.length_cons]
    omega

/-- Every outcome is of one of the three kinds. -/
theorem tally_total (ends : List (Except Error SaveOutcome)) :
    (tally ends).saved + (tally ends).skipped + (tally ends).failed
      = ends.length := by
  rw [tally, foldl_record_total]
  exact Nat.zero_add _

end QueueStats

namespace WorkerPool

/-! ## What happens to jobs -/

/-- The jobs that workers are at. -/
def held (p : WorkerPool α) : List α := p.workers.filterMap Worker.job?

/-- The job that an event hands to a worker, to be processed. -/
def handed? (p : WorkerPool α) : PoolEvent α → Option α
  | .take _ => p.queue.head?
  | _ => none

/-- The job that a worker is done with, and what became of it. -/
def finished? (p : WorkerPool α) :
    PoolEvent α → Option (α × Except Error SaveOutcome)
  | .finish i outcome => (p.workers[i]?.bind Worker.job?).map (·, outcome)
  | _ => none

/-- The events of a run, each with the pool to which it happens. -/
def moves (p : WorkerPool α) :
    List (PoolEvent α) → List (WorkerPool α × PoolEvent α)
  | [] => []
  | e :: events => (p, e) :: (p.step? e).elim [] (moves · events)

/-- The jobs that got into the queue, in this order. -/
def accepted (events : List (PoolEvent α)) : List α :=
  events.filterMap PoolEvent.accepted?

/-- The jobs that were handed to workers, in this order. -/
def handed (p : WorkerPool α) (events : List (PoolEvent α)) : List α :=
  (p.moves events).filterMap fun m => m.1.handed? m.2

/-- The jobs that workers were done with, in this order. -/
def finished (p : WorkerPool α) (events : List (PoolEvent α)) :
    List (α × Except Error SaveOutcome) :=
  (p.moves events).filterMap fun m => m.1.finished? m.2

/-! ## One event -/

variable {p q : WorkerPool α} {e : PoolEvent α} {events : List (PoolEvent α)}

/-- **What an event can be**, when it can be, and what it does. -/
inductive Step (p : WorkerPool α) : PoolEvent α → WorkerPool α → Prop where
  | submit (s n : Nat) (job : α) (hs : p.senders[s]? = some n)
    (hroom : p.queue.length < p.capacity) : Step p (.submit s job)
      { p with queue := p.queue ++ [job], senders := p.senders.set s (n + 1) }
  | count (s n : Nat) (hs : p.senders[s]? = some (n + 1)) : Step p (.count s)
      { p with
        senders := p.senders.set s n
        stats := { p.stats with submitted := p.stats.submitted + 1 } }
  | take (i : Nat) (job : α) (rest : List α) (hq : p.queue = job :: rest)
    (hi : p.workers[i]? = some .idle) : Step p (.take i)
      { p with queue := rest, workers := p.workers.set i (.busy job) }
  | finish (i : Nat) (job : α) (outcome : Except Error SaveOutcome)
    (hi : p.workers[i]? = some (.busy job)) : Step p (.finish i outcome)
      { p with workers := p.workers.set i .idle, stats :=
        p.stats.record outcome }
  | addSender (hs : p.senders ≠ []) : Step p .addSender
      { p with senders := p.senders ++ [0] }
  | dropSender (s : Nat) (hs : p.senders[s]? = some 0) : Step p (.dropSender s)
      { p with senders := p.senders.eraseIdx s }
  | leave (i : Nat) (hi : p.workers[i]? = some .idle) (hs : p.senders = [])
    (hq : p.queue = []) :
    Step p (.leave i) { p with workers := p.workers.set i .gone }

/-- **An event that can happen** is one of these, and does what is said
there. -/
theorem step_of_step? (h : p.step? e = some q) : Step p e q := by
  cases e with
  | submit s job =>
    simp only [step?] at h
    split at h
    · next hs =>
      split at h
      · next hroom =>
        cases h
        exact .submit _ _ _ hs (of_decide_eq_true hroom)
      · cases h
    · cases h
  | count s =>
    simp only [step?] at h
    split at h
    · next hs =>
      cases h
      exact .count _ _ hs
    · cases h
  | take i =>
    simp only [step?] at h
    split at h
    · next hq hi =>
      cases h
      exact .take _ _ _ hq hi
    · cases h
  | finish i outcome =>
    simp only [step?] at h
    split at h
    · next hi =>
      cases h
      exact .finish _ _ _ hi
    · cases h
  | addSender =>
    simp only [step?] at h
    split at h
    · cases h
    · next hs =>
      cases h
      exact .addSender hs
  | dropSender s =>
    simp only [step?] at h
    split at h
    · next hs =>
      cases h
      exact .dropSender _ hs
    · cases h
  | leave i =>
    simp only [step?] at h
    split at h
    · next hi =>
      split at h
      · next hout =>
        cases h
        exact .leave _ hi hout.1 hout.2
      · cases h
    · cases h

/-! ## One event after another -/

theorem run?_cons : p.run? (e :: events) = some q ↔
    ∃ r, p.step? e = some r ∧ r.run? events = some q := by
  rw [run?, List.foldlM_cons, Option.bind_eq_bind, Option.bind_eq_some_iff]
  rfl

theorem moves_cons (h : p.step? e = some q) :
    p.moves (e :: events) = (p, e) :: q.moves events := by
  rw [moves, h, Option.elim_some]

theorem accepted_cons (e : PoolEvent α) (events : List (PoolEvent α)) :
    accepted (e :: events) = e.accepted?.toList ++ accepted events :=
  filterMap_cons_append ..

theorem handed_cons (h : p.step? e = some q) :
    p.handed (e :: events) = (p.handed? e).toList ++ q.handed events := by
  rw [handed, moves_cons h, filterMap_cons_append]
  rfl

theorem finished_cons (h : p.step? e = some q) :
    p.finished (e :: events) = (p.finished? e).toList ++ q.finished events := by
  rw [finished, moves_cons h, filterMap_cons_append]
  rfl

/-- Whatever is among the events of a run could happen when it did. -/
theorem step_of_mem_moves {r : WorkerPool α} {e : PoolEvent α}
    (hrun : p.run? events = some q) (h : (r, e) ∈ p.moves events) :
    ∃ r', Step r e r' := by
  induction events generalizing p with
  | nil => cases h
  | cons e' events ih =>
    obtain ⟨p', hstep, hrest⟩ := run?_cons.1 hrun
    rw [moves_cons hstep] at h
    cases h with
    | head => exact ⟨p', step_of_step? hstep⟩
    | tail _ h => exact ih hrest h

/-! ## Where the jobs are -/

/-- **What can be told of a pool from the events that led to it**: `capacity`
and `workers` are what it was started with, `ins` the jobs that got into the
queue, `outs` those that were handed to workers, and `ends` those that workers
were done with, each with what became of it. -/
structure Accounted (capacity workers : Nat) (ins outs : List α)
    (ends : List (α × Except Error SaveOutcome)) (p : WorkerPool α) : Prop where
  /-- There is room for the same number of jobs at all times, -/
  capacity_eq : p.capacity = max capacity 1
  /-- and no more jobs than that wait. -/
  room : p.queue.length ≤ p.capacity
  /-- The workers are as many as ever. -/
  crew : p.workers.length = max workers 1
  /-- Jobs come out of the queue in the order in which they got in. -/
  inOrder : ins = outs ++ p.queue
  /-- What came out is in the hands of a worker or done. -/
  inHand : outs ~ p.held ++ ends.map Prod.fst
  /-- A job that got in is counted, or its sender has still to count it. -/
  counted : p.stats.submitted + p.senders.sum = ins.length
  /-- Of what is done, each outcome is counted once, under its own kind. -/
  outcomes : p.stats = { QueueStats.tally (ends.map Prod.snd) with
    submitted := p.stats.submitted }
  /-- When a worker has left, no job waits and none can come. -/
  left : .gone ∈ p.workers → p.senders = [] ∧ p.queue = []

namespace Accounted

variable {capacity workers : Nat} {ins outs : List α}
  {ends : List (α × Except Error SaveOutcome)}

/-- At the start there are no jobs, and nothing is left to count. -/
theorem start (capacity workers : Nat) :
    Accounted (α := α) capacity workers [] [] [] (.start capacity workers) where
  capacity_eq := rfl
  room := Nat.zero_le _
  crew := List.length_replicate
  inOrder := rfl
  inHand := by
    have hidle : (WorkerPool.start (α := α) capacity workers).held = [] := by
      simp [held, WorkerPool.start, Worker.job?]
    rw [hidle, List.map_nil, List.append_nil]
  counted := rfl
  outcomes := rfl
  left hgone := by cases List.eq_of_mem_replicate hgone

/-- While there is a sender, no worker has left. -/
theorem not_gone (h : Accounted capacity workers ins outs ends p) {s n : Nat}
    (hs : p.senders[s]? = some n) : .gone ∉ p.workers := by
  intro hgone
  rw [(h.left hgone).1] at hs
  cases hs

/-- A worker is not gone just because another one turns to some job or to
none. So a worker that has left is one of the others, and what is known of the
pool since then holds still. -/
theorem left_set (h : Accounted capacity workers ins outs ends p) {i : Nat}
    {w : Worker α} (hw : w ≠ .gone) (hgone : .gone ∈ p.workers.set i w) :
    p.senders = [] ∧ p.queue = [] :=
  h.left ((List.mem_or_eq_of_mem_set hgone).resolve_right hw.symm)

/-- **One event** keeps the account: it adds to each of the three lists what
it moves. By cases on the event; a job that changes hands is taken off one
list and put on another, which is where permutations come in. -/
theorem step (h : Accounted capacity workers ins outs ends p)
    (hstep : Step p e q) :
    Accounted capacity workers (ins ++ e.accepted?.toList)
      (outs ++ (p.handed? e).toList)
      (ends ++ (p.finished? e).toList) q := by
  cases hstep with
  | submit s n job hs hroom =>
    simp only [PoolEvent.accepted?, handed?, finished?, Option.toList_some,
      Option.toList_none, List.append_nil]
    exact
      { h with
        room := by rw [List.length_append]; exact hroom
        inOrder := by rw [h.inOrder, List.append_assoc]
        counted := by
          have hsum := add_sum_set hs (n + 1)
          have hcounted := h.counted
          simp only [List.length_append, List.length_singleton]
          omega
        left := fun hgone => absurd hgone (h.not_gone hs) }
  | count s n hs =>
    simp only [PoolEvent.accepted?, handed?, finished?, Option.toList_none,
      List.append_nil]
    exact
      { h with
        counted := by
          have hsum := add_sum_set hs n
          have hcounted := h.counted
          simp only
          omega
        outcomes := by rw [h.outcomes]
        left := fun hgone => absurd hgone (h.not_gone hs) }
  | take i job rest hq hi =>
    have hhanded : (p.handed? (.take i)).toList = [job] := by
      rw [handed?, hq]; rfl
    have hheld : job :: p.held
        ~ (p.workers.set i (.busy job)).filterMap Worker.job? :=
      filterMap_job?_set hi (.busy job)
    rw [hhanded]
    simp only [PoolEvent.accepted?, finished?, Option.toList_none,
      List.append_nil]
    exact
      { h with
        room := by
          have hroom := h.room
          rw [hq, List.length_cons] at hroom
          exact Nat.le_of_succ_le hroom
        crew := by rw [List.length_set]; exact h.crew
        inOrder := by rw [h.inOrder, hq, List.append_assoc]; rfl
        inHand := calc outs ++ [job]
          _ ~ job :: outs := List.perm_append_singleton ..
          _ ~ job :: (p.held ++ ends.map Prod.fst) := h.inHand.cons job
          _ ~ _ := hheld.append_right _
        left := fun hgone => by
          have := (h.left_set (by simp) hgone).2
          rw [hq] at this
          cases this }
  | finish i job outcome hi =>
    have hfinished : (p.finished? (.finish i outcome)).toList
        = [(job, outcome)] := by
      rw [finished?, hi]; rfl
    have hheld : p.held
        ~ job :: (p.workers.set i .idle).filterMap Worker.job? :=
      filterMap_job?_set hi .idle
    rw [hfinished]
    simp only [PoolEvent.accepted?, handed?, Option.toList_none,
      List.append_nil]
    exact
      { h with
        crew := by rw [List.length_set]; exact h.crew
        inHand := calc outs
          _ ~ p.held ++ ends.map Prod.fst := h.inHand
          _ ~ job :: ((p.workers.set i .idle).filterMap Worker.job?
            ++ ends.map Prod.fst) :=
            hheld.append_right _
          _ ~ (p.workers.set i .idle).filterMap Worker.job? ++ ends.map Prod.fst
            ++ [job] :=
            (List.perm_append_singleton ..).symm
          _ = _ := by rw [List.append_assoc, List.map_append]; rfl
        counted := by rw [QueueStats.record_submitted]; exact h.counted
        outcomes := by
          rw [QueueStats.record_submitted, List.map_append, List.map_singleton,
            QueueStats.tally_concat, h.outcomes,
            QueueStats.record_with_submitted]
        left := fun hgone => h.left_set (by simp) hgone }
  | addSender hs =>
    simp only [PoolEvent.accepted?, handed?, finished?, Option.toList_none,
      List.append_nil]
    exact
      { h with
        counted := by rw [List.sum_append]; exact h.counted
        left := fun hgone => absurd (h.left hgone).1 hs }
  | dropSender s hs =>
    simp only [PoolEvent.accepted?, handed?, finished?, Option.toList_none,
      List.append_nil]
    exact
      { h with
        counted := by
          have hsum := sum_eraseIdx hs
          have hcounted := h.counted
          simp only
          omega
        left := fun hgone => absurd hgone (h.not_gone hs) }
  | leave i hi hs hq =>
    have hheld : p.held ~ (p.workers.set i .gone).filterMap Worker.job? :=
      filterMap_job?_set hi .gone
    simp only [PoolEvent.accepted?, handed?, finished?, Option.toList_none,
      List.append_nil]
    exact
      { h with
        crew := by rw [List.length_set]; exact h.crew
        inHand := h.inHand.trans (hheld.append_right _)
        left := fun _ => ⟨hs, hq⟩ }

/-- **A whole run** keeps the account. By induction on the events, with the
account of those that were before. -/
theorem run (h : Accounted capacity workers ins outs ends p)
    (hrun : p.run? events = some q) :
    Accounted capacity workers (ins ++ accepted events)
      (outs ++ p.handed events)
      (ends ++ p.finished events) q := by
  induction events generalizing p ins outs ends with
  | nil =>
    cases hrun
    simp only [accepted, handed, finished, moves, List.filterMap_nil,
      List.append_nil]
    exact h
  | cons e events ih =>
    obtain ⟨r, hstep, hrest⟩ := run?_cons.1 hrun
    rw [accepted_cons, handed_cons hstep, finished_cons hstep,
      ← List.append_assoc, ← List.append_assoc, ← List.append_assoc]
    exact ih (h.step (step_of_step? hstep)) hrest

/-- Every job that got in waits, is in the hands of a worker or is done. The
order in which they are done is not that in which they came. -/
theorem jobs (h : Accounted capacity workers ins outs ends p) :
    ins ~ p.queue ++ p.held ++ ends.map Prod.fst :=
  calc ins
    _ = outs ++ p.queue := h.inOrder
    _ ~ p.queue ++ outs := List.perm_append_comm
    _ ~ p.queue ++ (p.held ++ ends.map Prod.fst) := h.inHand.append_left _
    _ = _ := (List.append_assoc ..).symm

/-- With all workers gone there is nothing left to do and nothing left to
count. One that has left is enough for the first two; the third needs that all
have. -/
theorem all_gone (h : Accounted capacity workers ins outs ends p)
    (hgone : ∀ w ∈ p.workers, w = .gone) :
    p.senders = [] ∧ p.queue = [] ∧ p.held = [] := by
  have hne : p.workers ≠ [] := by
    refine List.ne_nil_of_length_pos ?_
    rw [h.crew]
    omega
  obtain ⟨w, hw⟩ := List.exists_mem_of_ne_nil _ hne
  obtain ⟨hs, hq⟩ := h.left (hgone w hw ▸ hw)
  refine ⟨hs, hq, List.filterMap_eq_nil_iff.2 fun v hv => ?_⟩
  rw [hgone v hv]
  rfl

end Accounted

/-- **Every job is done once, whatever comes when.** From a start with any
room and any number of workers, after any events in any order:

* the jobs that got into the queue are those that wait, those in the hands of
  workers and those that are done, each as often as it got in, and they came
  out in the order in which they got in;
* no more jobs wait than there is room for, and the workers are as many as
  ever;
* no worker left while there was a sender or a job that waited, and once one
  has left there is neither;
* once all workers have left, the jobs that were handed out are those that got
  in, each of them is done, and as many are counted as submitted as are
  counted as saved, as skipped and as failed. -/
theorem each_job_once (capacity workers : Nat) (events : List (PoolEvent α))
    (p : WorkerPool α) (h : (start capacity workers).run? events = some p) :
    accepted events ~
        p.queue ++ p.held
          ++ ((start capacity workers).finished events).map Prod.fst ∧
      accepted events = (start capacity workers).handed events ++ p.queue ∧
      p.queue.length ≤ max capacity 1 ∧ p.workers.length = max workers 1 ∧
      (∀ r i, (r, .leave i) ∈ (start capacity workers).moves events →
        r.senders = [] ∧ r.queue = []) ∧
      (.gone ∈ p.workers → p.senders = [] ∧ p.queue = []) ∧
      ((∀ w ∈ p.workers, w = .gone) →
        (start capacity workers).handed events = accepted events ∧
        ((start capacity workers).finished events).map Prod.fst
          ~ accepted events ∧
        p.stats.submitted = (accepted events).length ∧
        p.stats.submitted
          = p.stats.saved + p.stats.skipped + p.stats.failed) := by
  have hacc : Accounted capacity workers (accepted events)
      ((start capacity workers).handed events)
        ((start capacity workers).finished events) p :=
    (Accounted.start capacity workers).run h
  refine ⟨hacc.jobs, hacc.inOrder, hacc.capacity_eq ▸ hacc.room, hacc.crew, ?_,
    hacc.left, ?_⟩
  · intro r i hmem
    obtain ⟨r', hstep⟩ := step_of_mem_moves h hmem
    cases hstep with
    | leave i hi hs hq => exact ⟨hs, hq⟩
  · intro hgone
    obtain ⟨hs, hq, hheld⟩ := hacc.all_gone hgone
    have hdone : ((start capacity workers).finished events).map Prod.fst
        ~ accepted events := by
      have hjobs := hacc.jobs
      rw [hq, hheld] at hjobs
      exact hjobs.symm
    have hsubmitted : p.stats.submitted = (accepted events).length := by
      have hcounted := hacc.counted
      rw [hs] at hcounted
      exact hcounted
    refine ⟨?_, hdone, hsubmitted, ?_⟩
    · rw [hacc.inOrder, hq, List.append_nil]
    · have htotal := QueueStats.tally_total
        (((start capacity workers).finished events).map Prod.snd)
      have hlength := hdone.length_eq
      rw [List.length_map] at htotal hlength
      rw [hsubmitted, ← hlength, ← htotal, hacc.outcomes]

/-- Two senders, two workers and room for one job; the first job is done
before it is counted, the first sender is dropped while the other's job is
still in hand. -/
def countedLate : List (PoolEvent Nat) :=
  [.addSender, .submit 0 70, .take 1, .finish 1 (.ok (.saved ⟨1⟩)),
    .submit 1 90, .count 0, .dropSender 0, .take 0, .count 0, .dropSender 0,
    .leave 1, .finish 0 (.error .connectionClosed), .leave 0]

/-- What is left of it. -/
def emptied : WorkerPool Nat := ⟨1, [], [.gone, .gone], [], ⟨2, 1, 0, 1⟩⟩

/-- A job that is done before it is counted is counted in the end. -/
theorem each_job_once_though_counted_late :
    (start 0 2).run? countedLate = some emptied
      ∧ (∀ w ∈ emptied.workers, w = .gone)
    ∧ (start 0 2).handed countedLate = [70, 90]
    ∧ accepted countedLate = [70, 90]
    ∧ ((start 0 2).finished countedLate).map Prod.fst ~ [70, 90]
    ∧ emptied.stats.submitted = 2 ∧ emptied.stats.submitted = 1 + 0 + 1 := by
  have hrun : (start 0 2).run? countedLate = some emptied := rfl
  have hgone : ∀ w ∈ emptied.workers, w = .gone := by decide
  obtain ⟨-, -, -, -, -, -, hall⟩ := each_job_once 0 2 countedLate emptied hrun
  obtain ⟨hhanded, hdone, hsubmitted, htotal⟩ := hall hgone
  exact ⟨hrun, hgone, hhanded, rfl, hdone, hsubmitted, htotal⟩

end WorkerPool

end Telematics
