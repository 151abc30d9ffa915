import Telematics.Pipeline.Cache
import Telematics.Proofs.Store.Identity

/-!
# Readings of vehicles that did not move

Every reading is held against the position cache, and of the readings of one
vehicle those that are within the tolerance are dropped. Within the tolerance
of what is the question: of the last one that was let through, not of the last
one that came. Otherwise a vehicle that creeps along would never be let
through again.

A run is the calls in the order in which they get hold of the cache, and its
log says for each of them whether the vehicle moved. Where a vehicle was last
let through can be read off the log (`PositionCache.lastMoved`), and that is
what the cache has for it at every moment; so each answer is determined by
the log before it. Calls of other vehicles play no part: without them, the
log of a vehicle and its entry are the same
(`PositionCache.checkAll_filter`).

The answer to a call and the entry behind it come from the entry of the
vehicle alone (`PositionCache.check_congr`), and the entry of any other
vehicle is left as it is (`PositionCache.get?_check`). From these two
everything else follows by induction on the calls. What "within the tolerance"
means is left to the distance between two positions; nothing is used of it,
not even that a position is near itself.
-/

namespace Telematics.PositionCache

variable {c e : PositionCache} {v w : VehicleId} {p : Position}

/-! ## One call -/

/-- **A vehicle has not moved** if it is within the tolerance of where the
cache has it. Of a vehicle without an entry nothing is held against the
reading. -/
theorem check_fst_eq_false_iff :
    (c.check v p).1 = false ↔ ∃ q ∈ c.get? v, q.within c.tolerance p := by
  have hholds : c.holds v p = true ↔ ∃ q ∈ c.get? v, q.within c.tolerance p :=
    Option.any_eq_true ..
  rw [← hholds, check]
  split
  · next h => exact iff_of_true rfl h
  · next h => exact iff_of_false nofun h

@[simp] theorem tolerance_check : (c.check v p).2.tolerance = c.tolerance := by
  unfold check
  split <;> rfl

/-- **The cache behind a call**: the entry of the vehicle is replaced if it
moved, and nothing else is. Whether the sinks take the reading is not known at
that moment. -/
theorem get?_check :
    (c.check v p).2.get? w = if v = w ∧ (c.check v p).1 then some p
      else c.get? w := by
  unfold check
  split
  · simp
  · show (c.entries.insert v.val p).find? w.val = _
    simp only [Table.find?_insert, VehicleId.val_inj, eq_comm, and_true]
    rfl

/-- The answer and the entry of a vehicle come from its own entry. -/
theorem check_congr (htolerance : c.tolerance = e.tolerance)
    (hget : c.get? v = e.get? v) :
    (c.check v p).1 = (e.check v p).1
      ∧ (c.check v p).2.get? v = (e.check v p).2.get? v := by
  have hfst : (c.check v p).1 = (e.check v p).1 := by
    rw [← Bool.not_inj_iff, Bool.eq_iff_iff, Bool.not_eq_true',
      Bool.not_eq_true', check_fst_eq_false_iff, check_fst_eq_false_iff,
      htolerance, hget]
  exact ⟨hfst, by rw [get?_check, get?_check, hfst, hget]⟩

/-! ## A run of calls -/

/-- A call that was answered. -/
structure Answer where
  vehicle : VehicleId
  position : Position
  /-- The vehicle moved, and the reading was let through. -/
  moved : Bool

/-- **Calls in the order in which they get hold of the cache**: the log of
their answers, and the cache behind the last of them. -/
def checkAll (c : PositionCache) :
    List (VehicleId × Position) → List Answer × PositionCache
  | [] => ([], c)
  | (v, p) :: calls =>
    let (moved, after) := c.check v p
    let (log, last) := after.checkAll calls
    (⟨v, p, moved⟩ :: log, last)

theorem checkAll_cons (calls : List (VehicleId × Position)) :
    c.checkAll ((v, p) :: calls)
      = (⟨v, p, (c.check v p).1⟩ :: ((c.check v p).2.checkAll calls).1,
          ((c.check v p).2.checkAll calls).2) := rfl

/-- Where a vehicle was when it was last let through. -/
def lastMoved (v : VehicleId) (log : List Answer) : Option Position :=
  (log.filter fun a => a.vehicle = v ∧ a.moved).getLast?.map (·.position)

/-- **What a vehicle is held against** behind a log: where it was last let
through, or else what the cache had at the start. -/
def reference (c : PositionCache) (log : List Answer) (v : VehicleId) :
    Option Position :=
  (lastMoved v log).or (c.get? v)

/-- Behind the first call of a log, the rest of it is held against the cache
that the call leaves. -/
theorem reference_cons (log : List Answer) :
    c.reference (⟨v, p, (c.check v p).1⟩ :: log) w
      = (c.check v p).2.reference log w := by
  unfold reference lastMoved
  rw [get?_check, List.filter_cons]
  by_cases h : v = w ∧ (c.check v p).1
  · rw [if_pos (by simpa using h), if_pos h, List.getLast?_cons]
    cases (log.filter fun a => a.vehicle = w ∧ a.moved).getLast? <;> rfl
  · rw [if_neg (by simpa using h), if_neg h]

/-- **The cache has what the log says** of every vehicle. By induction on the
calls, each of which changes one entry at most. -/
theorem get?_checkAll (calls : List (VehicleId × Position)) :
    (c.checkAll calls).2.get? v = c.reference (c.checkAll calls).1 v := by
  induction calls generalizing c with
  | nil => rfl
  | cons call calls ih => rw [checkAll_cons, ih, reference_cons]

/-- **Every answer is determined by the log before it.** What the other calls
behind it come to is not known to it, and what came before counts only if it
was let through. -/
theorem moved_eq_false_iff {calls : List (VehicleId × Position)}
    {before after : List Answer} {a : Answer}
    (h : (c.checkAll calls).1 = before ++ a :: after) :
    a.moved = false ↔ ∃ q ∈ c.reference before a.vehicle,
      q.within c.tolerance a.position := by
  induction calls generalizing c before with
  | nil => cases before <;> cases h
  | cons call calls ih =>
    rw [checkAll_cons] at h
    cases before with
    | nil =>
      obtain ⟨rfl, -⟩ := List.cons.inj h
      exact check_fst_eq_false_iff
    | cons b before =>
      obtain ⟨rfl, hrest⟩ := List.cons.inj h
      rw [ih hrest, reference_cons, tolerance_check]

/-- Every call is answered, in its turn. -/
theorem map_checkAll (calls : List (VehicleId × Position)) :
    (c.checkAll calls).1.map (fun a => (a.vehicle, a.position)) = calls := by
  induction calls generalizing c with
  | nil => rfl
  | cons call calls ih => rw [checkAll_cons, List.map_cons, ih]

/-- **Calls of other vehicles play no part.** A vehicle has the same log and
the same entry without them, and from any cache with the same entry. -/
theorem checkAll_filter (htolerance : c.tolerance = e.tolerance)
    (hget : c.get? v = e.get? v) (calls : List (VehicleId × Position)) :
    (c.checkAll calls).1.filter (·.vehicle = v)
      = (e.checkAll (calls.filter (·.1 = v))).1
      ∧ (c.checkAll calls).2.get? v
        = (e.checkAll (calls.filter (·.1 = v))).2.get? v := by
  induction calls generalizing c e with
  | nil => exact ⟨rfl, hget⟩
  | cons call calls ih =>
    obtain ⟨w, p⟩ := call
    rw [checkAll_cons]
    by_cases hw : w = v
    · subst hw
      obtain ⟨hfst, hafter⟩ := check_congr (p := p) htolerance hget
      obtain ⟨hlog, hlast⟩ := ih (by simpa using htolerance) hafter
      simp only [List.filter_cons, decide_true, if_pos, checkAll_cons, hlog,
        hlast, hfst, and_self]
    · have hafter : (c.check w p).2.get? v = e.get? v := by
        rw [get?_check, if_neg (fun h => hw h.1), hget]
      simp only [List.filter_cons, decide_eq_false hw]
      exact ih (by simpa using htolerance) hafter

/-- **Readings are dropped exactly where the vehicle has not moved since it
was last let through.** In the log of any calls on any cache, an answer is
negative if and only if the position is within the tolerance of the last one
before it that was let through, or of the entry at the start as long as there
is none. Behind the calls the cache has, for each vehicle, the last position
that was let through; and both the answers and the entry of a vehicle are
those that its own calls would get alone. -/
theorem checkAll_drops_unmoved (c : PositionCache)
    (calls : List (VehicleId × Position)) :
    (c.checkAll calls).1.map (fun a => (a.vehicle, a.position)) = calls
      ∧ (∀ before a after, (c.checkAll calls).1 = before ++ a :: after →
          (a.moved = false ↔
            ∃ q ∈ c.reference before a.vehicle,
              q.within c.tolerance a.position))
      ∧ ∀ v, (c.checkAll calls).2.get? v = c.reference (c.checkAll calls).1 v
          ∧ (c.checkAll calls).1.filter (·.vehicle = v)
            = (c.checkAll (calls.filter (·.1 = v))).1
          ∧ (c.checkAll calls).2.get? v
            = (c.checkAll (calls.filter (·.1 = v))).2.get? v :=
  ⟨map_checkAll calls, fun _ _ _ h => moved_eq_false_iff h,
    fun _ => ⟨get?_checkAll calls, checkAll_filter rfl rfl calls⟩⟩

/-- One place. -/
def meetingPoint : Position := ⟨59.9386, 30.3141, none⟩

/-- Two vehicles that come to one place are both let through: the second is
not held against the first. -/
theorem checkAll_meetingPoint :
    ((empty 10.0).checkAll [(⟨1⟩, meetingPoint), (⟨2⟩, meetingPoint)]).1
        = [⟨⟨1⟩, meetingPoint, true⟩] ++ ⟨⟨2⟩, meetingPoint, true⟩ :: []
      ∧ ¬ ∃ q ∈ (empty 10.0).reference [⟨⟨1⟩, meetingPoint, true⟩] ⟨2⟩,
          q.within 10.0 meetingPoint := by
  refine ⟨rfl, fun h => ?_⟩
  have hdropped := ((checkAll_drops_unmoved (empty 10.0)
    [(⟨1⟩, meetingPoint), (⟨2⟩, meetingPoint)]).2.1 _ ⟨⟨2⟩, meetingPoint, true⟩
      [] rfl).2 h
  contradiction

end Telematics.PositionCache
