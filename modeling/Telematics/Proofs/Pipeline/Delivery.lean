import Telematics.Proofs.Pipeline.Running
import Telematics.Proofs.Store.Identity

/-!
# What the cache knows of the sinks

A reading that has moved is noted in the cache and then delivered, in this
order, and the cache is not told what came of the delivery. It therefore
holds the position of the last reading that was offered to the sinks, for
every vehicle, whether they took it or not.

That is the last position that was stored as long as the sinks take what they
are offered. Once they do not the two differ, unless the reading that is lost
was taken where the last stored one was. A reading is lost if a sink fails, and
also if there is no number left for the point that it would become: the cache
has been told of it by then. What is sent again after that is compared with
the reading that was lost (`Pipeline.get?_after`), so it does not come before
the sinks a second time.

A call comes to one of a few ends (`Pipeline.call_cases`), and what it does to
the cache is the same for all those in which the reading was offered. So the
statement about a run is one about lists: what was offered and what was taken
end in the same position for every vehicle, as long as no call adds another
position to the one and nothing to the other (`Deliveries.faithful_step_iff`).
Nothing is assumed about the vehicles, which resolutions enter on the way, nor
about what fails.
-/

namespace Telematics

variable {p : Pipeline} {b : Backend} {faults : Faults} {v w : VehicleId}

/-- A reading that is to be processed, in a month of the year and with
collaborators that may fail. -/
structure Call where
  job : Job
  month : Nat
  faults : Faults

namespace Pipeline

/-! ## Assigning and keeping -/

/-- What comes before the cache: the vehicle of a reading, or why the reading
is dropped. -/
def assigned (p : Pipeline) (job : Job) (month : Nat) :
    Task Error (Except SkipReason VehicleId) :=
  if !credible job.reading then pure (.error .notCredible)
  else if !p.window.contains month then pure (.error .outsideWindow)
  else do
    let provider ← findProvider job.peer
    let resolution ←
      (Resolver.resolve job.reading.oid provider.id).mapError .resolve
    let vehicle ← request (.findVehicle resolution.vehicle)
    if vehicle.elim Moderation.pending (·.moderation) = .rejected then
      pure (.error .vehicleRejected)
    else pure (.ok resolution.vehicle)

/-- **A reading is assigned to a vehicle, and then kept.** -/
theorem process_eq (p : Pipeline) (job : Job) (month : Nat) :
    p.process job month = p.assigned job month >>= fun
      | .error reason => pure (.skipped reason)
      | .ok v => p.keep job.reading v := by
  unfold process assigned assign
  split
  · rfl
  · split
    · rfl
    · simp only [bind_assoc]
      congr; funext provider
      congr; funext resolution
      congr; funext vehicle
      split
      · rfl
      · rfl

/-- Up to the cache only collaborators are asked, and nothing is delivered. -/
theorem asks_assigned (p : Pipeline) (job : Job) (month : Nat) :
    (p.assigned job month).Asks Request.Inquires := by
  unfold assigned
  refine .ite (.pure _) (.ite (.pure _) ?_)
  refine .bind (asks_findProvider _) fun provider => ?_
  refine .bind (.mapError _ (Resolver.asks_resolve _ _)) fun resolution => ?_
  exact .bind (.mapError _ (.request ⟨rfl, rfl⟩)) fun vehicle =>
    .ite (.pure _) (.pure _)

/-- What is held once a position was let through. -/
def noted (b : Backend) (v : VehicleId) (q : Position) : Backend :=
  { b with cache := { b.cache with entries := b.cache.entries.insert v.val q } }

/-- A position that the cache holds goes no further. -/
theorem runIn_keep_of_holds {r : Reading}
    (h : b.cache.holds v r.position = true) :
    (p.keep r v).runIn faults b = (some (.ok (.skipped .notMoved)), b) := by
  unfold keep request
  rw [Task.runIn_bind, Task.runIn_mapError, Task.runIn_request,
    Backend.answer_of_not_leaves rfl, Backend.perform, PositionCache.check,
    if_pos h]
  rfl

/-- **Any other is noted first**, and delivered then. Nothing that comes of
the delivery is noted. -/
theorem runIn_keep_of_not_holds {r : Reading}
    (h : ¬ b.cache.holds v r.position = true) :
    (p.keep r v).runIn faults b
      = match
          (Task.deliver r v p.sinks).runIn faults (noted b v r.position) with
        | (some (.ok _), c) => (some (.ok (.saved v)), c)
        | (some (.error e), c) => (some (.error (.store e)), c)
        | (none, c) => (none, c) := by
  unfold keep request
  rw [Task.runIn_bind, Task.runIn_mapError, Task.runIn_request,
    Backend.answer_of_not_leaves rfl, Backend.perform, PositionCache.check,
    if_neg h]
  dsimp only [Option.map_some, Except.mapError]
  rw [if_pos rfl, Task.runIn_bind, Task.runIn_mapError]
  unfold noted
  generalize Task.runIn faults (Task.deliver r v p.sinks) _ = x
  rcases x with ⟨_ | e | u, c⟩ <;> rfl

/-! ## One call -/

variable {c : Call}

/-- What becomes of a reading, unless its processing is brought down. -/
def outcome (p : Pipeline) (b : Backend) (c : Call) :
    Option (Except Error SaveOutcome) :=
  ((p.process c.job c.month).runIn c.faults b).1

/-- What is held afterwards. -/
def after (p : Pipeline) (b : Backend) (c : Call) : Backend :=
  ((p.process c.job c.month).runIn c.faults b).2

/-- The vehicle for which the sinks took the reading, if they did. -/
def taken? (p : Pipeline) (b : Backend) (c : Call) : Option VehicleId :=
  match p.outcome b c with
  | some (.ok (.saved v)) => some v
  | _ => none

/-- The vehicle for which the reading was offered to the sinks, if it was. -/
def offered? (p : Pipeline) (b : Backend) (c : Call) : Option VehicleId :=
  match (p.assigned c.job c.month).runIn c.faults b with
  | (some (.ok (.ok v)), held) =>
    if held.cache.holds v c.job.reading.position then none else some v
  | _ => none

/-- **All that a call can come to**: the reading is not offered to the sinks,
and the cache is as it was; or it is offered and noted, and the sinks take it,
or the call ends in their failure or comes to no outcome at all. -/
theorem call_cases (p : Pipeline) (b : Backend) (c : Call) :
    (p.offered? b c = none ∧ p.taken? b c = none
      ∧ (p.after b c).cache = b.cache) ∨
    ∃ v, p.offered? b c = some v
      ∧ (p.after b c).cache = (noted b v c.job.reading.position).cache
      ∧ (p.taken? b c = some v ∨ p.taken? b c = none
        ∧ ((∃ e, p.outcome b c = some (.error (.store e)))
          ∨ p.outcome b c = none)) := by
  -- The cache is not touched before the reading has a vehicle.
  have hcache : ((p.assigned c.job c.month).runIn c.faults b).2.cache
      = b.cache :=
    ((p.asks_assigned c.job c.month).mono fun _ h => h.1).cache_run b
  unfold offered? taken? outcome after
  rw [process_eq, Task.runIn_bind]
  generalize (p.assigned c.job c.month).runIn c.faults b = x at hcache
  rcases x with ⟨_ | e | reason | v, held⟩
  · exact .inl ⟨rfl, rfl, hcache⟩
  · exact .inl ⟨rfl, rfl, hcache⟩
  · exact .inl ⟨rfl, rfl, hcache⟩
  · dsimp only at hcache ⊢
    by_cases h : held.cache.holds v c.job.reading.position = true
    · rw [runIn_keep_of_holds h]
      exact .inl ⟨if_pos h, rfl, hcache⟩
    · rw [runIn_keep_of_not_holds h]
      have hdelivered : ((Task.deliver c.job.reading v p.sinks).runIn c.faults
          (noted held v c.job.reading.position)).2.cache
            = (noted b v c.job.reading.position).cache := by
        refine ((Task.asks_deliver c.job.reading v p.sinks).cache_run
          _).trans ?_
        rw [noted, noted, hcache]
      refine .inr ⟨v, if_neg h, ?_⟩
      generalize (Task.deliver c.job.reading v p.sinks).runIn c.faults _
        = y at hdelivered
      rcases y with ⟨_ | e | u, last⟩
      · exact ⟨hdelivered, .inr ⟨rfl, .inr rfl⟩⟩
      · exact ⟨hdelivered, .inr ⟨rfl, .inl ⟨e, rfl⟩⟩⟩
      · exact ⟨hdelivered, .inl rfl⟩

theorem get?_noted (b : Backend) (v : VehicleId) (q : Position)
    (w : VehicleId) :
    (noted b v q).cache.get? w = if v = w then some q else b.cache.get? w := by
  unfold noted PositionCache.get?
  rw [Table.find?_insert]
  simp only [VehicleId.val_inj, eq_comm]

/-- **What the cache has after a call** is the position of what was offered.
How the call ends, and whether it ends, makes no difference. -/
theorem get?_after (p : Pipeline) (b : Backend) (c : Call) (w : VehicleId) :
    (p.after b c).cache.get? w
      = if p.offered? b c = some w then some c.job.reading.position
        else b.cache.get? w := by
  rcases call_cases p b c with ⟨hoffered, -, hcache⟩ | ⟨v, hoffered, hcache, -⟩
  · rw [hoffered, hcache, if_neg nofun]
  · rw [hoffered, hcache, get?_noted]
    simp only [Option.some.injEq]

end Pipeline

/-! ## Calls one after the other -/

/-- What is held after some calls, with the readings that were offered to the
sinks by then and those that the sinks took, each under its vehicle. -/
structure Deliveries where
  backend : Backend
  offered : List (VehicleId × Position)
  taken : List (VehicleId × Position)

namespace Deliveries

variable {x : Deliveries} {calls : List Call}

/-- Nothing has been delivered, and the cache is empty. -/
def start (b : Backend) (tolerance : Float) : Deliveries :=
  ⟨{ b with cache := .empty tolerance }, [], []⟩

/-- A list with the position of a vehicle, if there is a vehicle. -/
def extend (ds : List (VehicleId × Position)) (v : Option VehicleId)
    (q : Position) : List (VehicleId × Position) :=
  ds ++ v.toList.map (·, q)

/-- One more call. -/
def step (p : Pipeline) (x : Deliveries) (c : Call) : Deliveries where
  backend := p.after x.backend c
  offered := extend x.offered (p.offered? x.backend c) c.job.reading.position
  taken := extend x.taken (p.taken? x.backend c) c.job.reading.position

/-- The states of a run. -/
def states (p : Pipeline) (x : Deliveries) : List Call → List Deliveries
  | [] => [x]
  | c :: calls => x :: (x.step p c).states p calls

/-- The calls of a run, each with the state in which it comes. -/
def moves (p : Pipeline) (x : Deliveries) : List Call → List (Deliveries × Call)
  | [] => []
  | c :: calls => (x, c) :: (x.step p c).moves p calls

/-- The last position of a vehicle in a list. -/
def lastOf (ds : List (VehicleId × Position)) (v : VehicleId) :
    Option Position :=
  (ds.reverse.find? (·.1 = v)).map (·.2)

/-- **The cache holds what was offered**: for every vehicle, the position of
the last reading that came before the sinks. -/
def Current (x : Deliveries) : Prop :=
  ∀ v, x.backend.cache.get? v = lastOf x.offered v

/-- **The cache holds what was stored**: for every vehicle, the position of
the last reading that the sinks took. -/
def Faithful (x : Deliveries) : Prop :=
  ∀ v, x.backend.cache.get? v = lastOf x.taken v

/-- **The call loses a reading that moved**: it was offered and not taken, and
what was taken last for its vehicle was not taken at the same place. -/
def Loses (p : Pipeline) (x : Deliveries) (c : Call) : Prop :=
  ∃ v, p.offered? x.backend c = some v ∧ p.taken? x.backend c = none
    ∧ lastOf x.taken v ≠ some c.job.reading.position

/-- The last position of a vehicle, with one more in the list. -/
theorem lastOf_extend (ds : List (VehicleId × Position)) (v : Option VehicleId)
    (q : Position) (w : VehicleId) :
    lastOf (extend ds v q) w = if v = some w then some q else lastOf ds w := by
  cases v with
  | none => simp [extend]
  | some v =>
    by_cases h : v = w
    · simp [extend, lastOf, h]
    · simp [extend, lastOf, h]

/-- One call keeps the cache current, whether or not what was offered is
taken. -/
theorem current_step (h : x.Current) (p : Pipeline) (c : Call) :
    (x.step p c).Current := by
  intro v
  show (p.after x.backend c).cache.get? v = lastOf (extend x.offered _ _) v
  rw [Pipeline.get?_after, lastOf_extend, h v]

/-- **One call keeps the cache faithful** exactly if it loses no reading that
moved. A reading that is lost where the last one was taken leaves the entry
right by chance, so it is not among these. -/
theorem faithful_step_iff (h : x.Faithful) (c : Call) :
    (x.step p c).Faithful ↔ ¬ Loses p x c := by
  have hget : (x.step p c).Faithful ↔ ∀ w,
      (if p.offered? x.backend c = some w then some c.job.reading.position
        else lastOf x.taken w)
        = if p.taken? x.backend c = some w then some c.job.reading.position
          else lastOf x.taken w := by
    refine forall_congr' fun w => ?_
    show (p.after x.backend c).cache.get? w = lastOf (extend x.taken _ _) w ↔ _
    rw [Pipeline.get?_after, lastOf_extend, h w]
  rw [hget]
  unfold Loses
  rcases p.call_cases x.backend c with
    ⟨hoffered, htaken, -⟩ | ⟨v, hoffered, -, htaken | htaken⟩
  · rw [hoffered, htaken]
    exact iff_of_true (fun w => rfl) nofun
  · rw [hoffered, htaken]
    exact iff_of_true (fun w => rfl) nofun
  · have hnone : ∀ w, ¬ (none : Option VehicleId) = some w := nofun
    simp only [hoffered, htaken.1, if_neg (hnone _)]
    constructor
    · rintro hall ⟨u, hu, -, hne⟩
      exact hne ((hall u).symm.trans (if_pos hu))
    · intro hnot w
      by_cases hw : some v = some w
      · rw [if_pos hw]
        exact (Classical.not_not.1 fun hne => hnot ⟨w, hw, trivial, hne⟩).symm
      · rw [if_neg hw]

/-- A run keeps the cache current. -/
theorem current_states (h : x.Current) (p : Pipeline) (calls : List Call) :
    ∀ y ∈ x.states p calls, y.Current := by
  induction calls generalizing x with
  | nil => exact List.forall_mem_singleton.2 h
  | cons c calls ih => exact List.forall_mem_cons.2 ⟨h, ih (current_step h p c)⟩

/-- **A run keeps the cache faithful at all times** exactly if it loses no
reading that moved. A run that lost a reading may become faithful again later;
what is said is that it was not at all times. -/
theorem faithful_states_iff (h : x.Faithful) :
    (∀ y ∈ x.states p calls, y.Faithful) ↔ ∀ m ∈ x.moves p calls,
      ¬ Loses p m.1 m.2 := by
  induction calls generalizing x with
  | nil =>
    exact iff_of_true (List.forall_mem_singleton.2 h) (List.forall_mem_nil _)
  | cons c calls ih =>
    unfold states moves
    rw [List.forall_mem_cons, List.forall_mem_cons, ← faithful_step_iff h]
    by_cases hstep : (x.step p c).Faithful
    · exact and_congr (iff_of_true h hstep) (ih hstep)
    · -- The state after this call is one of the run.
      refine iff_of_false (fun hall => hstep (hall.2 _ ?_)) fun hall =>
        hstep hall.1
      cases calls <;> exact .head _

/-- **What the cache knows of the sinks.** From an empty cache on, whatever
is processed and whatever fails, the cache has for every vehicle the position
of the last reading that was offered to the sinks. That is the position of the
last one they took, at all times of a run, exactly if the run loses no reading
that moved; in particular, if they take all they are offered. -/
theorem faithful_iff_nothing_lost (p : Pipeline) (b : Backend)
    (tolerance : Float) (calls : List Call) :
    (∀ y ∈ (start b tolerance).states p calls, y.Current)
      ∧ ((∀ y ∈ (start b tolerance).states p calls, y.Faithful)
        ↔ ∀ m ∈ (start b tolerance).moves p calls, ¬ Loses p m.1 m.2) :=
  ⟨current_states (fun _ => rfl) p calls, faithful_states_iff fun _ => rfl⟩

/-- The first reading of a terminal, which finds the disk full. -/
def lostReading : Call where
  job :=
    ⟨⟨7, 1, ⟨0, 0⟩, ⟨0, 0⟩, 55.0, 37.0, none, 0.0, 0, none, none, none, none,
      none, [], []⟩, .ofOctets 10 0 0 5⟩
  month := 6
  faults
    | .save _ _ _ => some (.backend "disk full")
    | _ => none

/-- A provider, and no vehicle. -/
def firstDay : Deliveries :=
  start ⟨Store.empty.addProvider ⟨⟨1⟩, "provider", ["10.0.*"]⟩,
    .empty PositionCache.defaultTolerance, []⟩ PositionCache.defaultTolerance

/-- **A position is in the cache, and nothing is stored.** -/
theorem not_faithful_after_lost_reading :
    ¬ ∀ y ∈ firstDay.states ⟨.always, [.log]⟩ [lostReading], y.Faithful := by
  intro hall
  have h :=
    hall (firstDay.step ⟨.always, [.log]⟩ lostReading) (.tail _ (.head _)) ⟨1⟩
  have hne : ((firstDay.step ⟨.always, [.log]⟩ lostReading).backend.cache.get?
    ⟨1⟩).isSome
      ≠ (lastOf (firstDay.step ⟨.always, [.log]⟩ lostReading).taken
        ⟨1⟩).isSome := by
    decide +kernel
  exact hne (congrArg Option.isSome h)

end Deliveries

end Telematics
