import Telematics.Proofs.Pipeline.Delivery
import Telematics.Proofs.Pipeline.Interleaving
import Telematics.Proofs.Pipeline.Reloading

/-!
# Readings while the cache is reloaded

A reading is compared with the cache and noted in one step, and stored in
another. A reload of the cache asks for the vehicles, then for the last
position of each, and replaces the entries in its last step. Any number of
both may be under way, and their steps may alternate in any way: a run is a
list of events, one for a reading or a reload that begins and one for a
request that is answered.

The cache is current if it has, for every vehicle, the position of the last
reading that was let through, and as long as there is none what it had at the
start. Then a reading that is let through has moved since the one before. Of
all steps only one can leave a cache that is not current, the last one of a
reload, and it does so exactly if what was found is not what was let through
in the meantime.

## How a run is followed

A program that is under way is any tree of requests, and nothing could be said
about the step of such a tree. But an errand is always at one of a few places
of its program: `Errand.Phase` lists them, and `Errand.Step` what the answer
to the request at each place comes to (`Errand.Phase.step`). Both carry what
is known at their place, as two parameters, since a later account of the same
runs knows more: here nothing is known, and in
`Telematics.Proofs.Pipeline.Refreshing` it is what a reload has found and
still has to find.

A reading may also be brought down. When the store has no number left for the
reading, the request to store it has no answer, and the errand ends there
(`Errand.Step.unstored`); what the cache has noted for it remains. So such a
step changes nothing, and the two statements below do not need that numbers
are left.
-/

namespace Telematics

/-- Each of the positions is farther from the one before it than a
tolerance. -/
def Position.Apart (tolerance : Float) : List Position → Prop
  | p :: q :: rest => ¬ p.within tolerance q ∧ Apart tolerance (q :: rest)
  | _ => True

/-- **One more position is apart** exactly if it is far from the last. The
definition runs from the front, and a run adds at the end. -/
theorem Position.apart_concat {tolerance : Float} {q : Position}
    {ps : List Position} :
    Apart tolerance (ps ++ [q])
      ↔ Apart tolerance ps ∧ ∀ p, ps.getLast? = some p →
        ¬ p.within tolerance q := by
  match ps with
  | [] => simp [Apart]
  | [p] => simp [Apart]
  | p :: o :: rest =>
    have ih : Apart tolerance (o :: rest ++ [q]) ↔ Apart tolerance (o :: rest)
        ∧ ∀ p, (o :: rest).getLast? = some p → ¬ p.within tolerance q :=
      apart_concat
    simp only [List.cons_append, Apart] at ih ⊢
    rw [ih, List.getLast?_cons_cons, and_assoc]

/-! ## Errands -/

namespace Pipeline

variable {r : Reading} {v : VehicleId} {w : RecordingWindow}

/-- What is left to do for a reading that was let through: it is stored, or
the fault of the store is reported. -/
def storing (r : Reading) (v : VehicleId) :
    Program (Except Error SaveOutcome) :=
  .ask (.save .store r v) fun x =>
    .done ((x.mapError Error.store).map fun _ => .saved v)

/-- What is done for a reading that was compared with the cache. -/
def afterCheck (r : Reading) (v : VehicleId) :
    Except StoreError Bool → Program (Except Error SaveOutcome)
  | .ok true => storing r v
  | .ok false => .done (.ok (.skipped .notMoved))
  | .error e => .done (.error (.store e))

/-- The requests of a reading: the comparison, and then the storing if it was
let through. -/
theorem run_keep : ExceptT.run (keep ⟨w, [.store]⟩ r v)
    = .ask (.checkCache v r.position) (afterCheck r v) := by
  refine congrArg (Program.ask (.checkCache v r.position)) (funext fun x => ?_)
  match x with
  | .ok true =>
    refine congrArg (Program.ask (.save .store r v)) (funext fun y => ?_)
    cases y <;> rfl
  | .ok false => rfl
  | .error e => rfl

end Pipeline

/-- Something that is under way. -/
inductive Errand where
  /-- A reading of a vehicle. -/
  | keeping (v : VehicleId) (r : Reading)
    (program : Program (Except Error SaveOutcome))
  /-- A reload, with the vehicles that it has asked for. -/
  | reloading (asked : List VehicleId)
    (program : Program (Except StoreError Nat))

namespace Errand

/-- A reading that arrives. -/
def keep (v : VehicleId) (r : Reading) : Errand :=
  keeping v r (ExceptT.run (Pipeline.keep ⟨.always, [.store]⟩ r v))

/-- A reload that begins. -/
def reload : Errand := reloading [] (ExceptT.run PositionCache.refresh)

/-- What is waited for, if the errand is not over. -/
def request? : Errand → Option Request
  | keeping _ _ program => program.request?
  | reloading _ program => program.request?

/-- The vehicle whose last position is asked for. -/
def asks : Option Request → List VehicleId
  | some (.lastPosition v) => [v]
  | _ => []

/-- The errand after its request was answered, and what is held then. -/
def serve? (b : Backend) : Errand → Option (Errand × Backend)
  | keeping v r program =>
    (program.serve? b).map fun x => (keeping v r x.1, x.2)
  | reloading asked program =>
    (program.serve? b).map fun x =>
      (reloading (asked ++ asks program.request?) x.1, x.2)

/-- The reading that is let through when the request is answered. -/
def accepts? (b : Backend) : Errand → Option (VehicleId × Reading)
  | keeping v r program =>
    match program.request? with
    | some (.checkCache _ _) =>
      if b.cache.holds v r.position then none else some (v, r)
    | _ => none
  | reloading _ _ => none

/-- The reading that was let through and is still to be stored. -/
def carries? : Errand → Option (VehicleId × Reading)
  | keeping v r program =>
    match program.request? with
    | some (.save _ _ _) => some (v, r)
    | _ => none
  | reloading _ _ => none

/-- The reload is under way and has asked for the vehicle. -/
def reliesOn (v : VehicleId) : Errand → Bool
  | keeping _ _ _ => false
  | reloading asked program => program.request?.isSome && v ∈ asked

section Phase

-- What is known of the vehicle of a reading, and of what a reload has found
-- when it has asked for some vehicles and is to ask for others.
variable (L : VehicleId → Prop)
  (K : List VehicleId → List Vehicle → Table Position → Prop)

/-- **How far an errand can be**, with what is known then. -/
inductive Phase : Errand → Prop where
  | check (v : VehicleId) (r : Reading) (h : L v) : Phase (keep v r)
  | save (v : VehicleId) (r : Reading) (h : L v) :
    Phase (keeping v r (Pipeline.storing r v))
  | kept (v : VehicleId) (r : Reading) (a : Except Error SaveOutcome) :
    Phase (keeping v r (.done a))
  /-- The store had no number for the reading. -/
  | stopped (v : VehicleId) (r : Reading) : Phase (keeping v r .stop)
  | list : Phase reload
  | look (asked : List VehicleId) (vs : List Vehicle) (found : Table Position)
    (h : K asked vs found) :
    Phase (reloading asked (PositionCache.look vs found))
  | reloaded (asked : List VehicleId) (a : Except StoreError Nat) :
    Phase (reloading asked (.done a))

/-- **What the answer to an errand's request comes to**: how the errand goes
on, what is held then, and the reading that is let through, if one is. -/
inductive Step (b : Backend) :
    Errand → Errand → Backend → Option (VehicleId × Reading) → Prop where
  | letThrough (v : VehicleId) (r : Reading) (hv : L v)
    (h : ¬ b.cache.holds v r.position = true) :
    Step b (keep v r) (keeping v r (Pipeline.storing r v))
      (Pipeline.noted b v r.position)
      (some (v, r))
  | heldBack (v : VehicleId) (r : Reading)
    (h : b.cache.holds v r.position = true) :
    Step b (keep v r) (keeping v r (.done (.ok (.skipped .notMoved)))) b none
  | stored (v : VehicleId) (r : Reading) (store : Store)
    (h : b.store.save r v = some store) :
    Step b (keeping v r (Pipeline.storing r v))
      (keeping v r (.done (.ok (.saved v))))
      { b with store } none
  /-- No numbers are left, and the errand is brought down. -/
  | unstored (v : VehicleId) (r : Reading)
    (h : maxRowNumber ≤ b.store.lastPoint) :
    Step b (keeping v r (Pipeline.storing r v)) (keeping v r .stop) b none
  | listed :
    Step b reload
    (reloading [] (PositionCache.look b.store.vehicles.values ∅)) b none
  | looked (asked : List VehicleId) (v : Vehicle) (vs : List Vehicle)
    (found : Table Position)
    (h : K asked (v :: vs) found) :
    Step b (reloading asked (PositionCache.look (v :: vs) found))
      (reloading (asked ++ [v.id])
        (PositionCache.look vs
          (PositionCache.entered v found (.ok (b.store.lastPosition v.id)))))
      b none
  | swapped (asked : List VehicleId) (found : Table Position)
    (h : K asked [] found) :
    Step b (reloading asked (PositionCache.look [] found))
      (reloading asked (.done (.ok found.size))) { b with
        cache := b.cache.replace found } none

end Phase

variable {b b' : Backend} {e e' : Errand} {L : VehicleId → Prop}
  {K : List VehicleId → List Vehicle → Table Position → Prop}

/-- A reading that arrives waits for the comparison. -/
theorem request?_keep (v : VehicleId) (r : Reading) :
    (keep v r).request? = some (.checkCache v r.position) := by
  rw [keep, Pipeline.run_keep]
  rfl

/-- A reload that begins waits for the list of vehicles. -/
theorem request?_reload : reload.request? = some .listVehicles := by
  rw [reload, PositionCache.run_refresh]
  rfl

/-- A reading is let through as the cache stands when it is compared. -/
theorem accepts?_keep (b : Backend) (v : VehicleId) (r : Reading) :
    (keep v r).accepts? b = if b.cache.holds v r.position then none
      else some (v, r) := by
  rw [keep, Pipeline.run_keep]
  rfl

/-- **What the answer to a request comes to** is one of the steps listed. One
case for each place that an errand can be at; those that are over have no
request, and the two where the answer decides, the comparison and the storing,
are split once more. -/
theorem Phase.step (h : Phase L K e) (hs : e.serve? b = some (e', b')) :
    Step L K b e e' b' (e.accepts? b) := by
  cases h with
  | check v r hv =>
    rw [accepts?_keep]
    rw [keep, serve?, Pipeline.run_keep] at hs
    simp only [Program.serve?, Backend.perform, PositionCache.check,
      Option.map_some] at hs
    by_cases hholds : b.cache.holds v r.position = true
    · rw [if_pos hholds] at hs ⊢
      cases hs
      exact .heldBack v r hholds
    · rw [if_neg hholds] at hs ⊢
      cases hs
      exact .letThrough v r hv hholds
  | save v r hv =>
    simp only [serve?, Pipeline.storing, Program.serve?, Backend.perform] at hs
    cases hsave : b.store.save r v with
    | some store =>
      rw [hsave] at hs
      cases hs
      exact .stored v r store hsave
    | none =>
      rw [hsave] at hs
      cases hs
      exact .unstored v r (Store.save_eq_none_iff.1 hsave)
  | kept v r a => cases hs
  | stopped v r => cases hs
  | list =>
    rw [reload, serve?, PositionCache.run_refresh] at hs
    cases hs
    exact .listed
  | look asked vs found h =>
    cases vs with
    | nil =>
      cases hs
      have hasked : asked ++ asks (PositionCache.look [] found).request?
          = asked :=
        List.append_nil asked
      rw [hasked]
      exact .swapped asked found h
    | cons v vs =>
      rw [PositionCache.look_cons] at hs
      cases hs
      exact .looked asked v vs found h
  | reloaded asked a => cases hs

/-- An errand that goes on is at one of the places again, so a run never
leaves them. -/
theorem Step.phase {a : Option (VehicleId × Reading)}
  (h : Step L K b e e' b' a) :
    Phase (fun _ => True) (fun _ _ _ => True) e' := by
  cases h with
  | letThrough v r hv h => exact .save v r trivial
  | heldBack v r h => exact .kept v r _
  | stored v r store h => exact .kept v r _
  | unstored v r h => exact .stopped v r
  | listed => exact .look _ _ _ trivial
  | looked asked v vs found h => exact .look _ _ _ trivial
  | swapped asked found h => exact .reloaded _ _

/-- **What a step does to the cache**: the last one of a reload replaces the
entries. Any other leaves them, or lets a reading through and notes it. -/
theorem Step.cache_cases {a : Option (VehicleId × Reading)}
    (h : Step L K b e e' b' a) :
    (∃ asked found, K asked [] found ∧ e.request? = some (.replaceCache found)
        ∧ a = none ∧ b'.cache = b.cache.replace found)
      ∨ (∀ found, e.request? ≠ some (.replaceCache found))
        ∧ (a = none ∧ b'.cache = b.cache
          ∨ ∃ v r, a = some (v, r) ∧ ¬ b.cache.holds v r.position = true
            ∧ b' = Pipeline.noted b v r.position) := by
  cases h with
  | letThrough v r hv h =>
    refine .inr ⟨fun found hfound => ?_, .inr ⟨v, r, rfl, h, rfl⟩⟩
    cases (request?_keep v r).symm.trans hfound
  | heldBack v r h =>
    refine .inr ⟨fun found hfound => ?_, .inl ⟨rfl, rfl⟩⟩
    cases (request?_keep v r).symm.trans hfound
  | stored v r store h =>
    refine .inr ⟨fun found hfound => ?_, .inl ⟨rfl, rfl⟩⟩
    cases hfound
  | unstored v r h =>
    refine .inr ⟨fun found hfound => ?_, .inl ⟨rfl, rfl⟩⟩
    cases hfound
  | listed =>
    refine .inr ⟨fun found hfound => ?_, .inl ⟨rfl, rfl⟩⟩
    cases request?_reload.symm.trans hfound
  | looked asked v vs found h =>
    refine .inr ⟨fun found hfound => ?_, .inl ⟨rfl, rfl⟩⟩
    rw [PositionCache.look_cons] at hfound
    cases hfound
  | swapped asked found h => exact .inl ⟨asked, found, h, rfl, rfl, rfl⟩

end Errand

/-! ## Runs -/

/-- What can happen next. -/
inductive TrafficEvent where
  /-- A reading of a vehicle of the store arrives. -/
  | arrive (v : VehicleId) (r : Reading)
  | reload
  /-- An errand has its request answered. -/
  | serve (errand : Nat)

/-- Errands under way over what is held. -/
structure Traffic where
  backend : Backend
  errands : List Errand
  /-- The cache as it was at the start. -/
  origin : PositionCache
  /-- The readings that were let through, each under its vehicle. -/
  accepted : List (VehicleId × Reading)

namespace Traffic

/-- Nothing is under way. -/
def start (b : Backend) : Traffic := ⟨b, [], b.cache, []⟩

/-- An errand has gone on, and perhaps a reading was let through. -/
def next (x : Traffic) (i : Nat) (d : Errand) (b : Backend)
    (a : Option (VehicleId × Reading)) : Traffic :=
  ⟨b, x.errands.set i d, x.origin, x.accepted ++ a.toList⟩

/-- **What is held and under way after an event**, if the event can
happen. -/
def step? (x : Traffic) : TrafficEvent → Option Traffic
  | .arrive v r =>
    if (x.backend.store.findVehicle v).isSome then
      some { x with errands := x.errands ++ [.keep v r] }
    else none
  | .reload => some { x with errands := x.errands ++ [.reload] }
  | .serve i => do
    let d ← x.errands[i]?
    let (d', backend) ← d.serve? x.backend
    pure (x.next i d' backend (d.accepts? x.backend))

/-- The states of a run, up to the first event that cannot happen. -/
def states (x : Traffic) : List TrafficEvent → List Traffic
  | [] => [x]
  | e :: events => x :: (x.step? e).elim [] (states · events)

/-- The events of a run, each with the state in which it comes. -/
def moves (x : Traffic) : List TrafficEvent → List (Traffic × TrafficEvent)
  | [] => []
  | e :: events => (x, e) :: (x.step? e).elim [] (moves · events)

/-- The readings of a vehicle that were let through, in order. -/
def readingsOf (x : Traffic) (v : VehicleId) : List Reading :=
  (x.accepted.filter (·.1 = v)).map (·.2)

/-- Where a vehicle was, according to the cache at the start and to what was
let through. -/
def positions (x : Traffic) (v : VehicleId) : List Position :=
  (x.origin.get? v).toList ++ (x.readingsOf v).map (·.position)

/-- The last of these. -/
def last (x : Traffic) (v : VehicleId) : Option Position :=
  (x.positions v).getLast?

/-- **The cache is current**: it has what was let through last. -/
def Current (x : Traffic) : Prop := ∀ v, x.backend.cache.get? v = x.last v

/-- **Every reading that was let through has moved** since the one before of
its vehicle. -/
def Apart (x : Traffic) : Prop :=
  ∀ v, Position.Apart x.origin.tolerance (x.positions v)

/-- **The event replaces the entries of the cache by others** than what was
let through last. -/
def Stale (x : Traffic) : TrafficEvent → Prop
  | .serve i =>
    ∃ e ∈ x.errands[i]?, ∃ found, e.request? = some (.replaceCache found) ∧
    ∃ v : VehicleId, found.find? v.val ≠ x.last v
  | _ => False

/-- Every errand is as far as one can be, and the tolerance is what it was. -/
structure Valid (x : Traffic) : Prop where
  phase : ∀ e ∈ x.errands, Errand.Phase (fun _ => True) (fun _ _ _ => True) e
  tolerance : x.backend.cache.tolerance = x.origin.tolerance

variable {x y : Traffic} {e : TrafficEvent} {events : List TrafficEvent}
  {L : VehicleId → Prop} {K : List VehicleId → List Vehicle →
    Table Position → Prop}

/-- **What a step can be**: a reading arrives, a reload begins, or an errand
has its request answered. -/
theorem step_cases (hx : ∀ d ∈ x.errands, Errand.Phase L K d)
    (h : x.step? e = some y) :
    (∃ v r, e = .arrive v r ∧ (x.backend.store.findVehicle v).isSome
      ∧ y = { x with errands := x.errands ++ [.keep v r] })
    ∨ (e = .reload ∧ y = { x with errands := x.errands ++ [.reload] })
    ∨ ∃ i d d' backend a, e = .serve i ∧ x.errands[i]? = some d
      ∧ Errand.Step L K x.backend d d' backend a
      ∧ y = x.next i d' backend a := by
  cases e with
  | arrive v r =>
    simp only [step?] at h
    split at h
    · next hv => exact .inl ⟨v, r, rfl, hv, (Option.some.inj h).symm⟩
    · cases h
  | reload => exact .inr (.inl ⟨rfl, (Option.some.inj h).symm⟩)
  | serve i =>
    obtain ⟨d, hd, h⟩ := Option.bind_eq_some_iff.1 h
    obtain ⟨⟨d', backend⟩, hserve, h⟩ := Option.bind_eq_some_iff.1 h
    have hstep := (hx d (List.mem_of_getElem? hd)).step hserve
    exact .inr (.inr
      ⟨i, d, d', backend, _, rfl, hd, hstep, (Option.some.inj h).symm⟩)

theorem mem_states_self (x : Traffic) (events : List TrafficEvent) :
    x ∈ x.states events := by
  cases events <;> exact .head _

/-- At the start there is no errand to be out of place. -/
theorem valid_start (b : Backend) : (start b).Valid :=
  ⟨List.forall_mem_nil _, rfl⟩

/-- **Every errand stays at one of its places**, and the tolerance is never
changed: neither by noting a position nor by replacing the entries. -/
theorem Valid.step (hx : x.Valid) (h : x.step? e = some y) : y.Valid := by
  obtain ⟨v, r, rfl, -, rfl⟩ | ⟨rfl, rfl⟩
      | ⟨i, d, d', backend, a, rfl, -, hstep, rfl⟩ :=
    step_cases hx.phase h
  · refine ⟨?_, hx.tolerance⟩
    exact List.forall_mem_append.2
      ⟨hx.phase, List.forall_mem_singleton.2 (.check v r trivial)⟩
  · refine ⟨?_, hx.tolerance⟩
    exact List.forall_mem_append.2 ⟨hx.phase, List.forall_mem_singleton.2 .list⟩
  · refine ⟨fun e he => ?_, ?_⟩
    · rcases List.mem_or_eq_of_mem_set he with he | rfl
      · exact hx.phase e he
      · exact hstep.phase
    · cases hstep <;> exact hx.tolerance

/-! ## What ends a cache that is current -/

variable (i : Nat) (d : Errand) (b : Backend) (v : VehicleId) (r : Reading)

/-- A reading that is let through is the last of its vehicle, and no other
vehicle has more readings for it. -/
theorem readingsOf_next_some (u : VehicleId) :
    (x.next i d b (some (v, r))).readingsOf u
      = x.readingsOf u ++ if v = u then [r] else [] := by
  unfold readingsOf next
  rw [Option.toList_some, List.filter_append, List.map_append]
  by_cases hu : v = u
  · simp [hu]
  · simp [hu]

/-- So its position is the last of its vehicle. -/
theorem positions_next_some (u : VehicleId) :
    (x.next i d b (some (v, r))).positions u
      = x.positions u ++ if v = u then [r.position] else [] := by
  unfold positions
  rw [readingsOf_next_some, List.map_append, ← List.append_assoc]
  by_cases hu : v = u
  · simp [hu, next]
  · simp [hu, next]

/-- And where its vehicle was last is where it says. -/
theorem last_next_some (u : VehicleId) : (x.next i d b (some (v, r))).last u
    = if v = u then some r.position else x.last u := by
  unfold last
  rw [positions_next_some]
  by_cases hu : v = u
  · simp [hu]
  · simp [hu]

/-- A step that lets nothing through adds no reading. -/
theorem readingsOf_next_none :
    (x.next i d b none).readingsOf = x.readingsOf := by
  unfold readingsOf next
  rw [Option.toList_none, List.append_nil]

/-- Nor does it add a position. -/
theorem positions_next_none : (x.next i d b none).positions = x.positions := by
  unfold positions
  rw [readingsOf_next_none]
  rfl

/-- Nor does it move any vehicle. -/
theorem last_next_none : (x.next i d b none).last = x.last := by
  unfold last
  rw [positions_next_none]

variable {i d}

/-- Whether a step makes the cache stale is decided by the errand that it
serves. -/
theorem stale_serve_iff (hd : x.errands[i]? = some d) :
    x.Stale (.serve i) ↔ ∃ found, d.request? = some (.replaceCache found) ∧
      ∃ v : VehicleId, found.find? v.val ≠ x.last v := by
  unfold Stale
  simp [hd]

/-- **One step leaves a current cache current** exactly if it does not replace
the entries by others. By what a step can do to the cache: it replaces the
entries, and then the two sides say the same; it leaves them, and nothing was
let through; or it lets a reading through and notes it, and then the entry of
its vehicle and the last of its readings change together. -/
theorem Valid.current_step_iff (hx : x.Valid) (hc : x.Current)
    (h : x.step? e = some y) :
    y.Current ↔ ¬ x.Stale e := by
  obtain ⟨v, r, rfl, -, rfl⟩ | ⟨rfl, rfl⟩
      | ⟨i, d, d', backend, a, rfl, hd, hstep, rfl⟩ :=
    step_cases hx.phase h
  · exact iff_of_true hc id
  · exact iff_of_true hc id
  · rw [stale_serve_iff hd]
    unfold Current at hc ⊢
    obtain ⟨asked, found, -, hfound, rfl, hcache⟩
      | ⟨hnot, ⟨rfl, hcache⟩ | ⟨v, r, rfl, -, rfl⟩⟩ := hstep.cache_cases
    · rw [last_next_none]
      show (∀ v, backend.cache.get? v = _) ↔ _
      rw [hcache]
      constructor
      · rintro hall ⟨found', hfound', v, hne⟩
        cases hfound.symm.trans hfound'
        exact hne (hall v)
      · intro hother v
        exact Classical.not_not.1 fun hne => hother ⟨found, hfound, v, hne⟩
    · rw [last_next_none]
      show (∀ v, backend.cache.get? v = _) ↔ _
      rw [hcache]
      exact iff_of_true hc fun ⟨found, hfound, _⟩ => hnot found hfound
    · refine iff_of_true (fun u => ?_) fun ⟨found, hfound, _⟩ =>
        hnot found hfound
      rw [last_next_some, ← hc u]
      exact Pipeline.get?_noted x.backend v r.position u

/-- An event that cannot happen makes nothing stale. An errand that waits for
an answer gets one, so one that is not served has no request. -/
theorem not_stale_of_step?_eq_none (h : x.step? e = none) : ¬ x.Stale e := by
  cases e with
  | arrive v r => exact id
  | reload => exact id
  | serve i =>
    rintro ⟨d, hd, found, hfound, -⟩
    -- What waits for an answer gets one.
    have hserve : (d.serve? x.backend).isSome := by
      cases d with
      | keeping v r program =>
        cases program with
        | ask r next => rfl
        | done _ | stop => cases hfound
      | reloading asked program =>
        cases program with
        | ask r next => rfl
        | done _ | stop => cases hfound
    obtain ⟨z, hz⟩ := Option.isSome_iff_exists.1 hserve
    have hd' : x.errands[i]? = some d := hd
    simp [step?, hd', hz] at h

/-- **A cache that is current lets no reading through that did not move.** The
reading was compared with the entry of its vehicle, and that is the last
position let through. No other step adds a position. -/
theorem Valid.apart_step (hx : x.Valid) (hc : x.Current) (ha : x.Apart)
    (h : x.step? e = some y) : y.Apart := by
  obtain ⟨v, r, rfl, -, rfl⟩ | ⟨rfl, rfl⟩
      | ⟨i, d, d', backend, a, rfl, hd, hstep, rfl⟩ :=
    step_cases hx.phase h
  · exact ha
  · exact ha
  · unfold Apart at ha ⊢
    cases hstep with
    | letThrough v r hv hholds =>
      intro u
      rw [positions_next_some]
      by_cases hu : v = u
      · subst hu
        rw [if_pos rfl, Position.apart_concat]
        refine ⟨ha v, fun p hp hwithin => hholds ?_⟩
        have hget : x.backend.cache.get? v = some p := (hc v).trans hp
        rw [PositionCache.holds, hget, hx.tolerance]
        exact hwithin
      · rw [if_neg hu, List.append_nil]
        exact ha u
    | _ =>
      rw [positions_next_none]
      exact ha

/-- **A run keeps the cache current at all times** exactly if no reload
replaces its entries by others. By induction on the events. If a step leaves a
cache that is not current then both sides fail, the left one at the state that
the step leads to; otherwise the rest of the run begins current. -/
theorem Valid.current_states_iff (hx : x.Valid) (hc : x.Current) :
    (∀ y ∈ x.states events, y.Current) ↔ ∀ m ∈ x.moves events,
      ¬ m.1.Stale m.2 := by
  induction events generalizing x with
  | nil =>
    exact iff_of_true (List.forall_mem_singleton.2 hc) (List.forall_mem_nil _)
  | cons e events ih =>
    unfold states moves
    rw [List.forall_mem_cons, List.forall_mem_cons]
    cases h : x.step? e with
    | none =>
      refine iff_of_true ⟨hc, List.forall_mem_nil _⟩ ⟨?_, List.forall_mem_nil _⟩
      exact not_stale_of_step?_eq_none h
    | some y =>
      rw [Option.elim_some, Option.elim_some]
      have hstep := hx.current_step_iff hc h
      by_cases hy : y.Current
      · have hrest := ih (hx.step h) hy
        exact and_congr (iff_of_true hc (hstep.1 hy)) hrest
      · -- The state after this step is one of the run.
        have hmem := y.mem_states_self events
        exact iff_of_false (fun hall => hy (hall.2 y hmem))
          (fun hall => hy (hstep.2 hall.1))

/-- A run with a cache that is current lets no reading through that did not
move. -/
theorem Valid.apart_states (hx : x.Valid) (ha : x.Apart)
    (hc : ∀ y ∈ x.states events, y.Current) :
    ∀ y ∈ x.states events, y.Apart := by
  induction events generalizing x with
  | nil => exact List.forall_mem_singleton.2 ha
  | cons e events ih =>
    unfold states at hc ⊢
    rw [List.forall_mem_cons] at hc ⊢
    refine ⟨ha, ?_⟩
    cases h : x.step? e with
    | none => exact List.forall_mem_nil _
    | some y =>
      rw [h] at hc
      exact ih (hx.step h) (hx.apart_step hc.1 ha h) hc.2

/-- At the start the cache is current, since nothing was let through. -/
theorem current_start (b : Backend) : (start b).Current := by
  intro v
  unfold last positions readingsOf start
  cases b.cache.get? v <;> simp

/-- At the start there is at most one position of each vehicle. -/
theorem apart_start (b : Backend) : (start b).Apart := by
  intro v
  unfold positions readingsOf start
  cases b.cache.get? v <;> simp [Position.Apart]

end Traffic

end Telematics
