import Telematics.Pipeline.Resolver
import Telematics.Proofs.Store.Identity

/-!
# Resolutions side by side

Several workers resolve object numbers over one store at the same time. Each
request is one step, and the worker that is served next is anyone's choice:
a run is a list of events, one for a resolution that begins and one for a
request that is answered. Nothing limits how many resolutions are under way,
and a worker that resolves one number after another is a run in which its
resolutions begin one after another. A resolution that its request brings down
is served no more, and the others go on.

Only two requests change the vehicles of a store, and both file one vehicle.
Such a write is stale if, at that moment, a lookup for what is filed finds
another vehicle already: that, and nothing else, is how a run makes an
object number ambiguous.

The equivalence is first one about a single request
(`Request.unambiguous_perform_iff`), then about a step of a run, then about a
run (`Resolvers.unambiguous_states_iff`). It holds of all runs, those included
in which several resolutions of one number are under way. When no write is
stale is another question, and not one for this module.
-/

namespace Telematics

/-! ## What a request files -/

namespace Request

variable {b : Backend} {r : Request} {v : Vehicle}

/-- The vehicle that a request files, if it files one. -/
def files? (s : Store) : Request → Option Vehicle
  | insertVehicle v =>
    (nextRowNumber? s.lastVehicle).map fun n => v.toVehicle ⟨n⟩
  | updateOid id oid =>
    (s.findVehicle id).map fun v => { v with oid := some oid }
  | _ => none

/-- **A write that is stale**: a lookup for the object number of the vehicle
that is filed finds another one. -/
def Stale (s : Store) (r : Request) : Prop :=
  ∃ v ∈ r.files? s, ∃ oid ∈ v.oid, ∃ w ∈ s.vehiclesByOid oid v.provider,
    w.id ≠ v.id

/-- A request that files nothing leaves the vehicles as they were. -/
theorem perform_of_none (h : r.files? b.store = none) :
    (b.perform r).2.store.vehicles = b.store.vehicles := by
  cases r with
  | insertVehicle v =>
    have hnone : nextRowNumber? b.store.lastVehicle = none :=
      Option.map_eq_none_iff.1 h
    simp only [Backend.perform, Store.insertVehicle, hnone, Option.map_none]
  | updateOid id oid =>
    have hnone : b.store.vehicles.find? id.val = none :=
      Option.map_eq_none_iff.1 h
    simp only [Backend.perform, Store.updateOid, hnone]
  | deletePoint id =>
    simp only [Backend.perform, Store.deletePoint]
    cases b.store.points.find? id.val <;> rfl
  | save sink r vehicle =>
    cases sink with
    | store =>
      simp only [Backend.perform, Store.save, Store.insertPoint]
      cases nextRowNumber? b.store.lastPoint <;> rfl
    | log => rfl
  | _ => rfl

/-- **A request that files a vehicle** does so under the number of the
vehicle. A vehicle that is updated is found under its number, so it is filed
where it was. -/
theorem perform_of_some (hb : b.store.Numbered)
    (h : r.files? b.store = some v) :
    (b.perform r).2.store.vehicles = b.store.vehicles.insert v.id.val v := by
  cases r with
  | insertVehicle w =>
    obtain ⟨n, hn, rfl⟩ := Option.map_eq_some_iff.1 h
    simp only [Backend.perform, Store.insertVehicle, hn, Option.map_some]
    rfl
  | updateOid id oid =>
    obtain ⟨u, hu, rfl⟩ := Option.map_eq_some_iff.1 h
    have hfound : b.store.vehicles.find? id.val = some u := hu
    have hid : u.id.val = id.val :=
      hb id.val u (Table.find?_eq_some_iff.1 hfound)
    simp only [Backend.perform, Store.updateOid, hfound, hid]
  | _ => cases h

/-- Vehicles stay filed under their numbers, whatever is asked for. -/
theorem numbered_perform (hb : b.store.Numbered) :
    (b.perform r).2.store.Numbered := by
  cases h : r.files? b.store with
  | none =>
    unfold Store.Numbered
    rw [perform_of_none h]
    exact hb
  | some v => exact hb.insert (perform_of_some hb h) rfl

/-- **One request keeps a store unambiguous** exactly if it is no stale write.
Requests that file nothing are never stale and change no vehicle. -/
theorem unambiguous_perform_iff (hb : b.store.Numbered)
    (hu : b.store.Unambiguous) :
    (b.perform r).2.store.Unambiguous ↔ ¬ r.Stale b.store := by
  unfold Stale
  cases h : r.files? b.store with
  | none =>
    unfold Store.Unambiguous
    rw [perform_of_none h]
    exact iff_of_true hu (by simp)
  | some v =>
    rw [Store.unambiguous_insert_iff hu (perform_of_some hb h),
      Store.clash_iff hb]
    simp

end Request

/-! ## Runs -/

namespace Program

/-- What a program waits for, if it is not over. -/
def request? : Program α → Option Request
  | ask r _ => some r
  | done _ | stop => none

/-- The program after its request was answered or brought it down, and what is
held then. -/
def serve? (b : Backend) : Program α → Option (Program α × Backend)
  | ask r next => some (resume next (b.perform r).1, (b.perform r).2)
  | done _ | stop => none

end Program

/-- A resolution under way. -/
structure Resolving where
  oid : UInt32
  provider : ProviderId
  /-- What remains to be done. -/
  program : Program (Except ResolveError Resolution)

namespace Resolving

/-- A resolution that begins. -/
def begin (oid : UInt32) (provider : ProviderId) : Resolving :=
  ⟨oid, provider, ExceptT.run (Resolver.resolve oid provider)⟩

/-- The resolution has looked its object number up and has not come to its
end. -/
def pending (t : Resolving) : Bool :=
  match t.program.request? with
  | some (.vehiclesByOid _ _) | none => false
  | some _ => true

end Resolving

/-- What can happen next. -/
inductive ResolverEvent where
  | start (oid : UInt32) (provider : ProviderId)
  /-- A resolution has its request answered. -/
  | serve (task : Nat)
  deriving DecidableEq, Repr

/-- Resolutions under way over what is held. -/
structure Resolvers where
  backend : Backend
  tasks : List Resolving

namespace Resolvers

/-- **What is held and under way after an event**, if the event can
happen. -/
def step? (x : Resolvers) : ResolverEvent → Option Resolvers
  | .start oid provider =>
    some { x with tasks := x.tasks ++ [.begin oid provider] }
  | .serve i => do
    let t ← x.tasks[i]?
    let (program, backend) ← t.program.serve? x.backend
    pure ⟨backend, x.tasks.set i { t with program }⟩

/-- The states of a run, up to the first event that cannot happen. -/
def states (x : Resolvers) : List ResolverEvent → List Resolvers
  | [] => [x]
  | e :: events => x :: (x.step? e).elim [] (states · events)

/-- The events of a run, each with the state in which it comes. -/
def moves (x : Resolvers) :
    List ResolverEvent → List (Resolvers × ResolverEvent)
  | [] => []
  | e :: events => (x, e) :: (x.step? e).elim [] (moves · events)

/-- The event answers a stale write. -/
def Late (x : Resolvers) : ResolverEvent → Prop
  | .start _ _ => False
  | .serve i =>
    ∃ t ∈ x.tasks[i]?, ∃ r ∈ t.program.request?, r.Stale x.backend.store

/-- **No two resolutions of one object number under one provider are
pending.** -/
def Exclusive (x : Resolvers) : Prop :=
  x.tasks.Pairwise fun t u =>
    ¬ (t.pending ∧ u.pending ∧ t.oid = u.oid ∧ t.provider = u.provider)

instance : DecidablePred Exclusive :=
  fun x => inferInstanceAs (Decidable (x.tasks.Pairwise _))

variable {x y : Resolvers} {e : ResolverEvent} {events : List ResolverEvent}

/-- **What a step can be**: a resolution begins, or one has its request
answered and goes on, unless the request brings it down. -/
theorem step?_eq_some (h : x.step? e = some y) :
    (∃ oid provider, e = .start oid provider ∧
      y = { x with tasks := x.tasks ++ [.begin oid provider] }) ∨
    ∃ i t r next, e = .serve i ∧ x.tasks[i]? = some t
      ∧ t.program = .ask r next ∧
      y = ⟨(x.backend.perform r).2,
        x.tasks.set i { t with
          program := .resume next (x.backend.perform r).1 }⟩ := by
  cases e with
  | start oid provider =>
    exact .inl ⟨oid, provider, rfl, (Option.some.inj h).symm⟩
  | serve i =>
    obtain ⟨t, ht, h⟩ := Option.bind_eq_some_iff.1 h
    obtain ⟨⟨program, backend⟩, hserve, h⟩ := Option.bind_eq_some_iff.1 h
    cases hp : t.program with
    | done a =>
      rw [hp] at hserve
      cases hserve
    | stop =>
      rw [hp] at hserve
      cases hserve
    | ask r next =>
      rw [hp] at hserve
      cases hserve
      exact .inr ⟨i, t, r, next, rfl, ht, hp, (Option.some.inj h).symm⟩

theorem numbered_step (hx : x.backend.store.Numbered) (h : x.step? e = some y) :
    y.backend.store.Numbered := by
  obtain ⟨oid, provider, rfl, rfl⟩ | ⟨i, t, r, next, rfl, ht, hp, rfl⟩ :=
    step?_eq_some h
  · exact hx
  · exact Request.numbered_perform hx

/-- **One step keeps a store unambiguous** exactly if it answers no stale
write. A resolution that begins changes nothing. -/
theorem unambiguous_step_iff (hx : x.backend.store.Numbered)
    (hu : x.backend.store.Unambiguous) (h : x.step? e = some y) :
    y.backend.store.Unambiguous ↔ ¬ x.Late e := by
  obtain ⟨oid, provider, rfl, rfl⟩ | ⟨i, t, r, next, rfl, ht, hp, rfl⟩ :=
    step?_eq_some h
  · exact iff_of_true hu id
  · refine (Request.unambiguous_perform_iff hx hu).trans (not_congr ?_)
    unfold Late
    simp [ht, hp, Program.request?]

theorem not_late_of_step?_eq_none (h : x.step? e = none) : ¬ x.Late e := by
  cases e with
  | start oid provider => cases h
  | serve i =>
    rintro ⟨t, ht, r, hr, -⟩
    cases hp : t.program with
    | done a => simp [hp, Program.request?] at hr
    | stop => simp [hp, Program.request?] at hr
    | ask r next => simp_all [step?, Program.serve?]

/-- **A run keeps a store unambiguous at all times** exactly if it answers no
stale write. By induction on the events. Behind the first stale write the
store is ambiguous, so what comes later is of no matter to either side. -/
theorem unambiguous_states_iff (hx : x.backend.store.Numbered)
    (hu : x.backend.store.Unambiguous) :
    (∀ y ∈ x.states events, y.backend.store.Unambiguous)
      ↔ ∀ m ∈ x.moves events, ¬ m.1.Late m.2 := by
  induction events generalizing x with
  | nil => simpa [states, moves] using hu
  | cons e events ih =>
    unfold states moves
    rw [List.forall_mem_cons, List.forall_mem_cons]
    cases h : x.step? e with
    | none => exact iff_of_true ⟨hu, nofun⟩ ⟨not_late_of_step?_eq_none h, nofun⟩
    | some y =>
      have hstep := unambiguous_step_iff hx hu h
      by_cases hy : y.backend.store.Unambiguous
      · exact and_congr (iff_of_true hu (hstep.1 hy))
          (ih (numbered_step hx h) hy)
      · -- The state after this step is one of the run.
        refine iff_of_false (fun hall => hy (hall.2 y ?_))
          (fun hall => hy (hstep.2 hall.1))
        cases events <;> exact .head _

end Resolvers

end Telematics
