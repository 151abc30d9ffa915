import Telematics.Pipeline.Cache
import Telematics.Store.Memory

/-!
# Requests and programs

What the receiver does with its store and its cache is written as a program
of requests. One request is one step: whoever answers it does so at once,
and between two requests of one program anyone else may be served. The same
program can then be run alone, run with a collaborator that fails, or
interleaved with others, and it is the text of the program that is reasoned
about each time.

A request can also bring down the program that makes it. It is then neither
answered nor refused: nothing changes, and no part of the program comes after
it. This happens to a program that enters a row when there are no numbers left.

A reading goes to one or several sinks in order. The store is one; the other
is a log to which readings are appended, as a file or a recorder.
-/

namespace Telematics

/-- Where readings are delivered. -/
inductive Sink where
  | store
  | log
  deriving DecidableEq, Repr

/-- What a program asks for. -/
inductive Request where
  | listProviders
  | findVehicle (id : VehicleId)
  | vehiclesByOid (oid : UInt32) (provider : ProviderId)
  | vehiclesByProvider (provider : ProviderId)
  | listVehicles
  | insertVehicle (v : NewVehicle)
  | updateOid (id : VehicleId) (oid : UInt32)
  | lastPosition (vehicle : VehicleId)
  | listTracks (vehicle : Option VehicleId) (start stop : Instant)
  | deletePoint (id : PointId)
  | save (sink : Sink) (r : Reading) (vehicle : VehicleId)
  /-- Looks a position up in the cache and notes it. -/
  | checkCache (vehicle : VehicleId) (p : Position)
  /-- Gives the cache other contents. -/
  | replaceCache (entries : Table Position)

namespace Request

/-- What a request yields if nothing fails. -/
@[reducible] def Result : Request → Type
  | listProviders => List Provider
  | findVehicle _ => Option Vehicle
  | vehiclesByOid _ _ => List Vehicle
  | vehiclesByProvider _ => List Vehicle
  | listVehicles => List Vehicle
  | insertVehicle _ => VehicleId
  | updateOid _ _ => Unit
  | lastPosition _ => Option Position
  | listTracks _ _ _ => List Track
  | deletePoint _ => Unit
  | save _ _ _ => Unit
  | checkCache _ _ => Bool
  | replaceCache _ => Unit

/-- The request goes to a collaborator, which may fail. The cache is the
receiver's own and does not. -/
def leaves : Request → Bool
  | checkCache _ _ | replaceCache _ => false
  | _ => true

end Request

/-- A program: a value, or a request and what is done with the answer. -/
inductive Program (α : Type) where
  | done (a : α)
  | ask (r : Request) (next : Except StoreError r.Result → Program α)
  /-- What remains of a program that was brought down by its request. -/
  | stop

namespace Program

/-- One program after another. -/
def bind : Program α → (α → Program β) → Program β
  | done a, f => f a
  | ask r next, f => ask r fun x => (next x).bind f
  | stop, _ => stop

instance : Monad Program where
  pure := done
  bind := bind

/-- A request by itself. -/
def request (r : Request) : Program (Except StoreError r.Result) := ask r done

end Program

/-- A program that may fail. -/
abbrev Task (ε α : Type) := ExceptT ε Program α

namespace Task

/-- A request whose failure is the program's. -/
def request (r : Request) : Task StoreError r.Result :=
  ExceptT.mk (Program.request r)

/-- The task with its failures named otherwise. -/
def mapError (f : ε → δ) (t : Task ε α) : Task δ α := ExceptT.adapt f t

/-- Delivers a reading to sinks in order, up to the first that fails. -/
def deliver (r : Reading) (vehicle : VehicleId) :
    List Sink → Task StoreError Unit
  | [] => pure ()
  | sink :: rest => do
    let () ← request (.save sink r vehicle)
    deliver r vehicle rest

end Task

/-! ## Answering -/

/-- What the collaborators hold. -/
structure Backend where
  store : Store
  cache : PositionCache
  /-- The readings in the log, in order. -/
  log : List (VehicleId × Reading)

/-- Which requests fail, and how. -/
abbrev Faults := Request → Option StoreError

/-- No request fails. -/
def Faults.none : Faults := fun _ => Option.none

namespace Backend

/-- What a request yields, and what is held afterwards. A request that yields
nothing at all brings its program down and leaves everything as it was. -/
def perform (b : Backend) :
    (r : Request) → Option (Except StoreError r.Result) × Backend
  | .listProviders => (some (.ok b.store.providers), b)
  | .findVehicle id => (some (.ok (b.store.findVehicle id)), b)
  | .vehiclesByOid oid provider =>
    (some (.ok (b.store.vehiclesByOid oid provider)), b)
  | .vehiclesByProvider provider =>
    (some (.ok (b.store.vehiclesByProvider provider)), b)
  | .listVehicles => (some (.ok b.store.vehicles.values), b)
  | .insertVehicle v =>
    match b.store.insertVehicle v with
    | some (id, store) => (some (.ok id), { b with store })
    | none => (none, b)
  | .updateOid id oid =>
    match b.store.updateOid id oid with
    | .ok store => (some (.ok ()), { b with store })
    | .error e => (some (.error e), b)
  | .lastPosition vehicle => (some (.ok (b.store.lastPosition vehicle)), b)
  | .listTracks vehicle start stop =>
    (some (.ok (b.store.tracks vehicle start stop)), b)
  | .deletePoint id =>
    match b.store.deletePoint id with
    | .ok store => (some (.ok ()), { b with store })
    | .error e => (some (.error e), b)
  | .save .store r vehicle =>
    match b.store.save r vehicle with
    | some store => (some (.ok ()), { b with store })
    | none => (none, b)
  | .save .log r vehicle =>
    (some (.ok ()), { b with log := b.log ++ [(vehicle, r)] })
  | .checkCache vehicle p =>
    let (moved, cache) := b.cache.check vehicle p
    (some (.ok moved), { b with cache })
  | .replaceCache entries =>
    (some (.ok ()), { b with cache := b.cache.replace entries })

/-- The answer to a request; one that fails changes nothing. -/
def answer (faults : Faults) (b : Backend) (r : Request) :
    Option (Except StoreError r.Result) × Backend :=
  match if r.leaves then faults r else none with
  | some e => (some (.error e), b)
  | none => b.perform r

end Backend

namespace Program

/-- What remains of a program, given what its request yields. -/
def resume {r : Request} (next : Except StoreError r.Result → Program α) :
    Option (Except StoreError r.Result) → Program α
  | some x => next x
  | none => stop

/-- **A program run alone**: its value, unless it is brought down, and what is
held afterwards. -/
def run (faults : Faults) : Program α → Backend → Option α × Backend
  | done a, b => (some a, b)
  | ask r next, b =>
    match b.answer faults r with
    | (some x, b) => (next x).run faults b
    | (none, b) => (none, b)
  | stop, b => (none, b)

end Program

/-- A task run alone. -/
def Task.runIn (faults : Faults) (t : Task ε α) (b : Backend) :
    Option (Except ε α) × Backend :=
  Program.run faults (ExceptT.run t) b

/-! ## Coming to an end -/

section

variable {faults : Faults} {b : Backend} {r : Request}

namespace Program

/-- **A run of two programs** is a run of the first and, if that has a value, of
the second. -/
theorem run_bind (t : Program α) (f : α → Program β) (b : Backend) :
    (t >>= f).run faults b = match t.run faults b with
      | (some a, c) => (f a).run faults c
      | (none, c) => (none, c) := by
  show (t.bind f).run faults b = _
  induction t generalizing b with
  | done a => rfl
  | ask r next ih =>
    simp only [bind, run]
    rcases b.answer faults r with ⟨_ | x, c⟩
    · rfl
    · exact ih x c
  | stop => rfl

/-- The program has a value, whatever is held and whichever requests fail. -/
def Completes (t : Program α) : Prop := ∀ faults b, (t.run faults b).1.isSome

namespace Completes

theorem pure (a : α) : Completes (Pure.pure a) := fun _ _ => rfl

theorem bind {t : Program α} {f : α → Program β} (ht : t.Completes)
    (hf : ∀ a, (f a).Completes) : (t >>= f).Completes := by
  intro faults b
  have h := ht faults b
  rw [run_bind]
  rcases hrun : t.run faults b with ⟨_ | a, c⟩
  · rw [hrun] at h
    cases h
  · exact hf a faults c

end Completes

end Program

namespace Request

/-- The request enters a row, for which there may be no number. -/
def enters : Request → Bool
  | insertVehicle _ | save .store _ _ => true
  | _ => false

end Request

/-- **Only a request that enters a row** brings its program down. -/
theorem Backend.isSome_perform (b : Backend) (h : r.enters = false) :
    (b.perform r).1.isSome := by
  cases r with
  | insertVehicle v => cases h
  | updateOid id oid =>
    simp only [perform]
    cases b.store.updateOid id oid <;> rfl
  | deletePoint id =>
    simp only [perform]
    cases b.store.deletePoint id <;> rfl
  | save sink r vehicle =>
    cases sink with
    | store => cases h
    | log => rfl
  | _ => rfl

theorem Backend.isSome_answer (faults : Faults) (b : Backend)
    (h : r.enters = false) :
    (b.answer faults r).1.isSome := by
  unfold answer
  split
  · rfl
  · exact b.isSome_perform h

theorem Program.run_request (r : Request) (b : Backend) :
    (request r).run faults b = b.answer faults r := by
  simp only [request, run]
  rcases b.answer faults r with ⟨_ | x, c⟩ <;> rfl

theorem Program.Completes.request (h : r.enters = false) :
    (Program.request r).Completes := by
  intro faults b
  rw [run_request]
  exact b.isSome_answer faults h

namespace Task

/-- The task comes to its end, with a value or with a failure. -/
def Completes (t : Task ε α) : Prop := Program.Completes (ExceptT.run t)

namespace Completes

theorem request (h : r.enters = false) : (Task.request r).Completes :=
  Program.Completes.request h

theorem throw (e : ε) : Completes (MonadExcept.throw e : Task ε α) :=
  Program.Completes.pure _

theorem pure (a : α) : Completes (Pure.pure a : Task ε α) :=
  Program.Completes.pure _

theorem lift {t : Program α} (h : t.Completes) :
    Completes (ExceptT.lift t : Task ε α) :=
  Program.Completes.bind h fun _ => .pure _

theorem mapError {t : Task ε α} (f : ε → δ) (h : t.Completes) :
    (t.mapError f).Completes :=
  Program.Completes.bind h fun _ => .pure _

theorem bind {t : Task ε α} {f : α → Task ε β} (h : t.Completes)
    (hf : ∀ a, (f a).Completes) :
    (t >>= f).Completes :=
  Program.Completes.bind h fun
    | .ok a => hf a
    | .error _ => .pure _

end Completes

/-- What a task that comes to its end results in, and what is held
afterwards. -/
def result (t : Task ε α) (h : t.Completes) (faults : Faults) (b : Backend) :
    Except ε α × Backend :=
  let ended := t.runIn faults b
  (ended.1.get (h faults b), ended.2)

theorem runIn_eq_result (t : Task ε α) (h : t.Completes) (faults : Faults)
    (b : Backend) :
    t.runIn faults b
      = (some (t.result h faults b).1, (t.result h faults b).2) :=
  Prod.ext (Option.some_get _).symm rfl

theorem result_of_runIn {t : Task ε α} (h : t.Completes) {x : Except ε α}
    {c : Backend} (hrun : t.runIn faults b = (some x, c)) :
    t.result h faults b = (x, c) := by
  rw [runIn_eq_result t h] at hrun
  obtain ⟨hx, hc⟩ := Prod.mk.inj hrun
  exact Prod.ext (Option.some.inj hx) hc

end Task

end

end Telematics
