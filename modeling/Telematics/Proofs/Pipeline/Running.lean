import Telematics.Pipeline.Process

/-!
# Running programs

To run one program after another is to run the first, and the second on what
the first has left (`Program.run_bind`); a task that fails, or is brought
down, skips what would have followed it (`Task.runIn_bind`). With the two, the
run of a composed task comes apart along its text.

What a program leaves alone can be read off the requests that it may come to
make (`Program.Asks`), however they are answered. A program that turns to its
collaborators only leaves the cache as it was, whether it comes to an end,
fails or is brought down on the way (`Program.Asks.cache_run`). The one thing
that can bring a program down is that a row is to be entered for which there
is no number (`Backend.perform_of_none`).

Programs are trees of requests, so a statement about all programs is proved by
induction on the tree, with the continuation in the hypothesis for every
answer (`Program.Asks.preserves` is the pattern). The laws of programs as a
monad are among them, and the text of a composed task can be rearranged by
these. What fails is a parameter of every run, and nothing is assumed about
it.
-/

namespace Telematics

variable {α β ε δ : Type} {P : Request → Prop} {faults : Faults} {b : Backend}
  {r : Request}

namespace Backend

/-- **What a collaborator is asked for leaves the cache as it was.** The cache
is not a collaborator, and is told of readings by requests of its own. -/
theorem cache_perform (h : r.leaves = true) :
    (b.perform r).2.cache = b.cache := by
  cases r with
  | updateOid id oid =>
    simp only [perform]
    cases b.store.updateOid id oid <;> rfl
  | deletePoint id =>
    simp only [perform]
    cases b.store.deletePoint id <;> rfl
  | insertVehicle v =>
    simp only [perform]
    cases b.store.insertVehicle v <;> rfl
  | save sink r vehicle =>
    cases sink with
    | store =>
      simp only [perform]
      cases b.store.save r vehicle <;> rfl
    | log => rfl
  | checkCache vehicle p => cases h
  | replaceCache entries => cases h
  | _ => rfl

/-- **An answer** is a failure that changes nothing, or what the request comes
to. Requests that go to no collaborator do not fail. -/
theorem answer_cases (faults : Faults) (b : Backend) (r : Request) :
    (∃ e, faults r = some e ∧ b.answer faults r = (some (.error e), b))
      ∨ b.answer faults r = b.perform r := by
  unfold answer
  cases h : r.leaves with
  | false => exact .inr rfl
  | true =>
    cases he : faults r with
    | none => exact .inr rfl
    | some e => exact .inl ⟨e, rfl, rfl⟩

theorem answer_of_none (h : faults r = none) :
    b.answer faults r = b.perform r := by
  rcases answer_cases faults b r with ⟨e, he, -⟩ | hr
  · cases h.symm.trans he
  · exact hr

/-- One that goes to a collaborator and fails is answered with that. -/
theorem answer_of_some {e : StoreError} (hr : r.leaves = true)
    (h : faults r = some e) :
    b.answer faults r = (some (.error e), b) := by
  rw [answer, if_pos hr, h]

/-- One that goes to no collaborator cannot fail. -/
theorem answer_of_not_leaves (h : r.leaves = false) :
    b.answer faults r = b.perform r := by
  rw [answer, h]
  rfl

/-- **A request that is not answered changes nothing.** It is one for a row, and
the numbers of its table are used up. -/
theorem perform_of_none (h : (b.perform r).1 = none) : b.perform r = (none, b)
    ∧ r.enters = true
    ∧ (maxRowNumber ≤ b.store.lastVehicle
      ∨ maxRowNumber ≤ b.store.lastPoint) := by
  cases henters : r.enters with
  | false =>
    exact absurd h (Option.isSome_iff_ne_none.1 (b.isSome_perform henters))
  | true =>
    cases r with
    | insertVehicle v =>
      simp only [perform, Store.insertVehicle] at h ⊢
      cases hn : nextRowNumber? b.store.lastVehicle with
      | none => exact ⟨rfl, trivial, .inl (nextRowNumber?_eq_none_iff.1 hn)⟩
      | some n =>
        rw [hn] at h
        cases h
    | save sink r v =>
      cases sink with
      | log => cases henters
      | store =>
        simp only [perform, Store.save, Store.insertPoint] at h ⊢
        cases hn : nextRowNumber? b.store.lastPoint with
        | none => exact ⟨rfl, trivial, .inr (nextRowNumber?_eq_none_iff.1 hn)⟩
        | some n =>
          rw [hn] at h
          cases h
    | _ => cases henters

end Backend

/-! ## Programs -/

namespace Program

theorem bind_done (t : Program α) : t.bind done = t := by
  induction t with
  | done a => rfl
  | ask r next ih => exact congrArg (ask r) (funext ih)
  | stop => rfl

theorem bind_bind {γ : Type} (t : Program α) (f : α → Program β)
    (g : β → Program γ) :
    (t.bind f).bind g = t.bind fun a => (f a).bind g := by
  induction t with
  | done a => rfl
  | ask r next ih => exact congrArg (ask r) (funext ih)
  | stop => rfl

instance : LawfulMonad Program :=
  LawfulMonad.mk' Program (fun t => bind_done t) (fun _ _ => rfl) bind_bind

/-- **A run of two programs that comes to its end**, step by step. A first
program that is brought down would have no result to go on with. -/
theorem run_bind_eq_some_iff {t : Program α} {f : α → Program β} {y : β}
    {d : Backend} :
    (t >>= f).run faults b = (some y, d)
      ↔ ∃ a c, t.run faults b = (some a, c)
        ∧ (f a).run faults c = (some y, d) := by
  rw [run_bind]
  rcases t.run faults b with ⟨_ | a, c⟩
  · simp
  · simp [and_assoc]

/-- A run that begins with a request goes on with its answer. -/
theorem run_ask (r : Request) (next : Except StoreError r.Result → Program α)
    (b : Backend) :
    (ask r next).run faults b
      = (resume next (b.answer faults r).1).run faults
        (b.answer faults r).2 := by
  rw [run]
  rcases b.answer faults r with ⟨_ | x, c⟩ <;> rfl

/-- **A run goes on** with the failure of its first request, or with what the
request comes to. A program may go on after a failure, and thinning does. -/
theorem run_ask_cases (faults : Faults) (b : Backend) (r : Request)
    (next : Except StoreError r.Result → Program α) :
    (∃ e, faults r = some e
      ∧ (ask r next).run faults b = (next (.error e)).run faults b)
      ∨ (ask r next).run faults b
        = (resume next (b.perform r).1).run faults (b.perform r).2 := by
  rw [run_ask]
  rcases b.answer_cases faults r with ⟨e, he, h⟩ | h
  · exact .inl ⟨e, he, by rw [h]; rfl⟩
  · exact .inr (by rw [h])

/-- Every request that the program may come to make is one of these. -/
def Asks (P : Request → Prop) : Program α → Prop
  | done _ => True
  | ask r next => P r ∧ ∀ x, (next x).Asks P
  | stop => True

/-- However a request is answered, what follows asks for nothing else. -/
theorem Asks.resume {next : Except StoreError r.Result → Program α}
    (h : ∀ x, (next x).Asks P) : ∀ x, (Program.resume next x).Asks P
  | some x => h x
  | none => trivial

theorem Asks.bind {t : Program α} {f : α → Program β} (ht : t.Asks P)
    (hf : ∀ a, (f a).Asks P) :
    (t >>= f).Asks P := by
  show (t.bind f).Asks P
  induction t with
  | done a => exact hf a
  | ask r next ih => exact ⟨ht.1, fun x => ih x (ht.2 x)⟩
  | stop => trivial

theorem Asks.mono {Q : Request → Prop} (h : ∀ r, P r → Q r) {t : Program α}
    (ht : t.Asks P) :
    t.Asks Q := by
  induction t with
  | done a => trivial
  | ask r next ih => exact ⟨h r ht.1, fun x => ih x (ht.2 x)⟩
  | stop => trivial

/-- **What all requests of a program preserve, a run of it preserves**,
whether they are answered, fail or bring it down. By induction on the program.
A request that fails leaves what was held, so it preserves everything. -/
theorem Asks.preserves {I : Backend → Prop}
    (hI : ∀ r c, P r → I c → I (c.perform r).2) {t : Program α} (ht : t.Asks P)
    (hb : I b) : I (t.run faults b).2 := by
  induction t generalizing b with
  | done a => exact hb
  | ask r next ih =>
    rcases run_ask_cases faults b r next with ⟨e, -, h⟩ | h
    · rw [h]
      exact ih _ (ht.2 _) hb
    · have hc : I (b.perform r).2 := hI r b ht.1 hb
      rw [h]
      cases (b.perform r).1 with
      | none => exact hc
      | some x => exact ih x (ht.2 x) hc
  | stop => exact hb

/-- **A program that turns to its collaborators only** leaves the cache as it
was. What fails in the course of it makes no difference. -/
theorem Asks.cache_run {t : Program α} (ht : t.Asks (Request.leaves · = true))
    (b : Backend) :
    (t.run faults b).2.cache = b.cache :=
  ht.preserves (I := fun c => c.cache = b.cache)
    (fun _ _ hr hc => (Backend.cache_perform hr).trans hc) rfl

end Program

/-! ## Tasks -/

namespace Task

/-- **A run of two tasks** is a run of the first and, unless it fails or is
brought down, of the second. So the run of a composed task can be followed
step by step, as its text goes. -/
theorem runIn_bind (t : Task ε α) (f : α → Task ε β) (b : Backend) :
    (t >>= f).runIn faults b = match t.runIn faults b with
      | (some (.ok a), c) => (f a).runIn faults c
      | (some (.error e), c) => (some (.error e), c)
      | (none, c) => (none, c) := by
  refine (Program.run_bind (ExceptT.run t) (ExceptT.bindCont f) b).trans ?_
  unfold runIn
  rcases Program.run faults (ExceptT.run t) b with ⟨_ | _ | a, c⟩ <;> rfl

theorem runIn_request (r : Request) (b : Backend) :
    (request r).runIn faults b = b.answer faults r :=
  Program.run_request r b

/-- A program that cannot fail is run as it is. -/
theorem runIn_lift (t : Program α) (b : Backend) :
    Task.runIn (ε := ε) faults (ExceptT.lift t) b
      = ((t.run faults b).1.map .ok, (t.run faults b).2) := by
  refine (Program.run_bind t (fun a => Pure.pure (Except.ok a)) b).trans ?_
  rcases t.run faults b with ⟨_ | a, c⟩ <;> rfl

/-- A failure under another name is the failure of the same run. -/
theorem runIn_mapError (f : ε → δ) (t : Task ε α) (b : Backend) :
    (t.mapError f).runIn faults b
      = ((t.runIn faults b).1.map (·.mapError f), (t.runIn faults b).2) := by
  refine (Program.run_bind (ExceptT.run t) _ b).trans ?_
  unfold runIn
  rcases Program.run faults (ExceptT.run t) b with ⟨_ | x, c⟩ <;> rfl

/-- Every request that the task may come to make is one of these. -/
def Asks (P : Request → Prop) (t : Task ε α) : Prop :=
  Program.Asks P (ExceptT.run t)

theorem Asks.pure (a : α) : Asks P (Pure.pure a : Task ε α) := trivial

theorem Asks.throw (e : ε) : Asks P (MonadExcept.throw e : Task ε α) := trivial

theorem Asks.request (h : P r) : Asks P (Task.request r) :=
  ⟨h, fun _ => trivial⟩

theorem Asks.mapError {t : Task ε α} (f : ε → δ) (h : t.Asks P) :
    (t.mapError f).Asks P :=
  Program.Asks.bind h fun _ => trivial

theorem Asks.bind {t : Task ε α} {f : α → Task ε β} (h : t.Asks P)
    (hf : ∀ a, (f a).Asks P) :
    (t >>= f).Asks P :=
  Program.Asks.bind h fun
    | .ok a => hf a
    | .error _ => trivial

theorem Asks.ite {c : Prop} [Decidable c] {t u : Task ε α} (ht : t.Asks P)
    (hu : u.Asks P) :
    Asks P (if c then t else u) := by
  split
  · exact ht
  · exact hu

end Task

/-! ## The stages of a reading -/

namespace Request

/-- A reading is delivered to a sink. -/
def isSave : Request → Bool
  | save _ _ _ => true
  | _ => false

/-- The request goes to a collaborator, and delivers nothing. -/
def Inquires (r : Request) : Prop := r.leaves = true ∧ r.isSave = false

end Request

namespace Resolver

/-- What is left of a resolution after its search delivers nothing. -/
theorem asks_settle (oid : UInt32) (provider : ProviderId) (vs : List Vehicle) :
    (settle oid provider vs).Asks Request.Inquires := by
  unfold settle request
  split
  · exact .bind (.mapError _ (.request ⟨rfl, rfl⟩)) fun _ => .pure _
  · exact .ite (.bind (.mapError _ (.request ⟨rfl, rfl⟩)) fun _ => .pure _)
      (.pure _)
  · exact .throw _

/-- **A resolution delivers nothing** and leaves the cache as it was. How the
store answers it plays no part. -/
theorem asks_resolve (oid : UInt32) (provider : ProviderId) :
    (resolve oid provider).Asks Request.Inquires := by
  unfold resolve request
  refine .bind (.mapError _ (.request ⟨rfl, rfl⟩)) fun vs => ?_
  split
  · exact .pure _
  · exact .throw _
  · exact .bind (.mapError _ (.request ⟨rfl, rfl⟩)) fun _ => asks_settle _ _ _

end Resolver

namespace Task

/-- A delivery turns to collaborators only. -/
theorem asks_deliver (r : Reading) (v : VehicleId) (sinks : List Sink) :
    (deliver r v sinks).Asks (Request.leaves · = true) := by
  induction sinks with
  | nil => exact .pure _
  | cons sink sinks ih => exact .bind (.request rfl) fun _ => ih

end Task

namespace Pipeline

/-- To find the provider of an address delivers nothing and leaves the cache
as it was. -/
theorem asks_findProvider (peer : Address) :
    (findProvider peer).Asks Request.Inquires := by
  unfold findProvider request
  refine .bind (.mapError _ (.request ⟨rfl, rfl⟩)) fun providers => ?_
  split
  · exact .pure _
  · exact .throw _

end Pipeline

end Telematics
