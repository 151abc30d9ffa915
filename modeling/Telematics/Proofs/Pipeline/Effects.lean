import Telematics.Proofs.Pipeline.Delivery
import Telematics.Proofs.Store.Points

/-!
# What a reading leaves behind

Six checks stand between a reading and the sinks, and every one of them may
end the matter. What is then left behind depends on how far the reading came:
a vehicle may have been entered for it before it turns out that the vehicle
is rejected, or that the reading says nothing new, or that a collaborator
fails. Twice on the way a row is entered, a vehicle and then a point, and each
time the matter may end because no numbers are left.

What is asked for in the course of a run is part of what it does
(`Program.asked`). With it, all that a reading can come to is a short list
(`Pipeline.Course`), from which follows what each outcome says of the sinks,
the cache and the vehicles (`Pipeline.Effects`): until a reading has passed
all checks no sink hears of it, the cache is told of it at the last moment
and for one vehicle only, and the vehicles are never other than a resolution
by itself would leave them.

The argument has three parts. A delivery asks the sinks one after the other
and ends with the first that fails (`Task.deliver_cases`); up to the cache a
reading comes as far as `Pipeline.Reaches` says, each of its cases named for
the check that ends the matter there; and `Pipeline.course` puts the two
together. No statement behind it looks at the program again: each promise is
read off the few courses that can lead to its outcome
(`Pipeline.Course.of_saved` and the three after it). That a reading has an
outcome is promised as well, unless one of the two tables is out of numbers.
-/

namespace Telematics

variable {α β ε δ : Type} {P : Request → Prop} {faults : Faults} {b : Backend}

/-! ## What is asked for -/

namespace Program

/-- **What a program asks for** in the course of a run, in order. -/
def asked (faults : Faults) : Program α → Backend → List Request
  | done _, _ => []
  | ask r next, b => r :: match b.answer faults r with
    | (some x, c) => (next x).asked faults c
    | (none, _) => []
  | stop, _ => []

/-- A run of two programs asks for what the first asks for and, if that has a
value, for what the second does. -/
theorem asked_bind (t : Program α) (f : α → Program β) (b : Backend) :
    (t >>= f).asked faults b = t.asked faults b ++ match t.run faults b with
      | (some a, c) => (f a).asked faults c
      | (none, _) => [] := by
  show (t.bind f).asked faults b = _
  induction t generalizing b with
  | done a => rfl
  | ask r next ih =>
    simp only [bind, asked, run, List.cons_append]
    rcases b.answer faults r with ⟨_ | x, c⟩
    · rfl
    · exact congrArg (r :: ·) (ih x c)
  | stop => rfl

/-- A run asks for nothing that the program may not come to ask for. -/
theorem Asks.of_mem_asked {t : Program α} (ht : t.Asks P) :
    ∀ r ∈ t.asked faults b, P r := by
  induction t generalizing b with
  | done a => exact List.forall_mem_nil _
  | ask r next ih =>
    unfold asked
    refine List.forall_mem_cons.2 ⟨ht.1, ?_⟩
    rcases b.answer faults r with ⟨_ | x, c⟩
    · exact List.forall_mem_nil _
    · exact ih x (ht.2 x)
  | stop => exact List.forall_mem_nil _

end Program

namespace Task

/-- What a task asks for. -/
def asked (faults : Faults) (t : Task ε α) (b : Backend) : List Request :=
  Program.asked faults (ExceptT.run t) b

/-- **A run of two tasks** asks for what the first asks for and, unless it
fails or is brought down, for what the second does. -/
theorem asked_bind (t : Task ε α) (f : α → Task ε β) (b : Backend) :
    (t >>= f).asked faults b = t.asked faults b ++ match t.runIn faults b with
      | (some (.ok a), c) => (f a).asked faults c
      | _ => [] := by
  refine (Program.asked_bind (ExceptT.run t) (ExceptT.bindCont f) b).trans ?_
  unfold runIn asked
  rcases Program.run faults (ExceptT.run t) b with ⟨_ | _ | a, c⟩ <;> rfl

theorem asked_request (r : Request) (b : Backend) :
    (request r).asked faults b = [r] := by
  show Program.asked faults (.ask r .done) b = [r]
  unfold Program.asked
  rcases b.answer faults r with ⟨_ | x, c⟩ <;> rfl

theorem asked_mapError (f : ε → δ) (t : Task ε α) (b : Backend) :
    (t.mapError f).asked faults b = t.asked faults b := by
  refine (Program.asked_bind (ExceptT.run t) _ b).trans ?_
  rcases Program.run faults (ExceptT.run t) b with
    ⟨_ | x, c⟩ <;> exact List.append_nil _

end Task

/-! ## Delivery -/

/-- What is held once sinks have taken a reading. -/
def Backend.delivered (b : Backend) (r : Reading) (v : VehicleId)
    (sinks : List Sink) : Backend :=
  sinks.foldl (fun b sink => (b.perform (.save sink r v)).2) b

/-- A sink takes the reading, unless it is a store without a number for it. -/
theorem Backend.perform_save_cases (b : Backend) (sink : Sink) (r : Reading)
    (v : VehicleId) :
    (b.perform (.save sink r v)).1 = some (.ok ())
      ∨ sink = .store ∧ maxRowNumber ≤ b.store.lastPoint
        ∧ b.perform (.save sink r v) = (none, b) := by
  cases sink with
  | log => exact .inl rfl
  | store =>
    simp only [perform]
    cases hs : b.store.save r v with
    | none => exact .inr ⟨trivial, Store.save_eq_none_iff.1 hs, rfl⟩
    | some s => exact .inl rfl

/-- What sinks take is no matter of the vehicles, nor of the cache. -/
theorem Backend.delivered_frame (b : Backend) (r : Reading) (v : VehicleId)
    (sinks : List Sink) :
    (b.delivered r v sinks).store.vehicles = b.store.vehicles
      ∧ (b.delivered r v sinks).store.lastVehicle = b.store.lastVehicle
      ∧ (b.delivered r v sinks).cache = b.cache := by
  induction sinks generalizing b with
  | nil => exact ⟨rfl, rfl, rfl⟩
  | cons sink sinks ih =>
    obtain ⟨hvehicles, hlast, hcache⟩ := ih (b.perform (.save sink r v)).2
    have hperform : (b.perform (.save sink r v)).2.store.vehicles
      = b.store.vehicles
        ∧ (b.perform (.save sink r v)).2.store.lastVehicle = b.store.lastVehicle
        ∧ (b.perform (.save sink r v)).2.cache = b.cache := by
      cases sink with
      | log => exact ⟨rfl, rfl, rfl⟩
      | store =>
        simp only [perform]
        cases hs : b.store.save r v with
        | none => exact ⟨rfl, rfl, rfl⟩
        | some s =>
          obtain ⟨-, rfl⟩ := Store.save_eq_some_iff.1 hs
          exact ⟨rfl, rfl, rfl⟩
    exact ⟨hvehicles.trans hperform.1, hlast.trans hperform.2.1,
      hcache.trans hperform.2.2⟩

/-- A delivery did not get past one of the sinks: those in front have taken the
reading, and the ones behind were not asked. -/
structure Task.Breaks (faults : Faults) (r : Reading) (v : VehicleId)
    (b : Backend) (sinks front : List Sink) (sink : Sink) (back : List Sink)
    (x : Option (Except StoreError Unit)) : Prop where
  sinks_eq : sinks = front ++ sink :: back
  run : (deliver r v sinks).runIn faults b = (x, b.delivered r v front)
  asked : (deliver r v sinks).asked faults b
    = (front ++ [sink]).map (.save · r v)

/-- **What a delivery comes to**: each sink is asked once and has taken the
reading; or the first that fails is the last that is asked, and so is a store
that has no number for the reading. -/
theorem Task.deliver_cases (faults : Faults) (r : Reading) (v : VehicleId)
    (b : Backend) (sinks : List Sink) :
    ((deliver r v sinks).runIn faults b = (some (.ok ()), b.delivered r v sinks)
      ∧ (deliver r v sinks).asked faults b = sinks.map (.save · r v))
    ∨ (∃ front sink back e,
      Breaks faults r v b sinks front sink back (some (.error e))
      ∧ faults (.save sink r v) = some e)
    ∨ ∃ front back, Breaks faults r v b sinks front .store back none
      ∧ maxRowNumber ≤ (b.delivered r v front).store.lastPoint := by
  induction sinks generalizing b with
  | nil => exact .inl ⟨rfl, rfl⟩
  | cons sink sinks ih =>
    have hrun : (deliver r v (sink :: sinks)).runIn faults b = _ :=
      runIn_bind ..
    have hasked : (deliver r v (sink :: sinks)).asked faults b = _ :=
      asked_bind ..
    rw [runIn_request] at hrun hasked
    rw [asked_request] at hasked
    rcases b.answer_cases faults (.save sink r v) with
      ⟨e, he, hanswer⟩ | hanswer
    · rw [hanswer] at hrun hasked
      exact .inr (.inl ⟨[], sink, sinks, e, ⟨rfl, hrun, hasked⟩, he⟩)
    rw [hanswer] at hrun hasked
    rcases b.perform_save_cases sink r v with htaken | ⟨rfl, hfull, hnone⟩
    · have hperform : b.perform (.save sink r v)
          = (some (.ok ()), (b.perform (.save sink r v)).2) :=
        Prod.ext htaken rfl
      rw [hperform] at hrun hasked
      rcases ih (b.perform (.save sink r v)).2 with
        h | ⟨front, last, back, e, h, he⟩ | ⟨front, back, h, hfull⟩
      · exact .inl ⟨hrun.trans h.1, hasked.trans (congrArg _ h.2)⟩
      · refine .inr (.inl ⟨sink :: front, last, back, e, ⟨?_, ?_, ?_⟩, he⟩)
        · exact congrArg (sink :: ·) h.sinks_eq
        · exact hrun.trans h.run
        · exact hasked.trans (congrArg _ h.asked)
      · refine .inr (.inr ⟨sink :: front, back, ⟨?_, ?_, ?_⟩, hfull⟩)
        · exact congrArg (sink :: ·) h.sinks_eq
        · exact hrun.trans h.run
        · exact hasked.trans (congrArg _ h.asked)
    · rw [hnone] at hrun hasked
      exact .inr (.inr ⟨[], sinks, ⟨rfl, hrun, hasked⟩, hfull⟩)

namespace Pipeline

variable {p : Pipeline} {c : Call} {held last : Backend} {v : VehicleId}

/-! ## The stages of a reading -/

/-- A coordinate or the object number is zero. -/
def NotCredible (r : Reading) : Prop :=
  (r.latitude == 0.0) = true ∨ (r.longitude == 0.0) = true ∨ r.oid = 0

/-- The program's test for a reading that cannot be true. -/
theorem credible_eq_false_iff {r : Reading} :
    credible r = false ↔ NotCredible r := by
  unfold credible NotCredible
  simp only [Bool.not_eq_false', Bool.or_eq_true, decide_eq_true_eq, or_assoc]

/-- The reading and its month are such that it is looked for a vehicle. -/
structure Eligible (p : Pipeline) (c : Call) : Prop where
  credible : ¬ NotCredible c.job.reading
  inWindow : p.window.contains c.month = true

/-- What the resolution of a reading comes to by itself, under a provider. -/
def resolved (b : Backend) (c : Call) (provider : Provider) :
    Option (Except ResolveError Resolution) × Backend :=
  (Resolver.resolve c.job.reading.oid provider.id).runIn c.faults b

/-- **How far a reading comes before the cache**, and what is held then. -/
inductive Reaches (p : Pipeline) (b : Backend) (c : Call) :
    Option (Except Error (Except SkipReason VehicleId)) → Backend → Prop where
  | incredible (h : NotCredible c.job.reading) :
    Reaches p b c (some (.ok (.error .notCredible))) b
  | outside (h : ¬ NotCredible c.job.reading)
    (hmonth : p.window.contains c.month = false) :
    Reaches p b c (some (.ok (.error .outsideWindow))) b
  /-- The providers are not to be had. -/
  | unlisted {e : StoreError} (h : p.Eligible c)
    (hfault : c.faults .listProviders = some e) :
    Reaches p b c (some (.error (.store e))) b
  /-- None of them has the address. -/
  | unknown (h : p.Eligible c)
    (hprovider : Provider.forAddress b.store.providers c.job.peer = none) :
    Reaches p b c (some (.error (.resolve (.unknownProvider c.job.peer)))) b
  /-- There is no number for the placeholder that is to be entered. -/
  | unnumbered {provider : Provider} {held : Backend} (h : p.Eligible c)
    (hprovider : Provider.forAddress b.store.providers c.job.peer
      = some provider)
    (hresolved : resolved b c provider = (none, held)) : Reaches p b c none held
  | unresolved {provider : Provider} {held : Backend} {e : ResolveError}
    (h : p.Eligible c)
    (hprovider : Provider.forAddress b.store.providers c.job.peer
      = some provider)
    (hresolved : resolved b c provider = (some (.error e), held)) :
    Reaches p b c (some (.error (.resolve e))) held
  /-- The vehicle is not to be looked at. -/
  | unseen {provider : Provider} {held : Backend} {resolution : Resolution}
    {e : StoreError}
    (h : p.Eligible c)
    (hprovider : Provider.forAddress b.store.providers c.job.peer
      = some provider)
    (hresolved : resolved b c provider = (some (.ok resolution), held))
    (hfault : c.faults (.findVehicle resolution.vehicle) = some e) :
    Reaches p b c (some (.error (.store e))) held
  | rejected {provider : Provider} {held : Backend} {resolution : Resolution}
    {x : Vehicle}
    (h : p.Eligible c)
    (hprovider : Provider.forAddress b.store.providers c.job.peer
      = some provider)
    (hresolved : resolved b c provider = (some (.ok resolution), held))
    (hfind : held.store.findVehicle resolution.vehicle = some x)
    (hmoderation : x.moderation = .rejected) :
    Reaches p b c (some (.ok (.error .vehicleRejected))) held
  | assigned {provider : Provider} {held : Backend} {resolution : Resolution}
    (h : p.Eligible c)
    (hprovider : Provider.forAddress b.store.providers c.job.peer
      = some provider)
    (hresolved : resolved b c provider = (some (.ok resolution), held))
    (hmoderation : ∀ x, held.store.findVehicle resolution.vehicle = some x →
      x.moderation ≠ .rejected) :
    Reaches p b c (some (.ok (.ok resolution.vehicle))) held

/-- The provider of an address is found, or nothing has happened. -/
theorem findProvider_cases (peer : Address) (faults : Faults) (b : Backend) :
    (∃ e, faults .listProviders = some e
      ∧ (findProvider peer).runIn faults b = (some (.error (.store e)), b))
    ∨ (Provider.forAddress b.store.providers peer = none
      ∧ (findProvider peer).runIn faults b
        = (some (.error (.resolve (.unknownProvider peer))), b))
    ∨ ∃ provider, Provider.forAddress b.store.providers peer = some provider
      ∧ (findProvider peer).runIn faults b = (some (.ok provider), b) := by
  unfold findProvider request
  rw [Task.runIn_bind, Task.runIn_mapError, Task.runIn_request]
  rcases b.answer_cases faults .listProviders with ⟨e, he, h⟩ | h
  · rw [h]
    exact .inl ⟨e, he, rfl⟩
  · rw [h, Backend.perform]
    dsimp only [Option.map_some, Except.mapError]
    cases hprovider : Provider.forAddress b.store.providers peer with
    | none => exact .inr (.inl ⟨rfl, rfl⟩)
    | some provider => exact .inr (.inr ⟨provider, rfl, rfl⟩)

/-- A vehicle is looked at, and the reading goes to it unless it is
rejected. -/
theorem moderation_cases (v : VehicleId) (faults : Faults) (b : Backend) :
    let t : Task Error (Except SkipReason VehicleId) := do
      let vehicle ← request (.findVehicle v)
      if vehicle.elim Moderation.pending (·.moderation) = .rejected then
        pure (.error .vehicleRejected)
      else pure (.ok v)
    (∃ e, faults (.findVehicle v) = some e
      ∧ t.runIn faults b = (some (.error (.store e)), b))
    ∨ (∃ x, b.store.findVehicle v = some x ∧ x.moderation = .rejected
      ∧ t.runIn faults b = (some (.ok (.error .vehicleRejected)), b))
    ∨ (∀ x, b.store.findVehicle v = some x → x.moderation ≠ .rejected)
      ∧ t.runIn faults b = (some (.ok (.ok v)), b) := by
  intro t
  have hrun : t.runIn faults b = _ := Task.runIn_bind ..
  unfold request at hrun
  rw [hrun, Task.runIn_mapError, Task.runIn_request]
  rcases b.answer_cases faults (.findVehicle v) with ⟨e, he, h⟩ | h
  · rw [h]
    exact .inl ⟨e, he, rfl⟩
  rw [h, Backend.perform]
  dsimp only [Option.map_some, Except.mapError]
  cases b.store.findVehicle v with
  | none =>
    exact .inr (.inr ⟨fun x hx => absurd hx.symm (Option.some_ne_none x), rfl⟩)
  | some x =>
    by_cases hx : x.moderation = .rejected
    · exact .inr (.inl ⟨x, rfl, hx, by rw [Option.elim_some, if_pos hx]; rfl⟩)
    · refine .inr (.inr ⟨fun y hy => Option.some.inj hy ▸ hx, ?_⟩)
      rw [Option.elim_some, if_neg hx]
      rfl

/-- **How far a reading comes.** Every check is made in its turn, and the
first that fails ends the matter. -/
theorem reaches_assigned (p : Pipeline) (b : Backend) (c : Call) :
    p.Reaches b c ((p.assigned c.job c.month).runIn c.faults b).1
      ((p.assigned c.job c.month).runIn c.faults b).2 := by
  unfold assigned
  by_cases hcredible : NotCredible c.job.reading
  · rw [if_pos (by rw [credible_eq_false_iff.2 hcredible]; rfl)]
    exact .incredible hcredible
  rw [if_neg (by simpa using mt credible_eq_false_iff.1 hcredible)]
  cases hmonth : p.window.contains c.month with
  | false => exact .outside hcredible hmonth
  | true =>
    have h : p.Eligible c := ⟨hcredible, hmonth⟩
    rw [if_neg nofun, Task.runIn_bind]
    rcases findProvider_cases c.job.peer c.faults b with
      ⟨e, he, hfind⟩ | ⟨hnone, hfind⟩ | ⟨provider, hprovider, hfind⟩
    · rw [hfind]
      exact .unlisted h he
    · rw [hfind]
      exact .unknown h hnone
    · rw [hfind]
      dsimp only
      rw [Task.runIn_bind, Task.runIn_mapError]
      cases hresolved : (Resolver.resolve c.job.reading.oid provider.id).runIn
        c.faults b with
      | mk result held =>
        rcases result with _ | e | resolution
        · exact .unnumbered h hprovider hresolved
        · exact .unresolved h hprovider hresolved
        · dsimp only [Option.map_some, Except.mapError]
          rcases moderation_cases resolution.vehicle c.faults held with
            ⟨e, he, ht⟩ | ⟨x, hx, hrejected, ht⟩ | ⟨hmoderation, ht⟩
          · rw [ht]
            exact .unseen h hprovider hresolved he
          · rw [ht]
            exact .rejected h hprovider hresolved hx hrejected
          · rw [ht]
            exact .assigned h hprovider hresolved hmoderation

/-- **The reading passes every check** and is for this vehicle: it is one
that may be kept, its provider is known, the resolution by itself comes to
the vehicle, which is not rejected then, and the cache does not have it near
that place. -/
structure Passes (p : Pipeline) (b : Backend) (c : Call) (v : VehicleId) :
    Prop where
  eligible : p.Eligible c
  resolution : ∃ provider resolution held,
    Provider.forAddress b.store.providers c.job.peer = some provider
      ∧ resolved b c provider = (some (.ok resolution), held)
      ∧ resolution.vehicle = v
      ∧ ∀ x, held.store.findVehicle v = some x → x.moderation ≠ .rejected
  moved : ∀ last, b.cache.get? v = some last →
    last.within b.cache.tolerance c.job.reading.position = false

/-- **What is held before the cache is looked at** is what was held before,
or what the resolution by itself leaves. -/
theorem Reaches.held_eq
    {x : Option (Except Error (Except SkipReason VehicleId))}
    (h : p.Reaches b c x held) : held = b ∨ ∃ provider,
      Provider.forAddress b.store.providers c.job.peer = some provider
        ∧ held = (resolved b c provider).2 := by
  cases h with
  | incredible | outside | unlisted | unknown => exact .inl rfl
  | unnumbered h hprovider hresolved | unresolved h hprovider hresolved
  | unseen h hprovider hresolved | rejected h hprovider hresolved
    | assigned h hprovider hresolved =>
    exact .inr ⟨_, hprovider, (congrArg Prod.snd hresolved).symm⟩

/-- The cache has not been told of the reading so far. -/
theorem Reaches.cache {x : Option (Except Error (Except SkipReason VehicleId))}
    (h : p.Reaches b c x held) : held.cache = b.cache := by
  rcases h.held_eq with rfl | ⟨provider, -, rfl⟩
  · rfl
  · have hasks := Resolver.asks_resolve c.job.reading.oid provider.id
    exact (hasks.mono fun _ h => h.1).cache_run b

/-- A reading that is assigned passes, if the cache has nothing against
it. -/
theorem Reaches.passes (h : p.Reaches b c (some (.ok (.ok v))) held)
    (hmoved : ¬ b.cache.holds v c.job.reading.position = true) :
    p.Passes b c v := by
  cases h with
  | assigned h hprovider hrun hmoderation =>
    refine ⟨h, ⟨_, _, _, hprovider, hrun, rfl, hmoderation⟩,
      fun last hlast => ?_⟩
    rw [PositionCache.holds, hlast] at hmoved
    exact Bool.not_eq_true _ ▸ hmoved

/-! ## The whole of a reading -/

/-- What is asked for on account of a reading. -/
def asked (p : Pipeline) (b : Backend) (c : Call) : List Request :=
  (p.process c.job c.month).asked c.faults b

/-- What is asked of the sinks on account of a reading. -/
def saves (p : Pipeline) (b : Backend) (c : Call) : List Request :=
  (p.asked b c).filter Request.isSave

/-- **All that a reading can come to**: its outcome, what was asked of the
sinks, and what is held afterwards. -/
inductive Course (p : Pipeline) (b : Backend) (c : Call) :
    Option (Except Error SaveOutcome) → List Request → Backend → Prop where
  | dropped {reason : SkipReason} {held : Backend}
    (h : p.Reaches b c (some (.ok (.error reason))) held) :
    Course p b c (some (.ok (.skipped reason))) [] held
  | failed {e : Error} {held : Backend}
    (h : p.Reaches b c (some (.error e)) held) :
    Course p b c (some (.error e)) [] held
  /-- There was no number for a vehicle. -/
  | unnumbered {held : Backend} (h : p.Reaches b c none held) :
    Course p b c none [] held
  | still {v : VehicleId} {held : Backend}
    (h : p.Reaches b c (some (.ok (.ok v))) held)
    (hholds : b.cache.holds v c.job.reading.position = true) :
    Course p b c (some (.ok (.skipped .notMoved))) [] held
  | saved {v : VehicleId} {held : Backend}
    (h : p.Reaches b c (some (.ok (.ok v))) held)
    (hmoved : ¬ b.cache.holds v c.job.reading.position = true) :
    Course p b c (some (.ok (.saved v))) (p.sinks.map (.save · c.job.reading v))
      ((noted held v c.job.reading.position).delivered c.job.reading v p.sinks)
  | lost {v : VehicleId} {held : Backend} {front back : List Sink} {sink : Sink}
    {e : StoreError}
    (h : p.Reaches b c (some (.ok (.ok v))) held)
    (hmoved : ¬ b.cache.holds v c.job.reading.position = true)
    (hsinks : p.sinks = front ++ sink :: back)
    (hfault : c.faults (.save sink c.job.reading v) = some e) :
    Course p b c (some (.error (.store e)))
      ((front ++ [sink]).map (.save · c.job.reading v))
      ((noted held v c.job.reading.position).delivered c.job.reading v front)
  /-- There was no number for the point. -/
  | unstored {v : VehicleId} {held : Backend} {front back : List Sink}
    (h : p.Reaches b c (some (.ok (.ok v))) held)
    (hmoved : ¬ b.cache.holds v c.job.reading.position = true)
    (hsinks : p.sinks = front ++ .store :: back)
    (hfull : maxRowNumber
      ≤ ((noted held v c.job.reading.position).delivered c.job.reading v
        front).store.lastPoint) :
    Course p b c none ((front ++ [Sink.store]).map (.save · c.job.reading v))
      ((noted held v c.job.reading.position).delivered c.job.reading v front)

/-- A reading that the cache holds is held against it and goes no further: no
sink hears of it. -/
theorem asked_keep_of_holds {r : Reading}
    (h : b.cache.holds v r.position = true) :
    (p.keep r v).asked faults b = [.checkCache v r.position] := by
  unfold keep request
  rw [Task.asked_bind, Task.asked_mapError, Task.runIn_mapError,
    Task.runIn_request, Task.asked_request, Backend.answer_of_not_leaves rfl,
    Backend.perform, PositionCache.check, if_pos h]
  rfl

/-- Of any other reading the sinks hear, once the cache was told of it. -/
theorem asked_keep_of_not_holds {r : Reading}
    (h : ¬ b.cache.holds v r.position = true) :
    (p.keep r v).asked faults b = .checkCache v r.position
      :: (Task.deliver r v p.sinks).asked faults (noted b v r.position) := by
  unfold keep request
  rw [Task.asked_bind, Task.asked_mapError, Task.runIn_mapError,
    Task.runIn_request, Task.asked_request, Backend.answer_of_not_leaves rfl,
    Backend.perform, PositionCache.check, if_neg h]
  dsimp only [Option.map_some, Except.mapError]
  rw [if_pos rfl, Task.asked_bind, Task.asked_mapError, Task.runIn_mapError]
  generalize Task.runIn faults (Task.deliver r v p.sinks) _ = x
  rcases x with ⟨_ | e | u, c⟩ <;> exact congrArg _ (List.append_nil _)

theorem filter_isSave_map (r : Reading) (v : VehicleId) (sinks : List Sink) :
    (sinks.map (Request.save · r v)).filter Request.isSave
      = sinks.map (.save · r v) :=
  List.filter_eq_self.2 (List.forall_mem_map.2 fun _ _ => rfl)

/-- **A reading takes one of these courses**, whatever fails. It comes as far
as the cache or not; there it is let through or not; and then the sinks take
it, or one of them fails, or the store has no number for it. -/
theorem course (p : Pipeline) (b : Backend) (c : Call) :
    p.Course b c (p.outcome b c) (p.saves b c) (p.after b c) := by
  have hreaches := p.reaches_assigned b c
  have hsaves : ((p.assigned c.job c.month).asked c.faults b).filter
      Request.isSave = [] := by
    refine List.filter_eq_nil_iff.2 fun r hr => ?_
    rw [((p.asks_assigned c.job c.month).of_mem_asked r hr).2]
    exact Bool.false_ne_true
  unfold outcome saves asked after
  rw [process_eq, Task.runIn_bind, Task.asked_bind, List.filter_append, hsaves,
    List.nil_append]
  generalize (p.assigned c.job c.month).runIn c.faults b = x at hreaches
  rcases x with ⟨_ | e | reason | v, held⟩
  · exact .unnumbered hreaches
  · exact .failed hreaches
  · exact .dropped hreaches
  · have hcache := hreaches.cache
    dsimp only
    by_cases hholds : b.cache.holds v c.job.reading.position = true
    · have hheld : held.cache.holds v c.job.reading.position = true := by
        rwa [hcache]
      rw [runIn_keep_of_holds hheld, asked_keep_of_holds hheld]
      exact .still hreaches hholds
    · have hheld : ¬ held.cache.holds v c.job.reading.position = true := by
        rwa [hcache]
      rw [runIn_keep_of_not_holds hheld, asked_keep_of_not_holds hheld]
      rcases Task.deliver_cases c.faults c.job.reading v
        (noted held v c.job.reading.position)
        p.sinks with ⟨hrun, hasked⟩ | ⟨front, sink, back, e, hbreak, hfault⟩
        | ⟨front, back, hbreak, hfull⟩
      · rw [hrun, hasked, List.filter_cons_of_neg Bool.false_ne_true,
          filter_isSave_map]
        exact .saved hreaches hholds
      · rw [hbreak.run, hbreak.asked,
          List.filter_cons_of_neg Bool.false_ne_true, filter_isSave_map]
        exact .lost hreaches hholds hbreak.sinks_eq hfault
      · rw [hbreak.run, hbreak.asked,
          List.filter_cons_of_neg Bool.false_ne_true, filter_isSave_map]
        exact .unstored hreaches hholds hbreak.sinks_eq hfull

/-- **What an outcome says** of what was asked for and of what is held
afterwards, whatever was held before and whatever fails. -/
structure Effects (p : Pipeline) (b : Backend) (c : Call) : Prop where
  /-- A reading that cannot be true is dropped, and nobody is asked for
  anything. -/
  incredible : NotCredible c.job.reading →
    p.outcome b c = some (.ok (.skipped .notCredible)) ∧ p.asked b c = []
      ∧ p.after b c = b
  /-- So is any other outside the window. -/
  outside : ¬ NotCredible c.job.reading → p.window.contains c.month = false →
    p.outcome b c = some (.ok (.skipped .outsideWindow)) ∧ p.asked b c = []
      ∧ p.after b c = b
  /-- A reading that is saved has passed every check; each sink was asked to
  take it once, and nothing else was delivered; and the cache was told of it,
  for its vehicle only. -/
  saved : ∀ v, p.outcome b c = some (.ok (.saved v)) → p.Passes b c v
    ∧ p.saves b c = p.sinks.map (.save · c.job.reading v)
    ∧ ∀ w, (p.after b c).cache.get? w
      = if v = w then some c.job.reading.position else b.cache.get? w
  /-- A reading that is skipped came before no sink, and the cache does not
  know of it. -/
  skipped : ∀ reason, p.outcome b c = some (.ok (.skipped reason)) →
    p.saves b c = [] ∧ (p.after b c).cache = b.cache
  /-- So it is with a failure, unless it is that of a sink. -/
  failed : ∀ e, p.outcome b c = some (.error e) →
    (p.saves b c = [] ∧ (p.after b c).cache = b.cache)
    ∨ ∃ v front sink back fault, p.Passes b c v
      ∧ p.sinks = front ++ sink :: back
      ∧ c.faults (.save sink c.job.reading v) = some fault ∧ e = .store fault
      ∧ p.saves b c = (front ++ [sink]).map (.save · c.job.reading v)
      ∧ ∀ w, (p.after b c).cache.get? w
        = if v = w then some c.job.reading.position else b.cache.get? w
  /-- A reading without an outcome came before no sink either, and its
  resolution by itself has none; or it has passed every check, and a store that
  has no number left was the last sink that was asked. -/
  stopped : p.outcome b c = none →
    (p.saves b c = [] ∧ (p.after b c).cache = b.cache ∧ ∃ provider,
      Provider.forAddress b.store.providers c.job.peer = some provider
        ∧ (resolved b c provider).1 = none)
    ∨ ∃ v front back, p.Passes b c v ∧ p.sinks = front ++ .store :: back
      ∧ maxRowNumber ≤ (p.after b c).store.lastPoint
      ∧ p.saves b c = (front ++ [Sink.store]).map (.save · c.job.reading v)
      ∧ ∀ w, (p.after b c).cache.get? w
        = if v = w then some c.job.reading.position else b.cache.get? w
  /-- The vehicles are as they were, or as the resolution by itself would
  leave them. -/
  vehicles : ∃ held, (held = b ∨ ∃ provider,
      Provider.forAddress b.store.providers c.job.peer = some provider
        ∧ held = (resolved b c provider).2)
    ∧ (p.after b c).store.vehicles = held.store.vehicles
    ∧ (p.after b c).store.lastVehicle = held.store.lastVehicle

/-- A reading that cannot be true is dropped before anyone is asked. -/
theorem process_of_notCredible {job : Job} (h : NotCredible job.reading)
    (month : Nat) : p.process job month = pure (.skipped .notCredible) :=
  if_pos (by rw [credible_eq_false_iff.2 h]; rfl)

/-- So is one from outside the window. -/
theorem process_of_outside {job : Job} {month : Nat}
    (h : ¬ NotCredible job.reading) (hmonth : p.window.contains month = false) :
    p.process job month = pure (.skipped .outsideWindow) := by
  rw [process, if_neg (by simpa using mt credible_eq_false_iff.1 h), hmonth]
  rfl

namespace Course

variable {rs : List Request}

/-- **A reading that was saved** passed every check, each sink was asked once,
and the cache has it for its vehicle. -/
theorem of_saved (h : p.Course b c (some (.ok (.saved v))) rs last) :
    p.Passes b c v ∧ rs = p.sinks.map (.save · c.job.reading v)
      ∧ ∀ w, last.cache.get? w
      = if v = w then some c.job.reading.position else b.cache.get? w := by
  cases h with
  | saved h hmoved =>
    refine ⟨h.passes hmoved, rfl, fun w => ?_⟩
    rw [(Backend.delivered_frame _ _ _ _).2.2, get?_noted, h.cache]

/-- **A reading that was skipped** came before no sink, and the cache was not
told of it. A vehicle may have been entered for it all the same. -/
theorem of_skipped {reason : SkipReason}
    (h : p.Course b c (some (.ok (.skipped reason))) rs last) :
    rs = [] ∧ last.cache = b.cache := by
  cases h with
  | dropped h => exact ⟨rfl, h.cache⟩
  | still h => exact ⟨rfl, h.cache⟩

/-- **A reading that failed** did so before the cache was told of it, and then
no sink was asked; or a sink failed, the last of those that were asked. -/
theorem of_error {e : Error} (h : p.Course b c (some (.error e)) rs last) :
    (rs = [] ∧ last.cache = b.cache) ∨ ∃ v front sink back fault, p.Passes b c v
      ∧ p.sinks = front ++ sink :: back
      ∧ c.faults (.save sink c.job.reading v) = some fault
      ∧ e = .store fault ∧ rs = (front ++ [sink]).map (.save · c.job.reading v)
      ∧ ∀ w, last.cache.get? w
        = if v = w then some c.job.reading.position else b.cache.get? w := by
  cases h with
  | failed h => exact .inl ⟨rfl, h.cache⟩
  | lost h hmoved hsinks hfault =>
    refine .inr ⟨_, _, _, _, _, h.passes hmoved, hsinks, hfault, rfl, rfl,
      fun w => ?_⟩
    rw [(Backend.delivered_frame _ _ _ _).2.2, get?_noted, h.cache]

/-- **A reading without an outcome** came before no sink, and its resolution
by itself has none; or the store had no number for its point, and was the last
sink that was asked. -/
theorem of_none (h : p.Course b c none rs last) :
    (rs = [] ∧ last.cache = b.cache ∧ ∃ provider,
      Provider.forAddress b.store.providers c.job.peer = some provider
        ∧ (resolved b c provider).1 = none)
    ∨ ∃ v front back, p.Passes b c v ∧ p.sinks = front ++ .store :: back
      ∧ maxRowNumber ≤ last.store.lastPoint
      ∧ rs = (front ++ [Sink.store]).map (.save · c.job.reading v)
      ∧ ∀ w, last.cache.get? w
        = if v = w then some c.job.reading.position else b.cache.get? w := by
  cases h with
  | unnumbered h =>
    refine .inl ⟨rfl, h.cache, ?_⟩
    cases h with
    | unnumbered h hprovider hresolved =>
      exact ⟨_, hprovider, congrArg Prod.fst hresolved⟩
  | unstored h hmoved hsinks hfull =>
    refine .inr ⟨_, _, _, h.passes hmoved, hsinks, hfull, rfl, fun w => ?_⟩
    rw [(Backend.delivered_frame _ _ _ _).2.2, get?_noted, h.cache]

/-- The vehicles are what they were before the cache was looked at. -/
theorem store {x : Option (Except Error SaveOutcome)}
    (h : p.Course b c x rs last) :
    ∃ y held, p.Reaches b c y held ∧ last.store.vehicles = held.store.vehicles
      ∧ last.store.lastVehicle = held.store.lastVehicle := by
  have hdelivered := fun held v sinks =>
    (noted held v c.job.reading.position).delivered_frame c.job.reading v sinks
  cases h with
  | dropped h | failed h | unnumbered h | still h => exact ⟨_, _, h, rfl, rfl⟩
  | saved h | lost h | unstored h =>
    exact ⟨_, _, h, (hdelivered _ _ _).1, (hdelivered _ _ _).2.1⟩

end Course

/-- **Every outcome says what it should.** Nothing is assumed: neither of the
store, nor of the cache, nor of what fails. -/
theorem effects (p : Pipeline) (b : Backend) (c : Call) : p.Effects b c where
  incredible h := by
    unfold outcome asked after
    rw [process_of_notCredible h]
    exact ⟨rfl, rfl, rfl⟩
  outside h hmonth := by
    unfold outcome asked after
    rw [process_of_outside h hmonth]
    exact ⟨rfl, rfl, rfl⟩
  saved _ hv := Course.of_saved (hv ▸ p.course b c)
  skipped _ hreason := Course.of_skipped (hreason ▸ p.course b c)
  failed _ he := Course.of_error (he ▸ p.course b c)
  stopped hnone := Course.of_none (hnone ▸ p.course b c)
  vehicles := by
    obtain ⟨x, held, hreaches, hvehicles, hlast⟩ := (p.course b c).store
    refine ⟨held, hreaches.held_eq, hvehicles, hlast⟩

end Pipeline

end Telematics
