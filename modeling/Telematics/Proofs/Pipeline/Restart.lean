import Telematics.Proofs.Pipeline.Effects
import Telematics.Proofs.Pipeline.Reloading
import Telematics.Proofs.Pipeline.Succession
import Telematics.Proofs.Pipeline.Thinning

/-!
# The cache after a restart

The position of a vehicle is known in two ways. The cache has been told of it,
reading by reading; and a reload, as it is made after a restart, looks for the
last point of every vehicle of the store. Processing and thinning keep the two
the same. A reading that is saved is noted in the cache, and its point is the
last one of its vehicle if the reading was not sent before the others. A
vehicle that is entered on the way has no entry in the cache, so its first
reading is saved and the reload finds it. Thinning leaves the last points, and
nothing else changes points.

This is so in every state that a run comes to. A run may end before its time:
a reading is brought down if there is no number for the vehicle or the point
that is to be entered for it. The store has then failed the reading, and
nothing comes after it in the run, a reload no more than another reading.
Numbers are used up one at a time, so a run that is short enough for what is
left of them comes to its end (`Chore.length_states`).

A reading is followed in two parts. Up to the cache it changes no point and
enters no vehicle but the one that it is assigned to (`Pipeline.Assigns`), and
there the cache need not be settled: a vehicle that was just entered may have
points, left under its number by rows that were filled in, of which the cache
has not been told. Behind the cache the reading becomes a point, and that
settles the cache for its vehicle whatever it had (`Pipeline.settled_stored`).
The run takes one such step after the other (`Chore.settled_of_after?`), and
`Chore.settled_at_all_times` says the whole.
-/

namespace Telematics

/-! ## Before the cache -/

namespace Pipeline

/-- What becomes of a reading once its number was resolved. -/
def judged (s : Store) :
    Except ResolveError Resolution → Except Error (Except SkipReason VehicleId)
  | .error e => .error (.resolve e)
  | .ok r =>
    if (s.findVehicle r.vehicle).elim Moderation.pending (·.moderation)
      = .rejected then
      .ok (.error .vehicleRejected)
    else .ok (.ok r.vehicle)

/-- **What comes before the cache** changes no point and enters no vehicle
but the one that it assigns the reading to. It comes to a result unless the
numbers of vehicles are used up. -/
structure Assigns (b held : Backend)
    (x : Option (Except Error (Except SkipReason VehicleId))) : Prop where
  cache : held.cache = b.cache
  numbered : held.store.Numbered
  points : held.store.points = b.store.points
  lastPoint : held.store.lastPoint = b.store.lastPoint
  lastVehicle : held.store.lastVehicle ≤ b.store.lastVehicle + 1
  listed : ∀ v, (b.store.findVehicle v).isSome →
    (held.store.findVehicle v).isSome
  newcomer : ∀ v, (held.store.findVehicle v).isSome →
    (b.store.findVehicle v).isSome ∨ x = some (.ok (.ok v))
  assignee : ∀ v, x = some (.ok (.ok v)) → (held.store.findVehicle v).isSome
  full : x = none → maxRowNumber ≤ b.store.lastVehicle

variable {b held : Backend}
  {x : Option (Except Error (Except SkipReason VehicleId))}
  {oid : UInt32} {provider : ProviderId} {a : Except ResolveError Resolution}
  {s s' : Store}

/-- A reading is assigned only to the vehicle that its number was resolved
to. -/
theorem eq_of_judged {v : VehicleId} (h : judged s' a = .ok (.ok v)) :
    ∃ r, a = .ok r ∧ r.vehicle = v := by
  cases a with
  | error e => cases h
  | ok r =>
    simp only [judged] at h
    split at h
    · cases h
    · exact ⟨r, rfl, Except.ok.inj (Except.ok.inj h)⟩

/-- Nothing has happened, and the reading has no vehicle. -/
theorem Assigns.same (hb : b.store.Numbered) (hx : ∀ v, x ≠ some (.ok (.ok v)))
    (hfull : x = none → maxRowNumber ≤ b.store.lastVehicle) :
    Assigns b b x where
  cache := rfl
  numbered := hb
  points := rfl
  lastPoint := rfl
  lastVehicle := by omega
  listed := fun _ h => h
  newcomer := fun _ h => .inl h
  assignee := fun v h => absurd h (hx v)
  full := hfull

/-- **A resolution that comes to an end**, with what becomes of the reading
then. A vehicle that was not there before is the placeholder, and that is not
rejected. -/
theorem Assigns.of_settles (hb : b.store.Numbered)
    (h : Resolver.Settles b.store oid provider a s') :
    Assigns b { b with store := s' } (some (judged s' a)) where
  cache := rfl
  numbered := h.numbered hb
  points := h.points.1
  lastPoint := h.points.2
  lastVehicle := h.lastVehicle_le
  listed := fun _ => h.isSome_findVehicle hb
  newcomer := fun v hv => by
    obtain ⟨u, hu⟩ := Option.isSome_iff_exists.1 hv
    cases hold : b.store.findVehicle v with
    | some w => exact .inl rfl
    | none =>
      obtain ⟨rfl, hpending⟩ := h.created_of_findVehicle hb hold hu
      refine .inr (congrArg some (if_neg ?_))
      rw [Resolution.vehicle, show s'.findVehicle v = some u from hu,
        Option.elim_some, hpending]
      nofun
  assignee := fun v hv => by
    obtain ⟨r, rfl, rfl⟩ := eq_of_judged (Option.some.inj hv)
    obtain ⟨w, hw, hid⟩ := h.vehiclesByOid hb
    have hrow := (Store.mem_vehiclesByOid.1 (hw ▸ List.mem_singleton_self w)).1
    rw [← hid, (h.numbered hb).findVehicle hrow]
    rfl
  full := nofun

/-- So it is with a resolution as it is run, which may be brought down. -/
theorem assigns_of_resolved (hb : b.store.Numbered) {c : Call}
    (hc : c.faults = .none) {provider : Provider}
    {result : Option (Except ResolveError Resolution)}
    (h : resolved b c provider = (result, held)) :
    Assigns b held (result.map (judged held.store)) := by
  have hends : Resolver.Ends .none c.job.reading.oid provider.id b
      (result, held) := by
    rw [← h, resolved, hc]
    exact Resolver.ends_resolve hb .none
  obtain ⟨r, e, he, -⟩ | ⟨hout, heq⟩ | ⟨a, s', hs', heq⟩ := hends
  · cases he
  · obtain ⟨rfl, rfl⟩ := Prod.mk.inj heq
    exact .same hb nofun fun _ => hout.full
  · obtain ⟨rfl, rfl⟩ := Prod.mk.inj heq
    exact .of_settles hb hs'

/-- **What comes before the cache**, while nothing fails. Nearly all of its
ends leave everything as it was; what is left is the resolution. -/
theorem assigns_of_reaches (hb : b.store.Numbered) {p : Pipeline} {c : Call}
    (hc : c.faults = .none) (h : p.Reaches b c x held) : Assigns b held x := by
  cases h with
  | incredible | outside | unknown => exact .same hb nofun nofun
  | unlisted _ hfault | unseen _ _ _ hfault =>
    rw [hc] at hfault
    cases hfault
  | unnumbered _ _ hresolved | unresolved _ _ hresolved =>
    exact assigns_of_resolved hb hc hresolved
  | rejected _ _ hresolved hfind hmoderation =>
    have hassigns := assigns_of_resolved hb hc hresolved
    rwa [Option.map_some, judged, if_pos (by rw [hfind]; exact hmoderation)]
      at hassigns
  | @assigned _ _ resolution _ _ hresolved hmoderation =>
    have hassigns := assigns_of_resolved hb hc hresolved
    rwa [Option.map_some, judged, if_neg] at hassigns
    cases hfind : held.store.findVehicle resolution.vehicle with
    | none => exact nofun
    | some y => exact hmoderation y hfind

theorem assigns_assigned (hb : b.store.Numbered) (p : Pipeline) (job : Job)
    (month : Nat) :
    Assigns b ((p.assigned job month).runIn .none b).2
      ((p.assigned job month).runIn .none b).1 :=
  assigns_of_reaches hb (c := ⟨job, month, .none⟩) rfl
    (p.reaches_assigned b ⟨job, month, .none⟩)

/-- A vehicle that was there is known as it was, and so is any that the
reading is not assigned to. -/
theorem Assigns.known (h : Assigns b held x) {v : VehicleId}
    (hv : (b.store.findVehicle v).isSome ∨ x ≠ some (.ok (.ok v))) :
    held.store.known v = b.store.known v := by
  have hlisted : (held.store.findVehicle v).isSome
      = (b.store.findVehicle v).isSome :=
    Bool.eq_iff_iff.2
      ⟨fun h' => hv.elim id (h.newcomer v h').resolve_right, h.listed v⟩
  have hlast : held.store.lastPosition v = b.store.lastPosition v := by
    unfold Store.lastPosition Store.lastPointOf
    rw [h.points]
  rw [Store.known_eq, Store.known_eq, hlisted, hlast]

/-- A cache stays settled if the reading goes no further, or goes to a vehicle
that was there. -/
theorem Assigns.settled (h : Assigns b held x) (hb : b.store.Numbered)
    (hsettled : b.Settled)
    (hx : ∀ v, x = some (.ok (.ok v)) → (b.store.findVehicle v).isSome) :
    held.Settled := by
  refine (Backend.settled_iff h.numbered).2 fun v => ?_
  have hv : (b.store.findVehicle v).isSome ∨ x ≠ some (.ok (.ok v)) := by
    by_cases hxv : x = some (.ok (.ok v))
    · exact .inl (hx v hxv)
    · exact .inr hxv
  rw [h.cache, h.known hv]
  exact (Backend.settled_iff hb).1 hsettled v

theorem Assigns.pointsFiled (h : Assigns b held x) (hb : b.store.PointsFiled) :
    held.store.PointsFiled := by
  refine ⟨fun k p hp => hb.numbered k p (h.points ▸ hp), ?_⟩
  rw [h.points, h.lastPoint]
  exact hb.le_last

/-! ## A reading, with the store for its sink -/

variable {w : RecordingWindow} {r : Reading} {v : VehicleId}

/-- What is held once a reading was noted and became a point. -/
def stored (b : Backend) (v : VehicleId) (r : Reading) (s : Store) :
    Backend where
  store := s
  cache := (noted b v r.position).cache
  log := b.log

/-- A reading that has moved is noted, and then stored if there is a number for
its point. -/
theorem runIn_keep_store (h : ¬ b.cache.holds v r.position = true) :
    (keep ⟨w, [.store]⟩ r v).runIn .none b = match b.store.save r v with
      | some s => (some (.ok (.saved v)), stored b v r s)
      | none => (none, noted b v r.position) := by
  rw [runIn_keep_of_not_holds h]
  have hdeliver : (Task.deliver r v [.store]).runIn .none (noted b v r.position)
      = match b.store.save r v with
        | some s => (some (.ok ()), stored b v r s)
        | none => (none, noted b v r.position) := by
    have hstore : (noted b v r.position).store = b.store := rfl
    rw [Task.deliver, Task.runIn_bind, Task.runIn_request,
      Backend.answer_of_none rfl, Backend.perform, hstore]
    cases b.store.save r v <;> rfl
  rw [hdeliver]
  cases b.store.save r v <;> rfl

/-- **The point that is entered is where the cache was told the vehicle is.**
It is the last point of its vehicle since the reading was sent no earlier than
the others, and of other vehicles nothing has changed. -/
theorem settled_stored (hb : b.store.Numbered) (hpoints : b.store.PointsFiled)
    (hs : b.store.save r v = some s)
    (hsent : ∀ q ∈ b.store.pointsOf v, q.sentAt ≤ r.sentAt)
    (hv : (b.store.findVehicle v).isSome)
    (hrest : ∀ u, u ≠ v → b.cache.get? u = b.store.known u) :
    (stored b v r s).Settled := by
  have hvehicles : s.vehicles = b.store.vehicles := by
    rw [(Store.save_eq_some_iff.1 hs).2]
    rfl
  have hnumbered : (stored b v r s).store.Numbered := by
    unfold Store.Numbered
    rwa [stored, hvehicles]
  refine (Backend.settled_iff hnumbered).2 fun u => ?_
  show (noted b v r.position).cache.get? u = s.known u
  have hfind : s.findVehicle u = b.store.findVehicle u := by
    unfold Store.findVehicle
    rw [hvehicles]
  rw [get?_noted, Store.known_eq, hfind, hpoints.lastPosition_save hs hsent]
  by_cases hu : v = u
  · subst hu
    rw [if_pos rfl, if_pos rfl, if_pos hv]
  · rw [if_neg hu, if_neg hu, hrest u (Ne.symm hu), Store.known_eq]

/-- **All that a reading comes to** while nothing fails: it is not kept, and
goes to no vehicle of which nothing is known; or it is stored; or it comes to
nothing, since the numbers of a table are used up. -/
theorem after_cases (hb : b.store.Numbered) (w : RecordingWindow) (job : Job)
    (month : Nat) :
    ∃ x held, Assigns b held x ∧
      ((∃ a, outcome ⟨w, [.store]⟩ b ⟨job, month, .none⟩ = some a)
        ∧ after ⟨w, [.store]⟩ b ⟨job, month, .none⟩ = held
        ∧ (∀ v, x = some (.ok (.ok v)) → (b.cache.get? v).isSome)
      ∨ (∃ v s, x = some (.ok (.ok v)) ∧ held.store.save job.reading v = some s
        ∧ outcome ⟨w, [.store]⟩ b ⟨job, month, .none⟩ = some (.ok (.saved v))
        ∧ after ⟨w, [.store]⟩ b ⟨job, month, .none⟩
          = stored held v job.reading s)
      ∨ outcome ⟨w, [.store]⟩ b ⟨job, month, .none⟩ = none
        ∧ (maxRowNumber ≤ b.store.lastVehicle
          ∨ maxRowNumber ≤ b.store.lastPoint)) := by
  have hassigns := assigns_assigned hb ⟨w, [.store]⟩ job month
  unfold outcome after
  rw [process_eq, Task.runIn_bind]
  generalize (assigned ⟨w, [.store]⟩ job month).runIn .none b = y at hassigns
  rcases y with ⟨_ | e | reason | v, held⟩
  · exact ⟨_, _, hassigns, .inr (.inr ⟨rfl, .inl (hassigns.full rfl)⟩)⟩
  · exact ⟨_, _, hassigns, .inl ⟨⟨_, rfl⟩, rfl, nofun⟩⟩
  · exact ⟨_, _, hassigns, .inl ⟨⟨_, rfl⟩, rfl, nofun⟩⟩
  · refine ⟨_, _, hassigns, ?_⟩
    dsimp only
    by_cases hholds : held.cache.holds v job.reading.position = true
    · rw [runIn_keep_of_holds hholds]
      refine .inl ⟨⟨_, rfl⟩, rfl, fun u hu => ?_⟩
      obtain rfl := Except.ok.inj (Except.ok.inj (Option.some.inj hu))
      rw [PositionCache.holds, hassigns.cache, Option.any_eq_true] at hholds
      obtain ⟨p, hp, -⟩ := hholds
      exact Option.isSome_iff_exists.2 ⟨p, hp⟩
    · rw [runIn_keep_store hholds]
      cases hs : held.store.save job.reading v with
      | some s => exact .inr (.inl ⟨v, s, rfl, hs, rfl, rfl⟩)
      | none =>
        have hfull := Store.save_eq_none_iff.1 hs
        rw [hassigns.lastPoint] at hfull
        exact .inr (.inr ⟨rfl, .inr hfull⟩)

end Pipeline

/-! ## Readings and passes of thinning -/

/-- What the receiver does with its store: it processes a reading, in a month
of the year, or thins what was received up to now. -/
inductive Chore where
  | reading (job : Job) (month : Nat)
  | thinning (tolerance : Float) (lookback : Duration) (now : Instant)

/-- Rows stay under their numbers, and of each kind one number is used up at
most. -/
structure Backend.Advances (b d : Backend) : Prop where
  numbered : d.store.Numbered
  pointsFiled : d.store.PointsFiled
  lastVehicle : d.store.lastVehicle ≤ b.store.lastVehicle + 1
  lastPoint : d.store.lastPoint ≤ b.store.lastPoint + 1

namespace Chore

variable {w : RecordingWindow} {b d : Backend} {c : Chore} {chores : List Chore}

/-- What is held afterwards, unless the chore is brought down. -/
def after? (w : RecordingWindow) (b : Backend) : Chore → Option Backend
  | reading job month =>
    (Pipeline.outcome ⟨w, [.store]⟩ b ⟨job, month, .none⟩).map fun _ =>
      Pipeline.after ⟨w, [.store]⟩ b ⟨job, month, .none⟩
  | thinning tolerance lookback now =>
    (Task.runIn .none (Thinner.run tolerance lookback now) b).1.map fun _ =>
      (Task.runIn .none (Thinner.run tolerance lookback now) b).2

/-- What is held before, between and after chores, up to the first that is
brought down. -/
def states (w : RecordingWindow) (b : Backend) : List Chore → List Backend
  | [] => [b]
  | c :: chores => b :: (c.after? w b).elim [] (states w · chores)

/-- The chores, each with what is held when it comes. -/
def moves (w : RecordingWindow) (b : Backend) :
    List Chore → List (Backend × Chore)
  | [] => []
  | c :: chores => (b, c) :: (c.after? w b).elim [] (moves w · chores)

/-- **A reading that is saved was not sent before** a point of its vehicle. -/
def InOrder (w : RecordingWindow) (b : Backend) : Chore → Prop
  | reading job month =>
    ∀ v ∈ Pipeline.taken? ⟨w, [.store]⟩ b ⟨job, month, .none⟩,
    ∀ q ∈ b.store.pointsOf v, q.sentAt ≤ job.reading.sentAt
  | thinning _ _ _ => True

instance (w : RecordingWindow) (b : Backend) (c : Chore) :
    Decidable (c.InOrder w b) :=
  match c with
  | reading _ _ =>
    inferInstanceAs (Decidable (∀ v ∈ Pipeline.taken? _ _ _, ∀ q ∈ _, _))
  | thinning _ _ _ => inferInstanceAs (Decidable True)

/-- **Only a table without numbers** brings a chore down. -/
theorem full_of_after?_eq_none (hb : b.store.Numbered)
    (h : c.after? w b = none) :
    maxRowNumber ≤ b.store.lastVehicle ∨ maxRowNumber ≤ b.store.lastPoint := by
  cases c with
  | reading job month =>
    have hnone := Option.map_eq_none_iff.1 h
    obtain ⟨x, held, -, ⟨⟨a, ha⟩, -⟩ | ⟨v, s, -, -, ha, -⟩ | ⟨-, hfull⟩⟩ :=
      Pipeline.after_cases hb w job month
    · cases hnone.symm.trans ha
    · cases hnone.symm.trans ha
    · exact hfull
  | thinning tolerance lookback now =>
    have hsome := Thinner.completes_run tolerance lookback now .none b
    have hnone : (Task.runIn .none (Thinner.run tolerance lookback now) b).1
        = none :=
      Option.map_eq_none_iff.1 h
    rw [Task.runIn] at hnone
    rw [hnone] at hsome
    cases hsome

/-- **A chore advances** what is held by one number of each kind at most. A
pass of thinning uses up none. -/
theorem advances_of_after? (hb : b.store.Numbered)
    (hpoints : b.store.PointsFiled) (h : c.after? w b = some d) :
    b.Advances d := by
  cases c with
  | reading job month =>
    obtain ⟨a, ha, rfl⟩ := Option.map_eq_some_iff.1 h
    obtain ⟨x, held, hassigns, ⟨-, hafter, -⟩ | ⟨v, s, -, hs, -, hafter⟩
        | ⟨hnone, -⟩⟩ :=
      Pipeline.after_cases hb w job month
    · rw [hafter]
      refine ⟨hassigns.numbered, hassigns.pointsFiled hpoints,
        hassigns.lastVehicle, ?_⟩
      rw [hassigns.lastPoint]
      omega
    · rw [hafter]
      refine ⟨?_, (hassigns.pointsFiled hpoints).save hs, ?_, ?_⟩
      all_goals obtain ⟨-, rfl⟩ := Store.save_eq_some_iff.1 hs
      · exact hassigns.numbered
      · exact hassigns.lastVehicle
      · rw [← hassigns.lastPoint]
        exact Int.le_refl _
    · cases hnone.symm.trans ha
  | thinning tolerance lookback now =>
    obtain ⟨a, -, rfl⟩ := Option.map_eq_some_iff.1 h
    obtain ⟨-, hthins⟩ :=
      Thinner.thins_run hpoints.numbered tolerance lookback now .none
    refine ⟨?_, ⟨fun k p hp => hpoints.numbered k p (hthins.points k p hp),
      fun k p hp => ?_⟩, ?_, ?_⟩
    · unfold Store.Numbered
      rwa [hthins.vehicles]
    · rw [hthins.lastPoint]
      exact hpoints.le_last k p (hthins.points k p hp)
    · rw [hthins.lastVehicle]
      omega
    · rw [hthins.lastPoint]
      omega

/-- **A reading that is processed leaves the cache settled.** It was not kept,
and then the cache and the points are as they were; or it was, and then both
have its position. -/
theorem settled_of_reading (hb : b.store.Numbered)
    (hpoints : b.store.PointsFiled) (h : b.Settled) {job : Job} {month : Nat}
    (horder : (reading job month).InOrder w b)
    (hd : (reading job month).after? w b = some d) : d.Settled := by
  have hget := (Backend.settled_iff hb).1 h
  obtain ⟨a, ha, rfl⟩ := Option.map_eq_some_iff.1 hd
  obtain ⟨x, held, hassigns,
    ⟨-, hafter, hknown⟩ | ⟨v, s, rfl, hs, hsaved, hafter⟩ | ⟨hnone, -⟩⟩ :=
    Pipeline.after_cases hb w job month
  · rw [hafter]
    refine hassigns.settled hb h fun v hv => ?_
    -- What the cache has an entry for is one of the vehicles.
    have hsome := hknown v hv
    rw [hget, Store.known_eq] at hsome
    by_cases hlisted : (b.store.findVehicle v).isSome
    · exact hlisted
    · rw [if_neg hlisted] at hsome
      cases hsome
  · have htaken : Pipeline.taken? ⟨w, [.store]⟩ b ⟨job, month, .none⟩
        = some v := by
      rw [Pipeline.taken?, hsaved]
    rw [hafter]
    refine Pipeline.settled_stored hassigns.numbered
      (hassigns.pointsFiled hpoints) hs ?_
      (hassigns.assignee v rfl) fun u hu => ?_
    · unfold Store.pointsOf
      rw [hassigns.points]
      exact horder v htaken
    · rw [hassigns.cache, hget, hassigns.known]
      exact .inr fun heq =>
        hu (Except.ok.inj (Except.ok.inj (Option.some.inj heq))).symm
  · cases hnone.symm.trans ha

/-- **A pass of thinning leaves the cache settled.** The cache is not touched,
and no last point goes. -/
theorem settled_of_thinning (hb : b.store.Numbered)
    (hpoints : b.store.PointsFiled) (h : b.Settled) {tolerance : Float}
    {lookback : Duration} {now : Instant}
    (hd : (thinning tolerance lookback now).after? w b = some d) :
    d.Settled := by
  have hnumbered := (advances_of_after? hb hpoints hd).numbered
  obtain ⟨a, -, rfl⟩ := Option.map_eq_some_iff.1 hd
  obtain ⟨hcache, hthins⟩ :=
    Thinner.thins_run hpoints.numbered tolerance lookback now .none
  refine (Backend.settled_iff hnumbered).2 fun v => ?_
  have hget := (Backend.settled_iff hb).1 h v
  unfold Store.known Store.findVehicle Store.lastPosition at hget ⊢
  rw [hcache, hthins.vehicles, hthins.lastPointOf]
  exact hget

/-- **One chore leaves the cache settled.** Readings and passes of thinning
are the only chores. -/
theorem settled_of_after? (hb : b.store.Numbered)
    (hpoints : b.store.PointsFiled) (h : b.Settled) (horder : c.InOrder w b)
    (hd : c.after? w b = some d) : d.Settled := by
  cases c with
  | reading job month => exact settled_of_reading hb hpoints h horder hd
  | thinning tolerance lookback now => exact settled_of_thinning hb hpoints h hd

/-- **A run leaves the cache settled at all times.** By induction on the
chores, with rows under their numbers all the way. -/
theorem settled_states (hb : b.store.Numbered) (hpoints : b.store.PointsFiled)
    (h : b.Settled) (horder : ∀ m ∈ moves w b chores, m.2.InOrder w m.1) :
    ∀ d ∈ states w b chores, d.Settled := by
  induction chores generalizing b with
  | nil => exact List.forall_mem_singleton.2 h
  | cons c chores ih =>
    unfold moves at horder
    unfold states
    obtain ⟨hone, hrest⟩ := List.forall_mem_cons.1 horder
    refine List.forall_mem_cons.2 ⟨h, ?_⟩
    cases hd : c.after? w b with
    | none => exact List.forall_mem_nil _
    | some d =>
      rw [hd] at hrest
      have hadvances := advances_of_after? hb hpoints hd
      exact ih hadvances.numbered hadvances.pointsFiled
        (settled_of_after? hb hpoints h hone hd) hrest

/-- **Only a table without numbers** ends a run before its time. A deletion
needs no number, so it is a reading that ends it. -/
theorem full_of_mem_moves (hb : b.store.Numbered)
    (hpoints : b.store.PointsFiled) :
    ∀ m ∈ moves w b chores, m.2.after? w m.1 = none →
      maxRowNumber ≤ m.1.store.lastVehicle
        ∨ maxRowNumber ≤ m.1.store.lastPoint := by
  induction chores generalizing b with
  | nil => exact List.forall_mem_nil _
  | cons c chores ih =>
    unfold moves
    refine List.forall_mem_cons.2 ⟨full_of_after?_eq_none hb, ?_⟩
    cases hd : c.after? w b with
    | none => exact List.forall_mem_nil _
    | some d =>
      have hadvances := advances_of_after? hb hpoints hd
      exact ih hadvances.numbered hadvances.pointsFiled

/-- A run comes to its end if there are numbers left for each of its chores. -/
theorem length_states (hb : b.store.Numbered) (hpoints : b.store.PointsFiled)
    (hvehicle : b.store.lastVehicle + chores.length ≤ maxRowNumber)
    (hpoint : b.store.lastPoint + chores.length ≤ maxRowNumber) :
    (states w b chores).length = chores.length + 1 := by
  induction chores generalizing b with
  | nil => rfl
  | cons c chores ih =>
    rw [List.length_cons] at hvehicle hpoint
    unfold states
    cases hd : c.after? w b with
    | none =>
      have hfull := full_of_after?_eq_none hb hd
      omega
    | some d =>
      obtain ⟨hb', hpoints', hvehicle', hpoint'⟩ :=
        advances_of_after? hb hpoints hd
      rw [Option.elim_some, List.length_cons, List.length_cons,
        ih hb' hpoints' (by omega) (by omega)]

/-- **The cache after a restart** is the cache before it. From a settled
cache on, it is settled at all times of a run, however readings and passes of
thinning follow one another, if every reading that is saved was sent no
earlier than the points of its vehicle. Nothing but a table without numbers
ends a run before its time, and a run comes to its end while there are numbers
left. -/
theorem settled_at_all_times (hb : b.store.Numbered)
    (hpoints : b.store.PointsFiled) (h : b.Settled) (w : RecordingWindow)
    (chores : List Chore) :
    ((∀ m ∈ moves w b chores, m.2.InOrder w m.1) → ∀ d ∈ states w b chores,
      d.Settled)
      ∧ (∀ m ∈ moves w b chores, m.2.after? w m.1 = none →
        maxRowNumber ≤ m.1.store.lastVehicle
          ∨ maxRowNumber ≤ m.1.store.lastPoint)
      ∧ (b.store.lastVehicle + chores.length ≤ maxRowNumber →
        b.store.lastPoint + chores.length ≤ maxRowNumber →
        (states w b chores).length = chores.length + 1) :=
  ⟨settled_states hb hpoints h, full_of_mem_moves hb hpoints,
    length_states hb hpoints⟩

/-- A report of a terminal at one place and one moment. -/
def report (oid : UInt32) : Job where
  reading :=
    ⟨oid, 1, ⟨0, 0⟩, ⟨0, 0⟩, 55.0, 37.0, none, 0.0, 0, none, none, none, none,
      none, [], []⟩
  peer := .ofOctets 10 0 0 5

/-- The first reports of two terminals, and a pass of thinning between
them. -/
def twoFirstReports : List Chore :=
  [reading (report 7) 6, thinning 0.001 (.ofSeconds 86400) ⟨1, 0⟩,
    reading (report 9) 6]

/-- **Two vehicles are entered**, and the cache has them as the store does. -/
theorem settled_after_two_first_reports : (Query.fleet []).store.Numbered
    ∧ (Query.fleet []).store.PointsFiled ∧ (Query.fleet []).Settled
    ∧ (∀ m ∈ moves .always (Query.fleet []) twoFirstReports,
      m.2.InOrder .always m.1)
    ∧ (∀ d ∈ states .always (Query.fleet []) twoFirstReports, d.Settled)
    ∧ (states .always (Query.fleet []) twoFirstReports).map (·.cache.size)
      = [0, 1, 1, 2] := by
  have hb : (Query.fleet []).store.Filed := Store.filed_ofContents _
  have hpoints : (Query.fleet []).store.PointsFiled :=
    Store.pointsFiled_ofContents _
  have hsettled : (Query.fleet []).Settled := Backend.settled_iff_entries.2 rfl
  have horder : ∀ m ∈ moves .always (Query.fleet []) twoFirstReports,
      m.2.InOrder .always m.1 := by
    decide +kernel
  obtain ⟨hall, -, -⟩ :=
    settled_at_all_times hb.numbered hpoints hsettled .always twoFirstReports
  exact ⟨hb.numbered, hpoints, hsettled, horder, hall horder, by decide +kernel⟩

end Chore

end Telematics
