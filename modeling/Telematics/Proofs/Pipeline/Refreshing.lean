import Telematics.Proofs.Pipeline.Succession
import Telematics.Proofs.Pipeline.Traffic

/-!
# When the cache may be reloaded

Between the request that asks a store for the last position of a vehicle and
the last step of the reload anything may happen to the vehicle. What the
reload puts into the cache is what was let through last if two things hold. No
reading of a vehicle is on its way to the store while a reload is under way
that has asked for it: such a reading would be in the cache, and not in what
the reload has found. And readings of one vehicle and one fix are not on their
way at the same time: of those the store takes the one for the last that it
got last.

Without the first, a reading that is let through and stored is forgotten, and
the vehicle may stand still and be stored again.

What a reload knows while it is under way is the invariant that carries the
argument (`Traffic.Knows`): of each vehicle that it has asked for, the
position that was let through last. It is kept while no reading of these
vehicles is on its way, for then the store has that position and none is let
through before the reload is over. A step of a run is an errand that begins,
one that goes on and leaves the store, a reading that is let through or one
that is stored; each is a lemma of its own (`Sound.begin`, `Sound.quiet`,
`Sound.letThrough`, `Sound.stored`), and `Sound.step` tells them apart.
-/

namespace Telematics

/-! ## What the store has of a vehicle -/

/-- **The store follows** the readings of a vehicle that were let through, of
which some are on their way to it. -/
structure Store.Follows (s : Store) (v : VehicleId) (origin : Option Position)
    (readings : List Reading) (Carried : Reading → Prop) : Prop where
  /-- Before the first, it has what there was at the start. -/
  first : readings = [] → s.lastPosition v = origin
  /-- None is later than the last, and neither is a point. -/
  upTo : ∀ r, readings.getLast? = some r →
    (∀ q ∈ s.pointsOf v, q.sentAt ≤ r.sentAt) ∧ ∀ u ∈ readings,
      u.sentAt ≤ r.sentAt
  /-- The last is on its way, or its point is the last one. -/
  arrived : ∀ r, readings.getLast? = some r → Carried r ∨
    ∃ p, s.lastPointOf v = some p ∧ p.position = r.position
      ∧ p.sentAt = r.sentAt
  /-- Of those that are on their way only the last has its fix. -/
  carried : ∀ u, Carried u → u ∈ readings ∧
    ∀ r, readings.getLast? = some r → u.sentAt = r.sentAt → u = r

namespace Store.Follows

variable {s : Store} {v w : VehicleId} {origin : Option Position}
  {readings : List Reading}
  {Carried Carried' : Reading → Prop} {r : Reading}

/-- Before any is let through. -/
theorem nil (h : s.lastPosition v = origin) (hnone : ∀ u, ¬ Carried u) :
    s.Follows v origin [] Carried where
  first := fun _ => h
  upTo := fun _ hlast => absurd hlast (Option.some_ne_none _).symm
  arrived := fun _ hlast => absurd hlast (Option.some_ne_none _).symm
  carried := fun u hu => absurd hu (hnone u)

/-- **If none is on its way** the store has the position of the last. Before
any was let through it has what it had at the start. -/
theorem lastPosition (h : s.Follows v origin readings Carried)
    (hnone : ∀ u, ¬ Carried u) :
    s.lastPosition v = (readings.getLast?.map (·.position)).or origin := by
  cases hlast : readings.getLast? with
  | none => exact h.first (List.getLast?_eq_none_iff.1 hlast)
  | some r =>
    obtain ⟨p, hp, hposition, -⟩ := (h.arrived r hlast).resolve_left (hnone r)
    rw [Store.lastPosition, hp, Option.map_some, hposition]
    rfl

/-- One more is let through, not sent before the others and with a fix that
none on its way has. -/
theorem accept (h : s.Follows v origin readings Carried)
    (hsent : ∀ q ∈ s.pointsOf v, q.sentAt ≤ r.sentAt)
    (horder : ∀ u ∈ readings, u.sentAt ≤ r.sentAt)
    (hfix : ∀ u, Carried u → u.sentAt ≠ r.sentAt) (hr : Carried' r)
    (hcarried : ∀ u, Carried' u → u = r ∨ Carried u) :
    s.Follows v origin (readings ++ [r]) Carried' := by
  have hlast : ∀ r', (readings ++ [r]).getLast? = some r' → r' = r := by
    intro r' hr'
    simpa [eq_comm] using hr'
  refine ⟨fun hnil => ?_, fun r' hr' => ?_, fun r' hr' => ?_, fun u hu => ?_⟩
  · exact absurd hnil (by simp)
  · rw [hlast r' hr']
    refine ⟨hsent,
      List.forall_mem_append.2 ⟨horder, List.forall_mem_singleton.2 ?_⟩⟩
    exact Instant.le_refl _
  · rw [hlast r' hr']
    exact .inl hr
  · rcases hcarried u hu with rfl | hold
    · have hmem : u ∈ readings ++ [u] :=
        List.mem_append_right _ (List.mem_singleton_self _)
      exact ⟨hmem, fun r' hr' _ => (hlast r' hr').symm⟩
    · refine ⟨List.mem_append_left _ (h.carried u hold).1, fun r' hr' heq => ?_⟩
      exact absurd (hlast r' hr' ▸ heq) (hfix u hold)

/-- One that was on its way is stored. -/
theorem save {s' : Store} (h : s.Follows v origin readings Carried)
    (hpoints : s.PointsFiled) (hs : s.save r v = some s') (hr : Carried r)
    (hcarried : ∀ u, Carried u → u = r ∨ Carried' u)
    (hback : ∀ u, Carried' u → Carried u) :
    s'.Follows v origin readings Carried' := by
  obtain ⟨hmem, heq⟩ := h.carried r hr
  refine ⟨fun hnil => ?_, fun l hl => ?_, fun l hl => ?_,
    fun u hu => h.carried u (hback u hu)⟩
  · rw [hnil] at hmem
    cases hmem
  · obtain ⟨hsent, hreadings⟩ := h.upTo l hl
    refine ⟨fun q hq => ?_, hreadings⟩
    rcases (hpoints.mem_pointsOf_save hs).1 hq with hq | ⟨-, rfl⟩
    · exact hsent q hq
    · exact hreadings r hmem
  · obtain ⟨hsent, hreadings⟩ := h.upTo l hl
    by_cases hfix : r.sentAt = l.sentAt
    · -- It is the last itself.
      obtain rfl := heq l hl hfix
      exact .inr ⟨_, hpoints.lastPointOf_save_of_le hs hsent, rfl, rfl⟩
    · rcases h.arrived l hl with hcarry | ⟨p, hp, hposition, hsentAt⟩
      · exact .inl ((hcarried l hcarry).resolve_left fun hlr =>
          hfix (congrArg _ hlr.symm))
      · refine .inr ⟨p, hpoints.lastPointOf_save_of_lt hs hp ?_, hposition,
          hsentAt⟩
        rw [hsentAt]
        exact ⟨hreadings r hmem, hfix⟩

/-- Nothing happens to the vehicle. -/
theorem frame {s' : Store} (h : s.Follows v origin readings Carried)
    (hpoints : ∀ q, q ∈ s'.pointsOf v ↔ q ∈ s.pointsOf v)
    (hlast : s'.lastPointOf v = s.lastPointOf v)
    (hcarried : ∀ u, Carried' u ↔ Carried u) :
    s'.Follows v origin readings Carried' := by
  refine ⟨?_, ?_, ?_, ?_⟩
  · unfold Store.lastPosition
    rw [hlast]
    exact h.first
  · simpa only [hpoints] using h.upTo
  · simpa only [hlast, hcarried] using h.arrived
  · simpa only [hcarried] using h.carried

end Store.Follows

namespace Errand

variable {e : Errand} {L L' : VehicleId → Prop}
  {K K' : List VehicleId → List Vehicle → Table Position → Prop}

/-- An errand is as far as it was, if what it rests on is still so. -/
theorem Phase.imp (h : Phase L K e) (hL : ∀ v, L v → L' v)
    (hK : ∀ asked vs found, e = reloading asked (PositionCache.look vs found) →
      K asked vs found → K' asked vs found) : Phase L' K' e := by
  cases h with
  | check v r h => exact .check v r (hL v h)
  | save v r h => exact .save v r (hL v h)
  | kept v r a => exact .kept v r a
  | stopped v r => exact .stopped v r
  | list => exact .list
  | look asked vs found h =>
    exact .look asked vs found (hK asked vs found rfl h)
  | reloaded asked a => exact .reloaded asked a

/-- A reading that has not been held against the cache is not on its way to
the store. -/
theorem carries?_keep (v : VehicleId) (r : Reading) :
    (keep v r).carries? = none := by
  rw [keep, Pipeline.run_keep]
  rfl

theorem reliesOn_look {asked : List VehicleId} {vs : List Vehicle}
    {found : Table Position} {v : VehicleId} (h : v ∈ asked) :
    reliesOn v (reloading asked (PositionCache.look vs found)) = true := by
  cases vs with
  | nil =>
    simp [reliesOn, PositionCache.look_nil, PositionCache.swap,
      Program.request?, h]
  | cons w vs => simp [reliesOn, PositionCache.look_cons, Program.request?, h]

end Errand

namespace Traffic

variable {x y : Traffic} {e : TrafficEvent} {events : List TrafficEvent}
  {u v : VehicleId}
  {r : Reading}

/-- The vehicle is one of the store. -/
def Listed (x : Traffic) (v : VehicleId) : Prop :=
  (x.backend.store.findVehicle v).isSome

/-- A reading of a vehicle is on its way to the store. -/
def Carried (x : Traffic) (v : VehicleId) (r : Reading) : Prop :=
  ∃ d ∈ x.errands, d.carries? = some (v, r)

/-- **Readings of one vehicle and one fix are not on their way at the same
time.** -/
def Exclusive (x : Traffic) : Prop :=
  x.errands.Pairwise fun d e => ¬ ∃ a ∈ d.carries?, ∃ b ∈ e.carries?,
    a.1 = b.1 ∧ a.2.sentAt = b.2.sentAt

/-- **No reading is on its way of a vehicle that a reload relies on.** -/
def Undisturbed (x : Traffic) : Prop :=
  ∀ d ∈ x.errands, ∀ a ∈ d.carries?, ∀ e ∈ x.errands, e.reliesOn a.1 = false

/-- **A reading that is let through** was not sent before a point of its
vehicle or another reading of it that was let through. -/
def InOrder (x : Traffic) : TrafficEvent → Prop
  | .serve i => ∀ d ∈ x.errands[i]?, ∀ a ∈ d.accepts? x.backend,
    (∀ q ∈ x.backend.store.pointsOf a.1, q.sentAt ≤ a.2.sentAt)
      ∧ ∀ u ∈ x.readingsOf a.1, u.sentAt ≤ a.2.sentAt
  | _ => True

/-- **What a reload knows** when it has asked for some vehicles and is to ask
for others: the positions that were let through last, of those it has asked
for; and no others are left out. -/
structure Knows (x : Traffic) (asked : List VehicleId) (vs : List Vehicle)
    (found : Table Position) : Prop where
  known : ∀ v ∈ asked, found.find? v.val = x.last v
  rest : ∀ v, v ∉ asked → found.find? v.val = none
  left : ∀ w ∈ vs, x.Listed w.id
  all : ∀ v, x.Listed v → v ∈ asked ∨ v ∈ vs.map (·.id)

/-- **The invariant**: the cache is current, the store follows what was let
through, and every reload that is under way knows it too. -/
structure Sound (x : Traffic) : Prop where
  valid : x.Valid
  numbered : x.backend.store.Numbered
  filed : x.backend.store.PointsFiled
  current : x.Current
  unlisted : ∀ v, ¬ x.Listed v → x.positions v = []
  follows : ∀ v, x.Listed v →
    x.backend.store.Follows v (x.origin.get? v) (x.readingsOf v) (x.Carried v)
  phase : ∀ d ∈ x.errands, Errand.Phase x.Listed x.Knows d

/-- What was let through last of a vehicle, in terms of readings. -/
theorem last_eq (x : Traffic) (v : VehicleId) :
    x.last v
      = ((x.readingsOf v).getLast?.map (·.position)).or (x.origin.get? v) := by
  unfold last positions
  rw [List.getLast?_append, List.getLast?_map]
  cases x.origin.get? v <;> rfl

/-- **If no reading of a vehicle is on its way** the store has its last
position. This is what a reload finds, and where it is found to be right. -/
theorem Sound.lastPosition (hx : x.Sound) (hv : x.Listed v)
    (hnone : ∀ r, ¬ x.Carried v r) :
    x.backend.store.lastPosition v = x.last v := by
  rw [(hx.follows v hv).lastPosition hnone, last_eq]

/-- **No event replaces the entries of the cache by others.** A reload that
has asked for all vehicles knows of each of them what the cache has. -/
theorem Sound.not_stale (hx : x.Sound) (e : TrafficEvent) : ¬ x.Stale e := by
  cases h : x.step? e with
  | none => exact not_stale_of_step?_eq_none h
  | some y =>
    obtain ⟨v, r, rfl, -, rfl⟩ | ⟨rfl, rfl⟩
        | ⟨i, d, d', b, a, rfl, hi, hstep, rfl⟩ :=
      step_cases hx.phase h
    · exact id
    · exact id
    · rw [stale_serve_iff hi]
      rintro ⟨found, hfound, v, hne⟩
      obtain ⟨asked, found', hknows, hfound', -⟩ | ⟨hnot, -⟩ :=
        hstep.cache_cases
      · cases hfound.symm.trans hfound'
        by_cases hv : v ∈ asked
        · exact hne (hknows.known v hv)
        · have hunlisted : ¬ x.Listed v := fun hl =>
            (hknows.all v hl).elim hv List.not_mem_nil
          rw [hknows.rest v hv, last, hx.unlisted v hunlisted] at hne
          exact hne rfl
      · exact hnot found hfound

/-! ## One step -/

section Next

variable {i : Nat} {d d' : Errand} {b : Backend}
  {a : Option (VehicleId × Reading)}
  {asked : List VehicleId} {vs : List Vehicle} {found : Table Position}

/-- After a step a reading is on its way because of the errand that went on,
or it was before. -/
theorem Carried.of_next (h : (x.next i d' b a).Carried v r) :
    d'.carries? = some (v, r) ∨ x.Carried v r := by
  obtain ⟨e, he, hcarries⟩ := h
  rcases List.mem_or_eq_of_mem_set he with he | rfl
  · exact .inr ⟨e, he, hcarries⟩
  · exact .inl hcarries

/-- A reading that is on its way stays so, unless it is the errand's own. -/
theorem Carried.next (h : x.Carried v r) (hd : x.errands[i]? = some d) :
    d.carries? = some (v, r) ∨ (x.next i d' b a).Carried v r := by
  obtain ⟨e, he, hcarries⟩ := h
  obtain ⟨j, hj⟩ := List.mem_iff_getElem?.1 he
  by_cases hij : i = j
  · subst hij
    exact .inl (Option.some.inj (hd.symm.trans hj) ▸ hcarries)
  · refine .inr ⟨e, List.mem_of_getElem? (i := j) ?_, hcarries⟩
    show (x.errands.set i d')[j]? = some e
    rw [List.getElem?_set_ne hij, hj]

/-- An errand that goes on with nothing on its way, before or after. -/
theorem carried_next_iff (hd : x.errands[i]? = some d)
    (hnone : d.carries? = none) (hnone' : d'.carries? = none) :
    (x.next i d' b a).Carried v r ↔ x.Carried v r := by
  constructor
  · exact fun h => h.of_next.resolve_left (by simp [hnone'])
  · exact fun h => (h.next hd).resolve_left (by simp [hnone])

/-- A reading that is let through has a fix that none on its way has. -/
theorem Exclusive.sentAt_ne (h : (x.next i d' b a).Exclusive)
    (hd : x.errands[i]? = some d) (hnone : d.carries? = none)
    (hd' : d'.carries? = some (v, r)) {u : Reading} (hu : x.Carried v u) :
    u.sentAt ≠ r.sentAt := by
  obtain ⟨e, he, hcarries⟩ := hu
  obtain ⟨j, hj⟩ := List.mem_iff_getElem?.1 he
  have hij : i ≠ j := by
    rintro rfl
    obtain rfl := Option.some.inj (hd.symm.trans hj)
    cases hnone.symm.trans hcarries
  obtain ⟨hi, -⟩ := List.getElem?_eq_some_iff.1 hd
  obtain ⟨hj', hej⟩ := List.getElem?_eq_some_iff.1 hj
  have hpair := List.pairwise_iff_getElem.1 h
  simp only [Traffic.next, List.length_set] at hpair
  intro heq
  rcases Nat.lt_or_gt_of_ne hij with hlt | hgt
  · refine hpair i j hi hj' hlt ⟨(v, r), ?_, (v, u), ?_, rfl, heq.symm⟩
    · simpa using hd'
    · rw [List.getElem_set_ne hij, hej]
      exact hcarries
  · refine hpair j i hj' hi hgt ⟨(v, u), ?_, (v, r), ?_, rfl, heq⟩
    · rw [List.getElem_set_ne hij, hej]
      exact hcarries
    · simpa using hd'

/-- A vehicle that a reload has just asked for has nothing on its way. -/
theorem Undisturbed.not_carried (h : (x.next i d' b a).Undisturbed)
    (hd : x.errands[i]? = some d) (hnone : d.carries? = none)
    (hd' : d'.reliesOn v = true) : ¬ x.Carried v r := by
  intro hr
  have hcarried : (x.next i d' b a).Carried v r :=
    (hr.next hd).resolve_left (by simp [hnone])
  obtain ⟨c, hc, hcarries⟩ := hcarried
  have hmem : d' ∈ (x.next i d' b a).errands :=
    List.mem_of_getElem?
      (List.getElem?_set_self (List.getElem?_eq_some_iff.1 hd).1)
  cases hd'.symm.trans (h c hc (v, r) hcarries d' hmem)

/-- A reload knows what it knew if the last positions are the same of the
vehicles that it has asked for. -/
theorem Knows.frame (h : x.Knows asked vs found) (hlisted : y.Listed = x.Listed)
    (hlast : ∀ v ∈ asked, y.last v = x.last v) : y.Knows asked vs found where
  known := fun v hv => (h.known v hv).trans (hlast v hv).symm
  rest := h.rest
  left := hlisted ▸ h.left
  all := hlisted ▸ h.all

/-- A reload that begins to ask knows nothing yet. -/
theorem knows_listed (hx : x.backend.store.Numbered) :
    x.Knows [] x.backend.store.vehicles.values ∅ where
  known := fun _ hv => absurd hv List.not_mem_nil
  rest := fun _ _ => rfl
  left := fun w hw => hx.mem_ids.1 (List.mem_map.2 ⟨w, hw, rfl⟩)
  all := fun _ hv => .inr (hx.mem_ids.2 hv)

/-- One more vehicle was asked for. -/
theorem Knows.look {w : Vehicle} {o : Option Position}
    (h : x.Knows asked (w :: vs) found) (ho : o = x.last w.id) :
    x.Knows (asked ++ [w.id]) vs (PositionCache.entered w found (.ok o)) := by
  refine ⟨fun v hv => ?_, fun v hv => ?_, ?_, fun v hv => ?_⟩
  · rw [PositionCache.find?_entered]
    by_cases hw : w.id = v
    · subst hw
      rw [if_pos rfl, ho]
      by_cases hasked : w.id ∈ asked
      · rw [h.known _ hasked]
        cases x.last w.id <;> rfl
      · rw [h.rest _ hasked, Option.or_none]
    · rw [if_neg hw]
      refine h.known v ((List.mem_append.1 hv).resolve_right fun hmem => hw ?_)
      exact (List.mem_singleton.1 hmem).symm
  · rw [List.mem_append, not_or, List.mem_singleton] at hv
    rw [PositionCache.find?_entered, if_neg (Ne.symm hv.2), h.rest v hv.1]
  · exact fun u hu => h.left u (.tail _ hu)
  · rw [List.mem_append, List.mem_singleton]
    rcases h.all v hv with hasked | hleft
    · exact .inl (.inl hasked)
    · exact (List.mem_cons.1 hleft).elim (fun heq => .inl (.inr heq)) .inr

/-- What is known of an errand stays so if nothing happens to what it rests
on. -/
theorem phase_frame {e : Errand} (h : Errand.Phase x.Listed x.Knows e)
    (hlisted : y.Listed = x.Listed)
    (hlast : ∀ v, e.reliesOn v = true → y.last v = x.last v) :
    Errand.Phase y.Listed y.Knows e := by
  refine h.imp (fun v hv => hlisted ▸ hv) ?_
  rintro asked vs found rfl hknows
  exact hknows.frame hlisted fun v hv => hlast v (Errand.reliesOn_look hv)

/-- **An errand begins.** It has nothing on its way and knows nothing yet. -/
theorem Sound.begin (hx : x.Sound) (hnone : d.carries? = none)
    (hd : Errand.Phase x.Listed x.Knows d)
    (hvalid : Valid { x with errands := x.errands ++ [d] }) :
    Sound { x with errands := x.errands ++ [d] } where
  valid := hvalid
  numbered := hx.numbered
  filed := hx.filed
  current := hx.current
  unlisted := hx.unlisted
  follows := fun v hv => by
    refine (hx.follows v hv).frame (fun _ => Iff.rfl) rfl fun r => ⟨?_, ?_⟩
    · rintro ⟨e, he, hcarries⟩
      rcases List.mem_append.1 he with he | he
      · exact ⟨e, he, hcarries⟩
      · obtain rfl := List.mem_singleton.1 he
        cases hnone.symm.trans hcarries
    · rintro ⟨e, he, hcarries⟩
      exact ⟨e, List.mem_append_left _ he, hcarries⟩
  phase := by
    refine List.forall_mem_append.2
      ⟨fun e he => ?_, List.forall_mem_singleton.2 ?_⟩
    · exact phase_frame (hx.phase e he) rfl fun _ _ => rfl
    · exact phase_frame hd rfl fun _ _ => rfl

/-- **An errand goes on** that has nothing on its way and leaves the store.
What the others know stays so, since it is about the store and about what was
let through. -/
theorem Sound.quiet (hx : x.Sound) (hi : x.errands[i]? = some d)
    (hnone : d.carries? = none) (hnone' : d'.carries? = none)
    (hstore : b.store = x.backend.store) (hd : Errand.Phase x.Listed x.Knows d')
    (hvalid : (x.next i d' b none).Valid)
    (hcurrent : (x.next i d' b none).Current) : (x.next i d' b none).Sound := by
  have hlisted : (x.next i d' b none).Listed = x.Listed := by
    unfold Listed next
    rw [hstore]
  refine ⟨hvalid, ?_, ?_, hcurrent, ?_, ?_, ?_⟩
  · exact hstore ▸ hx.numbered
  · exact hstore ▸ hx.filed
  · rw [hlisted, positions_next_none]
    exact hx.unlisted
  · rw [hlisted, readingsOf_next_none]
    intro v hv
    show b.store.Follows _ _ _ _
    rw [hstore]
    exact (hx.follows v hv).frame (fun _ => Iff.rfl) rfl fun r =>
      carried_next_iff hi hnone hnone'
  · intro e he
    have hphase : Errand.Phase x.Listed x.Knows e :=
      (List.mem_or_eq_of_mem_set he).elim (hx.phase e) fun heq => heq ▸ hd
    exact phase_frame hphase hlisted fun v _ => by rw [last_next_none]

/-- **A reading is let through.** No reload has asked for its vehicle, since
it would be disturbed; so what any of them knows is of other vehicles. -/
theorem Sound.letThrough (hx : x.Sound) (hi : x.errands[i]? = some d)
    (hnone : d.carries? = none) (hcarries : d'.carries? = some (v, r))
    (hv : x.Listed v)
    (hd : ∀ y : Traffic, y.Listed v → Errand.Phase y.Listed y.Knows d')
    (hstore : b.store = x.backend.store)
    (horder : (∀ q ∈ x.backend.store.pointsOf v, q.sentAt ≤ r.sentAt)
      ∧ ∀ u ∈ x.readingsOf v, u.sentAt ≤ r.sentAt)
    (hexclusive : (x.next i d' b (some (v, r))).Exclusive)
    (hundisturbed : (x.next i d' b (some (v, r))).Undisturbed)
    (hvalid : (x.next i d' b (some (v, r))).Valid)
    (hcurrent : (x.next i d' b (some (v, r))).Current) :
    (x.next i d' b (some (v, r))).Sound := by
  have hlisted : (x.next i d' b (some (v, r))).Listed = x.Listed := by
    unfold Listed next
    rw [hstore]
  have hcarried : ∀ u o, (x.next i d' b (some (v, r))).Carried u o →
      (v, r) = (u, o) ∨ x.Carried u o :=
    fun u o h => h.of_next.imp_left fun h' =>
      Option.some.inj (hcarries.symm.trans h')
  have hback : ∀ u o, x.Carried u o →
      (x.next i d' b (some (v, r))).Carried u o :=
    fun u o h => (h.next hi).resolve_left (by simp [hnone])
  have hi' : i < x.errands.length := (List.getElem?_eq_some_iff.1 hi).1
  have hmem : d' ∈ (x.next i d' b (some (v, r))).errands :=
    List.mem_of_getElem? (List.getElem?_set_self hi')
  refine ⟨hvalid, ?_, ?_, hcurrent, ?_, ?_, ?_⟩
  · exact hstore ▸ hx.numbered
  · exact hstore ▸ hx.filed
  · rw [hlisted]
    intro u hu
    have hne : v ≠ u := fun heq => hu (heq ▸ hv)
    rw [positions_next_some, if_neg hne, hx.unlisted u hu]
    rfl
  · rw [hlisted]
    intro u hu
    show b.store.Follows _ _ _ _
    rw [hstore, readingsOf_next_some]
    by_cases heq : v = u
    · subst heq
      rw [if_pos rfl]
      refine (hx.follows v hu).accept horder.1 horder.2 ?_
        ⟨d', hmem, hcarries⟩ ?_
      · exact fun o ho => hexclusive.sentAt_ne hi hnone hcarries ho
      · exact fun o ho => (hcarried v o ho).imp_left fun h =>
          (Prod.mk.inj h).2.symm
    · rw [if_neg heq, List.append_nil]
      refine (hx.follows u hu).frame (fun _ => Iff.rfl) rfl fun o =>
        ⟨fun h => ?_, hback u o⟩
      exact (hcarried u o h).resolve_left fun h' => heq (Prod.mk.inj h').1
  · intro e he
    rcases List.mem_or_eq_of_mem_set he with hold | rfl
    · refine phase_frame (hx.phase e hold) hlisted fun u hu => ?_
      -- No reload relies on the vehicle of the reading.
      have hne : v ≠ u := by
        rintro rfl
        cases hu.symm.trans (hundisturbed d' hmem (v, r) hcarries e he)
      rw [last_next_some, if_neg hne]
    · exact hd _ (hlisted ▸ hv)

/-- **A reading that was on its way is stored.** The last point of its vehicle
is then the last reading that was let through, or that one is on its way
still. -/
theorem Sound.stored (hx : x.Sound) (hi : x.errands[i]? = some d)
    (hcarries : d.carries? = some (v, r)) (hnone : d'.carries? = none)
    (hd : Errand.Phase x.Listed x.Knows d')
    (hb : x.backend.store.save r v = some b.store)
    (hvalid : (x.next i d' b none).Valid)
    (hcurrent : (x.next i d' b none).Current) :
    (x.next i d' b none).Sound := by
  have hvehicles : b.store.vehicles = x.backend.store.vehicles := by
    rw [(Store.save_eq_some_iff.1 hb).2]
    rfl
  have hlisted : (x.next i d' b none).Listed = x.Listed := by
    unfold Listed next Store.findVehicle
    rw [hvehicles]
  have hcarried : ∀ u o, (x.next i d' b none).Carried u o → x.Carried u o :=
    fun u o h => h.of_next.resolve_left (by simp [hnone])
  have hback : ∀ u o, x.Carried u o →
      (v, r) = (u, o) ∨ (x.next i d' b none).Carried u o :=
    fun u o h => (h.next hi).imp_left fun h' =>
      Option.some.inj (hcarries.symm.trans h')
  refine ⟨hvalid, ?_, ?_, hcurrent, ?_, ?_, ?_⟩
  · show b.store.Numbered
    unfold Store.Numbered
    rw [hvehicles]
    exact hx.numbered
  · exact hx.filed.save hb
  · rw [hlisted, positions_next_none]
    exact hx.unlisted
  · rw [hlisted, readingsOf_next_none]
    intro u hu
    show b.store.Follows _ _ _ _
    by_cases heq : v = u
    · subst heq
      refine (hx.follows v hu).save hx.filed hb
        ⟨d, List.mem_of_getElem? hi, hcarries⟩ ?_ (hcarried v)
      exact fun o ho => (hback v o ho).imp_left fun h => (Prod.mk.inj h).2.symm
    · refine (hx.follows u hu).frame (fun q => ?_) ?_ fun o =>
        ⟨hcarried u o, fun h => ?_⟩
      · rw [hx.filed.mem_pointsOf_save hb]
        exact or_iff_left fun h => heq h.1
      · rw [hx.filed.lastPointOf_save hb, if_neg heq]
      · exact (hback u o h).resolve_left fun h' => heq (Prod.mk.inj h').1
  · intro e he
    have hphase : Errand.Phase x.Listed x.Knows e :=
      (List.mem_or_eq_of_mem_set he).elim (hx.phase e) fun heq => heq ▸ hd
    exact phase_frame hphase hlisted fun v _ => by rw [last_next_none]

end Next

/-- **One step keeps the invariant** if what it leaves is exclusive and
undisturbed. By the phase of the errand that goes on. There has to be a number
for a point, as one may be entered. -/
theorem Sound.step (hx : x.Sound) (h : x.step? e = some y)
    (hlast : x.backend.store.lastPoint < maxRowNumber) (horder : x.InOrder e)
    (hexclusive : y.Exclusive) (hundisturbed : y.Undisturbed) : y.Sound := by
  have hvalid := hx.valid.step h
  have hcurrent := (hx.valid.current_step_iff hx.current h).2 (hx.not_stale e)
  obtain ⟨v, r, rfl, hv, rfl⟩ | ⟨rfl, rfl⟩
      | ⟨i, d, d', b, a, rfl, hi, hstep, rfl⟩ :=
    step_cases hx.phase h
  · exact hx.begin (Errand.carries?_keep v r) (.check v r hv) hvalid
  · exact hx.begin rfl .list hvalid
  · cases hstep with
    | letThrough v r hv hholds =>
      have hin :=
        horder _ hi (v, r) (by rw [Errand.accepts?_keep, if_neg hholds]; rfl)
      exact hx.letThrough hi (Errand.carries?_keep v r) rfl hv
        (fun _ hl => .save v r hl) rfl hin
        hexclusive hundisturbed hvalid hcurrent
    | heldBack v r hholds =>
      exact hx.quiet hi (Errand.carries?_keep v r) rfl rfl (.kept v r _) hvalid
        hcurrent
    | stored v r store hsave =>
      exact hx.stored hi rfl rfl (.kept v r _) hsave hvalid hcurrent
    | unstored v r hfull => exact absurd hlast (Int.not_lt.2 hfull)
    | listed =>
      exact hx.quiet hi rfl rfl rfl (.look _ _ _ (knows_listed hx.numbered))
        hvalid hcurrent
    | looked asked w vs found hknows =>
      have hmem : w.id ∈ asked ++ [w.id] :=
        List.mem_append_right _ (List.mem_singleton_self _)
      have hnone : ∀ r, ¬ x.Carried w.id r := fun r =>
        hundisturbed.not_carried hi rfl (Errand.reliesOn_look hmem)
      have ho := hx.lastPosition (hknows.left w (.head _)) hnone
      exact hx.quiet hi rfl rfl rfl (.look _ _ _ (hknows.look ho)) hvalid
        hcurrent
    | swapped asked found hknows =>
      exact hx.quiet hi rfl rfl rfl (.reloaded asked _) hvalid hcurrent

/-- A step uses up one number at most. -/
theorem Sound.lastPoint_step (hx : x.Sound) (h : x.step? e = some y) :
    y.backend.store.lastPoint ≤ x.backend.store.lastPoint + 1 := by
  have hsame : x.backend.store.lastPoint ≤ x.backend.store.lastPoint + 1 := by
    omega
  obtain ⟨v, r, rfl, hv, rfl⟩ | ⟨rfl, rfl⟩
      | ⟨i, d, d', b, a, rfl, hi, hstep, rfl⟩ :=
    step_cases hx.phase h
  · exact hsame
  · exact hsame
  · cases hstep with
    | stored v r store hsave =>
      obtain ⟨-, rfl⟩ := Store.save_eq_some_iff.1 hsave
      exact Int.le_refl _
    | _ => exact hsame

/-- **Reloads of which none is disturbed** replace no entries by others. By
induction on the events; each uses up one number at most, so there is one left
for every step. -/
theorem Sound.not_stale_moves (hx : x.Sound)
    (hlast : x.backend.store.lastPoint + events.length ≤ maxRowNumber)
    (horder : ∀ m ∈ x.moves events, m.1.InOrder m.2)
    (hstates : ∀ y ∈ x.states events, y.Exclusive ∧ y.Undisturbed) :
    ∀ m ∈ x.moves events, ¬ m.1.Stale m.2 := by
  induction events generalizing x with
  | nil => exact List.forall_mem_nil _
  | cons e events ih =>
    unfold states at hstates
    unfold moves at horder ⊢
    rw [List.length_cons] at hlast
    rw [List.forall_mem_cons] at horder hstates ⊢
    have hlt : x.backend.store.lastPoint < maxRowNumber := by omega
    refine ⟨hx.not_stale e, ?_⟩
    cases h : x.step? e with
    | none => exact List.forall_mem_nil _
    | some y =>
      rw [h, Option.elim_some] at horder hstates
      obtain ⟨hexclusive, hundisturbed⟩ :=
        hstates.2 y (y.mem_states_self events)
      have hle := hx.lastPoint_step h
      have hsound := hx.step h hlt horder.1 hexclusive hundisturbed
      exact ih hsound (by omega) horder.2 hstates.2

/-- Nothing is under way, and the cache is settled. -/
theorem sound_start {b : Backend} (hb : b.store.Numbered)
    (hpoints : b.store.PointsFiled) (hsettled : b.Settled) :
    (start b).Sound where
  valid := valid_start b
  numbered := hb
  filed := hpoints
  current := current_start b
  unlisted := fun v hv => by
    have hget := (Backend.settled_iff hb).1 hsettled v
    have hfind : ¬ (b.store.findVehicle v).isSome := hv
    rw [Store.known_eq, if_neg hfind] at hget
    show (b.cache.get? v).toList ++ _ = []
    rw [hget]
    rfl
  follows := fun v hv => by
    have hget := (Backend.settled_iff hb).1 hsettled v
    have hfind : (b.store.findVehicle v).isSome := hv
    rw [Store.known_eq, if_pos hfind] at hget
    exact .nil hget.symm fun _ ⟨_, hd, _⟩ => List.not_mem_nil hd
  phase := List.forall_mem_nil _

/-- **No reading is let through that did not move.** The cache is current at
all times of a run exactly if no reload replaces its entries by others, and
then each reading that is let through is farther from the one before it than
the tolerance. That is so from a settled cache on, in any order of the steps,
if the readings of a vehicle come in the order in which they were sent, no two
of one fix are on their way at the same time, and none is while a reload relies
on its vehicle. -/
theorem apart_at_all_times (b : Backend) (events : List TrafficEvent) :
    ((∀ y ∈ (start b).states events, y.Current)
        ↔ ∀ m ∈ (start b).moves events, ¬ m.1.Stale m.2)
      ∧ ((∀ m ∈ (start b).moves events, ¬ m.1.Stale m.2) →
        ∀ y ∈ (start b).states events, y.Apart)
      ∧ (b.store.Numbered → b.store.PointsFiled → b.Settled →
        b.store.lastPoint + events.length ≤ maxRowNumber →
        (∀ m ∈ (start b).moves events, m.1.InOrder m.2) →
        (∀ y ∈ (start b).states events, y.Exclusive ∧ y.Undisturbed) →
        ∀ m ∈ (start b).moves events, ¬ m.1.Stale m.2) := by
  have hcurrent : (∀ y ∈ (start b).states events, y.Current)
      ↔ ∀ m ∈ (start b).moves events, ¬ m.1.Stale m.2 :=
    (valid_start b).current_states_iff (current_start b)
  refine ⟨hcurrent, fun h => ?_,
    fun hb hpoints hsettled hlast horder hstates => ?_⟩
  · exact (valid_start b).apart_states (apart_start b) (hcurrent.2 h)
  · exact (sound_start hb hpoints hsettled).not_stale_moves hlast horder hstates

instance (x : Traffic) (e : TrafficEvent) : Decidable (x.InOrder e) :=
  match e with
  | .serve i =>
    inferInstanceAs (Decidable (∀ d ∈ x.errands[i]?, ∀ a ∈ d.accepts? _, _ ∧ _))
  | .arrive _ _ => inferInstanceAs (Decidable True)
  | .reload => inferInstanceAs (Decidable True)

instance : DecidablePred Exclusive :=
  fun x => inferInstanceAs (Decidable (x.errands.Pairwise _))

instance : DecidablePred Undisturbed := fun x =>
  inferInstanceAs
    (Decidable (∀ d ∈ x.errands, ∀ a ∈ d.carries?, ∀ e ∈ x.errands, _ = false))

/-- A reading at one place, of a moment. -/
def halt (seconds : Int) : Reading :=
  ⟨7, 1, ⟨seconds, 0⟩, ⟨seconds, 0⟩, 55.0, 37.0, none, 0.0, 0, none, none, none,
    none, none, [], []⟩

/-- Two vehicles without points. -/
def twoVehicles : Backend :=
  Query.fleet [⟨⟨1⟩, "356307042441013", some 7, none, ⟨1⟩, .approved⟩,
    ⟨⟨2⟩, "356307042441014", some 8, none, ⟨1⟩, .approved⟩]

/-- One vehicle is stored before the reload asks for it, and the other is let
through and stored before its turn has come. -/
def inTurn : List TrafficEvent :=
  [.arrive ⟨1⟩ (halt 0), .serve 0, .reload, .serve 1, .serve 0, .serve 1,
    .arrive ⟨2⟩ (halt 60), .serve 2, .serve 2, .serve 1, .serve 1]

/-- The steps of two readings and of a reload alternate, and the reload finds
what was let through. -/
theorem apart_in_turn :
    twoVehicles.store.Numbered ∧ twoVehicles.store.PointsFiled
      ∧ twoVehicles.Settled
      ∧ twoVehicles.store.lastPoint + inTurn.length ≤ maxRowNumber
      ∧ (∀ m ∈ (start twoVehicles).moves inTurn, m.1.InOrder m.2)
      ∧ (∀ y ∈ (start twoVehicles).states inTurn, y.Exclusive ∧ y.Undisturbed)
      ∧ (∀ m ∈ (start twoVehicles).moves inTurn, ¬ m.1.Stale m.2)
      ∧ (∀ y ∈ (start twoVehicles).states inTurn, y.Apart)
      ∧ ((start twoVehicles).states inTurn).map (·.backend.cache.size)
        = [0, 0, 1, 1, 1, 1, 1, 1, 2, 2, 2, 2] := by
  have hb : twoVehicles.store.Filed := Store.filed_ofContents _
  have hpoints : twoVehicles.store.PointsFiled := Store.pointsFiled_ofContents _
  have hsettled : twoVehicles.Settled := Backend.settled_iff_entries.2 rfl
  have hlast : twoVehicles.store.lastPoint + inTurn.length ≤ maxRowNumber := by
    decide
  have horder : ∀ m ∈ (start twoVehicles).moves inTurn, m.1.InOrder m.2 := by
    decide +kernel
  have hstates : ∀ y ∈ (start twoVehicles).states inTurn, y.Exclusive
      ∧ y.Undisturbed := by
    decide +kernel
  obtain ⟨-, hapart, hundisturbed⟩ := apart_at_all_times twoVehicles inTurn
  have hnot := hundisturbed hb.numbered hpoints hsettled hlast horder hstates
  exact ⟨hb.numbered, hpoints, hsettled, hlast, horder, hstates, hnot,
    hapart hnot, by decide +kernel⟩

/-- A reading is let through, the vehicles are asked for before it is stored
and replaced after it, and the next one finds nothing to be compared with. -/
def outOfTurn : List TrafficEvent :=
  [.arrive ⟨1⟩ (halt 0), .serve 0, .reload, .serve 1, .serve 1, .serve 1,
    .serve 0, .serve 1, .arrive ⟨1⟩ (halt 60), .serve 2, .serve 2]

/-- **A vehicle that stands still is stored twice.** Its readings come in the
order in which they were sent, and never two at the same time. -/
theorem not_apart_out_of_turn : twoVehicles.Settled
    ∧ (∀ m ∈ (start twoVehicles).moves outOfTurn, m.1.InOrder m.2)
    ∧ (∀ y ∈ (start twoVehicles).states outOfTurn, y.Exclusive)
    ∧ ((start twoVehicles).states outOfTurn).getLast?.map (·.positions ⟨1⟩)
      = some [(halt 0).position, (halt 60).position]
    ∧ ((start twoVehicles).states outOfTurn).getLast?.map
        (fun y => (y.backend.store.pointsOf ⟨1⟩).map (·.sentAt))
      = some [⟨0, 0⟩, ⟨60, 0⟩]
    ∧ ((halt 0).position.within PositionCache.defaultTolerance
      (halt 60).position = true →
      ¬ ∀ y ∈ (start twoVehicles).states outOfTurn, y.Apart) := by
  have hsettled : twoVehicles.Settled := Backend.settled_iff_entries.2 rfl
  refine ⟨hsettled,
    by decide +kernel, by decide +kernel, rfl, by decide +kernel, ?_⟩
  intro hwithin hall
  have hapart : Position.Apart PositionCache.defaultTolerance
      [(halt 0).position, (halt 60).position] :=
        hall _ (List.mem_of_getLast? rfl) ⟨1⟩
  exact hapart.1 hwithin

end Traffic

end Telematics
