import Mathlib.Data.List.Pairwise
import Telematics.Proofs.Geo.Splitting
import Telematics.Proofs.Pipeline.Removal

/-!
# What thinning leaves alone

Thinning keeps both ends of a track, whatever the distances are and whatever
the tolerance is. The first and the last point of a vehicle are therefore
never dropped: a track is in the order in which points are compared, so if one
of the two is among the points of a track it stands at an end of it; and if it
was received outside the span of the pass it is in no track at all.

A pass deletes what the tracks drop, as they were when it began, and nothing
else (`Store.Sheds`). A point that comes before all others of its vehicle, or
behind them, does so among those that are left as well, if it is left; so both
ends are what they were, whether or not some of the requests fail.

For the last point of a vehicle and for the first one the argument is the
same, with the order turned round, so it is made once for a point that no
other is beyond (`Store.Sheds.end_eq`). It needs that the store can tell such
a point from the others, which is where the numbers of points come in. Of the
distances between points nothing is needed: not even a tolerance under which
all others are dropped takes the ends.
-/

namespace Telematics

namespace Track

variable {t : Track} {tolerance : Float} {p : TrackPoint}

/-- The points of a track, as they are thinned. -/
def places (t : Track) : List (Float × Float) :=
  t.points.map fun p => (p.position.longitude, p.position.latitude)

theorem length_places (t : Track) : t.places.length = t.points.length :=
  List.length_map _

/-- The numbers that are kept are those of the points at the places that are. -/
theorem keptIds_eq (t : Track) (tolerance : Float) : t.keptIds tolerance
    = (Thinning.keptPoints t.places tolerance).filterMap fun i =>
      t.points[i]?.map (·.id) := by
  simp only [keptIds, places, List.getElem?_toArray]

/-- A point that is kept is kept under its number. -/
theorem id_mem_keptIds {i : Nat} (hi : i < t.points.length)
    (hkept : i ∈ Thinning.keptPoints t.places tolerance) :
    t.points[i].id ∈ t.keptIds tolerance := by
  rw [keptIds_eq]
  refine List.mem_filterMap.2 ⟨i, hkept, ?_⟩
  rw [List.getElem?_eq_getElem hi]
  rfl

/-- **The numbers that are dropped** are the others. A number stands for its
point here, so a number that occurs twice in a track is kept if one of the two
is. -/
theorem droppedIds_eq (t : Track) (tolerance : Float) : t.droppedIds tolerance
    = (t.points.map (·.id)).filter (· ∉ t.keptIds tolerance) := by
  refine List.filter_congr fun id _ => ?_
  rw [Bool.eq_iff_iff, decide_eq_true_iff, Option.isNone_iff_eq_none,
    ← Option.not_isSome_iff_eq_none, Table.isSome_find?_ofList, List.map_map]
  refine not_congr ⟨fun h => ?_, fun h => List.mem_map.2 ⟨id, h, rfl⟩⟩
  obtain ⟨kept, hkept, hval⟩ := List.mem_map.1 h
  exact PointId.val_inj.1 hval ▸ hkept

theorem not_mem_droppedIds {id : PointId} (h : id ∈ t.keptIds tolerance) :
    id ∉ t.droppedIds tolerance := by
  rw [droppedIds_eq, List.mem_filter]
  exact fun hid => of_decide_eq_true hid.2 h

/-- **The beginning of a track is not dropped.** -/
theorem id_head_not_mem_droppedIds (h : t.points ≠ []) :
    (t.points.head h).id ∉ t.droppedIds tolerance := by
  have hpos : 0 < t.places.length := t.length_places ▸ List.length_pos_iff.2 h
  rw [List.head_eq_getElem]
  exact not_mem_droppedIds
    (id_mem_keptIds _ (Thinning.zero_mem_keptPoints hpos))

/-- Neither is the end of it. -/
theorem id_getLast_not_mem_droppedIds (h : t.points ≠ []) :
    (t.points.getLast h).id ∉ t.droppedIds tolerance := by
  have hpos : 0 < t.places.length := t.length_places ▸ List.length_pos_iff.2 h
  rw [List.getLast_eq_getElem]
  exact not_mem_droppedIds
    (id_mem_keptIds _ (t.length_places ▸ Thinning.pred_mem_keptPoints hpos))

/-- **The first point of a track that is in order is not dropped.** -/
theorem id_first_not_mem_droppedIds
    (hsorted : t.points.Pairwise (fun p q => p.ble q)) (hp : p ∈ t.points)
    (hfirst : ∀ q ∈ t.points, p.ble q) : p.id ∉ t.droppedIds tolerance := by
  have hne : t.points ≠ [] := List.ne_nil_of_mem hp
  have hle : (t.points.head hne).ble p :=
    hsorted.rel_head_of_rel_head_head hp (TrackPoint.ble_refl _)
  rw [TrackPoint.id_eq_of_ble (hfirst _ (List.head_mem hne)) hle]
  exact id_head_not_mem_droppedIds hne

/-- **The last point of a track that is in order is not dropped.** -/
theorem id_last_not_mem_droppedIds
    (hsorted : t.points.Pairwise (fun p q => p.ble q)) (hp : p ∈ t.points)
    (hlast : ∀ q ∈ t.points, q.ble p) : p.id ∉ t.droppedIds tolerance := by
  have hne : t.points ≠ [] := List.ne_nil_of_mem hp
  have hle : p.ble (t.points.getLast hne) :=
    hsorted.rel_getLast_of_rel_getLast_getLast hp (TrackPoint.ble_refl _)
  rw [TrackPoint.id_eq_of_ble hle (hlast _ (List.getLast_mem hne))]
  exact id_getLast_not_mem_droppedIds hne

end Track

namespace Store

variable {s s' : Store} {v : VehicleId} {p : TrackPoint} {t : Track}
  {P : PointId → Prop}

/-- What a track consists of: points of one vehicle, in order. -/
theorem of_mem_tracks {vehicle : Option VehicleId} {start stop : Instant}
    (h : t ∈ s.tracks vehicle start stop) :
    t.points.Pairwise (fun p q => p.ble q)
      ∧ ∀ p ∈ t.points, p ∈ s.pointsOf t.vehicle := by
  obtain ⟨v, -, rfl⟩ := List.mem_map.1 h
  refine ⟨TrackPoint.pairwise_mergeSort _, fun p hp => ?_⟩
  obtain ⟨hwithin, hv⟩ := List.mem_filter.1 (List.mem_mergeSort.1 hp)
  exact List.mem_filter.2 ⟨(List.mem_filter.1 hwithin).1, hv⟩

/-- Some track of the store drops the point. -/
def Drops (s : Store) (tolerance : Float) (id : PointId) : Prop :=
  ∃ vehicle start stop, ∃ t ∈ s.tracks vehicle start stop,
    id ∈ t.droppedIds tolerance

/-- A point that is dropped is dropped by a track of its vehicle that it is
in. -/
theorem PointsNumbered.exists_track_of_drops (h : s.PointsNumbered)
    {tolerance : Float} (hp : p ∈ s.pointsOf v)
    (hdrops : s.Drops tolerance p.id) :
    ∃ t : Track, t.points.Pairwise (fun p q => p.ble q)
      ∧ (∀ q ∈ t.points, q ∈ s.pointsOf v)
      ∧ p ∈ t.points ∧ p.id ∈ t.droppedIds tolerance := by
  obtain ⟨vehicle, start, stop, t, ht, hdropped⟩ := hdrops
  obtain ⟨hsorted, hof⟩ := of_mem_tracks ht
  obtain ⟨q, hq, hid⟩ := List.mem_map.1 (List.mem_filter.1 hdropped).1
  -- A point of the track that has the number is this one.
  have hqp : q = p :=
    h.eq_of_id (mem_pointsOf.1 (hof q hq)).1 (mem_pointsOf.1 hp).1 hid
  have hv : t.vehicle = v :=
    (mem_pointsOf.1 (hof q hq)).2.symm.trans (hqp ▸ (mem_pointsOf.1 hp).2)
  exact ⟨t, hsorted, hv ▸ hof, hqp ▸ hq, hdropped⟩

/-- **The first point of a vehicle is in no track, or at the front of one**,
and it is not dropped. -/
theorem PointsNumbered.firstPointOf_not_drops (h : s.PointsNumbered)
    {tolerance : Float} (hp : s.firstPointOf v = some p) :
    ¬ s.Drops tolerance p.id := by
  obtain ⟨hmem, hle⟩ := h.firstPointOf_eq_some_iff.1 hp
  intro hdrops
  obtain ⟨t, hsorted, hof, ht, hdropped⟩ := h.exists_track_of_drops hmem hdrops
  exact Track.id_first_not_mem_droppedIds hsorted ht
    (fun q hq => hle q (hof q hq)) hdropped

/-- **The last point of a vehicle is in no track, or at the end of one**, and
it is not dropped. -/
theorem PointsNumbered.lastPointOf_not_drops (h : s.PointsNumbered)
    {tolerance : Float} (hp : s.lastPointOf v = some p) :
    ¬ s.Drops tolerance p.id := by
  obtain ⟨hmem, hle⟩ := h.lastPointOf_eq_some_iff.1 hp
  intro hdrops
  obtain ⟨t, hsorted, hof, ht, hdropped⟩ := h.exists_track_of_drops hmem hdrops
  exact Track.id_last_not_mem_droppedIds hsorted ht
    (fun q hq => hle q (hof q hq)) hdropped

/-! ## What is left -/

/-- **Points went that were to go**, and nothing else did. -/
structure Sheds (P : PointId → Prop) (s s' : Store) : Prop where
  vehicles : s'.vehicles = s.vehicles
  lastVehicle : s'.lastVehicle = s.lastVehicle
  lastPoint : s'.lastPoint = s.lastPoint
  points : ∀ k p, (k, p) ∈ s'.points.rows → (k, p) ∈ s.points.rows
  kept : ∀ k p, (k, p) ∈ s.points.rows → ¬ P ⟨k⟩ → (k, p) ∈ s'.points.rows

/-- If exactly these points are gone, points went that were to go. -/
theorem Loses.sheds {Q : PointId → Prop} (h : s.Loses Q s')
    (hQ : ∀ id, Q id → P id) :
    s.Sheds P s' where
  vehicles := h.vehicles
  lastVehicle := h.lastVehicle
  lastPoint := h.lastPoint
  points k p hp := ((h.points k p).1 hp).1
  kept k p hp hnot := (h.points k p).2 ⟨hp, fun hk => hnot (hQ _ hk)⟩

theorem Sheds.mem_pointsOf (h : s.Sheds P s') (hp : p ∈ s'.pointsOf v) :
    p ∈ s.pointsOf v := by
  obtain ⟨⟨k, hk⟩, hv⟩ := Store.mem_pointsOf.1 hp
  exact Store.mem_pointsOf.2 ⟨⟨k, h.points k p hk⟩, hv⟩

/-- A point that is not to go is left. -/
theorem Sheds.mem_pointsOf_of_not (h : s.Sheds P s') (hs : s.PointsNumbered)
    (hp : p ∈ s.pointsOf v) (hnot : ¬ P p.id) : p ∈ s'.pointsOf v := by
  obtain ⟨⟨k, hk⟩, hv⟩ := Store.mem_pointsOf.1 hp
  obtain rfl := hs k p hk
  exact Store.mem_pointsOf.2 ⟨⟨_, h.kept _ p hk hnot⟩, hv⟩

theorem Sheds.pointsNumbered (h : s.Sheds P s') (hs : s.PointsNumbered) :
    s'.PointsNumbered :=
  fun k p hp => hs k p (h.points k p hp)

/-- **What is at an end of all that a vehicle has stays there**, if it does
not go itself. -/
theorem Sheds.end_eq (h : s.Sheds P s') (hs : s.PointsNumbered)
    {x x' : Option TrackPoint} {R : TrackPoint → TrackPoint → Prop}
    (hx : ∀ {p}, x = some p ↔ p ∈ s.pointsOf v ∧ ∀ q ∈ s.pointsOf v, R q p)
    (hx' : ∀ {p}, x' = some p ↔ p ∈ s'.pointsOf v ∧ ∀ q ∈ s'.pointsOf v, R q p)
    (hex : s.pointsOf v ≠ [] → x ≠ none)
    (hkept : ∀ {p}, x = some p → ¬ P p.id) : x' = x := by
  cases h₀ : x with
  | some p =>
    obtain ⟨hp, hle⟩ := hx.1 h₀
    exact hx'.2 ⟨h.mem_pointsOf_of_not hs hp (hkept h₀),
      fun q hq => hle q (h.mem_pointsOf hq)⟩
  | none =>
    refine Option.eq_none_iff_forall_ne_some.2 fun p hp => ?_
    exact hex (List.ne_nil_of_mem (h.mem_pointsOf (hx'.1 hp).1)) h₀

/-- **The last point of a vehicle stays the last**, if it is not to go. -/
theorem Sheds.lastPointOf_eq (h : s.Sheds P s') (hs : s.PointsNumbered)
    (hkept : ∀ {p}, s.lastPointOf v = some p → ¬ P p.id) :
    s'.lastPointOf v = s.lastPointOf v := by
  refine h.end_eq hs hs.lastPointOf_eq_some_iff
    (h.pointsNumbered hs).lastPointOf_eq_some_iff
    (fun hne hnone => ?_) hkept
  obtain ⟨q, -, hlast, -⟩ := exists_lastPointOf hne
  cases hlast.symm.trans hnone

/-- **The first point of a vehicle stays the first**, if it is not to go. -/
theorem Sheds.firstPointOf_eq (h : s.Sheds P s') (hs : s.PointsNumbered)
    (hkept : ∀ {p}, s.firstPointOf v = some p → ¬ P p.id) :
    s'.firstPointOf v = s.firstPointOf v := by
  refine h.end_eq hs hs.firstPointOf_eq_some_iff
    (h.pointsNumbered hs).firstPointOf_eq_some_iff
    (fun hne hnone => ?_) hkept
  obtain ⟨q, -, hfirst, -⟩ := exists_firstPointOf hne
  cases hfirst.symm.trans hnone

/-- **Points went, and no last one**: every vehicle is still where it last
was. -/
structure Thins (s s' : Store) : Prop where
  vehicles : s'.vehicles = s.vehicles
  lastVehicle : s'.lastVehicle = s.lastVehicle
  lastPoint : s'.lastPoint = s.lastPoint
  points : ∀ k p, (k, p) ∈ s'.points.rows → (k, p) ∈ s.points.rows
  lastPointOf : ∀ v, s'.lastPointOf v = s.lastPointOf v

end Store

/-! ## A pass -/

namespace Thinner

/-- **A pass of thinning deletes what the tracks drop**, and touches nothing
else, whatever fails of it. -/
theorem sheds_run (b : Backend) (tolerance : Float) (lookback : Duration)
    (now : Instant) (faults : Faults) :
    (Task.runIn faults (run tolerance lookback now) b).2.cache = b.cache
      ∧ b.store.Sheds (b.store.Drops tolerance)
        (Task.runIn faults (run tolerance lookback now) b).2.store := by
  rcases run_cases tolerance lookback now faults b with
    ⟨e, h⟩ | ⟨span, report, c, -, h, hloses⟩
  · rw [h]
    exact ⟨rfl, (Store.Loses.refl _).sheds nofun⟩
  · rw [h]
    refine ⟨hloses.cache, hloses.store.sheds ?_⟩
    rintro id ⟨⟨t, ht, hid⟩, -⟩
    exact ⟨_, _, _, t, ht, hid⟩

/-- **A pass of thinning moves no vehicle**, and touches nothing but points,
whatever fails of it. -/
theorem thins_run (hb : b.store.PointsNumbered) (tolerance : Float)
    (lookback : Duration) (now : Instant) (faults : Faults) :
    (Task.runIn faults (run tolerance lookback now) b).2.cache = b.cache
      ∧ b.store.Thins
        (Task.runIn faults (run tolerance lookback now) b).2.store := by
  obtain ⟨hcache, hsheds⟩ := sheds_run b tolerance lookback now faults
  exact ⟨hcache, hsheds.vehicles, hsheds.lastVehicle, hsheds.lastPoint,
    hsheds.points, fun _ => hsheds.lastPointOf_eq hb hb.lastPointOf_not_drops⟩

end Thinner

end Telematics
