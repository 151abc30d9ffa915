import Mathlib.Data.List.Nodup
import Telematics.Proofs.Store.Points

/-!
# The tracks of a window

The points that were received within a window are parted by vehicle, and each
part is put in order. So every one of them is in one track and there once: the
tracks, one after the other, are the points of the window in another order
(`Store.PointsNumbered.flatMap_tracks_perm`). What is counted track by track
can therefore be counted over the window.

The track of a vehicle is written apart from the others (`Store.trackOf`),
also where the vehicle has no point in the window and there is no track of it
in the list. If points are taken out of a store, they are taken out of the
tracks and these are otherwise what they were, since a point has its place in
a track by its own fix and number
(`Store.PointsNumbered.points_trackOf_filter`).

The window is over when points were received, the order within a track over
when they were fixed. A point may have been fixed long before the window and
still be in it; neither of the two instants says anything about the other.
-/

namespace Telematics

/-- The point was received from one instant to before another. -/
def TrackPoint.ReceivedWithin (start stop : Instant) (p : TrackPoint) : Prop :=
  start ≤ p.receivedAt ∧ p.receivedAt < stop

instance (start stop : Instant) :
    DecidablePred (TrackPoint.ReceivedWithin start stop) :=
  fun _ => inferInstanceAs (Decidable (_ ∧ _))

namespace Store

variable {s s' : Store} {p : TrackPoint} {v : VehicleId} {t : Track}
  {start stop : Instant}

/-- Sorting numbers out loses none of them. -/
theorem mem_distinct {k : Int} {ks : List Int} : k ∈ distinct ks ↔ k ∈ ks := by
  have hrows : k ∈ distinct ks
      ↔ ((Table.ofList (ks.map fun k => (k, ()))).find? k).isSome := by
    simp only [distinct, List.mem_map, Option.isSome_iff_exists,
      Table.find?_eq_some_iff, Prod.exists, exists_and_right, exists_eq_right]
  have hself : (ks.map fun k => (k, ())).map (·.1) = ks :=
    List.map_map.trans (List.map_id' ks)
  rw [hrows, Table.isSome_find?_ofList, hself]

/-- What is left of them is in ascending order and has none twice. -/
theorem pairwise_distinct (ks : List Int) : (distinct ks).Pairwise (· < ·) :=
  List.pairwise_map.2 (Table.ascending _)

/-- **The points of a window** are those that were received in it. The
beginning of the window is part of it and its end is not. -/
theorem mem_pointsWithin : p ∈ s.pointsWithin none start stop
    ↔ (∃ k, (k, p) ∈ s.points.rows) ∧ p.ReceivedWithin start stop := by
  unfold pointsWithin
  rw [List.mem_filter, Table.mem_values]
  simp [TrackPoint.ReceivedWithin]

/-- No point is there twice. -/
theorem PointsNumbered.nodup_values (h : s.PointsNumbered) :
    s.points.values.Nodup := by
  refine List.pairwise_map.2
    (s.points.ascending.imp_of_mem fun {x y} hx hy hlt heq => ?_)
  rw [← h x.1 x.2 hx, ← h y.1 y.2 hy, heq] at hlt
  exact Int.lt_irrefl _ hlt

/-! ## The track of a vehicle -/

/-- **The track of a vehicle**: its points within a window, in order. -/
def trackOf (s : Store) (v : VehicleId) (start stop : Instant) : Track :=
  ⟨v, ((s.pointsOf v).filter (·.ReceivedWithin start stop)).mergeSort
    TrackPoint.ble⟩

/-- **What is in the track of a vehicle**: the points of the window that were
entered for it. -/
theorem mem_trackOf : p ∈ (s.trackOf v start stop).points
    ↔ p ∈ s.pointsWithin none start stop ∧ p.vehicle = v := by
  rw [trackOf, List.mem_mergeSort, List.mem_filter, mem_pointsOf,
    mem_pointsWithin, decide_eq_true_iff, and_right_comm]

/-- The tracks of a window, by the numbers of the vehicles that have points
there. -/
theorem tracks_eq (s : Store) (start stop : Instant) :
    s.tracks none start stop
      = (distinct ((s.pointsWithin none start stop).map (·.vehicle.val))).map
        fun v => s.trackOf ⟨v⟩ start stop := by
  refine List.map_congr_left fun v _ => ?_
  rw [trackOf, pointsOf, pointsWithin, List.filter_filter, List.filter_filter]
  refine congrArg
    (fun ps : List TrackPoint => Track.mk ⟨v⟩ (ps.mergeSort TrackPoint.ble)) ?_
  refine List.filter_congr fun p _ => ?_
  rw [Bool.eq_iff_iff]
  simp only [Option.all_none, Bool.true_and, Bool.and_eq_true,
    decide_eq_true_iff]
  exact and_comm

/-- **The tracks of a window** are those of the vehicles that have a point
there. Several points may give the same track. -/
theorem mem_tracks : t ∈ s.tracks none start stop
    ↔ ∃ p ∈ s.pointsWithin none start stop, s.trackOf p.vehicle start stop
      = t := by
  simp only [tracks_eq, List.mem_map, mem_distinct, exists_exists_and_eq_and]

theorem PointsNumbered.nodup_trackOf (h : s.PointsNumbered) :
    (s.trackOf v start stop).points.Nodup :=
  (List.mergeSort_perm _ _).nodup_iff.2 ((h.nodup_values.filter _).filter _)

/-- **Every point of a window is in one track, and there once.** The parts are
apart because they are of different vehicles, and each is only put into
another order. -/
theorem PointsNumbered.flatMap_tracks_perm (h : s.PointsNumbered)
    (start stop : Instant) :
    ((s.tracks none start stop).flatMap (·.points)).Perm
      (s.pointsWithin none start stop) := by
  have hapart : ∀ t ∈ s.tracks none start stop, t.points.Nodup := fun t ht => by
    obtain ⟨p, -, rfl⟩ := mem_tracks.1 ht
    exact h.nodup_trackOf
  have hdisjoint : (s.tracks none start stop).Pairwise
      (fun t u => List.Disjoint t.points u.points) := by
    rw [tracks_eq, List.pairwise_map]
    refine (pairwise_distinct _).imp fun {v w} hlt p hv hw => ?_
    have hvw : VehicleId.mk v = ⟨w⟩ :=
      (mem_trackOf.1 hv).2.symm.trans (mem_trackOf.1 hw).2
    exact Int.ne_of_lt hlt (congrArg VehicleId.val hvw)
  refine (List.perm_ext_iff_of_nodup (List.nodup_flatMap.2 ⟨hapart, hdisjoint⟩)
    (h.nodup_values.filter _)).2 fun p => ?_
  rw [List.mem_flatMap]
  constructor
  · rintro ⟨t, ht, hp⟩
    obtain ⟨q, -, rfl⟩ := mem_tracks.1 ht
    exact (mem_trackOf.1 hp).1
  · exact fun hp => ⟨_, mem_tracks.2 ⟨p, hp, rfl⟩, mem_trackOf.2 ⟨hp, rfl⟩⟩

/-- **Points that are taken out of a store are taken out of the tracks**,
which are otherwise what they were. What is sorted and then thinned out is
what is thinned out and then sorted, as there are no two points that the order
could exchange. -/
theorem PointsNumbered.points_trackOf_filter (h : s.PointsNumbered)
    {q : TrackPoint → Bool}
    (hleft : ∀ k p, (k, p) ∈ s'.points.rows ↔ (k, p) ∈ s.points.rows ∧ q p) :
    (s'.trackOf v start stop).points
      = (s.trackOf v start stop).points.filter q := by
  have hperm : ((s'.trackOf v start stop).points).Perm
      ((s.trackOf v start stop).points.filter q) := by
    refine (List.mergeSort_perm _ _).trans
      (.trans ?_ ((List.mergeSort_perm _ _).filter q).symm)
    simp only [pointsOf, Table.values_eq_filter hleft, List.filter_filter]
    refine .of_eq (List.filter_congr fun p _ => ?_)
    grind
  refine hperm.eq_of_pairwise (fun p p' hp hp' hle hge => ?_)
    (TrackPoint.pairwise_mergeSort _)
    ((TrackPoint.pairwise_mergeSort _).filter q)
  -- Of two points that are not told apart by the order, the number is the same.
  rw [hperm.mem_iff] at hp
  exact h.eq_of_id
    (mem_pointsWithin.1 (mem_trackOf.1 (List.mem_filter.1 hp).1).1).1
    (mem_pointsWithin.1 (mem_trackOf.1 (List.mem_filter.1 hp').1).1).1
    (TrackPoint.id_eq_of_ble hle hge)

end Store

end Telematics
