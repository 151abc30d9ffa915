import Mathlib.Data.List.Flatten
import Mathlib.Data.List.Pairwise
import Telematics.Proofs.Store.Editing
import Telematics.Proofs.Store.Tracks

/-!
# The tracks part the points

Where a point is among the tracks of a window is decided three times: by when
it was received it is there or not, by its vehicle it is in one track or
another, and by its fix and its own number it has a place in it. So nothing is
there twice, and of what belongs to the window nothing is missing
(`Store.Parted`). If one vehicle is asked for, its track is what it is among
the others.

The last point of a track is looked for nowhere: it is what the order leaves
at the end. Where a vehicle last was is a search of its own through all the
points (`Store.lastPointOf`), in which fixes that are the same are decided
again. The two agree as soon as the window has all the points of the vehicle.

All of this rests on one thing about the store, that points are under their
own numbers (`Store.PointsNumbered.parted`), and that holds of every store
that was opened and worked on (`Store.parted_edited`). Of the window nothing
is assumed: if it ends before it begins, there is no point in it and no track
either.
-/

namespace Telematics.Store

variable {s : Store} {p : TrackPoint} {t : Track} {start stop : Instant}
  {vehicle : Option VehicleId}

/-! ## One vehicle among all -/

/-- Numbers that are sorted out before are sorted out behind. -/
theorem distinct_filter (q : Int → Bool) (ks : List Int) :
    distinct (ks.filter q) = (distinct ks).filter q := by
  have hperm : (distinct (ks.filter q)).Perm ((distinct ks).filter q) := by
    refine (List.perm_ext_iff_of_nodup ((pairwise_distinct _).imp Int.ne_of_lt)
      (((pairwise_distinct _).imp Int.ne_of_lt).filter _)).2 fun k => ?_
    rw [mem_distinct, List.mem_filter, List.mem_filter, mem_distinct]
  exact hperm.eq_of_pairwise
    (fun k l _ _ hkl hlk => absurd hlk (Int.lt_asymm hkl))
    (pairwise_distinct _) ((pairwise_distinct _).filter _)

/-- **The track of one vehicle is what it is among all.** It makes no
difference whether the points of the others are left out before they are
parted or their tracks afterwards. -/
theorem tracks_eq_filter (s : Store) (vehicle : Option VehicleId)
    (start stop : Instant) :
    s.tracks vehicle start stop
      = (s.tracks none start stop).filter fun t =>
        vehicle.all (· = t.vehicle) := by
  have hwithin : s.pointsWithin vehicle start stop
      = (s.pointsWithin none start stop).filter fun p =>
        vehicle.all (· = p.vehicle) := by
    unfold pointsWithin
    rw [List.filter_filter]
    refine List.filter_congr fun p _ => ?_
    simp [Bool.and_assoc]
  have hnumbers : (s.pointsWithin vehicle start stop).map (·.vehicle.val)
      = ((s.pointsWithin none start stop).map (·.vehicle.val)).filter fun k =>
          vehicle.all (· = ⟨k⟩) := by
    rw [hwithin, List.filter_map]
    rfl
  unfold tracks
  dsimp only
  rw [hnumbers, distinct_filter, List.filter_map]
  refine List.map_congr_left fun k hk => ?_
  have hkeep := (List.mem_filter.1 hk).2
  refine congrArg
    (fun ps : List TrackPoint => Track.mk ⟨k⟩ (ps.mergeSort TrackPoint.ble)) ?_
  rw [hwithin, List.filter_filter]
  refine List.filter_congr fun p _ => ?_
  by_cases hp : p.vehicle = ⟨k⟩ <;> simp [hp, hkeep]

/-- **The tracks of a window** are those of the vehicles that have a point
there and are asked for. So no track is empty. -/
theorem mem_tracks_iff : t ∈ s.tracks vehicle start stop
    ↔ ∃ p ∈ s.pointsWithin none start stop,
      (∀ v ∈ vehicle, p.vehicle = v) ∧ s.trackOf p.vehicle start stop = t := by
  have hasked (w : VehicleId) : vehicle.all (· = w) = true ↔ ∀ v ∈ vehicle,
      w = v := by
    cases vehicle with
    | none => simp
    | some v => simp [eq_comm]
  rw [tracks_eq_filter, List.mem_filter, mem_tracks, hasked]
  constructor
  · rintro ⟨⟨p, hp, rfl⟩, hv⟩
    exact ⟨p, hp, hv, rfl⟩
  · rintro ⟨p, hp, hv, rfl⟩
    exact ⟨⟨p, hp, rfl⟩, hv⟩

/-! ## Within a track -/

/-- **Points are in a track by fix, then by number**, and no two are equal in
both. The order that the points are put in allows equals; that there are none
is due to their numbers. -/
theorem PointsNumbered.inOrder_trackOf (h : s.PointsNumbered) (v : VehicleId) :
    (s.trackOf v start stop).points.Pairwise fun p q =>
      p.sentAt < q.sentAt ∨ p.sentAt = q.sentAt ∧ p.id.val < q.id.val := by
  have hsorted : (s.trackOf v start stop).points.Pairwise fun p q => p.ble q :=
    TrackPoint.pairwise_mergeSort _
  refine (hsorted.and h.nodup_trackOf).imp_of_mem fun {p q} hp hq hpq => ?_
  obtain ⟨hsent, hid⟩ := TrackPoint.ble_iff.1 hpq.1
  by_cases heq : p.sentAt = q.sentAt
  · refine .inr ⟨heq, Int.lt_iff_le_and_ne.2 ⟨hid heq, fun hval => hpq.2 ?_⟩⟩
    exact h.eq_of_id (mem_pointsWithin.1 (mem_trackOf.1 hp).1).1
      (mem_pointsWithin.1 (mem_trackOf.1 hq).1).1 (PointId.val_inj.1 hval)
  · exact .inl ⟨hsent, heq⟩

/-- **The last point of a track is the last of the vehicle**, if the window
has all of its points. The end of a sorted list is a largest point, and of
these there is one only. -/
theorem PointsNumbered.lastPointOf_trackOf (h : s.PointsNumbered)
    {v : VehicleId} (hall : ∀ p ∈ s.pointsOf v, p.ReceivedWithin start stop) :
    (s.trackOf v start stop).points.getLast? = s.lastPointOf v := by
  have hmem (p : TrackPoint) : p ∈ (s.trackOf v start stop).points
      ↔ p ∈ s.pointsOf v := by
    rw [mem_trackOf, mem_pointsWithin, and_right_comm, ← mem_pointsOf]
    exact and_iff_left_of_imp (hall p)
  by_cases hnil : (s.trackOf v start stop).points = []
  · have hempty : s.pointsOf v = [] := by
      refine List.eq_nil_iff_forall_not_mem.2 fun p hp => ?_
      rw [← hmem, hnil] at hp
      exact List.not_mem_nil hp
    rw [hnil, lastPointOf_of_nil hempty]
    rfl
  · rw [List.getLast?_eq_some_getLast hnil, eq_comm, h.lastPointOf_eq_some_iff]
    refine ⟨(hmem _).1 (List.getLast_mem hnil), fun q hq => ?_⟩
    have hsorted : (s.trackOf v start stop).points.Pairwise fun p q =>
        p.ble q :=
      TrackPoint.pairwise_mergeSort _
    exact hsorted.rel_getLast_of_rel_getLast_getLast ((hmem q).2 hq)
      (TrackPoint.ble_refl _)

/-! ## The whole -/

/-- **The points of a window, parted into tracks**, those of one vehicle if one
is asked for. -/
structure Parted (s : Store) (vehicle : Option VehicleId) (start stop : Instant)
    (ts : List Track) : Prop where
  /-- No point is there twice, in one track or in two. -/
  once : (ts.flatMap (·.points)).Nodup
  /-- There are the points that were received within the window, and of the
  vehicle that is asked for, and no others. -/
  mem_iff : ∀ p, p ∈ ts.flatMap (·.points)
    ↔ p ∈ s.points.values ∧ p.ReceivedWithin start stop ∧ ∀ v ∈ vehicle,
      p.vehicle = v
  own : ∀ t ∈ ts, ∀ p ∈ t.points, p.vehicle = t.vehicle
  ne_nil : ∀ t ∈ ts, t.points ≠ []
  ascending : ts.Pairwise fun t u => t.vehicle.val < u.vehicle.val
  inOrder : ∀ t ∈ ts, t.points.Pairwise fun p q =>
    p.sentAt < q.sentAt ∨ p.sentAt = q.sentAt ∧ p.id.val < q.id.val
  /-- A track that has all the points of its vehicle ends where the vehicle
  last was. -/
  last : ∀ t ∈ ts,
    (∀ p ∈ s.points.values, p.vehicle = t.vehicle →
      p.ReceivedWithin start stop) →
      ∃ p, t.points.getLast? = some p ∧ s.lastPointOf t.vehicle = some p
        ∧ s.lastPosition t.vehicle = some p.position

/-- **Where points are under their numbers, the tracks part them.** What is
there once and what is there at all is known of the tracks of all vehicles;
the track of one is found among these. -/
theorem PointsNumbered.parted (h : s.PointsNumbered)
    (vehicle : Option VehicleId) (start stop : Instant) :
    s.Parted vehicle start stop (s.tracks vehicle start stop) where
  once := by
    have hall : ((s.tracks none start stop).flatMap (·.points)).Nodup :=
      (h.flatMap_tracks_perm start stop).nodup_iff.2 (h.nodup_values.filter _)
    rw [tracks_eq_filter]
    exact hall.sublist (List.filter_sublist.flatMap _)
  mem_iff p := by
    rw [List.mem_flatMap]
    constructor
    · rintro ⟨t, ht, hp⟩
      obtain ⟨q, -, hasked, rfl⟩ := mem_tracks_iff.1 ht
      obtain ⟨hwithin, hv⟩ := mem_trackOf.1 hp
      obtain ⟨hrow, hreceived⟩ := mem_pointsWithin.1 hwithin
      exact ⟨Table.mem_values.2 hrow, hreceived, hv ▸ hasked⟩
    · rintro ⟨hvalue, hreceived, hasked⟩
      have hwithin := mem_pointsWithin.2 ⟨Table.mem_values.1 hvalue, hreceived⟩
      exact ⟨_, mem_tracks_iff.2 ⟨p, hwithin, hasked, rfl⟩,
        mem_trackOf.2 ⟨hwithin, rfl⟩⟩
  own t ht p hp := by
    obtain ⟨q, -, -, rfl⟩ := mem_tracks_iff.1 ht
    exact (mem_trackOf.1 hp).2
  ne_nil t ht := by
    obtain ⟨q, hq, -, rfl⟩ := mem_tracks_iff.1 ht
    exact List.ne_nil_of_mem (mem_trackOf.2 ⟨hq, rfl⟩)
  ascending := by
    rw [tracks_eq_filter, tracks_eq]
    refine List.Pairwise.filter _ (List.pairwise_map.2 ?_)
    exact pairwise_distinct _
  inOrder t ht := by
    obtain ⟨q, -, -, rfl⟩ := mem_tracks_iff.1 ht
    exact h.inOrder_trackOf _
  last t ht hall := by
    obtain ⟨q, hq, -, rfl⟩ := mem_tracks_iff.1 ht
    have hne : (s.trackOf q.vehicle start stop).points ≠ [] :=
      List.ne_nil_of_mem (mem_trackOf.2 ⟨hq, rfl⟩)
    have hlast := h.lastPointOf_trackOf (v := q.vehicle) fun p hp => by
      obtain ⟨hrow, hv⟩ := mem_pointsOf.1 hp
      exact hall p (Table.mem_values.2 hrow) hv
    rw [List.getLast?_eq_some_getLast hne, eq_comm] at hlast
    exact ⟨_, List.getLast?_eq_some_getLast hne, hlast,
      congrArg (Option.map TrackPoint.position) hlast⟩

/-- **The tracks of a window part its points**, in any store that was opened
and worked on. A vehicle that is asked for has no track if none of its points
is in the window. -/
theorem parted_edited (seed : Option Contents) (es : List Edit)
    (vehicle : Option VehicleId) (start stop : Instant) :
    ((opened seed).edited es).Parted vehicle start stop
      (((opened seed).edited es).tracks vehicle start stop) :=
  ((orderly_opened seed).edited es).points.parted vehicle start stop

/-- A vehicle with two points of one fix and one of an earlier fix that came
between them, and a vehicle that was heard of too late. -/
def sameFixes : Contents where
  providers := []
  vehicles := []
  points := [⟨⟨1⟩, ⟨1⟩, ⟨55.0, 37.0, none⟩, ⟨20, 0⟩, ⟨20, 0⟩⟩,
    ⟨⟨2⟩, ⟨1⟩, ⟨55.0, 37.1, none⟩, ⟨10, 0⟩, ⟨30, 0⟩⟩,
    ⟨⟨3⟩, ⟨1⟩, ⟨55.0, 37.2, none⟩, ⟨20, 0⟩, ⟨40, 0⟩⟩,
    ⟨⟨4⟩, ⟨2⟩, ⟨55.0, 37.3, none⟩, ⟨15, 0⟩, ⟨60, 0⟩⟩]

/-- A vehicle without a point in the window has no track, and of two points of
one fix the one with the larger number ends the track. -/
theorem parted_sameFixes :
    (∀ t ∈ (opened (some sameFixes)).tracks none ⟨0, 0⟩ ⟨50, 0⟩,
      t.vehicle = ⟨1⟩)
      ∧ ∃ t ∈ (opened (some sameFixes)).tracks none ⟨0, 0⟩ ⟨50, 0⟩,
        t.points.getLast?.map (·.id) = some ⟨3⟩ := by
  have hparted := parted_edited (some sameFixes) [] none ⟨0, 0⟩ ⟨50, 0⟩
  have hfirst : ∀ p ∈ (opened (some sameFixes)).points.values,
      p.ReceivedWithin ⟨0, 0⟩ ⟨50, 0⟩ → p.vehicle = ⟨1⟩ := by decide
  have hvehicle : ∀ t ∈ (opened (some sameFixes)).tracks none ⟨0, 0⟩ ⟨50, 0⟩,
      t.vehicle = ⟨1⟩ := fun t ht => by
    obtain ⟨p, hp⟩ := List.exists_mem_of_ne_nil _ (hparted.ne_nil t ht)
    obtain ⟨hvalue, hwithin, -⟩ :=
      (hparted.mem_iff p).1 (List.mem_flatMap.2 ⟨t, ht, hp⟩)
    exact (hparted.own t ht p hp).symm.trans (hfirst p hvalue hwithin)
  have hthere : ∃ p ∈ (opened (some sameFixes)).points.values,
      p.ReceivedWithin ⟨0, 0⟩ ⟨50, 0⟩ := by decide
  obtain ⟨p, hvalue, hwithin⟩ := hthere
  obtain ⟨t, ht, -⟩ :=
    List.mem_flatMap.1 ((hparted.mem_iff p).2 ⟨hvalue, hwithin, nofun⟩)
  have hall : ∀ p ∈ (opened (some sameFixes)).points.values,
      p.vehicle = ⟨1⟩ → p.ReceivedWithin ⟨0, 0⟩ ⟨50, 0⟩ := by decide
  obtain ⟨q, hq, hpoint, -⟩ := hparted.last t ht (hvehicle t ht ▸ hall)
  have hid : ((opened (some sameFixes)).lastPointOf ⟨1⟩).map (·.id)
    = some ⟨3⟩ := rfl
  rw [hvehicle t ht] at hpoint
  refine ⟨hvehicle, t, ht, ?_⟩
  rw [hq, ← hid]
  exact congrArg (Option.map (·.id)) hpoint.symm

end Telematics.Store
