import Telematics.Proofs.Pipeline.Thinning

/-!
# Both ends of every track outlive thinning

A pass of thinning looks at the points that were received within a span of
time, and a vehicle is where the point with the latest fix says. The two
orders need not agree: a terminal that was out of reach reports late, and what
it reports may be the end of a pass's track and the middle of the vehicle's,
or the reverse. No point is lost that counts all the same, since the ends of
each track are kept and every end of a vehicle's points is an end of the track
that it is in, if it is in one.

That a point can be told by its number is all that is asked of the store, and
it is so in every store that comes about (`Store.Arises`): one that is filled
from a file or by hand, and whatever is asked of it afterwards.

With that, what remains is to put together what thinning leaves
(`Thinner.sheds_run`) with the fact that it drops neither end of what a
vehicle has (`Store.PointsNumbered.firstPointOf_not_drops`,
`Store.PointsNumbered.lastPointOf_not_drops`). The position of a vehicle is
that of its last point, so `Thinner.ends_run` says also that no vehicle is
moved. Nothing is said of the points in between.
-/

namespace Telematics

namespace Store

/-- **The stores that come about.** -/
inductive Arises : Store → Prop where
  /-- A store is filled from rows, or from none. -/
  | ofContents (c : Contents) : Arises (ofContents c)
  | addProviders {s : Store} (h : Arises s) (ps : List Provider) :
    Arises (s.addProviders ps)
  | putVehicle {s : Store} (h : Arises s) (v : Vehicle) :
    Arises (s.putVehicle v)
  /-- A point is entered by hand, and there is a number for it. -/
  | insertPoint {s s' : Store} (h : Arises s) {v : VehicleId} {p : Position}
    {sentAt receivedAt : Instant} {id : PointId}
    (hs : s.insertPoint v p sentAt receivedAt = some (id, s')) : Arises s'
  /-- Something is asked for by a program. -/
  | perform {b : Backend} (h : Arises b.store) (r : Request) :
    Arises (b.perform r).2.store

/-- Whatever is asked for, points stay under their numbers. -/
theorem PointsNumbered.perform {b : Backend} (h : b.store.PointsNumbered)
    (r : Request) :
    (b.perform r).2.store.PointsNumbered := by
  cases r with
  | insertVehicle v =>
    simp only [Backend.perform, insertVehicle]
    cases nextRowNumber? b.store.lastVehicle <;> exact h
  | updateOid id oid =>
    simp only [Backend.perform, updateOid]
    cases b.store.vehicles.find? id.val <;> exact h
  | deletePoint id =>
    simp only [Backend.perform, deletePoint]
    cases b.store.points.find? id.val with
    | none => exact h
    | some p => exact h.erase rfl
  | save sink r v =>
    cases sink with
    | store =>
      simp only [Backend.perform]
      cases hs : b.store.save r v with
      | none => exact h
      | some s => exact h.save hs
    | log => exact h
  | _ => exact h

/-- **Points are under their numbers in every store that comes about.** By
induction on how the store came about. -/
theorem Arises.pointsNumbered {s : Store} (h : s.Arises) :
    s.PointsNumbered := by
  induction h with
  | ofContents c => exact (pointsFiled_ofContents c).numbered
  | addProviders _ ps ih =>
    exact List.foldlRecOn _ _ ih fun _ h _ _ => h
  | putVehicle _ v ih => exact ih
  | insertPoint _ hs ih =>
    obtain ⟨-, -, rfl⟩ := insertPoint_eq_some_iff.1 hs
    exact ih.insert (p := ⟨⟨_⟩, _, _, _, _⟩) rfl
  | perform _ r ih => exact ih.perform r

end Store

namespace Thinner

variable {b : Backend}

/-- **Thinning loses neither end.** In any store, with any tolerance, over any
span and at any time, and whichever of its requests fail: once a pass is over
every vehicle is where it was before, and its first point is what it was. The
pass itself may have failed, in which case nothing was deleted. -/
theorem ends_run (hb : b.store.Arises) (tolerance : Float) (lookback : Duration)
    (now : Instant) (faults : Faults) (v : VehicleId) :
    (Task.runIn faults (run tolerance lookback now) b).2.store.lastPosition v
        = b.store.lastPosition v
      ∧ (Task.runIn faults (run tolerance lookback now) b).2.store.lastPointOf v
        = b.store.lastPointOf v
      ∧ (Task.runIn faults (run tolerance lookback now) b).2.store.firstPointOf
          v = b.store.firstPointOf v := by
  have hnumbered := hb.pointsNumbered
  obtain ⟨-, hsheds⟩ := sheds_run b tolerance lookback now faults
  have hlast :=
    hsheds.lastPointOf_eq hnumbered hnumbered.lastPointOf_not_drops (v := v)
  refine ⟨?_, hlast,
    hsheds.firstPointOf_eq hnumbered hnumbered.firstPointOf_not_drops⟩
  rw [Store.lastPosition, hlast]
  rfl

/-- Points of a vehicle that went straight ahead. The second is sent last and
received first. -/
def straightTrack : Store.Contents where
  providers := []
  vehicles := []
  points := [⟨⟨1⟩, ⟨1⟩, ⟨55.0, 37.0, none⟩, ⟨10, 0⟩, ⟨50, 0⟩⟩,
    ⟨⟨2⟩, ⟨1⟩, ⟨55.0, 37.3, none⟩, ⟨40, 0⟩, ⟨45, 0⟩⟩,
    ⟨⟨3⟩, ⟨1⟩, ⟨55.0, 37.1, none⟩, ⟨20, 0⟩, ⟨55, 0⟩⟩,
    ⟨⟨4⟩, ⟨1⟩, ⟨55.0, 37.2, none⟩, ⟨30, 0⟩, ⟨60, 0⟩⟩]

/-- The third point cannot be deleted. -/
def oneFailure : Faults
  | .deletePoint id => if id = ⟨3⟩ then some (.backend "disk full") else none
  | _ => none

/-- Two points are to go, and one of them cannot: the vehicle is still where
the second says, and still began where the first says. -/
theorem ends_of_straightTrack :
    let b : Backend := ⟨.ofContents straightTrack, .empty 10.0, []⟩
    let c := (Task.runIn oneFailure (run 0.001 (.ofSeconds 86400) ⟨100, 0⟩) b).2
    b.store.Arises ∧ c.store.lastPosition ⟨1⟩ = some ⟨55.0, 37.3, none⟩
      ∧ (c.store.firstPointOf ⟨1⟩).map (·.position)
        = some ⟨55.0, 37.0, none⟩ := by
  intro b c
  have hb : b.store.Arises := .ofContents straightTrack
  obtain ⟨hlast, -, hfirst⟩ :=
    ends_run hb 0.001 (.ofSeconds 86400) ⟨100, 0⟩ oneFailure ⟨1⟩
  refine ⟨hb, hlast, ?_⟩
  have hone : b.store.firstPointOf ⟨1⟩
      = some ⟨⟨1⟩, ⟨1⟩, ⟨55.0, 37.0, none⟩, ⟨10, 0⟩, ⟨50, 0⟩⟩ := by
    refine hb.pointsNumbered.firstPointOf_eq_some_iff.2
      ⟨.head _, List.all_eq_true.1 ?_⟩
    decide +kernel
  rw [hfirst, hone]
  rfl

end Thinner

end Telematics
