import Telematics.Proofs.Store.Identity

/-!
# The last point of a vehicle

Nothing in a store says where a vehicle last was. It is looked for each time,
among all the points of the vehicle: the one with the latest fix, and of
several with one fix the one with the highest number. Points are filed under
their numbers, so there is no more than one such point
(`Store.PointsNumbered.lastPointOf_eq_some_iff`), and at the other end there
is no more than one that comes first. A point that is entered has a higher
number than all there are, so it takes the last place if its fix is not
earlier than the others. When no numbers are left no point is entered
(`Store.save_eq_none_iff`).

The two ends are found in different ways, the last point by one pass with the
best so far in hand and the first one, which only statements are about, at the
head of the sorted list. What is needed of either is that it exists and that
nothing lies beyond it (`Store.exists_lastPointOf`,
`Store.exists_firstPointOf`); that it is the only such point follows for both
from the numbers (`Store.PointsNumbered.eq_some_iff`).
-/

namespace Telematics

theorem PointId.val_inj {i j : PointId} : i.val = j.val ↔ i = j := by
  cases i
  cases j
  simp

namespace TrackPoint

variable {p q r : TrackPoint}

/-- **The order of points**: by fix, and by number among points of one fix.
Points of one fix and one number would be equal in it, which numbers exclude
where points are filed under them. -/
theorem ble_iff :
    p.ble q
      ↔ p.sentAt ≤ q.sentAt ∧ (p.sentAt = q.sentAt → p.id.val ≤ q.id.val) := by
  have hlt : p.sentAt < q.sentAt ↔ p.sentAt ≤ q.sentAt ∧ p.sentAt ≠ q.sentAt :=
    Iff.rfl
  have hle : p.sentAt = q.sentAt → p.sentAt ≤ q.sentAt :=
    fun h => h ▸ Instant.le_refl _
  unfold ble
  rw [Bool.or_eq_true, Bool.and_eq_true, decide_eq_true_iff, decide_eq_true_iff,
    decide_eq_true_iff, hlt]
  by_cases heq : p.sentAt = q.sentAt
  · simp [heq, Instant.le_refl]
  · simp [heq]

theorem ble_refl (p : TrackPoint) : p.ble p :=
  ble_iff.2 ⟨Instant.le_refl _, fun _ => Int.le_refl _⟩

theorem ble_trans (hpq : p.ble q) (hqr : q.ble r) : p.ble r := by
  rw [ble_iff] at *
  refine ⟨Instant.le_trans hpq.1 hqr.1, fun heq => ?_⟩
  -- If the outer fixes are the same, the one between them is too.
  have hmid : p.sentAt = q.sentAt := Instant.le_antisymm hpq.1 (heq ▸ hqr.1)
  exact Int.le_trans (hpq.2 hmid) (hqr.2 (hmid.symm.trans heq))

/-- Of two points one does not come behind the other. -/
theorem ble_total (p q : TrackPoint) : p.ble q ∨ q.ble p := by
  simp only [ble_iff]
  by_cases heq : p.sentAt = q.sentAt
  · simp only [heq, Instant.le_refl, true_and, forall_const]
    omega
  · rcases Instant.le_total p.sentAt q.sentAt with h | h
    · exact .inl ⟨h, fun h' => absurd h' heq⟩
    · exact .inr ⟨h, fun h' => absurd h'.symm heq⟩

/-- Points neither of which comes before the other have one number. They need
not be one point, unless points are filed under their numbers. -/
theorem id_eq_of_ble (hpq : p.ble q) (hqp : q.ble p) : p.id = q.id := by
  rw [ble_iff] at hpq hqp
  have heq : p.sentAt = q.sentAt := Instant.le_antisymm hpq.1 hqp.1
  exact congrArg PointId.mk (Int.le_antisymm (hpq.2 heq) (hqp.2 heq.symm))

theorem pairwise_mergeSort (ps : List TrackPoint) :
    (ps.mergeSort ble).Pairwise (fun p q => p.ble q) := by
  refine List.pairwise_mergeSort ?_ ?_ ps
  · exact fun _ _ _ => ble_trans
  · exact fun p q => by simpa using p.ble_total q

end TrackPoint

/-- The rows after one was taken out. -/
theorem Table.mem_erase {α : Type} {t : Table α} {k : Int} {x : Int × α} :
    x ∈ (t.erase k).rows ↔ x ∈ t.rows ∧ x.1 ≠ k := by
  show x ∈ t.rows.filter (·.1 != k) ↔ _
  simp

namespace Store

variable {s s' : Store} {v w : VehicleId} {p q : TrackPoint} {r : Reading}
  {id : PointId}
variable {sent received : Instant} {place : Position}

/-! ## Points under their numbers -/

/-- Every point is filed under the number that it carries. -/
def PointsNumbered (s : Store) : Prop :=
  ∀ k p, (k, p) ∈ s.points.rows → p.id.val = k

/-- **Points are filed under their numbers**, and none of these is larger than
the one that is remembered as the last. -/
structure PointsFiled (s : Store) : Prop where
  numbered : s.PointsNumbered
  le_last : ∀ k p, (k, p) ∈ s.points.rows → k ≤ s.lastPoint

/-- Points under one number are one point. -/
theorem PointsNumbered.eq_of_id (h : s.PointsNumbered)
    (hp : ∃ k, (k, p) ∈ s.points.rows) (hq : ∃ k, (k, q) ∈ s.points.rows)
    (hid : p.id = q.id) : p = q := by
  obtain ⟨k, hk⟩ := hp
  obtain ⟨l, hl⟩ := hq
  have hkl : k = l := by rw [← h k p hk, ← h l q hl, hid]
  exact Table.eq_of_mem hk (hkl ▸ hl)

theorem PointsNumbered.insert (h : s.PointsNumbered)
    (hs : s'.points = s.points.insert p.id.val p) : s'.PointsNumbered := by
  intro k q hq
  rw [hs, Table.mem_insert] at hq
  rcases hq with heq | ⟨hq, -⟩
  · obtain ⟨rfl, rfl⟩ := Prod.mk.inj heq
    rfl
  · exact h k q hq

theorem PointsNumbered.erase (h : s.PointsNumbered) {k : Int}
    (hs : s'.points = s.points.erase k) : s'.PointsNumbered := by
  intro l q hq
  rw [hs, Table.mem_erase] at hq
  exact h l q hq.1

/-- The number that is remembered has to be no smaller than it was, and no
smaller than that of the point that is filed. -/
theorem PointsFiled.insert (h : s.PointsFiled)
    (hs : s'.points = s.points.insert p.id.val p) (hp : p.id.val ≤ s'.lastPoint)
    (hlast : s.lastPoint ≤ s'.lastPoint) : s'.PointsFiled := by
  refine ⟨h.numbered.insert hs, fun k q hq => ?_⟩
  rw [hs, Table.mem_insert] at hq
  rcases hq with heq | ⟨hq, -⟩
  · exact (Prod.mk.inj heq).1 ▸ hp
  · exact Int.le_trans (h.le_last k q hq) hlast

/-- **What entering a point does**: it is filed behind the last number, which
was not the largest there is. Where the point is and when it was there have no
part in it. -/
theorem insertPoint_eq_some_iff :
    s.insertPoint v place sent received = some (id, s') ↔
    s.lastPoint < maxRowNumber ∧ id = ⟨s.lastPoint + 1⟩
      ∧ s' = s.enterPoint v place sent received (s.lastPoint + 1) := by
  unfold insertPoint
  simp only [Option.map_eq_some_iff, nextRowNumber?_eq_some_iff, Prod.mk.injEq]
  constructor
  · rintro ⟨_, ⟨hlt, rfl⟩, rfl, rfl⟩
    exact ⟨hlt, rfl, rfl⟩
  · rintro ⟨hlt, rfl, rfl⟩
    exact ⟨_, ⟨hlt, rfl⟩, rfl, rfl⟩

/-- **There is no new point** exactly if the largest number there is was
given. Points that were deleted have used up their numbers. -/
theorem insertPoint_eq_none_iff :
    s.insertPoint v place sent received = none
      ↔ maxRowNumber ≤ s.lastPoint := by
  unfold insertPoint
  rw [Option.map_eq_none_iff, nextRowNumber?_eq_none_iff]

/-- The point that a reading becomes. -/
def newPoint (s : Store) (r : Reading) (v : VehicleId) : TrackPoint :=
  ⟨⟨s.lastPoint + 1⟩, v, r.position, r.sentAt, r.receivedAt⟩

/-- **What keeping a reading does**: it becomes a point behind all others. -/
theorem save_eq_some_iff : s.save r v = some s' ↔ s.lastPoint < maxRowNumber
    ∧ s' = s.enterPoint v r.position r.sentAt r.receivedAt
      (s.lastPoint + 1) := by
  unfold save
  simp only [Option.map_eq_some_iff, Prod.exists, insertPoint_eq_some_iff]
  constructor
  · rintro ⟨_, _, ⟨hlt, -, rfl⟩, rfl⟩
    exact ⟨hlt, rfl⟩
  · rintro ⟨hlt, rfl⟩
    exact ⟨_, _, ⟨hlt, rfl, rfl⟩, rfl⟩

/-- A reading cannot be kept exactly if there are no numbers left. -/
theorem save_eq_none_iff : s.save r v = none ↔ maxRowNumber ≤ s.lastPoint := by
  unfold save
  rw [Option.map_eq_none_iff, insertPoint_eq_none_iff]

theorem points_of_save (hs : s.save r v = some s') :
    s'.points = s.points.insert (s.newPoint r v).id.val (s.newPoint r v) := by
  obtain ⟨-, rfl⟩ := save_eq_some_iff.1 hs
  rfl

theorem PointsNumbered.save (h : s.PointsNumbered) (hs : s.save r v = some s') :
    s'.PointsNumbered :=
  h.insert (points_of_save hs)

theorem PointsFiled.save (h : s.PointsFiled) (hs : s.save r v = some s') :
    s'.PointsFiled := by
  refine h.insert (points_of_save hs) ?_ ?_
  · obtain ⟨-, rfl⟩ := save_eq_some_iff.1 hs
    exact Int.le_refl _
  · obtain ⟨-, rfl⟩ := save_eq_some_iff.1 hs
    show s.lastPoint ≤ s.lastPoint + 1
    omega

/-- **A store that is filled from rows has its points under their numbers**,
whatever the rows are. The last row of a number is the one that stays, and it
carries that number. -/
theorem pointsFiled_ofContents (c : Contents) : (ofContents c).PointsFiled := by
  have hproviders : (empty.addProviders c.providers).PointsFiled :=
    List.foldlRecOn _ _ ⟨nofun, nofun⟩ (fun _ h _ _ => ⟨h.numbered, h.le_last⟩)
  have hvehicles : (c.vehicles.foldl Store.putVehicle
      (empty.addProviders c.providers)).PointsFiled :=
    List.foldlRecOn _ _ hproviders (fun _ h _ _ => ⟨h.numbered, h.le_last⟩)
  refine List.foldlRecOn _ _ hvehicles (fun _ h p _ => ?_)
  exact h.insert rfl (Int.le_max_right _ _) (Int.le_max_left _ _)

/-- **A new point comes behind the others.** Its number is larger than
theirs. -/
theorem PointsFiled.values_save (h : s.PointsFiled)
    (hs : s.save r v = some s') :
    s'.points.values = s.points.values ++ [s.newPoint r v] := by
  rw [points_of_save hs]
  exact Table.values_insert_of_lt fun x hx =>
    Int.lt_add_one_of_le (h.le_last x.1 x.2 hx)

/-! ## The last of them -/

/-- The points of a vehicle, by number. -/
def pointsOf (s : Store) (v : VehicleId) : List TrackPoint :=
  s.points.values.filter (·.vehicle = v)

theorem mem_pointsOf :
    p ∈ s.pointsOf v ↔ (∃ k, (k, p) ∈ s.points.rows) ∧ p.vehicle = v := by
  unfold pointsOf
  rw [List.mem_filter, Table.mem_values]
  simp

/-- The last of a point and the points that follow it in a list. -/
theorem exists_foldl_later (p : TrackPoint) (ps : List TrackPoint) :
    ∃ q ∈ p :: ps,
      ps.foldl (fun best p => some (best.elim p (later · p))) (some p) = some q
      ∧ ∀ o ∈ p :: ps, o.ble q := by
  induction ps generalizing p with
  | nil => exact ⟨p, .head _, rfl, List.forall_mem_singleton.2 p.ble_refl⟩
  | cons o ps ih =>
    obtain ⟨q, hmem, hfold, hle⟩ := ih (later p o)
    obtain ⟨hlater, hrest⟩ := List.forall_mem_cons.1 hle
    refine ⟨q, ?_, hfold, ?_⟩
    · rcases List.mem_cons.1 hmem with rfl | hmem
      · unfold later
        split <;> simp
      · exact .tail _ (.tail _ hmem)
    · rw [List.forall_mem_cons, List.forall_mem_cons]
      unfold later at hlater
      split at hlater
      · next hpo => exact ⟨TrackPoint.ble_trans hpo hlater, hlater, hrest⟩
      · next hpo =>
        have hop : o.ble p := (p.ble_total o).resolve_left hpo
        exact ⟨hlater, TrackPoint.ble_trans hop hlater, hrest⟩

/-- **A vehicle with points has a last one**, and none of them comes behind
it. The pass through the points keeps one that none so far comes behind. -/
theorem exists_lastPointOf (h : s.pointsOf v ≠ []) :
    ∃ q ∈ s.pointsOf v, s.lastPointOf v = some q ∧ ∀ o ∈ s.pointsOf v,
      o.ble q := by
  show ∃ q ∈ s.pointsOf v, (s.pointsOf v).foldl _ none = some q ∧ _
  match hl : s.pointsOf v with
  | [] => exact absurd hl h
  | p :: ps => exact exists_foldl_later p ps

theorem lastPointOf_of_nil (h : s.pointsOf v = []) :
    s.lastPointOf v = none := by
  show (s.pointsOf v).foldl _ none = none
  rw [h]
  rfl

/-- The first point of a vehicle by fix time, the lowest number among
equals. -/
def firstPointOf (s : Store) (v : VehicleId) : Option TrackPoint :=
  ((s.pointsOf v).mergeSort TrackPoint.ble).head?

/-- A vehicle with points has a first one, and none of them comes before
it. -/
theorem exists_firstPointOf (h : s.pointsOf v ≠ []) :
    ∃ q ∈ s.pointsOf v, s.firstPointOf v = some q ∧ ∀ o ∈ s.pointsOf v,
      q.ble o := by
  have hsorted := TrackPoint.pairwise_mergeSort (s.pointsOf v)
  have hperm := List.mergeSort_perm (s.pointsOf v) TrackPoint.ble
  unfold firstPointOf
  cases hl : (s.pointsOf v).mergeSort TrackPoint.ble with
  | nil => exact absurd (hl ▸ hperm).symm.eq_nil h
  | cons q rest =>
    rw [hl] at hsorted hperm
    refine ⟨q, hperm.mem_iff.1 List.mem_cons_self, rfl, fun o ho => ?_⟩
    rcases List.mem_cons.1 (hperm.mem_iff.2 ho) with rfl | ho
    · exact o.ble_refl
    · exact (List.pairwise_cons.1 hsorted).1 o ho

theorem firstPointOf_of_nil (h : s.pointsOf v = []) :
    s.firstPointOf v = none := by
  unfold firstPointOf
  rw [h, List.mergeSort_nil]
  rfl

/-- **A point at an end of all that a vehicle has is the only one there.** `R`
is either direction of the order. -/
theorem PointsNumbered.eq_some_iff (h : s.PointsNumbered)
    {x : Option TrackPoint} {R : TrackPoint → TrackPoint → Prop}
    (hanti : ∀ {p q}, R p q → R q p → p.id = q.id)
    (hnil : s.pointsOf v = [] → x = none)
    (hex : s.pointsOf v ≠ [] → ∃ q ∈ s.pointsOf v,
      x = some q ∧ ∀ o ∈ s.pointsOf v, R o q) :
    x = some p ↔ p ∈ s.pointsOf v ∧ ∀ q ∈ s.pointsOf v, R q p := by
  by_cases hempty : s.pointsOf v = []
  · simp [hempty, hnil hempty]
  · obtain ⟨q, hq, hx, hle⟩ := hex hempty
    rw [hx, Option.some.injEq]
    constructor
    · rintro rfl
      exact ⟨hq, hle⟩
    · rintro ⟨hp, hle'⟩
      exact h.eq_of_id (mem_pointsOf.1 hq).1 (mem_pointsOf.1 hp).1
        (hanti (hle' q hq) (hle p hp))

/-- **The last point of a vehicle** is the one point of it that none comes
behind. So it can be told from the points alone, without the pass that finds
it. -/
theorem PointsNumbered.lastPointOf_eq_some_iff (h : s.PointsNumbered) :
    s.lastPointOf v = some p ↔ p ∈ s.pointsOf v ∧ ∀ q ∈ s.pointsOf v, q.ble p :=
  h.eq_some_iff TrackPoint.id_eq_of_ble lastPointOf_of_nil exists_lastPointOf

/-- **The first point of a vehicle** is the one point of it that none comes
before. The order in which the others come has no part in it. -/
theorem PointsNumbered.firstPointOf_eq_some_iff (h : s.PointsNumbered) :
    s.firstPointOf v = some p ↔ p ∈ s.pointsOf v ∧ ∀ q ∈ s.pointsOf v,
      p.ble q :=
  h.eq_some_iff (fun hpq hqp => TrackPoint.id_eq_of_ble hqp hpq)
    firstPointOf_of_nil
    exists_firstPointOf

/-- **The last point of a vehicle, after a reading was kept**: of the vehicle
that the reading is of, the later one of its last point and the new one, and
of any other vehicle what it was. -/
theorem PointsFiled.lastPointOf_save (h : s.PointsFiled)
    (hs : s.save r v = some s') (w : VehicleId) :
    s'.lastPointOf w = if v = w then
        some
          ((s.lastPointOf w).elim (s.newPoint r v) (later · (s.newPoint r v)))
      else s.lastPointOf w := by
  unfold lastPointOf
  rw [h.values_save hs, List.filter_append, List.foldl_append]
  by_cases hvw : v = w
  · rw [if_pos hvw, List.filter_cons_of_pos (by simp [newPoint, hvw])]
    rfl
  · rw [if_neg hvw, List.filter_cons_of_neg (by simp [newPoint, hvw])]
    rfl

/-- The points of a vehicle, after a reading was kept. -/
theorem PointsFiled.mem_pointsOf_save (h : s.PointsFiled)
    (hs : s.save r v = some s') :
    p ∈ s'.pointsOf w ↔ p ∈ s.pointsOf w ∨ v = w ∧ p = s.newPoint r v := by
  unfold pointsOf
  rw [h.values_save hs, List.filter_append, List.mem_append]
  by_cases hvw : v = w
  · rw [List.filter_cons_of_pos (by simp [newPoint, hvw])]
    simp [hvw]
  · rw [List.filter_cons_of_neg (by simp [newPoint, hvw])]
    simp [hvw]

/-- **A reading that is not earlier than the others** becomes the last point.
Among points of its own fix it has the largest number, so an equal fix is no
obstacle. -/
theorem PointsFiled.lastPointOf_save_of_le (h : s.PointsFiled)
    (hs : s.save r v = some s')
    (hsent : ∀ q ∈ s.pointsOf v, q.sentAt ≤ r.sentAt) :
    s'.lastPointOf v = some (s.newPoint r v) := by
  rw [h.lastPointOf_save hs, if_pos rfl]
  by_cases hnil : s.pointsOf v = []
  · rw [lastPointOf_of_nil hnil]
    rfl
  · obtain ⟨q, hq, hlast, -⟩ := exists_lastPointOf hnil
    obtain ⟨⟨k, hk⟩, -⟩ := mem_pointsOf.1 hq
    rw [hlast, Option.elim_some, later, if_pos]
    refine TrackPoint.ble_iff.2 ⟨hsent q hq, fun _ => ?_⟩
    rw [h.numbered k q hk]
    exact Int.le_of_lt (Int.lt_add_one_of_le (h.le_last k q hk))

/-- A reading that is earlier than the last point leaves it the last. -/
theorem PointsFiled.lastPointOf_save_of_lt (h : s.PointsFiled)
    (hs : s.save r v = some s') (hp : s.lastPointOf v = some p)
    (hlt : r.sentAt < p.sentAt) :
    s'.lastPointOf v = some p := by
  have hnot : ¬ p.ble (s.newPoint r v) := by
    rw [TrackPoint.ble_iff]
    exact fun hle => hlt.2 (Instant.le_antisymm hlt.1 hle.1)
  rw [h.lastPointOf_save hs, if_pos rfl, hp, Option.elim_some, later,
    if_neg hnot]

/-- **Where a vehicle last was, after a reading of it was kept**, if the
reading is not earlier than the others. All other vehicles are where they
were, without a condition. -/
theorem PointsFiled.lastPosition_save (h : s.PointsFiled)
    (hs : s.save r v = some s')
    (hsent : ∀ q ∈ s.pointsOf v, q.sentAt ≤ r.sentAt) (w : VehicleId) :
    s'.lastPosition w = if v = w then some r.position
      else s.lastPosition w := by
  unfold lastPosition
  by_cases hvw : v = w
  · subst hvw
    rw [h.lastPointOf_save_of_le hs hsent, if_pos rfl]
    rfl
  · rw [h.lastPointOf_save hs, if_neg hvw, if_neg hvw]

end Store

end Telematics
