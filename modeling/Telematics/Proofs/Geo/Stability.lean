import Telematics.Proofs.Geo.Splitting

/-!
# Thinning what is thinned in part

Points that thinning drops may be taken away beforehand, all or some of them:
the points that are kept stay the same. In particular thinning twice is
thinning once.

Where a segment of the whole track is split, the part has the point of the
split too. It is the peak there as well, for what stands before and behind it
in the part does so in the whole (`splitAt_eq_some_of_pick`); and a segment
that stays whole has nothing to be split at in the part either. So both runs
walk the same tree. This needs that of several points at the largest distance
the first is taken, and that a distance that is no number is passed over: the
point that is taken is then told by the distances alone, and not by which of
the nearer ones are there.

A point may be taken more than once. Copies of an end of a segment lie within
it and may be as far from the line as they like; a split at one of them cuts
off nothing but other copies (`mem_along_pick`).
-/

namespace Telematics.Thinning

variable {dist : Nat → Nat → Nat → Float} {tolerance : Float} {pick : Nat → Nat}
  {size f l j n : Nat}

/-- The distances within a part of a track. -/
def within (dist : Nat → Nat → Nat → Float) (pick : Nat → Nat) (i f l : Nat) :
    Float :=
  dist (pick i) (pick f) (pick l)

/-- A part of a track is taken in order. -/
def Ascends (pick : Nat → Nat) (size : Nat) : Prop :=
  ∀ i j, i ≤ j → j < size → pick i ≤ pick j

/-- Of one point alone that point is kept. -/
theorem mem_along_self {f i : Nat} :
    i ∈ along (splitAt dist tolerance) f f ↔ i = f := by
  have hnone : splitAt dist tolerance f f = none := if_pos (Nat.le_succ f)
  rw [along_of_none hnone]
  simp

/-- What stands before in the whole stands before in the part. -/
theorem Ascends.lt (hasc : Ascends pick size) {i j : Nat} (hi : i < size)
    (h : pick i < pick j) :
    i < j := by
  by_contra hle
  exact absurd (hasc j i (Nat.le_of_not_lt hle) hi) (Nat.not_le.2 h)

section Pick

variable (hasc : Ascends pick size) (hf : f < size)
  (hhas : ∀ i, splitAt dist tolerance (pick f) (pick l) = some i → ∃ j < size,
    pick j = i)

include hasc hf hhas

/-- **A part stays whole only where the whole does**, if the point of the
split is taken. A peak of the whole that is far enough would have been taken,
and the part would have a point as far from its line. -/
theorem splitAt_eq_none_of_pick
    (h : splitAt (within dist pick) tolerance f l = none) :
    splitAt dist tolerance (pick f) (pick l) = none := by
  refine Option.eq_none_iff_forall_ne_some.2 fun i hi => ?_
  obtain ⟨j, hj, rfl⟩ := hhas i hi
  obtain ⟨hp, hfar⟩ := splitAt_eq_some_iff.1 hi
  exact splitAt_eq_none_iff.1 h j (hasc.lt hf hp.first_lt)
    (hasc.lt hj hp.lt_last) hp.off hfar

/-- **A part is split where the whole is**, if the point of the split is
taken, or at a copy of an end. The peak of the part is the first of the
largest distance there; the peak of the whole is in the part, so it is neither
farther nor earlier. -/
theorem splitAt_eq_some_of_pick
    (h : splitAt (within dist pick) tolerance f l = some j)
    (hfj : pick f < pick j) (hjl : pick j < pick l) :
    splitAt dist tolerance (pick f) (pick l) = some (pick j) := by
  obtain ⟨hp, hfar⟩ := splitAt_eq_some_iff.1 h
  cases hsome : splitAt dist tolerance (pick f) (pick l) with
  | none => exact absurd hfar (splitAt_eq_none_iff.1 hsome _ hfj hjl hp.off)
  | some i =>
    obtain ⟨k, hk, rfl⟩ := hhas i hsome
    obtain ⟨hq, -⟩ := splitAt_eq_some_iff.1 hsome
    -- Each of the two peaks is no farther than the other, in the part and in
    -- the whole.
    have hfk : f < k := hasc.lt hf hq.first_lt
    have hpart :=
      hp.dist_le hfk (hasc.lt hk hq.lt_last) (Double.isNaN_of_lt hq.off)
    have hwhole := hq.dist_le hfj hjl (Double.isNaN_of_lt hp.off)
    rcases Nat.lt_trichotomy (pick k) (pick j) with hlt | heq | hgt
    · exact absurd hwhole (hp.before k hfk (hasc.lt hk hlt))
    · rw [heq]
    · exact absurd hpart (hq.before (pick j) hfj hgt)

/-- **The split of a part parts what is kept of the whole**: at a point of the
split of the whole into its halves, and at a copy of an end into all of it and
that end. -/
theorem mem_along_of_pick
    (h : splitAt (within dist pick) tolerance f l = some j)
    (hfj : pick f ≤ pick j) (hjl : pick j ≤ pick l) {i : Nat} :
    i ∈ along (splitAt dist tolerance) (pick f) (pick l)
      ↔ i ∈ along (splitAt dist tolerance) (pick f) (pick j)
        ∨ i ∈ along (splitAt dist tolerance) (pick j) (pick l) := by
  rcases hfj.eq_or_lt with heq | hfj
  · rw [← heq, mem_along_self]
    exact (or_iff_right_of_imp fun hi => mem_along.2 (.inl hi)).symm
  rcases hjl.eq_or_lt with heq | hjl
  · rw [heq, mem_along_self]
    exact (or_iff_left_of_imp fun hi => mem_along.2 (.inr (.inr hi))).symm
  · exact mem_along_of_some (splitAt_eq_some_of_pick hasc hf hhas h hfj hjl)
      ⟨hfj, hjl⟩

end Pick

/-- **What is kept of a part is what is kept of the whole**, from one point
that is taken to another, if the part has all that the whole keeps there. By
induction along the splits of the part: each of them is one of the whole, and
where the part has no more the whole has none either. -/
theorem mem_along_pick (dist : Nat → Nat → Nat → Float) (tolerance : Float)
    (hasc : Ascends pick size) (hfl : f ≤ l) (hl : l < size)
    (hhas : ∀ i ∈ along (splitAt dist tolerance) (pick f) (pick l), ∃ j < size,
      pick j = i)
    (i : Nat) :
    (∃ j ∈ along (splitAt (within dist pick) tolerance) f l, pick j = i)
      ↔ i ∈ along (splitAt dist tolerance) (pick f) (pick l) := by
  -- By induction along the splits of the part. A split of the whole is a point
  -- that it keeps.
  have hsplit : ∀ {f l},
    (∀ i ∈ along (splitAt dist tolerance) (pick f) (pick l),
      ∃ j < size, pick j = i) →
        ∀ i, splitAt dist tolerance (pick f) (pick l) = some i →
      ∃ j < size, pick j = i := fun h i hi =>
    h i ((mem_along_of_some hi (inside_splitAt _ _ _ hi)).2
      (.inl (mem_along.2 (.inr (.inr rfl)))))
  induction f,
    l using between.induct (splitAt (within dist pick) tolerance) with
  | case1 f l hnone =>
    have hwhole :=
      splitAt_eq_none_of_pick hasc (hfl.trans_lt hl) (hsplit hhas) hnone
    rw [along_of_none hnone, along_of_none hwhole]
    simp [eq_comm]
  | case2 f l j hsome hin ihl ihr =>
    have hglue :=
      fun i => mem_along_of_pick hasc (hfl.trans_lt hl) (hsplit hhas) hsome
      (hasc f j hin.1.le (hin.2.trans hl)) (hasc j l hin.2.le hl) (i := i)
    have hleft := ihl hin.1.le (hin.2.trans hl) fun i hi =>
      hhas i ((hglue i).2 (.inl hi))
    have hright := ihr hin.2.le hl fun i hi => hhas i ((hglue i).2 (.inr hi))
    calc (∃ k ∈ along (splitAt (within dist pick) tolerance) f l, pick k = i)
        ↔ (∃ k ∈ along (splitAt (within dist pick) tolerance) f j, pick k = i)
          ∨ ∃ k ∈ along (splitAt (within dist pick) tolerance) j l,
            pick k = i := by
          simp only [mem_along_of_some hsome hin, or_and_right, exists_or]
      _ ↔ _ := or_congr hleft hright
      _ ↔ _ := (hglue i).symm
  | case3 f l j hsome hout => exact absurd (inside_splitAt _ _ _ hsome) hout

/-! ## A whole track -/

/-- **Thinning a part of a track keeps what thinning the whole keeps**, if the
part has all of that. The part may have other points beside those; they are
dropped from it as they were from the whole. -/
theorem mem_kept_pick (hasc : Ascends pick size) (hof : ∀ j < size, pick j < n)
    (hhas : ∀ i ∈ kept dist tolerance n, ∃ j < size, pick j = i) (i : Nat) :
    (∃ j ∈ kept (within dist pick) tolerance size, pick j = i)
      ↔ i ∈ kept dist tolerance n := by
  rcases Nat.eq_zero_or_pos n with rfl | hn
  · constructor
    · rintro ⟨j, hj, -⟩
      exact absurd (hof j (lt_of_mem_kept hj)) (Nat.not_lt_zero _)
    · exact fun hi => absurd (lt_of_mem_kept hi) (Nat.not_lt_zero _)
  · -- The ends are kept, so the part begins and ends with them.
    obtain ⟨a, ha, hzero⟩ := hhas 0 (zero_mem_kept hn)
    obtain ⟨b, hb, hlast⟩ := hhas (n - 1) (pred_mem_kept hn)
    have hsize : 0 < size := Nat.zero_lt_of_lt ha
    have hend : size - 1 < size := Nat.sub_lt hsize Nat.one_pos
    have hfirst : pick 0 = 0 :=
      Nat.le_zero.1 ((hasc 0 a (Nat.zero_le a) ha).trans_eq hzero)
    have hfinal : pick (size - 1) = n - 1 :=
      Nat.le_antisymm (Nat.le_pred_of_lt (hof _ hend))
        (hlast ▸ hasc b (size - 1) (Nat.le_pred_of_lt hb) hend)
    have halong :=
      mem_along_pick dist tolerance hasc (Nat.zero_le (size - 1)) hend
    rw [hfirst, hfinal] at halong
    simp only [mem_kept_iff hsize, mem_kept_iff hn] at hhas ⊢
    exact halong hhas i

/-- The same, point by point, if no point is taken twice. -/
theorem map_kept_pick (hasc : ∀ i j, i < j → j < size → pick i < pick j)
    (hof : ∀ j < size, pick j < n)
    (hhas : ∀ i ∈ kept dist tolerance n, ∃ j < size, pick j = i) :
    (kept (within dist pick) tolerance size).map pick
      = kept dist tolerance n := by
  have hasc' : Ascends pick size := fun i j hij hj =>
    hij.eq_or_lt.elim (fun h => h ▸ Nat.le_refl _) fun h => (hasc i j h hj).le
  have hpicked : ((kept (within dist pick) tolerance size).map pick).Pairwise
      (· < ·) :=
    List.pairwise_map.2 (pairwise_kept.imp_of_mem fun _ hj hij =>
      hasc _ _ hij (lt_of_mem_kept hj))
  refine hpicked.eq_of_mem_iff pairwise_kept fun i => ?_
  rw [List.mem_map]
  exact mem_kept_pick hasc' hof hhas i

/-- The indices that are kept when points are measured against others in any
way at all. -/
def keptBy (d : Float × Float → Float × Float → Float × Float → Float)
    (points : List (Float × Float)) (tolerance : Float) : List Nat :=
  kept (measured d points) tolerance points.length

/-- The points of a track at some of its indices. -/
def pointsAt (points : List (Float × Float)) (indices : List Nat) :
    List (Float × Float) :=
  indices.filterMap (points[·]?)

/-- **A way of thinning keeps of some points of a track what it keeps of all.**
-/
structure Recovers (keep : List (Float × Float) → List Nat)
    (points : List (Float × Float)) (indices : List Nat) : Prop where
  /-- The same points are kept. -/
  same : ∀ i, i ∈ keep points ↔ ∃ j ∈ keep (pointsAt points indices),
    indices[j]? = some i
  /-- They are the same one by one, if no point is taken twice. -/
  in_order : indices.Pairwise (· < ·) →
    (keep (pointsAt points indices)).map (indices[·]?) = (keep points).map some

section Points

variable {points : List (Float × Float)} {indices : List Nat}

/-- Indices of a track have a point each. -/
theorem pointsAt_eq (hof : ∀ i ∈ indices, i < points.length) :
    pointsAt points indices = indices.map fun i => points[i]?.getD (0.0, 0.0) :=
  List.filterMap_eq_map_iff_forall_eq_some.2 fun i hi => by
    rw [List.getElem?_eq_getElem (hof i hi), Option.getD_some]

/-- Where a point of the part stands in a track of some size. -/
def placeOf (indices : List Nat) (size j : Nat) : Nat := indices[j]?.getD size

/-- The place of a point that was taken. -/
theorem placeOf_eq {j : Nat} (hj : j < indices.length) (size : Nat) :
    placeOf indices size j = indices[j] := by
  rw [placeOf, List.getElem?_eq_getElem hj, Option.getD_some]

/-- To thin the points at some indices is to thin a part of the track. -/
theorem keptBy_pointsAt (hof : ∀ i ∈ indices, i < points.length)
    (d : Float × Float → Float × Float → Float × Float → Float)
    (tolerance : Float) :
    keptBy d (pointsAt points indices) tolerance
      = kept (within (measured d points) (placeOf indices points.length))
        tolerance
        indices.length := by
  have hpoint : ∀ j : Nat, (pointsAt points indices)[j]?.getD (0.0, 0.0)
      = points[placeOf indices points.length j]?.getD (0.0, 0.0) := by
    intro j
    rw [pointsAt_eq hof, List.getElem?_map, placeOf]
    cases indices[j]? with
    | none => simp
    | some i => rfl
  rw [keptBy, pointsAt_eq hof, List.length_map, ← pointsAt_eq hof]
  congr 1
  funext i f l
  simp only [measured, within, hpoint]

/-- **Thinning is stable**, however points are measured. Of the distance
nothing is used, not even that it is a number. -/
theorem recovers_keptBy (hasc : indices.Pairwise (· ≤ ·))
    (hof : ∀ i ∈ indices, i < points.length)
    (d : Float × Float → Float × Float → Float × Float → Float)
    (hhas : ∀ i ∈ keptBy d points tolerance, i ∈ indices) :
    Recovers (keptBy d · tolerance) points indices := by
  -- The indices as a function: where a point of the part stands in the whole.
  have hplace : ∀ j (hj : j < indices.length), placeOf indices points.length j
      = indices[j] :=
    fun j hj => placeOf_eq hj points.length
  have hof' : ∀ j < indices.length, placeOf indices points.length j
      < points.length :=
    fun j hj => hplace j hj ▸ hof _ (List.getElem_mem hj)
  have hhas' : ∀ i ∈ keptBy d points tolerance,
      ∃ j < indices.length, placeOf indices points.length j = i :=
        fun i hi => by
    obtain ⟨j, hj, rfl⟩ := List.getElem_of_mem (hhas i hi)
    exact ⟨j, hj, hplace j hj⟩
  have hsome : ∀ j ∈ keptBy d (pointsAt points indices) tolerance,
      indices[j]? = some (placeOf indices points.length j) := fun j hj => by
    have hlt : j < indices.length := by
      rw [keptBy_pointsAt hof] at hj
      exact lt_of_mem_kept hj
    rw [List.getElem?_eq_getElem hlt, hplace j hlt]
  constructor
  · have hasc' : Ascends (placeOf indices points.length) indices.length :=
      fun i j hij hj => by
      rw [hplace i (hij.trans_lt hj), hplace j hj]
      exact hasc.rel_get_of_le (a := ⟨i, hij.trans_lt hj⟩) (b := ⟨j, hj⟩) hij
    intro i
    rw [keptBy, ← mem_kept_pick hasc' hof' hhas' i, ← keptBy_pointsAt hof]
    refine exists_congr fun j => and_congr_right fun hj => ?_
    rw [hsome j hj, Option.some_inj]
  · intro hstrict
    have hmap : (keptBy d (pointsAt points indices) tolerance).map
        (placeOf indices points.length) = keptBy d points tolerance := by
      rw [keptBy_pointsAt hof]
      refine map_kept_pick (fun i j hij hj => ?_) hof' hhas'
      rw [hplace i (hij.trans hj), hplace j hj]
      exact List.pairwise_iff_getElem.1 hstrict i j (hij.trans hj) hj hij
    rw [← hmap, List.map_map]
    exact List.map_congr_left hsome

/-- Thinning, with the distance that it uses. -/
theorem recovers_keptPoints (hasc : indices.Pairwise (· ≤ ·))
    (hof : ∀ i ∈ indices, i < points.length)
    (hhas : ∀ i ∈ keptPoints points tolerance, i ∈ indices) :
    Recovers (keptPoints · tolerance) points indices := by
  simp only [keptPoints_eq] at hhas ⊢
  exact recovers_keptBy hasc hof lineDistance hhas

/-- **Thinning what is thinned in part**: whichever of the points that thinning
drops are left out beforehand, it keeps the same points; and it would do so
whatever the distances from a line were. -/
theorem recovers_of_kept_subset (hasc : indices.Pairwise (· ≤ ·))
    (hof : ∀ i ∈ indices, i < points.length) (tolerance : Float) :
    ((∀ i ∈ keptPoints points tolerance, i ∈ indices) →
        Recovers (keptPoints · tolerance) points indices)
      ∧ ∀ d : Float × Float → Float × Float → Float × Float → Float,
        (∀ i ∈ keptBy d points tolerance, i ∈ indices) →
          Recovers (keptBy d · tolerance) points indices :=
  ⟨recovers_keptPoints hasc hof, recovers_keptBy hasc hof⟩

/-- The bend without one of the points that are dropped. -/
theorem recovers_of_kept_subset_bend : [0, 2, 3, 4].Pairwise (· ≤ ·)
    ∧ (∀ i ∈ [0, 2, 3, 4], i < bend.length)
    ∧ (∀ i ∈ keptPoints bend 0.5, i ∈ [0, 2, 3, 4])
    ∧ Recovers (keptPoints · 0.5) bend [0, 2, 3, 4] := by
  have hhas : ∀ i ∈ keptPoints bend 0.5, i ∈ [0, 2, 3, 4] := by
    rw [keptPoints_bend]
    decide
  exact ⟨by decide, by decide, hhas,
    (recovers_of_kept_subset (by decide) (by decide) 0.5).1 hhas⟩

/-- **Thinning twice is thinning once**: of the points that are kept all are.
The points that are kept are the smallest part that stability speaks of. -/
theorem keptPoints_pointsAt_keptPoints (points : List (Float × Float))
    (tolerance : Float) :
    keptPoints (pointsAt points (keptPoints points tolerance)) tolerance
      = List.range (keptPoints points tolerance).length := by
  have hof : ∀ i ∈ keptPoints points tolerance, i < points.length :=
    fun _ => lt_of_mem_kept
  have hrec : Recovers (keptPoints · tolerance) points
      (keptPoints points tolerance) :=
    recovers_keptPoints (pairwise_kept.imp Nat.le_of_lt) hof fun _ => id
  refine pairwise_kept.eq_of_mem_iff List.pairwise_lt_range fun j => ?_
  rw [List.mem_range]
  constructor
  · intro hj
    have hlt := lt_of_mem_kept hj
    rwa [pointsAt_eq hof, List.length_map] at hlt
  · intro hj
    obtain ⟨k, hk, heq⟩ := (hrec.same _).1 (List.getElem_mem hj)
    rw [← List.getElem?_eq_getElem hj] at heq
    rwa [(List.getElem?_inj hj (pairwise_kept.imp Nat.ne_of_lt)).1 heq.symm]

end Points

end Telematics.Thinning
