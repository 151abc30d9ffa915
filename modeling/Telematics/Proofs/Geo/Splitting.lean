import Mathlib.Data.List.Chain
import Mathlib.Data.List.Sort
import Telematics.Geo.Thinning
import Telematics.Proofs.Geo.Order

/-!
# Where a track is split

Which points of a track are kept is settled by which segments are split, and
where. A segment is split at its peak, the first of the inner points that no
other is farther than, if that lies at least the tolerance away
(`splitAt_eq_some_iff`); it stays whole if no inner point that is off the line
lies so far away (`splitAt_eq_none_iff`). Distances that are no numbers take
no part in either, and nothing else is used of distances in what follows.

The stack of the sweep then matters no more than the order in which a tree is
walked. The points that are kept inside a segment are those of its two halves
and the point between them (`between`), the sweep of a stack finds those of
all its segments (`sweep_perm`), and sorted they stand as the halves do
(`kept_eq`).

What a track looks like from one point that is kept to the next is said by a
chain (`isChain_kept`): the points ascend, and the segment between two
neighbours was looked at and stayed whole. It is the form in which the later
modules use all this, since a point that is dropped lies between two
neighbours, and a statement about neighbours is one about a chain.
-/

namespace Telematics.Thinning

/-! ## The peak of a segment -/

section Peak

variable {D : Nat → Float} {first last i j : Nat}

/-- **The peak of a segment**: the first of its inner points than which no
other is farther, if it is off the line. -/
structure Peak (D : Nat → Float) (first last i : Nat) : Prop where
  first_lt : first < i
  lt_last : i < last
  off : 0.0 < D i
  /-- All before it are nearer, or at a distance that is no number. -/
  before : ∀ j, first < j → j < i → ¬ D i ≤ D j
  /-- None behind it is farther. -/
  behind : ∀ j, i < j → j < last → ¬ D i < D j

/-- There is no more than one peak. -/
theorem Peak.unique (hi : Peak D first last i) (hj : Peak D first last j) :
    i = j := by
  have hnum :=
    Double.lt_or_le (Double.isNaN_of_lt hi.off) (Double.isNaN_of_lt hj.off)
  have hnum' :=
    Double.lt_or_le (Double.isNaN_of_lt hj.off) (Double.isNaN_of_lt hi.off)
  rcases Nat.lt_trichotomy i j with h | h | h
  · exact (hnum.elim (hi.behind j h hj.lt_last)
      (hj.before i hi.first_lt h)).elim
  · exact h
  · exact (hnum'.elim (hj.behind i h hi.lt_last)
      (hi.before j hj.first_lt h)).elim

/-- No inner point is farther than the peak. -/
theorem Peak.dist_le (hi : Peak D first last i) (hfj : first < j)
    (hjl : j < last) (hj : (D j).isNaN = false) : D j ≤ D i := by
  rcases Double.lt_or_le (Double.isNaN_of_lt hi.off) hj with hlt | hle
  · rcases Nat.lt_trichotomy j i with h | rfl | h
    · exact absurd (Double.le_of_lt hlt) (hi.before j hfj h)
    · exact Double.le_of_lt hlt
    · exact absurd hlt (hi.behind j h hjl)
  · exact hle

/-- The search through a list of ascending points: either none is farther than
the best so far, or it ends with the first of those than which none is
farther. -/
theorem foldl_farther {l : List Nat} (hl : l.Pairwise (· < ·))
    (best : Nat × Float) :
    ∃ r, l.foldl (fun best i => if D i > best.2 then (i, D i)
      else best) best = r
      ∧ ((r = best ∧ ∀ j ∈ l, ¬ best.2 < D j)
        ∨ ∃ i ∈ l, r = (i, D i) ∧ best.2 < D i
          ∧ (∀ j ∈ l, j < i → ¬ D i ≤ D j) ∧ ∀ j ∈ l, i < j → ¬ D i < D j) := by
  induction l generalizing best with
  | nil => exact ⟨best, rfl, .inl ⟨rfl, nofun⟩⟩
  | cons x l ih =>
    obtain ⟨hx, hl⟩ := List.pairwise_cons.1 hl
    by_cases hfar : best.2 < D x
    · -- The first point is the new best, and what beats it beats the old one.
      obtain ⟨r, hr, h⟩ := ih hl (x, D x)
      refine ⟨r, by rw [List.foldl_cons, if_pos hfar, hr], .inr ?_⟩
      rcases h with ⟨rfl, hnone⟩ | ⟨i, hi, rfl, hlt, hbefore, hbehind⟩
      · refine ⟨x, .head _, rfl, hfar, List.forall_mem_cons.2 ⟨?_, ?_⟩,
          List.forall_mem_cons.2 ⟨?_, ?_⟩⟩
        · exact fun h => absurd h (Nat.lt_irrefl x)
        · exact fun j hj h => absurd (hx j hj) (Nat.lt_asymm h)
        · exact fun h => absurd h (Nat.lt_irrefl x)
        · exact fun j hj _ => hnone j hj
      · refine ⟨i, .tail _ hi, rfl, Double.lt_trans hfar hlt,
          List.forall_mem_cons.2 ⟨?_, hbefore⟩,
          List.forall_mem_cons.2 ⟨?_, hbehind⟩⟩
        · exact fun _ => Double.not_le_of_lt hlt
        · exact fun h => absurd (hx i hi) (Nat.lt_asymm h)
    · obtain ⟨r, hr, h⟩ := ih hl best
      refine ⟨r, by rw [List.foldl_cons, if_neg hfar, hr], ?_⟩
      rcases h with ⟨rfl, hnone⟩ | ⟨i, hi, rfl, hlt, hbefore, hbehind⟩
      · exact .inl ⟨rfl, List.forall_mem_cons.2 ⟨hfar, hnone⟩⟩
      · refine .inr ⟨i, .tail _ hi, rfl, hlt,
          List.forall_mem_cons.2 ⟨?_, hbefore⟩,
          List.forall_mem_cons.2 ⟨?_, hbehind⟩⟩
        · exact fun _ hle => hfar (Double.lt_of_lt_of_le hlt hle)
        · exact fun h => absurd (hx i hi) (Nat.lt_asymm h)

/-- **What the search of a segment finds**: its peak, or that all inner points
are on the line. A point on the line, or one whose distance is no number, is
never found: the search asks for more than zero at the beginning. -/
theorem farthest_cases (D : Nat → Float) (first last : Nat) :
    (farthest D first last = (first, 0.0) ∧ ∀ j, first < j → j < last →
      ¬ 0.0 < D j)
      ∨ ∃ i, farthest D first last = (i, D i) ∧ Peak D first last i := by
  have hmem : ∀ j, j ∈ List.range' (first + 1) (last - (first + 1))
      ↔ first < j ∧ j < last := by
    intro j
    rw [List.mem_range'_1]
    omega
  obtain ⟨r, hr, h⟩ := foldl_farther (D := D)
    (List.pairwise_lt_range' (s := first + 1) (n := last - (first + 1)) 1)
      (first, 0.0)
  rw [farthest, hr]
  rcases h with ⟨rfl, hnone⟩ | ⟨i, hi, rfl, hoff, hbefore, hbehind⟩
  · exact .inl ⟨rfl, fun j hfj hjl => hnone j ((hmem j).2 ⟨hfj, hjl⟩)⟩
  · obtain ⟨hfi, hil⟩ := (hmem i).1 hi
    exact .inr ⟨i, rfl, hfi, hil, hoff,
      fun j hfj hji => hbefore j ((hmem j).2 ⟨hfj, hji.trans hil⟩) hji,
      fun j hij hjl => hbehind j ((hmem j).2 ⟨hfi.trans hij, hjl⟩) hij⟩

end Peak

variable {dist : Nat → Nat → Nat → Float} {tolerance : Float}
  {first last i j n : Nat}

/-- **A segment is split at its peak**, if that is at least the tolerance
away. A peak that is exactly as far as the tolerance is kept. -/
theorem splitAt_eq_some_iff : splitAt dist tolerance first last = some i ↔
    Peak (fun j => dist j first last) first last i
      ∧ tolerance ≤ dist i first last := by
  unfold splitAt
  split
  · next hshort =>
    refine ⟨nofun, fun ⟨hp, _⟩ => ?_⟩
    exact absurd (hp.lt_last.trans_le hshort) (Nat.not_lt.2 hp.first_lt)
  · rcases farthest_cases (fun j => dist j first last) first last with
      ⟨hr, hnone⟩ | ⟨k, hr, hk⟩
    · rw [hr]
      refine ⟨fun h => ?_,
        fun ⟨hp, _⟩ => absurd hp.off (hnone i hp.first_lt hp.lt_last)⟩
      exact absurd h (by simp)
    · rw [hr]
      dsimp only
      split
      · next hfar =>
        constructor
        · rintro ⟨⟩
          exact ⟨hk, hfar.2⟩
        · exact fun ⟨hp, _⟩ => congrArg some (hk.unique hp)
      · next hnear =>
        refine ⟨nofun, fun ⟨hp, hfar⟩ => ?_⟩
        obtain rfl := hk.unique hp
        exact absurd ⟨hk.first_lt.ne', hfar⟩ hnear

/-- **A segment stays whole** if no inner point off the line is the tolerance
away. That includes segments all of whose inner points lie on the line, even
if the tolerance is zero. -/
theorem splitAt_eq_none_iff : splitAt dist tolerance first last = none ↔
    ∀ i, first < i → i < last → 0.0 < dist i first last →
      ¬ tolerance ≤ dist i first last := by
  constructor
  · intro h i hfi hil hoff hfar
    rcases farthest_cases (fun j => dist j first last) first last with
      ⟨-, hnone⟩ | ⟨k, -, hk⟩
    · exact hnone i hfi hil hoff
    · have hle := hk.dist_le hfi hil (Double.isNaN_of_lt hoff)
      have hsome := splitAt_eq_some_iff.2 ⟨hk, Double.le_trans hfar hle⟩
      cases h.symm.trans hsome
  · intro h
    refine Option.eq_none_iff_forall_ne_some.2 fun i hi => ?_
    obtain ⟨hp, hfar⟩ := splitAt_eq_some_iff.1 hi
    exact h i hp.first_lt hp.lt_last hp.off hfar

/-! ## What is kept of a segment -/

/-- The points that are kept inside a segment: those of its two halves, and
the point between them. As in the sweep, a split outside the segment counts
as none. -/
def between (split : Nat → Nat → Option Nat) (first last : Nat) : List Nat :=
  match split first last with
  | none => []
  | some i =>
    if first < i ∧ i < last
      then between split first i ++ i :: between split i last else []
termination_by last - first

/-- Segments are split inside. -/
def Inside (split : Nat → Nat → Option Nat) : Prop :=
  ∀ first last i, split first last = some i → first < i ∧ i < last

/-- A peak is an inner point. -/
theorem inside_splitAt : Inside (splitAt dist tolerance) := fun _ _ _ h =>
  ⟨(splitAt_eq_some_iff.1 h).1.first_lt, (splitAt_eq_some_iff.1 h).1.lt_last⟩

section

variable {split : Nat → Nat → Option Nat}

/-- Inside a segment that stays whole nothing is kept. -/
theorem between_of_none (h : split first last = none) :
    between split first last = [] := by
  rw [between, h]

/-- Inside a segment that is split the halves decide. -/
theorem between_of_some (h : split first last = some i)
    (hin : first < i ∧ i < last) :
    between split first last
      = between split first i ++ i :: between split i last := by
  rw [between, h]
  exact if_pos hin

/-- What is kept from one point to another: both, and what is kept between
them. -/
def along (split : Nat → Nat → Option Nat) (first last : Nat) : List Nat :=
  first :: between split first last ++ [last]

/-- From one end of a segment that stays whole to the other there are the two
ends. -/
theorem along_of_none (h : split first last = none) :
    along split first last = [first, last] := by
  rw [along, between_of_none h]
  rfl

/-- **Halves are put together at the point that they share.** The point of the
split is the end of the first half and the beginning of the second, and is
listed once. -/
theorem along_of_some (h : split first last = some i)
    (hin : first < i ∧ i < last) :
    along split first last
      = along split first i ++ (along split i last).tail := by
  simp only [along, between_of_some h hin, List.cons_append, List.append_assoc,
    List.nil_append, List.tail_cons]

/-- What is kept is one of the two ends or between them. -/
theorem mem_along : j ∈ along split first last ↔
    j = first ∨ j ∈ between split first last ∨ j = last := by
  rw [along, List.cons_append, List.mem_cons, List.mem_append,
    List.mem_singleton]

/-- What is kept of a segment that is split is kept of one of its halves. -/
theorem mem_along_of_some (h : split first last = some i)
    (hin : first < i ∧ i < last) :
    j ∈ along split first last
      ↔ j ∈ along split first i ∨ j ∈ along split i last := by
  simp only [mem_along, between_of_some h hin, List.mem_append, List.mem_cons]
  tauto

/-- **From one point that is kept to the next** the points ascend, and the
segment between the two stays whole. By induction on the splits: two chains
are put together at the point that they share. -/
theorem isChain_along (hsplit : Inside split) (h : first < last) :
    (along split first last).IsChain fun a b => a < b ∧ split a b = none := by
  unfold along
  fun_induction between split first last with
  | case1 first last hnone => exact List.isChain_pair.2 ⟨h, hnone⟩
  | case2 first last i hsome hin ihl ihr =>
    rw [List.cons_append, List.append_assoc, List.cons_append,
      ← List.cons_append, List.isChain_split]
    exact ⟨ihl hin.1, ihr hin.2⟩
  | case3 first last i hsome hout => exact absurd (hsplit _ _ _ hsome) hout

/-- So the points that are kept ascend. -/
theorem pairwise_along (hsplit : Inside split) (h : first < last) :
    (along split first last).Pairwise (· < ·) :=
  ((isChain_along hsplit h).imp fun _ _ h => h.1).pairwise

/-! ## The stack -/

/-- **The sweep of a stack finds what is kept inside each of its segments.**
By the recursion of the sweep itself: a segment that is split stands for its
halves and the point between them, in whatever order these are found. -/
theorem sweep_perm (split : Nat → Nat → Option Nat) (stack : List (Nat × Nat))
    (kept : List Nat) :
    (sweep split stack kept).Perm
      (stack.flatMap (fun s => between split s.1 s.2) ++ kept) := by
  fun_induction sweep split stack kept with
  | case1 kept => exact .refl _
  | case2 kept first last rest h ih =>
    rwa [List.flatMap_cons, between_of_none h]
  | case3 kept first last rest i h hin ih =>
    refine ih.trans ?_
    rw [List.flatMap_cons, List.flatMap_cons, List.flatMap_cons,
      between_of_some h hin]
    simp only [List.perm_iff_count, List.count_append, List.count_cons]
    omega
  | case4 kept first last rest i h hout ih =>
    have hnone : between split first last = [] := by
      rw [between, h]
      exact if_neg hout
    rwa [List.flatMap_cons, hnone]

/-- The sweep of one segment, in order. -/
theorem mergeSort_sweep (hsplit : Inside split) (h : first < last) :
    (sweep split [(first, last)] []).mergeSort = between split first last := by
  have hperm := sweep_perm split [(first, last)] []
  rw [List.flatMap_singleton, List.append_nil] at hperm
  have hasc : (between split first last).Pairwise (· < ·) :=
    (pairwise_along hsplit h).sublist
      ((List.sublist_cons_self _ _).trans (List.sublist_append_left _ _))
  exact ((List.mergeSort_perm _ _).trans hperm).eq_of_pairwise
    (fun _ _ _ _ => Nat.le_antisymm)
    List.sortedLE_mergeSort.pairwise (hasc.imp Nat.le_of_lt)

end

/-! ## What is kept of a track -/

/-- The distances within a track, when a point is measured against two others in
any way at all. -/
def measured (d : Float × Float → Float × Float → Float × Float → Float)
    (points : List (Float × Float)) (i first last : Nat) : Float :=
  let point := fun i => points[i]?.getD (0.0, 0.0)
  d (point i) (point first) (point last)

/-- What is kept depends on the track by its distances alone. -/
theorem keptPoints_eq (points : List (Float × Float)) (tolerance : Float) :
    keptPoints points tolerance
      = kept (measured lineDistance points) tolerance points.length := by
  simp only [keptPoints, List.getElem?_toArray]
  rfl

/-- **What is kept of a track** is what is kept from one end to the other. The
stack of segments that are still to be looked at is gone here, and with it the
order in which they are. -/
theorem kept_eq (h : 2 ≤ n) :
    kept dist tolerance n = along (splitAt dist tolerance) 0 (n - 1) := by
  rcases h.eq_or_lt with rfl | h
  · have hnone : splitAt dist tolerance 0 1 = none := rfl
    rw [kept, if_pos (Nat.le_refl 2), along_of_none hnone]
    rfl
  · rw [kept, if_neg (Nat.not_le.2 h),
      mergeSort_sweep inside_splitAt (Nat.sub_pos_of_lt (Nat.lt_of_succ_lt h))]
    rfl

/-- The chain of a whole track; a track of less than two points has no
neighbours. -/
theorem isChain_kept : (kept dist tolerance n).IsChain fun a b =>
    a < b ∧ splitAt dist tolerance a b = none := by
  match n with
  | 0 => exact .nil
  | 1 => exact .singleton 0
  | n + 2 =>
    rw [kept_eq (Nat.le_add_left 2 n)]
    exact isChain_along inside_splitAt (Nat.succ_pos n)

/-- **What is kept is in order.** So no point is kept twice, and kept points
are found again in the order of the track. -/
theorem pairwise_kept : (kept dist tolerance n).Pairwise (· < ·) :=
  (isChain_kept.imp fun _ _ h => h.1).pairwise

/-- A point is kept if it is from one end to the other. -/
theorem mem_kept_iff (h : 0 < n) :
    i ∈ kept dist tolerance n
      ↔ i ∈ along (splitAt dist tolerance) 0 (n - 1) := by
  rcases Nat.lt_or_ge n 2 with hlt | hge
  · obtain rfl : n = 1 := Nat.le_antisymm (Nat.le_of_lt_succ hlt) h
    have hnone : splitAt dist tolerance 0 (1 - 1) = none := rfl
    rw [along_of_none hnone]
    simp [kept]
  · rw [kept_eq hge]

theorem zero_mem_kept (h : 0 < n) : 0 ∈ kept dist tolerance n :=
  (mem_kept_iff h).2 (mem_along.2 (.inl rfl))

theorem pred_mem_kept (h : 0 < n) : n - 1 ∈ kept dist tolerance n :=
  (mem_kept_iff h).2 (mem_along.2 (.inr (.inr rfl)))

/-- The first point of a track is kept. -/
theorem zero_mem_keptPoints {points : List (Float × Float)}
    (h : 0 < points.length) :
    0 ∈ keptPoints points tolerance :=
  zero_mem_kept h

/-- The last point of a track is kept. -/
theorem pred_mem_keptPoints {points : List (Float × Float)}
    (h : 0 < points.length) :
    points.length - 1 ∈ keptPoints points tolerance :=
  pred_mem_kept h

theorem lt_of_mem_kept (hi : i ∈ kept dist tolerance n) : i < n := by
  rcases Nat.lt_or_ge n 2 with h | h
  · rw [kept, if_pos (Nat.le_of_lt h)] at hi
    exact List.mem_range.1 hi
  · have hasc : (along (splitAt dist tolerance) 0 (n - 1)).Pairwise (· < ·) :=
      pairwise_along inside_splitAt (Nat.sub_pos_of_lt h)
    rw [kept_eq h, along] at hi
    rw [along] at hasc
    have hle := (hasc.imp Nat.le_of_lt).rel_getLast hi
    rw [List.getLast_concat] at hle
    exact Nat.lt_of_le_pred (Nat.lt_of_lt_of_le Nat.two_pos h) hle

/-- A track that goes north and then back to the parallel on which it began.
One of its points has a longitude that is no number. -/
def bend : List (Float × Float) :=
  [(0.0, 0.0), (0.0, 0.25), (0.0 / 0.0, 0.5), (0.0, 1.0), (4.0, 0.0)]

/-- What is kept of the bend: the point without a longitude is passed over,
and the one that is near to the line is dropped. -/
theorem keptPoints_bend : keptPoints bend 0.5 = [0, 3, 4] := by decide +kernel

end Telematics.Thinning
