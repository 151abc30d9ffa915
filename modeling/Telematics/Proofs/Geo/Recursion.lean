import Telematics.Proofs.Geo.Splitting
import Mathlib.Logic.Function.Iterate

/-!
# The recursion behind the sweep

The rule of Douglas and Peucker is told as a recursion (`recursion`): of the
points between two, the first of the farthest is looked for, and if it lies at
least the tolerance away, the halves are thinned and put together at it. The
sweep does this with a stack, the far half of a segment first, and notes the
points as it comes upon them.

What is left is the same, since either way it is settled by which segments are
split, and where (`splitAt_eq_filter`, `recursion_eq`). The two look for the
farthest point differently, though. The sweep starts from a distance of zero,
so it finds nothing in a segment all of whose points are on the line; the
recursion finds the first of them, and lets it go for want of distance. This is
where a positive tolerance is needed: with a tolerance of zero the recursion
would keep every point of a straight track.

That the sweep ends is not told by what it returns. It is stated of the loop as
it goes, one segment off the stack at a time (`turn`), with a bound on how many
it takes (`exists_turns`).
-/

namespace Telematics.Thinning

variable {dist : Nat → Nat → Nat → Float} {tolerance : Float}
  {first last i j : Nat}

/-! ## The recursion -/

/-- The points strictly between two. -/
def inner (first last : Nat) : List Nat :=
  List.range' (first + 1) (last - (first + 1))

/-- Neither end is among them. -/
theorem mem_inner : i ∈ inner first last ↔ first < i ∧ i < last := by
  rw [inner, List.mem_range'_1]
  omega

/-- An inner point of the largest distance: it is a number, and no inner point
is farther. -/
def isFarthest (D : Nat → Float) (first last i : Nat) : Bool :=
  !(D i).isNaN && (inner first last).all fun j => !(D i < D j)

/-- The test, point by point. -/
theorem isFarthest_iff {D : Nat → Float} : isFarthest D first last i = true ↔
    (D i).isNaN = false ∧ ∀ j, first < j → j < last → ¬ D i < D j := by
  simp only [isFarthest, Bool.and_eq_true, Bool.not_eq_true', List.all_eq_true,
    mem_inner, decide_eq_false_iff_not, and_imp]

/-- The first inner point of the largest distance, if any distance is a
number. -/
def farthestPoint? (D : Nat → Float) (first last : Nat) : Option Nat :=
  (inner first last).find? (isFarthest D first last)

/-- What is found is an inner point of the largest distance, and all before it
are not. -/
theorem farthestPoint?_eq_some_iff {D : Nat → Float} :
    farthestPoint? D first last = some i ↔
    (first < i ∧ i < last) ∧ isFarthest D first last i = true
      ∧ ∀ j, first < j → j < i → isFarthest D first last j = false := by
  rw [← mem_inner]
  simp only [farthestPoint?, inner, List.find?_range'_eq_some,
    Bool.not_eq_true', Nat.succ_le_iff]
  exact and_left_comm

/-- **The peak of a segment is the first inner point of the largest
distance**, where that is off the line. The program finds the peak by one pass
that keeps the best so far, and the description by asking for a maximum and
then for the first point that attains it. -/
theorem peak_iff_farthestPoint? {D : Nat → Float} (hoff : 0.0 < D i) :
    Peak D first last i ↔ farthestPoint? D first last = some i := by
  rw [farthestPoint?_eq_some_iff]
  constructor
  · intro hp
    refine ⟨⟨hp.first_lt, hp.lt_last⟩,
      isFarthest_iff.2 ⟨Double.isNaN_of_lt hoff, ?_⟩, ?_⟩
    · intro j hfj hjl hlt
      exact Double.not_le_of_lt hlt
        (hp.dist_le hfj hjl (Double.isNaN_of_lt hlt))
    · intro j hfj hji
      refine Bool.eq_false_iff.2 fun hj => ?_
      obtain ⟨hnum, hnone⟩ := isFarthest_iff.1 hj
      rcases Double.lt_or_le hnum (Double.isNaN_of_lt hoff) with hlt | hle
      · exact hnone i hp.first_lt hp.lt_last hlt
      · exact hp.before j hfj hji hle
  · rintro ⟨⟨hfi, hil⟩, hi, hfirst⟩
    obtain ⟨-, hnone⟩ := isFarthest_iff.1 hi
    refine ⟨hfi, hil, hoff, fun j hfj hji hle => ?_,
      fun j hij => hnone j (hfi.trans hij)⟩
    -- A point before it that is no nearer would be of the largest distance
    -- itself.
    have hj : isFarthest D first last j = true := isFarthest_iff.2
      ⟨Double.isNaN_of_le hle,
        fun k hfk hkl hlt => hnone k hfk hkl (Double.lt_of_le_of_lt hle hlt)⟩
    exact absurd hj (Bool.eq_false_iff.1 (hfirst j hfj hji))

/-- **The rule of Douglas and Peucker, as a recursion**: between two points, the
first of those that are farthest from the line through them is looked for. If
it is at least the tolerance away, both halves are looked at in the same way
and put together at the point that they share; otherwise the two points are
all that is left. -/
def recursion (dist : Nat → Nat → Nat → Float) (tolerance : Float)
    (first last : Nat) : List Nat :=
  match h : farthestPoint? (fun i => dist i first last) first last with
  | none => [first, last]
  | some i =>
    have _hin : first < i ∧ i < last := (farthestPoint?_eq_some_iff.1 h).1
    if dist i first last ≥ tolerance then
      recursion dist tolerance first i ++ (recursion dist tolerance i last).tail
    else [first, last]
termination_by last - first

/-- **A segment is split where the recursion would split it**: at the first of
its farthest points, if that is the tolerance away. -/
theorem splitAt_eq_filter (htol : 0.0 < tolerance) :
    splitAt dist tolerance first last
      = (farthestPoint? (fun i => dist i first last) first last).filter
          fun i => dist i first last ≥ tolerance := by
  ext i
  rw [splitAt_eq_some_iff, Option.filter_eq_some_iff, decide_eq_true_iff]
  exact and_congr_left fun hfar =>
    peak_iff_farthestPoint? (Double.lt_of_lt_of_le htol hfar)

/-- **The recursion keeps what the splits keep.** By induction along the
recursion: both split a segment at the same point, and where the recursion
stops there is no split. -/
theorem recursion_eq (htol : 0.0 < tolerance) (first last : Nat) :
    recursion dist tolerance first last
      = along (splitAt dist tolerance) first last := by
  fun_induction recursion dist tolerance first last with
  | case1 first last h =>
    have hnone : splitAt dist tolerance first last = none := by
      rw [splitAt_eq_filter htol, h, Option.filter_none]
    rw [along_of_none hnone]
  | case2 first last i h hin hfar ihl ihr =>
    have hsome : splitAt dist tolerance first last = some i := by
      rw [splitAt_eq_filter htol, h, Option.filter_some,
        if_pos (decide_eq_true hfar)]
    rw [along_of_some hsome hin, ihl, ihr]
  | case3 first last i h hin hnear =>
    have hnone : splitAt dist tolerance first last = none := by
      rw [splitAt_eq_filter htol, h, Option.filter_some,
        if_neg (mt of_decide_eq_true hnear)]
    rw [along_of_none hnone]

/-! ## The sweep, turn by turn -/

/-- **A turn of the sweep**: the segment on top of the stack is taken off. If it
is split, the point is noted and both halves are put on the stack. -/
def turn (split : Nat → Nat → Option Nat) :
    List (Nat × Nat) × List Nat → List (Nat × Nat) × List Nat
  | ([], kept) => ([], kept)
  | ((first, last) :: rest, kept) =>
    match split first last with
    | none => (rest, kept)
    | some i => ((i, last) :: (first, i) :: rest, i :: kept)

/-- **The sweep ends**: after no more turns than there is work, the stack is
empty. -/
theorem exists_turns {split : Nat → Nat → Option Nat} (hsplit : Inside split)
    (stack : List (Nat × Nat)) (kept : List Nat) :
    ∃ turns ≤ work stack, (turn split)^[turns] (stack, kept)
      = ([], sweep split stack kept) := by
  fun_induction sweep split stack kept with
  | case1 kept => exact ⟨0, Nat.zero_le _, rfl⟩
  | case2 kept first last rest h ih =>
    obtain ⟨turns, hle, hdone⟩ := ih
    refine ⟨turns + 1, ?_, ?_⟩
    · simp only [work]
      split <;> omega
    · rw [Function.iterate_succ_apply, turn, h]
      exact hdone
  | case3 kept first last rest i h hin ih =>
    obtain ⟨turns, hle, hdone⟩ := ih
    refine ⟨turns + 1, ?_, ?_⟩
    · simp only [work] at hle ⊢
      split at hle <;> split at hle <;> split <;> omega
    · rw [Function.iterate_succ_apply, turn, h]
      exact hdone
  | case4 kept first last rest i h hout ih => exact absurd (hsplit _ _ _ h) hout

/-- **The sweep of a track keeps what the recursion keeps**, and it ends: after
no more than two turns for every segment between neighbours the stack is
empty, and what was noted by then is what the recursion keeps between the
ends. -/
theorem keptPoints_eq_recursion {points : List (Float × Float)}
    (htwo : 2 ≤ points.length) (htol : 0.0 < tolerance) :
    let dist := measured lineDistance points
    let last := points.length - 1
    keptPoints points tolerance = recursion dist tolerance 0 last
      ∧ ∃ turns ≤ 2 * last - 1, ∃ found,
        (turn (splitAt dist tolerance))^[turns] ([(0, last)], []) = ([], found)
        ∧ 0 :: found.mergeSort ++ [last] = recursion dist tolerance 0 last := by
  intro dist last
  have hpos : 0 < last := Nat.sub_pos_of_lt htwo
  have hrec : recursion dist tolerance 0 last
      = along (splitAt dist tolerance) 0 last :=
    recursion_eq htol 0 last
  have hsplit : Inside (splitAt dist tolerance) := inside_splitAt
  refine ⟨?_, ?_⟩
  · rw [keptPoints_eq, kept_eq htwo, hrec]
  · obtain ⟨turns, hle, hdone⟩ := exists_turns hsplit [(0, last)] []
    refine ⟨turns, ?_, _, hdone, ?_⟩
    · simpa only [work, Nat.not_le.2 hpos, if_false, Nat.sub_zero, Nat.add_zero]
        using hle
    · rw [mergeSort_sweep hsplit hpos, hrec]
      rfl

/-- The bend, with a point whose distances are no numbers. -/
theorem keptPoints_bend_eq_recursion :
    let dist := measured lineDistance bend
    2 ≤ bend.length ∧ (0.0 : Float) < 0.5 ∧ [0, 3, 4] = recursion dist 0.5 0 4
      ∧ ∃ turns ≤ 7, ∃ found, (turn (splitAt dist 0.5))^[turns] ([(0, 4)], [])
        = ([], found)
        ∧ 0 :: found.mergeSort ++ [4] = recursion dist 0.5 0 4 := by
  have htwo : 2 ≤ bend.length := by decide
  have htol : (0.0 : Float) < 0.5 := by decide
  obtain ⟨hkept, hturns⟩ := keptPoints_eq_recursion htwo htol
  exact ⟨htwo, htol, keptPoints_bend ▸ hkept, hturns⟩

end Telematics.Thinning
