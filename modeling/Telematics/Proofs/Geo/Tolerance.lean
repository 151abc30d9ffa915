import Telematics.Proofs.Geo.Splitting

/-!
# What a tolerance promises

The points that thinning keeps stand for all of a track. They are in order,
both ends are among them, and a point that is dropped was near enough to the
line between the two that are kept around it, as they are in the end
(`Approximates`). The sweep does not compare a point with that line when it is
dropped but with that of a segment on its stack. The two are the same, since
from one point that is kept to the next there is a segment that was looked at
and stayed whole (`isChain_kept`).

A distance that is no number is not farther than anything, so what is promised
of such a point is only that it does not lie the tolerance away.

A larger tolerance keeps fewer points. The point at which a segment is split
does not depend on the tolerance, only whether it is split does; so the
segments of the coarser run are among those of the finer one (`between_mono`).
-/

namespace Telematics.Thinning

variable {dist : Nat → Nat → Nat → Float} {s t tolerance : Float}
  {n f l i : Nat}

/-! ## Near the line between neighbours -/

/-- **What is dropped is near** the line between the points that are kept
around it. The two are neighbours in the chain, so the segment between them
stayed whole, and then none of its points lies the tolerance away: those on
the line do not since the tolerance is positive. -/
theorem near_of_infix_kept (htol : 0.0 < tolerance)
    (hfl : [f, l] <:+: kept dist tolerance n) (hfi : f < i) (hil : i < l) :
    ¬ tolerance ≤ dist i f l := by
  have hpair := List.IsChain.infix isChain_kept hfl
  obtain ⟨-, hwhole⟩ := List.isChain_pair.1 hpair
  exact fun hfar =>
    splitAt_eq_none_iff.1 hwhole i hfi hil
    (Double.lt_of_lt_of_le htol hfar) hfar

/-- **What is kept stands for a track.** -/
structure Approximates (points : List (Float × Float)) (tolerance : Float)
    (kept : List Nat) : Prop where
  ascending : kept.Pairwise (· < ·)
  of_track : ∀ i ∈ kept, i < points.length
  /-- Both ends are kept, if there are any. -/
  ends : points ≠ [] → 0 ∈ kept ∧ points.length - 1 ∈ kept
  /-- No point between two that are kept next to each other lies the tolerance
  away from the line through these. -/
  near : ∀ f l, [f, l] <:+: kept → ∀ i, f < i → i < l → ∀ p a b,
    points[i]? = some p → points[f]? = some a → points[l]? = some b →
      ¬ lineDistance p a b ≥ tolerance

/-- **Thinning approximates a track to within the tolerance.** -/
theorem approximates_keptPoints (points : List (Float × Float))
    {tolerance : Float} (htol : 0.0 < tolerance) :
    Approximates points tolerance (keptPoints points tolerance) where
  ascending := pairwise_kept
  of_track _ := lt_of_mem_kept
  ends hne :=
    ⟨zero_mem_kept (List.length_pos_iff.2 hne),
      pred_mem_kept (List.length_pos_iff.2 hne)⟩
  near f l hfl i hfi hil p a b hp ha hb := by
    have hnear := near_of_infix_kept htol hfl hfi hil
    simpa only [List.getElem?_toArray, hp, ha, hb, Option.getD_some] using hnear

/-- Of the bend three points are kept. -/
theorem approximates_keptPoints_bend :
    (0.0 : Float) < 0.5 ∧ Approximates bend 0.5 [0, 3, 4] :=
  ⟨by decide, keptPoints_bend ▸ approximates_keptPoints bend (by decide)⟩

/-! ## Coarser and finer -/

/-- **Who splits wherever another does keeps all that the other keeps.** By
induction on the splits of the other: where it splits, both have the same two
halves. -/
theorem between_mono {p q : Nat → Nat → Option Nat}
    (hpq : ∀ f l i, p f l = some i → q f l = some i) :
    ∀ i ∈ between p f l, i ∈ between q f l := by
  fun_induction between p f l with
  | case1 f l hnone => exact fun _ hi => absurd hi List.not_mem_nil
  | case2 f l m hsome hin ihl ihr =>
    rw [between_of_some (hpq _ _ _ hsome) hin]
    intro i hi
    rcases List.mem_append.1 hi with hi | hi
    · exact List.mem_append_left _ (ihl i hi)
    · rcases List.mem_cons.1 hi with rfl | hi
      · exact List.mem_append_right _ (.head _)
      · exact List.mem_append_right _ (.tail _ (ihr i hi))
  | case3 f l m hsome hout => exact fun _ hi => absurd hi List.not_mem_nil

/-- A segment that is split with a tolerance is split with a smaller one, and
at the same point. -/
theorem splitAt_of_le (h : s ≤ t) (hi : splitAt dist t f l = some i) :
    splitAt dist s f l = some i := by
  obtain ⟨hp, hfar⟩ := splitAt_eq_some_iff.1 hi
  exact splitAt_eq_some_iff.2 ⟨hp, Double.le_trans h hfar⟩

/-- **What is kept with a tolerance is kept with any smaller one.** A segment
that is split for the larger tolerance is split at the same point for the
smaller one, so the segments are the same as far as the larger one goes. -/
theorem mem_kept_of_le (h : s ≤ t) (hi : i ∈ kept dist t n) :
    i ∈ kept dist s n := by
  have hpos : 0 < n := Nat.zero_lt_of_lt (lt_of_mem_kept hi)
  have hi := mem_along.1 ((mem_kept_iff hpos).1 hi)
  refine (mem_kept_iff hpos).2 (mem_along.2 (hi.imp_right (.imp_left ?_)))
  exact between_mono (fun _ _ _ => splitAt_of_le h) i

/-- **A larger tolerance keeps no point that a smaller one drops.** To compare
the two tolerances is to say that both are numbers: with one that is not, no
segment is split at all. -/
theorem mem_keptPoints_of_le (points : List (Float × Float)) (h : s ≤ t) :
    ∀ i ∈ keptPoints points t, i ∈ keptPoints points s :=
  fun _ => mem_kept_of_le h

/-- The bend with two tolerances. -/
theorem mem_keptPoints_bend_of_le :
    (0.5 : Float) ≤ 2.0 ∧ ∀ i ∈ keptPoints bend 2.0, i ∈ keptPoints bend 0.5 :=
  ⟨by decide, mem_keptPoints_of_le bend (by decide)⟩

end Telematics.Thinning
