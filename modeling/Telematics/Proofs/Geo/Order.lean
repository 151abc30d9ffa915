/-!
# The order of doubles

Doubles are compared as numbers, and a value that is no number is neither
smaller nor larger than any. So the comparisons are no total order, and what
follows from one that fails depends on whether both sides are numbers.

Each number has a rank by its sign, its exponent and its mantissa, and ranks
are in the order of words; what is no number has the empty word
(`Double.rank`). A comparison that holds says that the smaller side is a
number and how the two ranks lie (`Double.lt_iff`, `Double.le_iff`);
everything else that thinning needs of doubles is read off there.

Both zeros have one rank, so numbers of one rank need not be the same double,
and no statement here concludes that they are. Where a total order is needed,
both sides have to be known for numbers (`Double.lt_or_le`); that one of them
is may follow from another comparison (`Double.isNaN_of_lt`), but never from
one that fails.
-/

namespace Telematics.Double

open Float.Model (UnpackedFloat)

/-- The rank of a number that has been taken apart: first its class, from the
lowest infinity to the highest, and within the class exponent and mantissa. -/
def rankOf : UnpackedFloat → List Int
  | .notANumber => []
  | .infinity .negative => [-2]
  | .finite .negative m e _ => [-1, -e, -m]
  | .zero _ => [0]
  | .finite .positive m e _ => [1, e, m]
  | .infinity .positive => [2]

/-- **The rank of a double.** -/
def rank (x : Float) : List Int := rankOf x.toModel.unpack

/-- To be no higher is transitive, since the order of words is total. -/
theorem not_lt_trans {r s t : List Int} (hrs : ¬ s < r) (hst : ¬ t < s) :
    ¬ t < r :=
  List.not_lt.2 (List.le_trans (List.not_lt.1 hrs) (List.not_lt.1 hst))

/-- The comparison of numbers that have been taken apart, case by case: of
different classes the class decides, within a class the exponent and then the
mantissa. -/
theorem lt_iff_rankOf (u v : UnpackedFloat) :
    u.lt v = true ↔ rankOf u ≠ [] ∧ rankOf u < rankOf v := by
  rcases u with (_ | _) | _ | _ | ⟨_ | _, m, e, _⟩ <;>
    rcases v with (_ | _) | _ | _ | ⟨_ | _, m', e', _⟩ <;>
    dsimp only [UnpackedFloat.lt, UnpackedFloat.compare, rankOf] <;>
    simp [List.cons_lt_cons_iff, Ordering.then_eq_lt, Ordering.then_eq_gt,
      Int.compare_eq_lt, Int.compare_eq_gt, Nat.compare_eq_lt,
      Nat.compare_eq_gt]
  -- What is left: the signs of two infinities.
  all_goals rfl

/-- The same for the comparison that admits equality. -/
theorem le_iff_rankOf (u v : UnpackedFloat) :
    u.le v = true ↔ rankOf u ≠ [] ∧ ¬ rankOf v < rankOf u := by
  rcases u with (_ | _) | _ | _ | ⟨_ | _, m, e, _⟩ <;>
    rcases v with (_ | _) | _ | _ | ⟨_ | _, m', e', _⟩ <;>
    dsimp only [UnpackedFloat.le, UnpackedFloat.compare, rankOf] <;>
    simp [List.cons_lt_cons_iff, Ordering.isLE_then_iff_or, Ordering.swap_then,
      Int.compare_eq_lt, Int.compare_swap, Nat.compare_swap, Nat.isLE_compare,
      -Ordering.isLE_swap]
  -- What is left: the signs of two infinities, and two mantissas of one class.
  case infinity.negative.infinity.negative => rfl
  case infinity.negative.infinity.positive => rfl
  case infinity.positive.infinity.negative => rfl
  case infinity.positive.infinity.positive => rfl
  all_goals omega

/-- **Smaller**: a number, and of a lower rank. The rank puts signs, exponents
and fractions in one lexicographic order, so the laws of an order come from
lists. -/
theorem lt_iff {a b : Float} : a < b ↔ rank a ≠ [] ∧ rank a < rank b := by
  rw [rank, rank, ← lt_iff_rankOf]
  exact decide_eq_true_iff

/-- **No larger**: a number, and of no higher rank. What is no number is
neither smaller nor larger than anything, itself included. -/
theorem le_iff {a b : Float} : a ≤ b ↔ rank a ≠ [] ∧ ¬ rank b < rank a := by
  rw [rank, rank, ← le_iff_rankOf]
  exact decide_eq_true_iff

/-- What is no number has no rank. -/
theorem isNaN_iff {a : Float} : a.isNaN = true ↔ rank a = [] := by
  unfold Float.isNaN rank Float.Model.isNaN
  rcases a.toModel.unpack with (_ | _) | _ | _ | ⟨_ | _, m, e, _⟩
  case notANumber => exact ⟨fun _ => rfl, fun _ => rfl⟩
  all_goals exact ⟨nofun, nofun⟩

section

variable {a b c : Float}

/-- A number has one. -/
theorem isNaN_eq_false_iff : a.isNaN = false ↔ rank a ≠ [] := by
  rw [← Bool.not_eq_true, isNaN_iff]

theorem isNaN_of_lt (h : a < b) : b.isNaN = false :=
  isNaN_eq_false_iff.2 fun hb => List.not_lt_nil _ (hb ▸ (lt_iff.1 h).2)

theorem isNaN_of_le (h : a ≤ b) : b.isNaN = false :=
  isNaN_eq_false_iff.2 fun hb => by
    obtain ⟨ha, hba⟩ := le_iff.1 h
    obtain ⟨kind, rest, hrank⟩ := List.exists_cons_of_ne_nil ha
    exact hba (by rw [hb, hrank]; exact List.nil_lt_cons kind rest)

theorem le_of_lt (hab : a < b) : a ≤ b :=
  le_iff.2 ⟨(lt_iff.1 hab).1, List.lt_asymm (lt_iff.1 hab).2⟩

theorem lt_trans (hab : a < b) (hbc : b < c) : a < c :=
  lt_iff.2 ⟨(lt_iff.1 hab).1, List.lt_trans (lt_iff.1 hab).2 (lt_iff.1 hbc).2⟩

theorem le_trans (hab : a ≤ b) (hbc : b ≤ c) : a ≤ c :=
  le_iff.2 ⟨(le_iff.1 hab).1, not_lt_trans (le_iff.1 hab).2 (le_iff.1 hbc).2⟩

/-- What is no larger than something smaller is smaller. -/
theorem lt_of_le_of_lt (hab : a ≤ b) (hbc : b < c) : a < c :=
  lt_iff.2 ⟨(le_iff.1 hab).1,
    List.lt_of_le_of_lt (List.not_lt.1 (le_iff.1 hab).2) (lt_iff.1 hbc).2⟩

/-- And so is what is smaller than something no larger; here the middle one
has to be a number, and it is, since something is smaller than it. -/
theorem lt_of_lt_of_le (hab : a < b) (hbc : b ≤ c) : a < c := by
  refine lt_iff.2 ⟨(lt_iff.1 hab).1, Decidable.by_contra fun hac => ?_⟩
  exact not_lt_trans (le_iff.1 hbc).2 hac (lt_iff.1 hab).2

theorem not_le_of_lt (hab : a < b) : ¬ b ≤ a :=
  fun hba => (le_iff.1 hba).2 (lt_iff.1 hab).2

/-- **Of two numbers one is smaller or no larger** than the other. It fails
for what is no number, which is why that is excluded where distances are
compared. -/
theorem lt_or_le (ha : a.isNaN = false) (hb : b.isNaN = false) :
    a < b ∨ b ≤ a := by
  by_cases h : rank a < rank b
  · exact .inl (lt_iff.2 ⟨isNaN_eq_false_iff.1 ha, h⟩)
  · exact .inr (le_iff.2 ⟨isNaN_eq_false_iff.1 hb, h⟩)

end

end Telematics.Double
