import Telematics.Store.Table

/-!
# Rows of a table

The rows of a table stand in ascending order of their numbers, so a number has
one row at most and a table is known by its rows. Putting a row in adds that
row and takes away the one under the same number, if there was one; all the
others stay. The statements below say so for membership and for lookup.

Membership carries the weight: what is found under a number is the row that it
has (`Table.find?_eq_some_iff`), so that a fact about lookup is one about
rows, and in the ordered list there is no choice left once the rows are known
(`Table.ext_mem`). In what order rows were put in cannot be told from a table.
-/

namespace Telematics.Table

variable {α : Type} {t : Table α} {k l : Int} {a b : α}

/-- The list itself: on the way to its place the new row meets every row that
stays, and no other has its number. -/
theorem mem_insertRow_iff {rows : List (Int × α)}
    (h : rows.Pairwise (fun r s => r.1 < s.1)) {x : Int × α} :
    x ∈ insertRow k a rows ↔ x = (k, a) ∨ x ∈ rows ∧ x.1 ≠ k := by
  induction rows with
  | nil => simp [insertRow]
  | cons y rows ih =>
    obtain ⟨l, b⟩ := y
    obtain ⟨hl, hrows⟩ := List.pairwise_cons.1 h
    unfold insertRow
    by_cases hlt : k < l
    · -- The new row comes first, and every other has a larger number.
      have hne : ∀ x ∈ (l, b) :: rows, x.1 ≠ k := fun x hx => by
        rcases List.mem_cons.1 hx with rfl | hx
        · exact Int.ne_of_gt hlt
        · exact Int.ne_of_gt (Int.lt_trans hlt (hl x hx))
      rw [if_pos hlt, List.mem_cons]
      exact or_congr_right (iff_self_and.2 (hne x))
    · rw [if_neg hlt]
      by_cases heq : k = l
      · subst heq
        have hne : ∀ x ∈ rows, x.1 ≠ k := fun x hx => Int.ne_of_gt (hl x hx)
        rw [if_pos rfl, List.mem_cons, List.mem_cons]
        refine or_congr_right ⟨fun hx => ⟨.inr hx, hne x hx⟩, fun hx => ?_⟩
        exact hx.1.resolve_left (fun hxk => hx.2 (hxk ▸ rfl))
      · rw [if_neg heq, List.mem_cons, List.mem_cons, ih hrows]
        constructor
        · rintro (rfl | rfl | ⟨hx, hk⟩)
          · exact .inr ⟨.inl rfl, fun hlk => heq hlk.symm⟩
          · exact .inl rfl
          · exact .inr ⟨.inr hx, hk⟩
        · rintro (rfl | ⟨rfl | hx, hk⟩)
          · exact .inr (.inl rfl)
          · exact .inl rfl
          · exact .inr (.inr ⟨hx, hk⟩)

/-- **The rows after one was put in.** It holds whether or not the number had
a row before. -/
theorem mem_insert {x : Int × α} :
    x ∈ (t.insert k a).rows ↔ x = (k, a) ∨ x ∈ t.rows ∧ x.1 ≠ k :=
  mem_insertRow_iff t.ascending

/-- **A number has one row at most.** Rows ascend strictly, so two of one
number are at one place. -/
theorem eq_of_mem (ha : (k, a) ∈ t.rows) (hb : (k, b) ∈ t.rows) : a = b := by
  have hrows := t.ascending
  generalize t.rows = rows at ha hb hrows
  induction rows with
  | nil => cases ha
  | cons y rows ih =>
    obtain ⟨hy, hrows⟩ := List.pairwise_cons.1 hrows
    rcases List.mem_cons.1 ha with rfl | har
    · rcases List.mem_cons.1 hb with heq | hbr
      · exact (Prod.mk.inj heq).2.symm
      · exact (Int.lt_irrefl k (hy (k, b) hbr)).elim
    · rcases List.mem_cons.1 hb with rfl | hbr
      · exact (Int.lt_irrefl k (hy (k, a) har)).elim
      · exact ih har hbr hrows

theorem mem_of_lookup {rows : List (Int × α)} (h : rows.lookup k = some a) :
    (k, a) ∈ rows := by
  induction rows with
  | nil => cases h
  | cons y rows ih =>
    obtain ⟨l, b⟩ := y
    rw [List.lookup_cons] at h
    split at h
    · next heq =>
      obtain rfl := Option.some.inj h
      rw [eq_of_beq heq]
      exact List.mem_cons_self
    · exact List.mem_cons_of_mem _ (ih h)

/-- **What is found under a number** is the row that it has. The first row of
a number is the only one. -/
theorem find?_eq_some_iff : t.find? k = some a ↔ (k, a) ∈ t.rows := by
  unfold find?
  constructor
  · exact mem_of_lookup
  · intro h
    cases hk : t.rows.lookup k with
    | none =>
      rw [List.lookup_eq_none_iff] at hk
      exact absurd (beq_self_eq_true k) (by simpa using hk (k, a) h)
    | some b => rw [eq_of_mem h (mem_of_lookup hk)]

/-- **A table is known by its rows**, in whatever order they are looked at.
Two lists that ascend and have the same members are the same list. -/
theorem ext_mem {u : Table α} (h : ∀ x, x ∈ t.rows ↔ x ∈ u.rows) : t = u := by
  have hnodup : ∀ t : Table α, t.rows.Nodup := fun t =>
    t.ascending.imp fun hlt heq => Int.ne_of_lt hlt (congrArg Prod.fst heq)
  have hrows : t.rows = u.rows :=
    ((List.perm_ext_iff_of_nodup (hnodup t) (hnodup u)).2 h).eq_of_pairwise
      (fun _ _ _ _ hlt hgt => absurd hgt (Int.lt_asymm hlt)) t.ascending
        u.ascending
  cases t
  cases u
  congr

/-- **A table is known by what is found in it.** -/
theorem ext_find? {u : Table α} (h : ∀ k, t.find? k = u.find? k) : t = u :=
  ext_mem fun x => by rw [← find?_eq_some_iff, ← find?_eq_some_iff, h]

/-- **What is found after a row was put in**: under its number that row, and
what was there under any other. -/
theorem find?_insert :
    (t.insert k a).find? l = if l = k then some a else t.find? l := by
  ext b
  rw [find?_eq_some_iff, mem_insert]
  split
  · next h =>
    subst h
    simp [eq_comm]
  · next h => simp [h, find?_eq_some_iff]

/-- A row with the largest number comes last. -/
theorem values_insert_of_lt (h : ∀ x ∈ t.rows, x.1 < k) :
    (t.insert k a).values = t.values ++ [a] := by
  show (insertRow k a t.rows).map (·.2) = t.rows.map (·.2) ++ [a]
  generalize t.rows = rows at h
  induction rows with
  | nil => rfl
  | cons y rows ih =>
    obtain ⟨hy, hrest⟩ := List.forall_mem_cons.1 h
    unfold insertRow
    rw [if_neg (Int.not_lt.2 (Int.le_of_lt hy)), if_neg (Int.ne_of_gt hy),
      List.map_cons, ih hrest]
    rfl

/-- **The numbers of a table that is made of rows** are those of the rows. If
a number occurs again, it is there once. -/
theorem isSome_find?_ofList {rows : List (Int × α)} :
    ((ofList rows).find? k).isSome ↔ k ∈ rows.map (·.1) := by
  have hfold : ∀ (rows : List (Int × α)) (t : Table α),
      ((rows.foldl (fun t r => t.insert r.1 r.2) t).find? k).isSome
        ↔ (t.find? k).isSome ∨ k ∈ rows.map (·.1) := by
    intro rows
    induction rows with
    | nil => exact fun t => (or_iff_left List.not_mem_nil).symm
    | cons r rows ih =>
      intro t
      rw [List.foldl_cons, ih, find?_insert, List.map_cons, List.mem_cons]
      by_cases hk : k = r.1 <;> simp [hk]
  have hempty : ¬ ((empty : Table α).find? k).isSome := Bool.false_ne_true
  exact (hfold rows empty).trans (or_iff_right hempty)

/-- Values that are left, in their order. -/
theorem values_eq_filter {u : Table α} {q : α → Bool}
    (h : ∀ k a, (k, a) ∈ u.rows ↔ (k, a) ∈ t.rows ∧ q a) :
    u.values = t.values.filter q := by
  let left : Table α :=
    { rows := t.rows.filter fun x => q x.2
      ascending := t.ascending.filter _ }
  have hleft : u = left := ext_mem fun x => by
    obtain ⟨k, a⟩ := x
    rw [h, List.mem_filter]
  rw [hleft]
  exact List.filter_map.symm

theorem mem_values : a ∈ t.values ↔ ∃ k, (k, a) ∈ t.rows := by
  unfold values
  simp

end Telematics.Table
