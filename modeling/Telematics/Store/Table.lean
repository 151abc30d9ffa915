/-!
# Tables

A table holds rows under distinct whole numbers, in ascending order of them.
That order is part of the type, so a listing of the rows never has to say
it, and a row is determined by its number.
-/

namespace Telematics

/-- Rows under distinct numbers. -/
structure Table (α : Type) where
  rows : List (Int × α)
  ascending : rows.Pairwise (fun r s => r.1 < s.1) := by simp

namespace Table

/-- No rows. -/
def empty : Table α where
  rows := []

/-- The rows, without their numbers. -/
def values (t : Table α) : List α := t.rows.map (·.2)

/-- The count of rows. -/
def size (t : Table α) : Nat := t.rows.length

/-- The row under a number. -/
def find? (t : Table α) (k : Int) : Option α := t.rows.lookup k

/-! ## Insertion -/

/-- A row put in its place among others; one under the same number gives
way. -/
def insertRow (k : Int) (a : α) : List (Int × α) → List (Int × α)
  | [] => [(k, a)]
  | (l, b) :: r =>
    if k < l then (k, a) :: (l, b) :: r
    else if k = l then (k, a) :: r
    else (l, b) :: insertRow k a r

theorem mem_insertRow {k : Int} {a : α} {rows : List (Int × α)} {x : Int × α}
    (h : x ∈ insertRow k a rows) : x = (k, a) ∨ x ∈ rows := by
  induction rows with
  | nil => exact .inl (by simpa [insertRow] using h)
  | cons y r ih =>
    obtain ⟨l, b⟩ := y
    simp only [insertRow] at h
    split at h
    · simpa using h
    · split at h
      · rcases List.mem_cons.1 h with h | h
        · exact .inl h
        · exact .inr (List.mem_cons_of_mem _ h)
      · rcases List.mem_cons.1 h with h | h
        · exact .inr (h ▸ List.mem_cons_self)
        · exact (ih h).imp_right (List.mem_cons_of_mem _)

theorem pairwise_insertRow {k : Int} {a : α} {rows : List (Int × α)}
    (h : rows.Pairwise (fun r s => r.1 < s.1)) :
    (insertRow k a rows).Pairwise (fun r s => r.1 < s.1) := by
  induction rows with
  | nil => simp [insertRow]
  | cons y r ih =>
    obtain ⟨l, b⟩ := y
    obtain ⟨hl, hr⟩ := List.pairwise_cons.1 h
    simp only [insertRow]
    split
    · next hk =>
      refine List.pairwise_cons.2 ⟨fun x hx => ?_, h⟩
      rcases List.mem_cons.1 hx with rfl | hx
      · exact hk
      · exact Int.lt_trans hk (hl x hx)
    · split
      · next hk => exact List.pairwise_cons.2 ⟨fun x hx => hk ▸ hl x hx, hr⟩
      · next h1 h2 =>
        refine List.pairwise_cons.2 ⟨fun x hx => ?_, ih hr⟩
        rcases mem_insertRow hx with rfl | hx
        · show l < k
          omega
        · exact hl x hx

/-- The table with a row under a number. -/
def insert (t : Table α) (k : Int) (a : α) : Table α where
  rows := insertRow k a t.rows
  ascending := pairwise_insertRow t.ascending

/-- The table without the row under a number. -/
def erase (t : Table α) (k : Int) : Table α where
  rows := t.rows.filter (·.1 != k)
  ascending := t.ascending.filter _

/-- The table of rows that are put in one after the other. -/
def ofList (rows : List (Int × α)) : Table α :=
  rows.foldl (fun t r => t.insert r.1 r.2) empty

instance : EmptyCollection (Table α) := ⟨empty⟩
instance : Inhabited (Table α) := ⟨empty⟩

end Table

end Telematics
