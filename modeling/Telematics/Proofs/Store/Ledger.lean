import Telematics.Proofs.Store.Points

/-!
# Numbers that are not given twice

Beside a table a store remembers the largest number that was ever in it, and a
new row gets the next one. Rows come in under numbers of their own as well,
and they go, so the table alone does not show which numbers there were.
Vehicles and points are kept alike, and what happens to either of them is one
of five steps (`Ledger.Step`).

That a number is new means that it is larger than all that there ever were,
not only than those that are there. So the statement is about a ledger and its
past (`Ledger.Ahead`), and one step keeps it (`Ledger.Ahead.step`). The number
that is remembered was given to a row of the past, if it was given at all; so
as long as no row ever had the largest number there is, there are numbers left
(`Ledger.Ahead.last_lt`).

The past is kept beside the ledger here and nowhere in the program, which has
no more than the one number to go by. Numbers that were skipped are not given
later: a row that comes in under a large number of its own uses up all the
smaller ones.
-/

namespace Telematics

/-- **A table, and the largest number so far.** -/
structure Ledger (α : Type) where
  table : Table α
  last : Int

namespace Ledger

variable {α : Type} {number : α → Int} {l l' : Ledger α}
  {past : List (Ledger α)}

/-- **What becomes of a ledger** in one step. -/
inductive Step (number : α → Int) (l : Ledger α) : Ledger α → Prop where
  | keep : Step number l l
  /-- A row is filed under the number that it carries. -/
  | put (a : α) :
    Step number l ⟨l.table.insert (number a) a, max l.last (number a)⟩
  /-- A row is entered under the next number. -/
  | enter (a : α) (h : nextRowNumber? l.last = some (number a)) :
    Step number l ⟨l.table.insert (number a) a, number a⟩
  /-- A row gives way to one that carries the same number. -/
  | amend (k : Int) (a b : α) (hb : l.table.find? k = some b)
    (ha : number a = number b) :
    Step number l ⟨l.table.insert k a, l.last⟩
  | erase (k : Int) : Step number l ⟨l.table.erase k, l.last⟩

/-- Every row is filed under the number that it carries. -/
def Numbered (number : α → Int) (l : Ledger α) : Prop :=
  ∀ k a, (k, a) ∈ l.table.rows → number a = k

/-- No number of the table is larger than the one that is remembered. -/
def Bounded (l : Ledger α) : Prop := ∀ k a, (k, a) ∈ l.table.rows → k ≤ l.last

/-- The number that is remembered was given to a row of the table, if any was.
-/
def Attained (l : Ledger α) : Prop :=
  l.last = 0 ∨ ∃ a, (l.last, a) ∈ l.table.rows

/-- A row that is filed under the number it carries. The numbers that are
remembered play no part in this. -/
theorem numbered_insert {t : Table α} {k : Int} {a : α} {m n : Int}
    (h : (mk t m).Numbered number) (ha : number a = k) :
    (mk (t.insert k a) n).Numbered number := by
  intro j b hb
  rcases Table.mem_insert.1 hb with heq | ⟨hb, -⟩
  · obtain ⟨rfl, rfl⟩ := Prod.mk.inj heq
    exact ha
  · exact h j b hb

/-- **One step keeps rows under their numbers.** A row that gives way to
another is the one case in which the number of the place and that of the row
could part. -/
theorem Step.numbered (hs : Step number l l') (h : l.Numbered number) :
    l'.Numbered number := by
  cases hs with
  | keep => exact h
  | put a => exact numbered_insert h rfl
  | enter a _ => exact numbered_insert h rfl
  | amend k a b hb ha =>
    exact numbered_insert h (ha.trans (h k b (Table.find?_eq_some_iff.1 hb)))
  | erase k => exact fun j a ha => h j a (Table.mem_erase.1 ha).1

/-- A number that is remembered has to be no smaller than it was, and no
smaller than that of the row that is put in. -/
theorem bounded_insert {t : Table α} {k : Int} {a : α} {m n : Int}
    (h : (mk t m).Bounded) (hk : k ≤ n) (hn : m ≤ n) :
    (mk (t.insert k a) n).Bounded := by
  intro j b hb
  rcases Table.mem_insert.1 hb with heq | ⟨hb, -⟩
  · obtain ⟨rfl, -⟩ := Prod.mk.inj heq
    exact hk
  · exact Int.le_trans (h j b hb) hn

/-- **One step keeps the number that is remembered ahead of the table**, and
never makes it smaller. A row that is taken out leaves it where it was. -/
theorem Step.bounded (hs : Step number l l') (h : l.Bounded) :
    l'.Bounded ∧ l.last ≤ l'.last := by
  cases hs with
  | keep => exact ⟨h, Int.le_refl _⟩
  | put a =>
    exact ⟨bounded_insert h (Int.le_max_right _ _) (Int.le_max_left _ _),
      Int.le_max_left _ _⟩
  | enter a ha =>
    have hle : l.last ≤ number a := by
      rw [(nextRowNumber?_eq_some_iff.1 ha).2]
      omega
    exact ⟨bounded_insert h (Int.le_refl _) hle, hle⟩
  | amend k a b hb _ =>
    have hk := h k b (Table.find?_eq_some_iff.1 hb)
    exact ⟨bounded_insert h hk (Int.le_refl _), Int.le_refl _⟩
  | erase k =>
    exact ⟨fun j a ha => h j a (Table.mem_erase.1 ha).1, Int.le_refl _⟩

/-- The number that is remembered stays what it was, or a row has it now. -/
theorem Step.last_cases (hs : Step number l l') :
    l'.last = l.last ∨ ∃ a, (l'.last, a) ∈ l'.table.rows := by
  cases hs with
  | put a =>
    rcases Int.le_total (number a) l.last with hle | hle
    · exact .inl (Int.max_eq_left hle)
    · refine .inr ⟨a, Table.mem_insert.2 (.inl ?_)⟩
      exact congrArg (·, a) (Int.max_eq_right hle)
  | enter a _ => exact .inr ⟨a, Table.mem_insert.2 (.inl rfl)⟩
  | _ => exact .inl rfl

/-- Of two numbers the larger one is remembered, so whichever it is was given
to a row, if any was. -/
theorem Attained.put (h : l.Attained) (number : α → Int) (a : α) :
    Attained ⟨l.table.insert (number a) a, max l.last (number a)⟩ := by
  have hs : Step number l
    ⟨l.table.insert (number a) a, max l.last (number a)⟩ := .put a
  rcases hs.last_cases with hlast | hrow
  · -- The row that had the number has it still, or else the new one has.
    rw [Attained, hlast]
    refine h.imp_right fun ⟨b, hb⟩ => ?_
    by_cases heq : l.last = number a
    · exact ⟨a, Table.mem_insert.2 (.inl (congrArg (·, a) heq))⟩
    · exact ⟨b, Table.mem_insert.2 (.inr ⟨hb, heq⟩)⟩
  · exact .inr hrow

/-! ## The past -/

/-- **A ledger is ahead of its past**: no number that was ever in it is larger
than the one that is remembered, and that one was given to some row of the
past, if it was given. -/
structure Ahead (past : List (Ledger α)) (l : Ledger α) : Prop where
  here : l ∈ past
  le_last : ∀ m ∈ past, ∀ k a, (k, a) ∈ m.table.rows → k ≤ l.last
  attained : l.last = 0 ∨ ∃ m ∈ past, ∃ a, (l.last, a) ∈ m.table.rows

/-- **Without a past** a ledger is ahead of itself if the number that is
remembered bounds the table and is taken from it. -/
theorem Bounded.ahead (h : l.Bounded) (hlast : l.Attained) : Ahead [l] l where
  here := List.mem_singleton_self l
  le_last _ hm := List.mem_singleton.1 hm ▸ h
  attained := hlast.imp_right fun hrow => ⟨l, List.mem_singleton_self l, hrow⟩

/-- **One step leaves a ledger ahead of its past.** A row may be taken out
again, the one with the largest number among them: the past still has it. -/
theorem Ahead.step (h : Ahead past l) (hs : Step number l l') :
    Ahead (past ++ [l']) l' := by
  obtain ⟨hbounded, hle⟩ := hs.bounded (h.le_last l h.here)
  have hhere : l' ∈ past ++ [l'] :=
    List.mem_append_right _ (List.mem_singleton_self _)
  refine ⟨hhere, fun m hm k a ha => ?_, ?_⟩
  · rcases List.mem_append.1 hm with hm | hm
    · exact Int.le_trans (h.le_last m hm k a ha) hle
    · obtain rfl := List.mem_singleton.1 hm
      exact hbounded k a ha
  · rcases hs.last_cases with heq | hrow
    · rw [heq]
      exact h.attained.imp_right fun ⟨m, hm, hrow⟩ =>
        ⟨m, List.mem_append_left _ hm, hrow⟩
    · exact .inr ⟨l', hhere, hrow⟩

/-- **There are numbers left** if no row ever had the largest. The number that
is remembered is zero at first, or that of some row of the past, and each of
these is smaller. -/
theorem Ahead.last_lt (h : Ahead past l)
    (hroom : ∀ m ∈ past, ∀ k a, (k, a) ∈ m.table.rows → k < maxRowNumber) :
    l.last < maxRowNumber := by
  rcases h.attained with hzero | ⟨m, hm, a, ha⟩
  · rw [hzero]
    decide
  · exact hroom m hm _ a ha

/-- **The next number is larger than all that there ever were.** It is not
enough that none of the rows that are there has it. -/
theorem Ahead.lt_next (h : Ahead past l) {n : Int}
    (hn : nextRowNumber? l.last = some n) {m : Ledger α} (hm : m ∈ past)
    {k : Int} {a : α} (ha : (k, a) ∈ m.table.rows) : k < n := by
  rw [(nextRowNumber?_eq_some_iff.1 hn).2]
  exact Int.lt_add_one_of_le (h.le_last m hm k a ha)

end Ledger

end Telematics
