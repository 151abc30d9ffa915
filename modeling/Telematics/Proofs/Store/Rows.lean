import Mathlib.Data.List.Pairwise
import Telematics.Proofs.Store.Points

/-!
# From rows to a store and back

A store that is filled from rows has all of them if no two of a kind have one
number, and nothing else. Vehicles and points come back by number, providers
in the order in which they were entered. Where numbers occur again the last
row of a number is the one that stands.

Rows that are put into a table one after the other are in it in the order of
their numbers, whatever order they came in. So what a table holds is compared
with the rows as a permutation (`Table.values_ofRows_perm`); and a table whose
rows carry their numbers is known by what it holds, so that it is the same
table that is made of it again (`Table.ofRows_values`). Providers are not in a
table. Who of them is there is a matter of who stands last under a number
(`Store.mem_addProviders`).

For a store and its rows this gives both directions,
`Store.contents_ofContents` and `Store.ofContents_contents`. The numbers that
a store remembers beside its tables are not among the rows and do not come
back.
-/

open scoped List

namespace Telematics

namespace Table

variable {α : Type} {t : Table α} {k : Int} {a : α}

/-- Where a number is free, its row is put between the others. -/
theorem insertRow_perm {rows : List (Int × α)} (h : ∀ x ∈ rows, x.1 ≠ k) :
    insertRow k a rows ~ (k, a) :: rows := by
  induction rows with
  | nil => exact .refl _
  | cons y rows ih =>
    obtain ⟨hy, hrows⟩ := List.forall_mem_cons.1 h
    unfold insertRow
    split
    · exact .refl _
    · rw [if_neg (fun hk => hy hk.symm)]
      exact ((ih hrows).cons y).trans (.swap ..)

/-- A row under a number that was free is one more. -/
theorem values_insert_perm (h : ∀ x ∈ t.rows, x.1 ≠ k) :
    (t.insert k a).values ~ a :: t.values :=
  (insertRow_perm h).map Prod.snd

/-- Rows under numbers of their own are filed beside those that are there. -/
theorem values_foldl_insert_perm {key : α → Int} {as : List α}
    (hdistinct : as.Pairwise fun a b => key a ≠ key b)
    (hfree : ∀ a ∈ as, ∀ x ∈ t.rows, x.1 ≠ key a) :
    (as.foldl (fun t a => t.insert (key a) a) t).values ~ as ++ t.values := by
  induction as generalizing t with
  | nil => exact .refl _
  | cons a as ih =>
    obtain ⟨hne, hrest⟩ := List.pairwise_cons.1 hdistinct
    obtain ⟨ha, has⟩ := List.forall_mem_cons.1 hfree
    have hfree' : ∀ b ∈ as, ∀ x ∈ (t.insert (key a) a).rows, x.1 ≠ key b := by
      intro b hb x hx
      rcases mem_insert.1 hx with rfl | ⟨hx, -⟩
      · exact hne b hb
      · exact has b hb x hx
    calc (as.foldl (fun t a => t.insert (key a) a) (t.insert (key a) a)).values
      _ ~ as ++ (t.insert (key a) a).values := ih hrest hfree'
      _ ~ as ++ a :: t.values := (values_insert_perm ha).append_left as
      _ ~ a :: as ++ t.values := List.perm_middle

/-- **A table that is made of rows holds them**, if no two have one number.
The order is lost, since a table is in the order of the numbers. -/
theorem values_ofRows_perm {key : α → Int} {as : List α}
    (hdistinct : as.Pairwise fun a b => key a ≠ key b) :
    (as.foldl (fun t a => t.insert (key a) a) (∅ : Table α)).values ~ as :=
  (values_foldl_insert_perm hdistinct fun _ _ _ hx =>
    absurd hx List.not_mem_nil).trans
    (.of_eq (List.append_nil _))

/-- Where every row carries its number, a row is known by what it holds. -/
theorem mem_rows_iff {key : α → Int} (h : ∀ k a, (k, a) ∈ t.rows → key a = k) :
    (k, a) ∈ t.rows ↔ a ∈ t.values ∧ key a = k := by
  rw [mem_values]
  constructor
  · exact fun ha => ⟨⟨k, ha⟩, h k a ha⟩
  · rintro ⟨⟨l, hl⟩, rfl⟩
    rwa [h l a hl]

/-- Under a number there is a row that carries it, or none does. -/
theorem find?_cases {key : α → Int} (h : ∀ k a, (k, a) ∈ t.rows → key a = k)
    (k : Int) :
    (∃ a ∈ t.values, key a = k ∧ t.find? k = some a)
      ∨ (∀ a ∈ t.values, key a ≠ k) ∧ t.find? k = none := by
  have hmem (a : α) : t.find? k = some a ↔ a ∈ t.values ∧ key a = k :=
    find?_eq_some_iff.trans (mem_rows_iff h)
  cases hfind : t.find? k with
  | some a =>
    obtain ⟨ha, hk⟩ := (hmem a).1 hfind
    exact .inl ⟨a, ha, hk, rfl⟩
  | none =>
    refine .inr ⟨fun a ha hk => ?_, rfl⟩
    have hsome := (hmem a).2 ⟨ha, hk⟩
    rw [hfind] at hsome
    cases hsome

/-- **A table whose rows carry their numbers is made again of what they
hold.** By membership: a row is in the one exactly if it is in the other. -/
theorem ofRows_values {key : α → Int} (h : ∀ k a, (k, a) ∈ t.rows → key a = k) :
    t.values.foldl (fun t a => t.insert (key a) a) ∅ = t := by
  have hdistinct : t.values.Pairwise fun a b => key a ≠ key b := by
    refine List.pairwise_map.2
      (t.ascending.imp_of_mem fun {x y} hx hy hlt heq => ?_)
    rw [h x.1 x.2 hx, h y.1 y.2 hy] at heq
    exact Int.ne_of_lt hlt heq
  have hperm := values_ofRows_perm hdistinct
  have hkeys : ∀ k a,
      (k, a) ∈ (t.values.foldl
        (fun t a => t.insert (key a) a) (∅ : Table α)).rows →
        key a = k := by
    refine List.foldlRecOn
      (motive := fun u : Table α => ∀ k a, (k, a) ∈ u.rows → key a = k)
      _ _ (fun _ _ hx => absurd hx List.not_mem_nil) fun u hu b _ k a ha => ?_
    rcases mem_insert.1 ha with heq | ⟨ha, -⟩
    · obtain ⟨rfl, rfl⟩ := Prod.mk.inj heq
      rfl
    · exact hu k a ha
  exact ext_mem fun x => by
    rw [mem_rows_iff hkeys, mem_rows_iff h, hperm.mem_iff]

end Table

/-- **A provider stands** in a list if none with its number comes behind
it. -/
def Provider.Stands (ps : List Provider) (p : Provider) : Prop :=
  ∃ front back, ps = front ++ p :: back ∧ ∀ q ∈ back, q.id ≠ p.id

namespace Provider

variable {ps : List Provider} {p q : Provider}

theorem Stands.mem (h : Stands ps p) : p ∈ ps := by
  obtain ⟨front, back, rfl, -⟩ := h
  exact List.mem_append_right _ List.mem_cons_self

theorem not_stands_nil : ¬ Stands [] p := fun h => List.not_mem_nil h.mem

/-- With one more at the front: that one stands if no other has its number,
and the others as before. -/
theorem stands_cons :
    Stands (q :: ps) p ↔ (p = q ∧ ∀ r ∈ ps, r.id ≠ p.id) ∨ Stands ps p := by
  constructor
  · rintro ⟨front, back, h, hback⟩
    cases front with
    | nil =>
      cases h
      exact .inl ⟨rfl, hback⟩
    | cons r front =>
      cases h
      exact .inr ⟨front, back, rfl, hback⟩
  · rintro (⟨rfl, hback⟩ | ⟨front, back, rfl, hback⟩)
    · exact ⟨[], ps, rfl, hback⟩
    · exact ⟨q :: front, back, rfl, hback⟩

/-- Of every number that occurs in a list there is a provider that stands. -/
theorem exists_stands (h : q ∈ ps) : ∃ p, Stands ps p ∧ p.id = q.id := by
  induction ps generalizing q with
  | nil => cases h
  | cons r ps ih =>
    by_cases hlater : ∃ p ∈ ps, p.id = q.id
    · obtain ⟨t, ht, htq⟩ := hlater
      obtain ⟨p, hp, hpt⟩ := ih ht
      exact ⟨p, stands_cons.2 (.inr hp), hpt.trans htq⟩
    · rcases List.mem_cons.1 h with rfl | hq
      · exact ⟨q,
          stands_cons.2 (.inl ⟨rfl, fun t ht heq => hlater ⟨t, ht, heq⟩⟩), rfl⟩
      · exact absurd ⟨q, hq, rfl⟩ hlater

end Provider

namespace Store

variable {s : Store} {p : Provider} {ps : List Provider}

/-! ## Providers -/

/-- **Who is there after one was entered**: that one, and whoever has another
number. It comes last in the list, also where another one had its number and
its place. -/
theorem mem_addProvider {q : Provider} :
    p ∈ (s.addProvider q).providers
      ↔ p = q ∨ p ∈ s.providers ∧ p.id ≠ q.id := by
  unfold addProvider
  rw [List.mem_append, List.mem_filter, List.mem_singleton, bne_iff_ne, or_comm]

/-- **Who is there after others were entered**: those that stand among them,
and whoever was there and has none of their numbers. By induction on those
that are entered, the first of them being entered first. -/
theorem mem_addProviders : p ∈ (s.addProviders ps).providers ↔
    Provider.Stands ps p ∨ p ∈ s.providers ∧ ∀ q ∈ ps, q.id ≠ p.id := by
  induction ps generalizing s with
  | nil =>
    show p ∈ s.providers ↔ _
    simp [Provider.not_stands_nil]
  | cons q ps ih =>
    show p ∈ ((s.addProvider q).addProviders ps).providers ↔ _
    rw [ih, mem_addProvider, Provider.stands_cons, List.forall_mem_cons,
      or_and_right, and_assoc, ne_comm (b := q.id), or_left_comm, or_assoc]

/-- Who is there stays the same exactly if all that stand among those that
were entered were there already. -/
theorem mem_addProviders_iff_mem
    (h : s.providers.Pairwise fun p q => p.id ≠ q.id) :
    (∀ p, p ∈ (s.addProviders ps).providers ↔ p ∈ s.providers) ↔
      ∀ p, Provider.Stands ps p → p ∈ s.providers := by
  constructor
  · exact fun hsame p hp => (hsame p).1 (mem_addProviders.2 (.inl hp))
  · intro hstands p
    rw [mem_addProviders]
    refine ⟨fun hp => hp.elim (hstands p) And.left, fun hp => ?_⟩
    by_cases hfree : ∀ q ∈ ps, q.id ≠ p.id
    · exact .inr ⟨hp, hfree⟩
    · -- Somebody was entered under the number, and the one that stands is `p`.
      obtain ⟨q, hq, hqp⟩ : ∃ q ∈ ps, q.id = p.id := by simpa using hfree
      obtain ⟨r, hr, hrq⟩ := Provider.exists_stands hq
      have hsymm : Std.Symm fun p q : Provider => p.id ≠ q.id :=
        ⟨fun _ _ => Ne.symm⟩
      have hrp : r = p := by
        by_contra hne
        exact h.forall (hstands r hr) hp hne (hrq.trans hqp)
      exact .inl (hrp ▸ hr)

/-- Providers under numbers of their own come behind those that are there. -/
theorem providers_addProviders
    (h : (s.providers ++ ps).Pairwise fun p q => p.id ≠ q.id) :
    (s.addProviders ps).providers = s.providers ++ ps := by
  induction ps generalizing s with
  | nil => exact (List.append_nil _).symm
  | cons q ps ih =>
    have hadd : (s.addProvider q).providers = s.providers ++ [q] := by
      unfold addProvider
      dsimp only
      rw [List.filter_eq_self.2]
      intro p hp
      exact bne_iff_ne.2
        ((List.pairwise_append.1 h).2.2 p hp q List.mem_cons_self)
    show ((s.addProvider q).addProviders ps).providers = _
    rw [ih (by rw [hadd]; simpa using h), hadd, List.append_assoc]
    rfl

namespace Contents

/-- **No two rows of a kind have one number.** -/
structure Distinct (c : Contents) : Prop where
  providers : c.providers.Pairwise fun p q => p.id ≠ q.id
  vehicles : c.vehicles.Pairwise fun v w => v.id ≠ w.id
  points : c.points.Pairwise fun p q => p.id ≠ q.id

end Contents

/-! ## All of it -/

variable {c : Contents}

/-- What no step of a filling touches is what it was. -/
theorem foldl_keeps {β γ : Type} (f : Store → γ) (g : Store → β → Store)
    (h : ∀ s b, f (g s b) = f s) (bs : List β) (s : Store) :
    f (bs.foldl g s) = f s := by
  induction bs generalizing s with
  | nil => rfl
  | cons b bs ih => exact (ih (g s b)).trans (h s b)

theorem providers_ofContents (c : Contents) :
    (ofContents c).providers = (empty.addProviders c.providers).providers := by
  rw [ofContents, foldl_keeps providers putPoint fun _ _ => rfl,
    foldl_keeps providers putVehicle fun _ _ => rfl]

theorem vehicles_addProviders (s : Store) (ps : List Provider) :
    (s.addProviders ps).vehicles = s.vehicles :=
  foldl_keeps vehicles addProvider (fun _ _ => rfl) ps s

theorem points_addProviders (s : Store) (ps : List Provider) :
    (s.addProviders ps).points = s.points :=
  foldl_keeps points addProvider (fun _ _ => rfl) ps s

theorem vehicles_ofContents (c : Contents) :
    (ofContents c).vehicles
      = c.vehicles.foldl (fun t v => t.insert v.id.val v) ∅ := by
  have hfold (s : Store) : (c.vehicles.foldl putVehicle s).vehicles
      = c.vehicles.foldl (fun t v => t.insert v.id.val v) s.vehicles :=
    (List.foldl_hom vehicles fun _ _ => rfl).symm
  rw [ofContents, foldl_keeps vehicles putPoint fun _ _ => rfl, hfold,
    vehicles_addProviders]
  rfl

theorem points_ofContents (c : Contents) :
    (ofContents c).points
      = c.points.foldl (fun t p => t.insert p.id.val p) ∅ := by
  have hfold (s : Store) : (c.points.foldl putPoint s).points
      = c.points.foldl (fun t p => t.insert p.id.val p) s.points :=
    (List.foldl_hom points fun _ _ => rfl).symm
  rw [ofContents, hfold, foldl_keeps points putVehicle fun _ _ => rfl,
    points_addProviders]
  rfl

/-- **Rows with numbers of their own come back**, the providers in their
order. Nothing but the numbers is asked of the rows: a point may be of a
vehicle that is not there. -/
theorem contents_ofContents (h : c.Distinct) :
    (ofContents c).providers = c.providers
      ∧ (ofContents c).vehicles.values ~ c.vehicles ∧
      (ofContents c).points.values ~ c.points := by
  refine ⟨?_, ?_, ?_⟩
  · rw [providers_ofContents]
    exact providers_addProviders h.providers
  · rw [vehicles_ofContents]
    exact Table.values_ofRows_perm
      (h.vehicles.imp fun hne heq => hne (congrArg VehicleId.mk heq))
  · rw [points_ofContents]
    exact Table.values_ofRows_perm
      (h.points.imp fun hne heq => hne (congrArg PointId.mk heq))

/-- **What a store holds makes the same rows again**, if none of the providers
has the number of another and everything else is under its own number. The
numbers that the store remembers are not part of what is claimed. -/
theorem ofContents_contents
    (hproviders : s.providers.Pairwise fun p q => p.id ≠ q.id)
    (hvehicles : s.Numbered) (hpoints : s.PointsNumbered) :
    (ofContents s.contents).providers = s.providers
      ∧ (ofContents s.contents).vehicles = s.vehicles
      ∧ (ofContents s.contents).points = s.points := by
  refine ⟨?_, ?_, ?_⟩
  · rw [providers_ofContents]
    exact providers_addProviders hproviders
  · rw [vehicles_ofContents]
    exact Table.ofRows_values hvehicles
  · rw [points_ofContents]
    exact Table.ofRows_values hpoints

end Store

end Telematics
