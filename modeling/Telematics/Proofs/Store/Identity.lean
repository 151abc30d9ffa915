import Telematics.Store.Memory
import Telematics.Proofs.Store.Table

/-!
# Object numbers in a store

A store is unambiguous if no two vehicles of one provider last reported under
the same object number, that is, if no number is ever looked up with more than
one answer. Filing a vehicle keeps it so exactly if no vehicle under another
number of the table has the object number already.

Vehicles are filed under the number they carry, and the store remembers the
largest one: that holds of every store that is filled, and it is what makes
the number of a new vehicle a new one. When no numbers are left there is no
new vehicle either (`Store.insertVehicle_eq_none_iff`).

That the number is new does not make the vehicle so. A placeholder is filed
without a look at who is there under its object number, and two of them for
one unknown number are both found under it
(`Store.Filed.vehiclesByOid_two_placeholders`). Nothing in the table keeps
this from happening; whether it happens is a matter of who enters them and
when.
-/

namespace Telematics

theorem VehicleId.val_inj {v w : VehicleId} : v.val = w.val ↔ v = w := by
  cases v
  cases w
  simp

/-- Two vehicles of one provider last reported under one object number. -/
def Vehicle.SharesOid (v w : Vehicle) : Prop :=
  v.provider = w.provider ∧ v.oid = w.oid ∧ v.oid ≠ none

instance (v w : Vehicle) : Decidable (v.SharesOid w) :=
  inferInstanceAs (Decidable (_ ∧ _ ∧ _))

theorem Vehicle.SharesOid.symm {v w : Vehicle} (h : v.SharesOid w) :
    w.SharesOid v :=
  ⟨h.1.symm, h.2.1.symm, h.2.1 ▸ h.2.2⟩

namespace Store

variable {s s' t : Store} {oid : UInt32} {provider : ProviderId} {k l : Int}
  {v w : Vehicle}
variable {n : NewVehicle} {i j : VehicleId}

/-- **No two vehicles of one provider share an object number.** -/
def Unambiguous (s : Store) : Prop :=
  s.vehicles.values.Pairwise (fun v w => ¬ v.SharesOid w)

instance : DecidablePred Unambiguous := fun s =>
  inferInstanceAs (Decidable (s.vehicles.values.Pairwise _))

/-- A vehicle filed under a number would share its object number with one
that is filed under another. -/
def Clash (s : Store) (k : Int) (v : Vehicle) : Prop :=
  ∃ l w, (l, w) ∈ s.vehicles.rows ∧ l ≠ k ∧ v.SharesOid w

/-! ## Lookup -/

/-- **What is found under an object number**: the vehicles of the provider
that last reported under it. -/
theorem mem_vehiclesByOid :
    v ∈ s.vehiclesByOid oid provider
      ↔ (∃ k, (k, v) ∈ s.vehicles.rows) ∧ v.provider = provider
        ∧ v.oid = some oid := by
  unfold vehiclesByOid
  rw [List.mem_filter, Table.mem_values]
  simp

theorem mem_vehiclesByProvider :
    v ∈ s.vehiclesByProvider provider
      ↔ (∃ k, (k, v) ∈ s.vehicles.rows) ∧ v.provider = provider := by
  unfold vehiclesByProvider
  rw [List.mem_filter, Table.mem_values]
  simp

/-- Nothing is found under an object number if no vehicle of the provider has
it. -/
theorem vehiclesByOid_eq_nil_iff : s.vehiclesByOid oid provider = []
    ↔ ∀ k v, (k, v) ∈ s.vehicles.rows → v.provider = provider →
      v.oid ≠ some oid := by
  rw [List.eq_nil_iff_forall_not_mem]
  simp only [mem_vehiclesByOid]
  constructor
  · intro h k v hv hp ho
    exact h v ⟨⟨k, hv⟩, hp, ho⟩
  · rintro h v ⟨⟨k, hv⟩, hp, ho⟩
    exact h k v hv hp ho

/-- **A store is unambiguous exactly if every lookup has one answer at most.**
The one side speaks of pairs of rows and the other of what is asked for. -/
theorem unambiguous_iff_length_le :
    s.Unambiguous ↔ ∀ oid provider,
      (s.vehiclesByOid oid provider).length ≤ 1 := by
  unfold Unambiguous
  constructor
  · intro h oid provider
    have hpair : (s.vehiclesByOid oid provider).Pairwise
        (fun v w => ¬ v.SharesOid w) :=
      h.sublist List.filter_sublist
    have hmem : ∀ v ∈ s.vehiclesByOid oid provider, v.provider = provider
        ∧ v.oid = some oid :=
      fun v hv => (mem_vehiclesByOid.1 hv).2
    match hlist : s.vehiclesByOid oid provider with
    | [] => exact Nat.zero_le 1
    | [v] => exact Nat.le_refl 1
    | v :: w :: r =>
      -- Two answers to one lookup share the number that was looked up.
      rw [hlist] at hpair hmem
      obtain ⟨hvp, hvo⟩ := hmem v (.head _)
      obtain ⟨hwp, hwo⟩ := hmem w (.tail _ (.head _))
      refine absurd ?_ ((List.pairwise_cons.1 hpair).1 w (.head _))
      exact ⟨hvp.trans hwp.symm, hvo.trans hwo.symm, by simp [hvo]⟩
  · intro h
    refine List.pairwise_iff_forall_sublist.2 (fun {v w} hsub hshare => ?_)
    obtain ⟨hp, ho, hsome⟩ := hshare
    obtain ⟨oid, hoid⟩ := Option.ne_none_iff_exists'.1 hsome
    -- Two vehicles that share a number are both found under it, in their order.
    have hfilter : [v, w].Sublist (s.vehiclesByOid oid v.provider) := by
      unfold vehiclesByOid
      have := hsub.filter (fun u => u.provider = v.provider && u.oid = some oid)
      simpa [← hp, ← ho, hoid] using this
    exact Nat.not_succ_le_self 1
      (Nat.le_trans hfilter.length_le (h oid v.provider))

/-! ## Filing a vehicle -/

/-- Rows by number: those that share an object number are one row. -/
theorem unambiguous_iff_rows : s.Unambiguous ↔
    ∀ k v l w, (k, v) ∈ s.vehicles.rows → (l, w) ∈ s.vehicles.rows →
      v.SharesOid w → k = l := by
  have hrows := s.vehicles.ascending
  unfold Unambiguous Table.values
  generalize s.vehicles.rows = rows at hrows
  rw [List.pairwise_map]
  induction rows with
  | nil => simp
  | cons y rows ih =>
    obtain ⟨m, u⟩ := y
    obtain ⟨hlt, hrest⟩ := List.pairwise_cons.1 hrows
    rw [List.pairwise_cons]
    refine (and_congr_right (fun _ => ih hrest)).trans ?_
    constructor
    · rintro ⟨hu, h⟩ k v l w hk hl hshare
      rcases List.mem_cons.1 hk with
        hky | hkr <;> rcases List.mem_cons.1 hl with hly | hlr
      · rw [(Prod.mk.inj hky).1, (Prod.mk.inj hly).1]
      · obtain ⟨-, rfl⟩ := Prod.mk.inj hky
        exact absurd hshare (hu (l, w) hlr)
      · obtain ⟨-, rfl⟩ := Prod.mk.inj hly
        exact absurd hshare.symm (hu (k, v) hkr)
      · exact h k v l w hkr hlr hshare
    · intro h
      refine ⟨fun y hy hshare => ?_,
        fun k v l w hk hl => h k v l w (.tail _ hk) (.tail _ hl)⟩
      exact Int.ne_of_lt (hlt y hy)
        (h m u y.1 y.2 (.head _) (.tail _ hy) hshare)

/-- **Filing a vehicle keeps a store unambiguous** exactly if it clashes with
none. The row that was there under the number is gone and cannot clash; all
the others are still there. -/
theorem unambiguous_insert_iff (h : s.Unambiguous)
    (hs : s'.vehicles = s.vehicles.insert k v) :
    s'.Unambiguous ↔ ¬ s.Clash k v := by
  rw [unambiguous_iff_rows, hs]
  simp only [Table.mem_insert]
  constructor
  · rintro h' ⟨l, w, hw, hne, hshare⟩
    exact hne (h' k v l w (.inl rfl) (.inr ⟨hw, hne⟩) hshare).symm
  · rintro hclash m u l w (hm | ⟨hm, hmk⟩) (hl | ⟨hl, hlk⟩) hshare
    · rw [(Prod.mk.inj hm).1, (Prod.mk.inj hl).1]
    · obtain ⟨rfl, rfl⟩ := Prod.mk.inj hm
      exact absurd ⟨l, w, hl, hlk, hshare⟩ hclash
    · obtain ⟨rfl, rfl⟩ := Prod.mk.inj hl
      exact absurd ⟨m, u, hm, hmk, hshare.symm⟩ hclash
    · exact unambiguous_iff_rows.1 h m u l w hm hl hshare

/-! ## Numbers -/

/-- Every vehicle is filed under the number that it carries. -/
def Numbered (s : Store) : Prop :=
  ∀ k v, (k, v) ∈ s.vehicles.rows → v.id.val = k

/-- **Vehicles are filed under their numbers**, and none of these is larger
than the one that is remembered as the last. -/
structure Filed (s : Store) : Prop where
  numbered : s.Numbered
  le_last : ∀ k v, (k, v) ∈ s.vehicles.rows → k ≤ s.lastVehicle

theorem Numbered.insert (h : s.Numbered)
    (hs : s'.vehicles = s.vehicles.insert k v) (hv : v.id.val = k) :
    s'.Numbered := by
  intro l w hw
  rw [hs, Table.mem_insert] at hw
  rcases hw with heq | ⟨hw, -⟩
  · obtain ⟨rfl, rfl⟩ := Prod.mk.inj heq
    exact hv
  · exact h l w hw

/-- A vehicle of the table is the one that is found under its number. -/
theorem Numbered.findVehicle (h : s.Numbered)
    (hv : ∃ k, (k, v) ∈ s.vehicles.rows) :
    s.findVehicle v.id = some v := by
  obtain ⟨k, hv⟩ := hv
  unfold Store.findVehicle
  rw [Table.find?_eq_some_iff, h k v hv]
  exact hv

/-- In terms of lookups, what is filed clashes if another vehicle is found
under its object number. -/
theorem clash_iff (h : s.Numbered) : s.Clash v.id.val v
    ↔ ∃ oid ∈ v.oid, ∃ w ∈ s.vehiclesByOid oid v.provider, w.id ≠ v.id := by
  unfold Clash
  constructor
  · rintro ⟨l, w, hw, hne, hp, ho, hsome⟩
    obtain ⟨oid, hoid⟩ := Option.ne_none_iff_exists'.1 hsome
    refine ⟨oid, hoid, w, mem_vehiclesByOid.2 ⟨⟨l, hw⟩, hp.symm, ho ▸ hoid⟩,
      fun hid => ?_⟩
    rw [← hid, h l w hw] at hne
    exact hne rfl
  · rintro ⟨oid, hoid, w, hw, hne⟩
    obtain ⟨⟨l, hl⟩, hp, ho⟩ := mem_vehiclesByOid.1 hw
    refine ⟨l, w, hl, fun hid => hne ?_, hp.symm, hoid.trans ho.symm, ?_⟩
    · exact congrArg VehicleId.mk ((h l w hl).trans hid)
    · rw [hoid]
      exact Option.some_ne_none oid

/-- The number that is remembered has to be no smaller than it was, and no
smaller than that of the vehicle that is filed. -/
theorem Filed.insert (h : s.Filed) (hs : s'.vehicles = s.vehicles.insert k v)
    (hv : v.id.val = k) (hk : k ≤ s'.lastVehicle)
    (hlast : s.lastVehicle ≤ s'.lastVehicle) :
    s'.Filed := by
  refine ⟨h.numbered.insert hs hv, fun l w hw => ?_⟩
  rw [hs, Table.mem_insert] at hw
  rcases hw with heq | ⟨hw, -⟩
  · exact (Prod.mk.inj heq).1 ▸ hk
  · exact Int.le_trans (h.le_last l w hw) hlast

/-! ## New vehicles -/

/-- **What entering a vehicle does**: it is filed behind the last number,
which was not the largest there is. What the vehicle is like has no part in
it. -/
theorem insertVehicle_eq_some_iff : s.insertVehicle n = some (i, s') ↔
    s.lastVehicle < maxRowNumber ∧ i = ⟨s.lastVehicle + 1⟩
      ∧ s' = s.enterVehicle n (s.lastVehicle + 1) := by
  unfold insertVehicle
  simp only [Option.map_eq_some_iff, nextRowNumber?_eq_some_iff, Prod.mk.injEq]
  constructor
  · rintro ⟨_, ⟨hlt, rfl⟩, rfl, rfl⟩
    exact ⟨hlt, rfl, rfl⟩
  · rintro ⟨hlt, rfl, rfl⟩
    exact ⟨_, ⟨hlt, rfl⟩, rfl, rfl⟩

/-- **There is no new vehicle** exactly if the largest number there is was
given. The numbers below it are of no use, even where none of them was ever
given. -/
theorem insertVehicle_eq_none_iff :
    s.insertVehicle n = none ↔ maxRowNumber ≤ s.lastVehicle := by
  unfold insertVehicle
  rw [Option.map_eq_none_iff, nextRowNumber?_eq_none_iff]

theorem vehicles_of_insertVehicle (hs : s.insertVehicle n = some (i, s')) :
    s'.vehicles = s.vehicles.insert i.val (n.toVehicle i) := by
  obtain ⟨-, rfl, rfl⟩ := insertVehicle_eq_some_iff.1 hs
  rfl

theorem Filed.insertVehicle (h : s.Filed)
    (hs : s.insertVehicle n = some (i, s')) :
    s'.Filed := by
  obtain ⟨-, rfl, rfl⟩ := insertVehicle_eq_some_iff.1 hs
  refine h.insert rfl rfl (Int.le_refl _) ?_
  show s.lastVehicle ≤ s.lastVehicle + 1
  omega

/-- **The number of a new vehicle is new**: it is larger than all there are.
It is the number that the store remembers which makes it so, and not a search
of the table. -/
theorem Filed.lt_of_insertVehicle (h : s.Filed)
    (hs : s.insertVehicle n = some (i, s')) (hv : (k, v) ∈ s.vehicles.rows) :
    k < i.val := by
  obtain ⟨-, rfl, -⟩ := insertVehicle_eq_some_iff.1 hs
  exact Int.lt_add_one_of_le (h.le_last k v hv)

/-- **A placeholder comes behind the others** under its object number. Its
number is larger than theirs, and the table is in the order of the numbers. -/
theorem Filed.vehiclesByOid_placeholder (h : s.Filed)
    (hs : s.insertVehicle (.placeholder oid provider) = some (i, s')) :
    s'.vehiclesByOid oid provider
      = s.vehiclesByOid oid provider
        ++ [(NewVehicle.placeholder oid provider).toVehicle i] := by
  unfold vehiclesByOid
  rw [vehicles_of_insertVehicle hs,
    Table.values_insert_of_lt fun x hx => h.lt_of_insertVehicle hs hx,
      List.filter_append]
  simp [NewVehicle.toVehicle, NewVehicle.placeholder]

/-- **Two placeholders for one unknown object number** are both found under
it. From then on no lookup of the number has a single answer. -/
theorem Filed.vehiclesByOid_two_placeholders (h : s.Filed)
    (habs : s.vehiclesByOid oid provider = [])
    (hs : s.insertVehicle (.placeholder oid provider) = some (i, s'))
    (ht : s'.insertVehicle (.placeholder oid provider) = some (j, t)) :
    t.vehiclesByOid oid provider
      = [(NewVehicle.placeholder oid provider).toVehicle i,
        (NewVehicle.placeholder oid provider).toVehicle j] := by
  rw [(h.insertVehicle hs).vehiclesByOid_placeholder ht,
    h.vehiclesByOid_placeholder hs, habs]
  rfl

/-! ## Stores that are filled -/

theorem filed_empty : empty.Filed := ⟨nofun, nofun⟩

/-- A vehicle that comes with a number of its own is filed under it, and the
number is remembered if it is the largest. -/
theorem Filed.putVehicle (h : s.Filed) (v : Vehicle) : (s.putVehicle v).Filed :=
  h.insert rfl rfl (Int.le_max_right _ _) (Int.le_max_left _ _)

/-- **A store that is filled from rows has its vehicles under their numbers**,
whatever the rows are. Rows that share a number push each other out, and the
largest number is remembered all the same. -/
theorem filed_ofContents (c : Contents) : (ofContents c).Filed := by
  have hproviders : (empty.addProviders c.providers).Filed :=
    List.foldlRecOn _ _ filed_empty (fun _ h _ _ => ⟨h.numbered, h.le_last⟩)
  have hvehicles :
      (c.vehicles.foldl Store.putVehicle
        (empty.addProviders c.providers)).Filed :=
    List.foldlRecOn _ _ hproviders (fun _ h v _ => h.putVehicle v)
  exact List.foldlRecOn _ _ hvehicles (fun _ h _ _ => ⟨h.numbered, h.le_last⟩)

end Store

end Telematics
