import Telematics.Proofs.Pipeline.Resolving
import Telematics.Proofs.Pipeline.Running

/-!
# Resolutions one after the other

A resolution that has the store to itself comes to one of five ends
(`Resolver.Settles`), or a request of it fails and nothing has happened. The
first end leaves the store as it was, as do both refusals; the other two file
one vehicle, under an object number that nothing reported under before. So
the number has one vehicle afterwards, and the same resolution, once more,
only finds it.

What a run of resolutions leaves alone follows from the two writes. A vehicle
that is matched keeps all but its object number. A placeholder takes the
number after the largest one that was given, which no vehicle has. Only when
the largest number of all was given is there none for it: the resolution is
then brought down, and no vehicle is entered although none reports under the
object number (`Resolver.OutOfNumbers`).

Which end it is depends on two lists of vehicles, those that report under the
number (`Resolver.carriers`) and those whose identity has it as a fragment
(`Resolver.candidates`), and the second is looked at only if the first is
empty. Both are written here without the program. That there are no other ends
is `Resolver.ends_resolve`, and everything that is promised of one resolution
(`Query.Sound`) or of a run of them (`Query.resolved_in_turn`) is proved from
the ends.
-/

namespace Telematics

namespace Store

variable {s s' s'' : Store} {k : Int} {v : Vehicle} {oid : UInt32}
  {provider : ProviderId}

/-- What is found after a vehicle was filed under its number. -/
theorem findVehicle_of_insert (hs : s'.vehicles = s.vehicles.insert v.id.val v)
    (id : VehicleId) :
    s'.findVehicle id = if v.id = id then some v else s.findVehicle id := by
  unfold findVehicle
  rw [hs, Table.find?_insert]
  simp only [VehicleId.val_inj, eq_comm]

/-- The store with an object number noted for a vehicle. -/
def noteOid (s : Store) (v : Vehicle) (oid : UInt32) : Store :=
  { s with vehicles := s.vehicles.insert v.id.val { v with oid := some oid } }

/-- A vehicle that is there can be noted under any object number. -/
theorem updateOid_of_find (h : s.findVehicle v.id = some v) :
    s.updateOid v.id oid = .ok (s.noteOid v oid) := by
  unfold findVehicle at h
  rw [updateOid, h]
  rfl

/-- **No vehicle is gone or other than it was**, but for its object
number. -/
def Keeps (s s' : Store) : Prop :=
  ∀ id v, s.findVehicle id = some v →
    ∃ oid, s'.findVehicle id = some { v with oid }

theorem Keeps.refl (s : Store) : s.Keeps s := fun _ v h => ⟨v.oid, h⟩

theorem Keeps.trans (h : s.Keeps s') (h' : s'.Keeps s'') : s.Keeps s'' := by
  intro id v hv
  obtain ⟨oid, hoid⟩ := h id v hv
  exact h' id { v with oid } hoid

/-- **The number that a new vehicle gets is free.** -/
theorem Filed.findVehicle_next (h : s.Filed) :
    s.findVehicle ⟨s.lastVehicle + 1⟩ = none := by
  unfold findVehicle
  cases hfind : s.vehicles.find? (s.lastVehicle + 1) with
  | none => rfl
  | some v =>
    have hle := h.le_last _ v (Table.find?_eq_some_iff.1 hfind)
    omega

end Store

/-- The row that is put in is the only one of its kind, if there was none. -/
theorem Table.filter_values_insert {α : Type} {t : Table α} {k : Int} {a : α}
    {p : α → Bool} (h : t.values.filter p = []) (ha : p a = true) :
    (t.insert k a).values.filter p = [a] := by
  have hnot : ∀ x ∈ t.rows, p x.2 = false := by
    intro x hx
    rw [List.filter_eq_nil_iff] at h
    exact Bool.eq_false_iff.2 (h x.2 (mem_values.2 ⟨x.1, hx⟩))
  show ((insertRow k a t.rows).map (·.2)).filter p = [a]
  clear h
  generalize t.rows = rows at hnot
  have hnil : ∀ l : List (Int × α), (∀ x ∈ l, p x.2 = false) →
      (l.map (·.2)).filter p = [] := by
    intro l hl
    rw [List.filter_eq_nil_iff]
    simpa using fun b k hk => hl (k, b) hk
  induction rows with
  | nil => simp [insertRow, ha]
  | cons y rows ih =>
    obtain ⟨hy, hrest⟩ := List.forall_mem_cons.1 hnot
    unfold insertRow
    split
    · rw [List.map_cons, List.filter_cons_of_pos ha, hnil _ hnot]
    · split
      · rw [List.map_cons, List.filter_cons_of_pos ha, hnil _ hrest]
      · rw [List.map_cons, List.filter_cons_of_neg (by simp [hy]), ih hrest]

namespace Resolver

variable {s s' : Store} {b : Backend} {faults : Faults} {oid : UInt32}
  {provider : ProviderId}
  {a : Except ResolveError Resolution} {r : Resolution}

/-! ## One resolution -/

/-- The provider's vehicles that last reported under the number. -/
def carriers (s : Store) (oid : UInt32) (provider : ProviderId) :
    List Vehicle :=
  s.vehicles.values.filter fun v => v.oid = some oid ∧ v.provider = provider

/-- The provider's vehicles whose identity, without the blanks around it, is a
number of 64 bits that has the object number as a fragment. -/
def candidates (s : Store) (oid : UInt32) (provider : ProviderId) :
    List Vehicle :=
  s.vehicles.values.filter fun v => v.provider = provider
    ∧ (Text.unsigned? UInt64.size (Text.trim v.imei.toList)).any
      fun n => isPartOf oid.toUInt64 (.ofNat n)

/-- **What a resolution comes to** over a store, and the store that it
leaves. -/
inductive Settles (s : Store) (oid : UInt32) (provider : ProviderId) :
    Except ResolveError Resolution → Store → Prop where
  /-- One vehicle reports under the number. -/
  | cached (v : Vehicle) (h : carriers s oid provider = [v]) :
    Settles s oid provider (.ok (.cached v.id)) s
  /-- Several do. -/
  | shared (h : 2 ≤ (carriers s oid provider).length) :
    Settles s oid provider
      (.error (.ambiguous oid (carriers s oid provider).length)) s
  /-- None does, and one vehicle's identity has the number as a fragment. -/
  | matched (v : Vehicle) (absent : carriers s oid provider = [])
    (h : candidates s oid provider = [v]) :
    Settles s oid provider (.ok (.matched v.id)) (s.noteOid v oid)
  /-- None does and none has, and there is a number for a new vehicle. -/
  | created (absent : carriers s oid provider = [])
    (h : candidates s oid provider = [])
    (hlast : s.lastVehicle < maxRowNumber) :
    Settles s oid provider (.ok (.created ⟨s.lastVehicle + 1⟩))
      { s with
        vehicles := s.vehicles.insert (s.lastVehicle + 1)
          ⟨⟨s.lastVehicle + 1⟩, toString oid.toNat, some oid, none, provider,
            .pending⟩
        lastVehicle := s.lastVehicle + 1 }
  /-- None does, and several have. -/
  | several (absent : carriers s oid provider = [])
    (h : 2 ≤ (candidates s oid provider).length) :
    Settles s oid provider
      (.error (.ambiguous oid (candidates s oid provider).length)) s

/-- The object number is nowhere, and there is no number for a new vehicle. -/
structure OutOfNumbers (s : Store) (oid : UInt32) (provider : ProviderId) :
    Prop where
  absent : carriers s oid provider = []
  unmatched : candidates s oid provider = []
  full : maxRowNumber ≤ s.lastVehicle

/-- The resolution comes to an end; or a request fails, and nothing has
happened; or it is brought down since no numbers are left, and nothing has
happened either. -/
def Ends (faults : Faults) (oid : UInt32) (provider : ProviderId) (b : Backend)
    (x : Option (Except ResolveError Resolution) × Backend) : Prop :=
  (∃ r e, faults r = some e ∧ x = (some (.error (.store e)), b))
    ∨ (OutOfNumbers b.store oid provider ∧ x = (none, b))
    ∨ ∃ a s', Settles b.store oid provider a s'
      ∧ x = (some a, { b with store := s' })

/-- What is looked up under an object number are its carriers. -/
theorem vehiclesByOid_eq (s : Store) (oid : UInt32) (provider : ProviderId) :
    s.vehiclesByOid oid provider = carriers s oid provider := by
  refine List.filter_congr fun v _ => ?_
  rw [Bool.decide_and, Bool.and_comm]

/-- What the listing of a provider is searched for are the candidates. -/
theorem filter_matchesImei_eq (s : Store) (oid : UInt32)
    (provider : ProviderId) :
    (s.vehiclesByProvider provider).filter (matchesImei oid)
      = candidates s oid provider := by
  unfold Store.vehiclesByProvider candidates
  rw [List.filter_filter]
  refine List.filter_congr fun v _ => ?_
  rw [Bool.decide_and, Bool.and_comm, Bool.decide_eq_true, matchesImei,
    imeiNumber?, Option.any_map]

/-- A vehicle that matches is one of the table. -/
theorem findVehicle_of_mem_candidates (hs : s.Numbered) {v : Vehicle}
    (h : v ∈ candidates s oid provider) :
    s.findVehicle v.id = some v ∧ v.provider = provider := by
  rw [← filter_matchesImei_eq] at h
  obtain ⟨hrow, hp⟩ := Store.mem_vehiclesByProvider.1 (List.mem_filter.1 h).1
  exact ⟨hs.findVehicle hrow, hp⟩

/-- **What is left after the lookup and the search** comes to one of these
ends. One match is taken, noted first if it reports under another number;
several are refused; and without any a vehicle is entered. -/
theorem ends_settle (hb : b.store.Numbered)
    (absent : carriers b.store oid provider = []) :
    Ends faults oid provider b
      ((ExceptT.run (settle oid provider (candidates b.store oid provider))).run
        faults b) := by
  match hl : candidates b.store oid provider with
  | [] =>
    rw [run_settle_nil]
    rcases Program.run_ask_cases faults b
      (.insertVehicle (.placeholder oid provider)) _
      with ⟨e, he, h⟩ | h
    · rw [h]
      exact .inl ⟨_, e, he, rfl⟩
    · rw [h, Backend.perform]
      cases hs : b.store.insertVehicle (.placeholder oid provider) with
      | none =>
        exact .inr
          (.inl ⟨⟨absent, hl, Store.insertVehicle_eq_none_iff.1 hs⟩, rfl⟩)
      | some x =>
        obtain ⟨id, s⟩ := x
        obtain ⟨hlt, rfl, rfl⟩ := Store.insertVehicle_eq_some_iff.1 hs
        exact .inr (.inr ⟨_, _, .created absent hl hlt, rfl⟩)
  | [v] =>
    obtain ⟨hfind, hrow⟩ :=
      findVehicle_of_mem_candidates hb (hl ▸ List.mem_singleton_self v)
    have hne : v.oid ≠ some oid :=
      Store.vehiclesByOid_eq_nil_iff.1 ((vehiclesByOid_eq ..).trans absent) _ v
        (Table.find?_eq_some_iff.1 hfind) hrow
    rw [run_settle_of_ne hne]
    rcases Program.run_ask_cases faults b (.updateOid v.id oid) _ with
      ⟨e, he, h⟩ | h
    · rw [h]
      exact .inl ⟨_, e, he, rfl⟩
    · rw [h, Backend.perform, Store.updateOid_of_find hfind]
      exact .inr (.inr ⟨_, _, .matched v absent hl, rfl⟩)
  | v :: w :: l =>
    have hseveral : 2 ≤ (candidates b.store oid provider).length := by
      rw [hl]
      exact Nat.le_add_left 2 l.length
    have hend := Settles.several absent hseveral
    rw [hl] at hend
    exact .inr (.inr ⟨_, _, hend, rfl⟩)

/-- **All that a resolution can come to.** The lookup comes first, and then
the search of those of the provider. -/
theorem ends_resolve (hb : b.store.Numbered) (faults : Faults) :
    Ends faults oid provider b
      (Task.runIn faults (resolve oid provider) b) := by
  unfold Task.runIn
  rw [run_resolve]
  rcases Program.run_ask_cases faults b (.vehiclesByOid oid provider) _ with
    ⟨e, he, h⟩ | h
  · rw [h]
    exact .inl ⟨_, e, he, rfl⟩
  · rw [h, Backend.perform, vehiclesByOid_eq]
    cases hl : carriers b.store oid provider with
    | nil =>
      show Ends faults oid provider b
        ((ExceptT.run (search oid provider)).run faults b)
      rw [run_search]
      rcases Program.run_ask_cases faults b (.vehiclesByProvider provider) _
        with ⟨e, he, h⟩ | h
      · rw [h]
        exact .inl ⟨_, e, he, rfl⟩
      · rw [h, Backend.perform]
        show Ends faults oid provider b ((ExceptT.run (settle oid provider
          ((b.store.vehiclesByProvider provider).filter (matchesImei oid)))).run
            faults b)
        rw [filter_matchesImei_eq]
        exact ends_settle hb hl
    | cons v l =>
      cases l with
      | nil => exact .inr (.inr ⟨_, _, .cached v hl, rfl⟩)
      | cons w l =>
        have hshared : 2 ≤ (carriers b.store oid provider).length := by
          rw [hl]
          exact Nat.le_add_left 2 l.length
        have hend := Settles.shared hshared
        rw [hl] at hend
        exact .inr (.inr ⟨_, _, hend, rfl⟩)

/-! ## What it leaves behind -/

namespace Settles

/-- **A resolution files one vehicle**, under the number that it was about and
that was absent, or it finds one, if any, and leaves the store as it was. -/
theorem files (h : Settles s oid provider a s') (hs : s.Numbered) :
    (s' = s ∧ ∀ r, a = .ok r → ∃ w, s.vehiclesByOid oid provider = [w]
      ∧ w.id = r.vehicle)
      ∨ s.vehiclesByOid oid provider = [] ∧ ∃ w : Vehicle,
      s'.vehicles = s.vehicles.insert w.id.val w ∧ w.provider = provider
        ∧ w.oid = some oid
      ∧ (∀ r, a = .ok r → r.vehicle = w.id)
      ∧ ∀ v, s.Filed → s.findVehicle w.id = some v →
        w = { v with oid := some oid } := by
  simp only [vehiclesByOid_eq]
  cases h with
  | cached v h =>
    refine .inl ⟨rfl, ?_⟩
    rintro r ⟨⟩
    exact ⟨v, h, rfl⟩
  | shared h => exact .inl ⟨rfl, nofun⟩
  | several absent h => exact .inl ⟨rfl, nofun⟩
  | matched v absent h =>
    obtain ⟨hfind, hp⟩ :=
      findVehicle_of_mem_candidates hs (h ▸ List.mem_singleton_self v)
    refine .inr ⟨absent, { v with oid := some oid }, rfl, hp, rfl, ?_,
      fun u _ hu => ?_⟩
    · rintro r ⟨⟩
      rfl
    · rw [Option.some.inj (hfind.symm.trans hu)]
  | created absent h hlast =>
    refine .inr ⟨absent,
      ⟨⟨s.lastVehicle + 1⟩, toString oid.toNat, some oid, none, provider,
        .pending⟩, rfl, rfl, rfl, ?_, fun u hfiled hu => ?_⟩
    · rintro r ⟨⟩
      rfl
    · cases hfiled.findVehicle_next.symm.trans hu

theorem numbered (h : Settles s oid provider a s') (hs : s.Numbered) :
    s'.Numbered := by
  rcases h.files hs with ⟨rfl, -⟩ | ⟨-, w, hw, -⟩
  · exact hs
  · exact hs.insert hw rfl

/-- **No object number becomes ambiguous.** What is filed is the only vehicle
under the number. -/
theorem unambiguous (h : Settles s oid provider a s') (hs : s.Numbered)
    (hu : s.Unambiguous) :
    s'.Unambiguous := by
  rcases h.files hs with ⟨rfl, -⟩ | ⟨absent, w, hw, hp, ho, -⟩
  · exact hu
  · rw [Store.unambiguous_insert_iff hu hw, Store.clash_iff hs]
    rintro ⟨oid', hoid, u, hmem, -⟩
    obtain rfl := Option.some.inj (ho.symm.trans hoid)
    rw [hp, absent] at hmem
    cases hmem

/-- **No vehicle is gone or other than it was.** The vehicle that is noted for
the number keeps all the rest. -/
theorem keeps (h : Settles s oid provider a s') (hs : s.Filed) :
    s.Keeps s' := by
  rcases h.files hs.numbered with ⟨rfl, -⟩ | ⟨-, w, hw, -, -, -, hsame⟩
  · exact .refl _
  · intro id v hv
    rw [Store.findVehicle_of_insert hw]
    by_cases hid : w.id = id
    · rw [if_pos hid]
      exact ⟨some oid, by rw [hsame v hs (hid ▸ hv)]⟩
    · rw [if_neg hid]
      exact ⟨v.oid, hv⟩

/-- A resolution uses up one number at most. -/
theorem lastVehicle_le (h : Settles s oid provider a s') :
    s'.lastVehicle ≤ s.lastVehicle + 1 := by
  have hle : s.lastVehicle ≤ s.lastVehicle + 1 := by omega
  cases h with
  | created absent h hlast => exact Int.le_refl _
  | _ => exact hle

theorem filed (h : Settles s oid provider a s') (hs : s.Filed) : s'.Filed := by
  cases h with
  | cached v h => exact hs
  | shared h => exact hs
  | several absent h => exact hs
  | matched v absent h =>
    obtain ⟨hfind, -⟩ :=
      findVehicle_of_mem_candidates hs.numbered (h ▸ List.mem_singleton_self v)
    have hle : v.id.val ≤ s.lastVehicle :=
      hs.le_last _ v (Table.find?_eq_some_iff.1 hfind)
    exact hs.insert rfl rfl hle (Int.le_refl _)
  | created absent h hlast =>
    refine hs.insert rfl rfl (Int.le_refl _) ?_
    show s.lastVehicle ≤ s.lastVehicle + 1
    omega

/-- **The vehicle that a number was resolved to** is the one that reports
under it from then on. So the same resolution, made again, need not search. -/
theorem vehiclesByOid (h : Settles s oid provider (.ok r) s')
    (hs : s.Numbered) :
    ∃ w, s'.vehiclesByOid oid provider = [w] ∧ w.id = r.vehicle := by
  rcases h.files hs with ⟨rfl, hfound⟩ | ⟨absent, w, hw, hp, ho, hr, -⟩
  · exact hfound r rfl
  · refine ⟨w, ?_, (hr r rfl).symm⟩
    unfold Store.vehiclesByOid at absent ⊢
    rw [hw]
    exact Table.filter_values_insert absent (by simp [hp, ho])

theorem points (h : Settles s oid provider a s') :
    s'.points = s.points ∧ s'.lastPoint = s.lastPoint := by
  cases h <;> exact ⟨rfl, rfl⟩

theorem isSome_findVehicle (h : Settles s oid provider a s') (hs : s.Numbered)
    {id : VehicleId} (hid : (s.findVehicle id).isSome) :
    (s'.findVehicle id).isSome := by
  rcases h.files hs with ⟨rfl, -⟩ | ⟨-, w, hw, -⟩
  · exact hid
  · rw [Store.findVehicle_of_insert hw]
    split
    · rfl
    · exact hid

/-- **A vehicle that was not there** is the placeholder that was entered. It
is waiting to be moderated, and its reading is not turned away for that. -/
theorem created_of_findVehicle (h : Settles s oid provider a s')
    (hs : s.Numbered) {id : VehicleId} {v : Vehicle}
    (hid : s.findVehicle id = none) (hv : s'.findVehicle id = some v) :
    a = .ok (.created id) ∧ v.moderation = .pending := by
  cases h with
  | cached w h => cases hid.symm.trans hv
  | shared h => cases hid.symm.trans hv
  | several absent h => cases hid.symm.trans hv
  | matched w absent h =>
    obtain ⟨hfind, -⟩ :=
      findVehicle_of_mem_candidates hs (h ▸ List.mem_singleton_self w)
    rw [Store.findVehicle_of_insert (v := { w with oid := some oid }) rfl] at hv
    split at hv
    · next heq =>
      rw [← heq] at hid
      cases hid.symm.trans hfind
    · cases hid.symm.trans hv
  | created absent h hlast =>
    rw [Store.findVehicle_of_insert (v := ⟨⟨s.lastVehicle + 1⟩, _, _, _, _, _⟩)
      rfl] at hv
    split at hv
    · next heq =>
      subst heq
      obtain rfl := Option.some.inj hv
      exact ⟨rfl, rfl⟩
    · cases hid.symm.trans hv

end Settles

end Resolver

/-- The request is about vehicles of one provider: it reads no others, and
enters none for another. -/
def Request.Concerns (provider : ProviderId) : Request → Prop
  | vehiclesByOid _ p | vehiclesByProvider p => p = provider
  | insertVehicle v => v.provider = provider
  | updateOid _ _ => True
  | _ => False

namespace Resolver

/-- What comes after the search is about vehicles of the provider too. -/
theorem concerns_settle (oid : UInt32) (provider : ProviderId)
    (vs : List Vehicle) :
    (settle oid provider vs).Asks (Request.Concerns provider) := by
  unfold settle request
  split
  · exact .bind (.mapError _ (.request rfl)) fun _ => .pure _
  · exact .ite (.bind (.mapError _ (.request trivial)) fun _ => .pure _)
      (.pure _)
  · exact .throw _

/-- **A resolution looks only at vehicles of its provider.** So vehicles of
other providers can neither be found by it nor entered. -/
theorem concerns_resolve (oid : UInt32) (provider : ProviderId) :
    (resolve oid provider).Asks (Request.Concerns provider) := by
  unfold resolve request
  refine .bind (.mapError _ (.request rfl)) fun vs => ?_
  split
  · exact .pure _
  · exact .throw _
  · exact .bind (.mapError _ (.request rfl)) fun _ => concerns_settle _ _ _

end Resolver

/-! ## Resolutions one after the other -/

/-- A number that is to be resolved, with collaborators that may fail. -/
structure Query where
  oid : UInt32
  provider : ProviderId
  faults : Faults

namespace Query

variable {b c : Backend} {q : Query} {qs : List Query}

/-- What the resolution comes to, unless it is brought down. -/
def outcome (b : Backend) (q : Query) :
    Option (Except ResolveError Resolution) :=
  (Task.runIn q.faults (Resolver.resolve q.oid q.provider) b).1

/-- What is held afterwards. -/
def after (b : Backend) (q : Query) : Backend :=
  (Task.runIn q.faults (Resolver.resolve q.oid q.provider) b).2

/-- What is held before, between and after resolutions. -/
def states (b : Backend) : List Query → List Backend
  | [] => [b]
  | q :: qs => b :: states (q.after b) qs

/-- **What is promised of one resolution.** -/
structure Sound (b : Backend) (q : Query) : Prop where
  /-- It looks only at vehicles of its provider. -/
  concerns : (Resolver.resolve q.oid q.provider).Asks
    (Request.Concerns q.provider)
  /-- It comes to one of the five ends, unless a request fails or there is no
  number for the vehicle that is to be entered. -/
  ends : Resolver.Ends q.faults q.oid q.provider b (q.outcome b, q.after b)
  /-- If it comes to no vehicle, for whatever reason, nothing has changed. -/
  unchanged : (∀ r, q.outcome b ≠ some (.ok r)) → q.after b = b
  /-- A new vehicle gets a number that is not in use. -/
  fresh : ∀ id, q.outcome b = some (.ok (.created id)) →
    b.store.findVehicle id = none
  /-- Once more, and the vehicle is found that it was resolved to. -/
  again : ∀ r, q.outcome b = some (.ok r) →
    ∀ q' : Query, q'.oid = q.oid → q'.provider = q.provider →
      q'.faults (.vehiclesByOid q.oid q.provider) = none →
      q'.outcome (q.after b) = some (.ok (.cached r.vehicle))
        ∧ q'.after (q.after b) = q.after b

/-- A number under which one vehicle reports is found. -/
theorem runIn_resolve_of_singleton {faults : Faults} {oid : UInt32}
    {provider : ProviderId} {v : Vehicle}
    (h : b.store.vehiclesByOid oid provider = [v])
    (hf : faults (.vehiclesByOid oid provider) = none) :
    Task.runIn faults (Resolver.resolve oid provider) b
      = (some (.ok (.cached v.id)), b) := by
  unfold Task.runIn
  rw [Resolver.run_resolve, Program.run, Backend.answer_of_none hf,
    Backend.perform, h]
  rfl

/-- **All that a resolution in a run can come to.** -/
theorem ends_outcome (hb : b.store.Numbered) (q : Query) :
    Resolver.Ends q.faults q.oid q.provider b (q.outcome b, q.after b) :=
  Resolver.ends_resolve hb q.faults

/-- **One resolution keeps its promises.** Each of them is read off the end
that the resolution came to. -/
theorem sound (hb : b.store.Filed) (q : Query) : q.Sound b := by
  have hends := ends_outcome hb.numbered q
  refine ⟨Resolver.concerns_resolve _ _, hends, ?_, ?_, ?_⟩
  · intro hnot
    rcases hends with ⟨r, e, -, h⟩ | ⟨-, h⟩ | ⟨a, s', hs', h⟩
    · exact (Prod.mk.inj h).2
    · exact (Prod.mk.inj h).2
    · obtain ⟨houtcome, hafter⟩ := Prod.mk.inj h
      rw [hafter]
      cases hs' with
      | shared h => rfl
      | several absent h => rfl
      | cached v h => exact absurd houtcome (hnot _)
      | matched v absent h => exact absurd houtcome (hnot _)
      | created absent h hlast => exact absurd houtcome (hnot _)
  · intro id hid
    rcases hends with ⟨r, e, -, h⟩ | ⟨-, h⟩ | ⟨a, s', hs', h⟩
    · cases hid.symm.trans (Prod.mk.inj h).1
    · cases hid.symm.trans (Prod.mk.inj h).1
    · obtain rfl := Option.some.inj (hid.symm.trans (Prod.mk.inj h).1)
      cases hs'
      exact hb.findVehicle_next
  · rintro r hr ⟨_, _, faults⟩ rfl rfl hfaults
    rcases hends with ⟨r', e, -, h⟩ | ⟨-, h⟩ | ⟨a, s', hs', h⟩
    · cases hr.symm.trans (Prod.mk.inj h).1
    · cases hr.symm.trans (Prod.mk.inj h).1
    · obtain rfl := Option.some.inj (hr.symm.trans (Prod.mk.inj h).1)
      obtain ⟨w, hw, hid⟩ := hs'.vehiclesByOid hb.numbered
      rw [(Prod.mk.inj h).2, ← hid]
      exact Prod.mk.inj (runIn_resolve_of_singleton hw hfaults)

/-- What one resolution leaves behind. -/
theorem after_store (hb : b.store.Numbered) (q : Query) :
    (q.after b).store = b.store
      ∨ ∃ a, Resolver.Settles b.store q.oid q.provider a (q.after b).store := by
  rcases ends_outcome hb q with ⟨r, e, -, h⟩ | ⟨-, h⟩ | ⟨a, s', hs', h⟩
  · exact .inl (congrArg Backend.store (Prod.mk.inj h).2)
  · exact .inl (congrArg Backend.store (Prod.mk.inj h).2)
  · rw [(Prod.mk.inj h).2]
    exact .inr ⟨a, hs'⟩

/-- **What every end of a resolution preserves, a run preserves.** By
induction on the resolutions. Those that fail or are brought down leave the
store as it was. -/
theorem forall_states {I : Store → Prop}
    (hI : ∀ {s s' : Store} {oid provider a}, s.Filed →
      Resolver.Settles s oid provider a s' → I s → I s')
    (hb : b.store.Filed) (h : I b.store) : ∀ c ∈ states b qs, I c.store := by
  induction qs generalizing b with
  | nil => exact List.forall_mem_singleton.2 h
  | cons q qs ih =>
    refine List.forall_mem_cons.2 ⟨h, ?_⟩
    rcases after_store hb.numbered q with hsame | ⟨a, hs'⟩
    · exact ih (hsame ▸ hb) (hsame ▸ h)
    · exact ih (hs'.filed hb) (hI hb hs' h)

theorem filed_states (hb : b.store.Filed) : ∀ c ∈ states b qs, c.store.Filed :=
  forall_states (fun hs hs' _ => hs'.filed hs) hb hb

/-- **Nothing is lost in a run**: every vehicle of its beginning is there at
all times, with its object number at most another. -/
theorem keeps_states (hb : b.store.Filed) :
    ∀ c ∈ states b qs, b.store.Keeps c.store :=
  forall_states (fun hs hs' h => h.trans (hs'.keeps hs)) hb (.refl _)

/-- Every resolution of a run has an outcome, while there are numbers left. -/
theorem isSome_outcome_states (hb : b.store.Filed)
    (hlast : b.store.lastVehicle + qs.length < maxRowNumber) :
    ∀ c ∈ states b qs, ∀ q : Query, (q.outcome c).isSome := by
  have hone : ∀ c : Backend, c.store.Filed →
    c.store.lastVehicle < maxRowNumber →
      ∀ q : Query, (q.outcome c).isSome := by
    intro c hc hlt q
    rcases ends_outcome hc.numbered q with
      ⟨r, e, -, h⟩ | ⟨hout, -⟩ | ⟨a, s', -, h⟩
    · rw [(Prod.mk.inj h).1]
      rfl
    · exact absurd hout.full (by omega)
    · rw [(Prod.mk.inj h).1]
      rfl
  induction qs generalizing b with
  | nil => exact List.forall_mem_singleton.2 (hone b hb (by simpa using hlast))
  | cons q qs ih =>
    rw [List.length_cons] at hlast
    refine List.forall_mem_cons.2 ⟨hone b hb (by omega), ?_⟩
    rcases after_store hb.numbered q with hsame | ⟨a, hs'⟩
    · exact ih (hsame ▸ hb) (by rw [hsame]; omega)
    · have hle := hs'.lastVehicle_le
      exact ih (hs'.filed hb) (by omega)

/-- **Resolutions one after the other.** Each of them keeps its promises, over
whatever the others have left. From a store without ambiguous object numbers
on there is none at any time, and no vehicle is ever gone or other than it was
but for its object number. While there are numbers left, every resolution has
an outcome. -/
theorem resolved_in_turn (hb : b.store.Filed) (qs : List Query) :
    (∀ c ∈ states b qs, ∀ q : Query, q.Sound c)
      ∧ (b.store.Unambiguous → ∀ c ∈ states b qs, c.store.Unambiguous)
      ∧ (∀ c ∈ states b qs, b.store.Keeps c.store)
      ∧ (b.store.lastVehicle + qs.length < maxRowNumber →
        ∀ c ∈ states b qs, ∀ q : Query, (q.outcome c).isSome) :=
  ⟨fun c hc => sound (filed_states hb c hc),
    forall_states (fun hs hs' h => hs'.unambiguous hs.numbered h) hb,
      keeps_states hb,
    isSome_outcome_states hb⟩

/-- A provider, and vehicles of its. -/
def fleet (vs : List Vehicle) : Backend where
  store := .ofContents ⟨[⟨⟨1⟩, "provider", ["10.0.*"]⟩], vs, []⟩
  cache := .empty PositionCache.defaultTolerance
  log := []

/-- A vehicle that is recognized, and a terminal that is not: two numbers,
three times resolved. -/
theorem resolved_in_turn_of_two_terminals :
    let b := fleet [⟨⟨1⟩, "356307042441013", none, none, ⟨1⟩, .approved⟩]
    let qs : List Query :=
      [⟨1013, ⟨1⟩, .none⟩, ⟨9, ⟨1⟩, .none⟩, ⟨1013, ⟨1⟩, .none⟩]
    b.store.Filed ∧ b.store.Unambiguous
      ∧ b.store.lastVehicle + qs.length < maxRowNumber
      ∧ (∀ c ∈ states b qs, c.store.Unambiguous ∧ b.store.Keeps c.store)
      ∧ ∀ c ∈ states b qs, ∀ q : Query, (q.outcome c).isSome := by
  intro b qs
  have hb : b.store.Filed := Store.filed_ofContents _
  have hu : b.store.Unambiguous := by decide
  have hlast : b.store.lastVehicle + qs.length < maxRowNumber := by decide
  obtain ⟨-, hunambiguous, hkeeps, hsome⟩ := resolved_in_turn hb qs
  exact ⟨hb, hu, hlast, fun c hc => ⟨hunambiguous hu c hc, hkeeps c hc⟩,
    hsome hlast⟩

/-- One vehicle has the largest number, and one of another provider the
smallest. -/
def fullFleet : Backend :=
  fleet [⟨⟨maxRowNumber⟩, "356307042441013", none, none, ⟨1⟩, .approved⟩,
    ⟨⟨minRowNumber⟩, "356307042441014", none, none, ⟨2⟩, .approved⟩]

/-- An object number that no vehicle has. -/
def unknownNumber : Query := ⟨9, ⟨1⟩, .none⟩

/-- **Behind the largest number** no placeholder is entered, although the
object number is nowhere and nothing fails: the resolution has no outcome. -/
theorem no_placeholder_at_largest_number : fullFleet.store.Filed
    ∧ Resolver.carriers fullFleet.store 9 ⟨1⟩ = []
    ∧ Resolver.candidates fullFleet.store 9 ⟨1⟩ = []
    ∧ ¬ ∃ id, unknownNumber.outcome fullFleet = some (.ok (.created id)) := by
  refine ⟨Store.filed_ofContents _, by decide +kernel, by decide +kernel, ?_⟩
  rintro ⟨id, hid⟩
  have hnone : (unknownNumber.outcome fullFleet).isNone := by decide +kernel
  rw [hid] at hnone
  cases hnone

end Query

end Telematics
