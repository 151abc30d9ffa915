import Telematics.Proofs.Pipeline.Interleaving

/-!
# When resolutions may run side by side

A resolution looks its object number up and files a vehicle under it two
requests later, at the earliest. If no other resolution of the same number
and provider is pending in between, the number is still as it was found and
the write is not stale. The invariant below says so step by step: a
resolution that is pending has found nothing, and nothing is found still. A
resolution that wants to enter a vehicle when no numbers are left is brought
down, and files nothing.

Without such an exclusion the number may be taken in the meantime. Two
workers that hold the first readings of one unknown terminal then enter two
placeholders, and the number is ambiguous from then on.

The two parts are put together in `Resolvers.unambiguous_iff_no_late_write`: a
run keeps the store unambiguous exactly if none of its writes is stale, and
with the exclusion none is. That the exclusion cannot be had for nothing is
`Resolvers.exists_ambiguous_of_race`, which holds over any store in which the
number is unknown and two numbers are left. Nothing in a resolution keeps
another one from being pending; who serves them would have to.
-/

namespace Telematics

/-! ## The requests of a resolution -/

namespace Resolver

variable {oid : UInt32} {provider : ProviderId} {v w : Vehicle} {b : Backend}

/-- What a resolution does once its lookup has found nothing. -/
def search (oid : UInt32) (provider : ProviderId) :
    Task ResolveError Resolution := do
  let all ← request (.vehiclesByProvider provider)
  settle oid provider (all.filter (matchesImei oid))

/-- What a resolution does with the answer to its lookup. -/
def afterLookup (oid : UInt32) (provider : ProviderId) :
    Except StoreError (List Vehicle) → Program (Except ResolveError Resolution)
  | .ok [] => ExceptT.run (search oid provider)
  | .ok [v] => .done (.ok (.cached v.id))
  | .ok (v :: w :: r) => .done (.error (.ambiguous oid (v :: w :: r).length))
  | .error e => .done (.error (.store e))

/-- What a search does with the vehicles of the provider. -/
def afterListing (oid : UInt32) (provider : ProviderId) :
    Except StoreError (List Vehicle) → Program (Except ResolveError Resolution)
  | .ok all => ExceptT.run (settle oid provider (all.filter (matchesImei oid)))
  | .error e => .done (.error (.store e))

theorem run_resolve : ExceptT.run (resolve oid provider)
    = .ask (.vehiclesByOid oid provider) (afterLookup oid provider) := by
  refine congrArg (Program.ask (.vehiclesByOid oid provider)) ?_
  funext x
  match x with
  | .ok [] => rfl
  | .ok [v] => rfl
  | .ok (v :: w :: r) => rfl
  | .error e => rfl

theorem run_search : ExceptT.run (search oid provider)
    = .ask (.vehiclesByProvider provider) (afterListing oid provider) := by
  refine congrArg (Program.ask (.vehiclesByProvider provider)) ?_
  funext x
  cases x <;> rfl

theorem run_settle_nil : ExceptT.run (settle oid provider [])
    = .ask (.insertVehicle (.placeholder oid provider))
      (fun x => .done ((x.mapError ResolveError.store).map .created)) := by
  refine congrArg (Program.ask (.insertVehicle (.placeholder oid provider))) ?_
  funext x
  cases x <;> rfl

/-- A lookup that finds nothing is followed by the search. -/
theorem serve?_resolve (h : b.store.vehiclesByOid oid provider = []) :
    (ExceptT.run (resolve oid provider)).serve? b
      = some (ExceptT.run (search oid provider), b) := by
  rw [run_resolve]
  show some (afterLookup oid provider
    (.ok (b.store.vehiclesByOid oid provider)), b) = _
  rw [h]
  rfl

/-- A search that finds nothing is followed by a placeholder. -/
theorem serve?_search
    (h : (b.store.vehiclesByProvider provider).filter (matchesImei oid) = []) :
    (ExceptT.run (search oid provider)).serve? b
      = some (ExceptT.run (settle oid provider []), b) := by
  rw [run_search]
  show some (ExceptT.run (settle oid provider
    ((b.store.vehiclesByProvider provider).filter (matchesImei oid))), b) = _
  rw [h]

/-- A placeholder for which there is a number ends the resolution. -/
theorem serve?_settle_nil {id : VehicleId} {s : Store}
    (h : b.store.insertVehicle (.placeholder oid provider) = some (id, s)) :
    (ExceptT.run (settle oid provider [])).serve? b
      = some (.done (.ok (.created id)), { b with store := s }) := by
  rw [run_settle_nil]
  simp only [Program.serve?, Backend.perform, h]
  rfl

/-- Several vehicles under one object number are never chosen between. -/
theorem runIn_resolve_of_cons_cons {l : List Vehicle}
    (h : b.store.vehiclesByOid oid provider = v :: w :: l) :
    Task.runIn .none (resolve oid provider) b
      = (some (.error (.ambiguous oid (v :: w :: l).length)), b) := by
  unfold Task.runIn
  rw [run_resolve]
  show (afterLookup oid provider (.ok (b.store.vehiclesByOid oid provider))).run
    .none b = _
  rw [h]
  rfl

theorem run_settle_of_eq (provider : ProviderId) (hv : v.oid = some oid) :
    ExceptT.run (settle oid provider [v]) = .done (.ok (.matched v.id)) := by
  simp only [settle]
  rw [if_neg (fun hne => hne hv)]
  rfl

theorem run_settle_of_ne (hv : v.oid ≠ some oid) :
    ExceptT.run (settle oid provider [v]) = .ask (.updateOid v.id oid)
      (fun x => .done
        ((x.mapError ResolveError.store).map fun _ => .matched v.id)) := by
  simp only [settle]
  rw [if_pos hv]
  refine congrArg (Program.ask (.updateOid v.id oid)) ?_
  funext x
  cases x <;> rfl

end Resolver

/-! ## What a write leaves as it is -/

namespace Store

variable {s s' : Store} {oid oid' : UInt32} {provider provider' : ProviderId}
  {k : Int}
  {v : Vehicle}

/-- Nothing happened to a store but that vehicles of one provider came to
report under one object number. -/
structure Extends (s s' : Store) (oid : UInt32) (provider : ProviderId) :
    Prop where
  rows : ∀ k v, (k, v) ∈ s'.vehicles.rows →
    (k, v) ∈ s.vehicles.rows ∨ v.provider = provider ∧ v.oid = some oid
  kept : ∀ id v, s.findVehicle id = some v →
    ∃ w, s'.findVehicle id = some w ∧ w.provider = v.provider

/-- **Filing a vehicle**, where none of another provider was, is such a
change. -/
theorem Extends.of_insert (hs : s'.vehicles = s.vehicles.insert k v)
    (hp : v.provider = provider) (ho : v.oid = some oid)
    (hk : ∀ w, (k, w) ∈ s.vehicles.rows → w.provider = provider) :
    s.Extends s' oid provider := by
  constructor
  · intro l w hw
    rw [hs, Table.mem_insert] at hw
    rcases hw with heq | ⟨hw, -⟩
    · obtain ⟨-, rfl⟩ := Prod.mk.inj heq
      exact .inr ⟨hp, ho⟩
    · exact .inl hw
  · intro id w hw
    have hrow : (id.val, w) ∈ s.vehicles.rows := Table.find?_eq_some_iff.1 hw
    by_cases hid : id.val = k
    · refine ⟨v, Table.find?_eq_some_iff.2 ?_,
        hp.trans (hk w (hid ▸ hrow)).symm⟩
      rw [hs, Table.mem_insert]
      exact .inl (by rw [hid])
    · refine ⟨w, Table.find?_eq_some_iff.2 ?_, rfl⟩
      rw [hs, Table.mem_insert]
      exact .inr ⟨hrow, hid⟩

/-- An object number that nothing reports under stays so if another one is
taken. -/
theorem Extends.absent (h : s.Extends s' oid provider)
    (hne : ¬ (oid' = oid ∧ provider' = provider))
    (habs : s.vehiclesByOid oid' provider' = []) :
    s'.vehiclesByOid oid' provider' = [] := by
  rw [vehiclesByOid_eq_nil_iff] at habs ⊢
  intro k v hv hp ho
  rcases h.rows k v hv with hv | ⟨hp', ho'⟩
  · exact habs k v hv hp ho
  · exact hne ⟨Option.some.inj (ho.symm.trans ho'), hp.symm.trans hp'⟩

end Store

/-! ## The invariant -/

namespace Resolving

variable {s s' : Store} {t : Resolving} {b : Backend} {r : Request}
  {next : Except StoreError r.Result → Program (Except ResolveError Resolution)}

/-- **How far a resolution is**, over a store. Between the lookup and the
write nothing reports under its object number, and a vehicle that is to be
updated is one of its provider. -/
inductive Sound (s : Store) (t : Resolving) : Prop where
  | lookup (h : t.program = ExceptT.run (Resolver.resolve t.oid t.provider))
  | search (h : t.program = ExceptT.run (Resolver.search t.oid t.provider))
    (absent : s.vehiclesByOid t.oid t.provider = [])
  | enter (h : t.program = ExceptT.run (Resolver.settle t.oid t.provider []))
    (absent : s.vehiclesByOid t.oid t.provider = [])
  | update (v w : Vehicle)
    (h : t.program = ExceptT.run (Resolver.settle t.oid t.provider [v]))
    (ne : v.oid ≠ some t.oid) (found : s.findVehicle v.id = some w)
    (same : w.provider = t.provider)
    (absent : s.vehiclesByOid t.oid t.provider = [])
  | done (a : Except ResolveError Resolution) (h : t.program = .done a)
  | stop (h : t.program = .stop)

theorem pending_of_search
    (h : t.program = ExceptT.run (Resolver.search t.oid t.provider)) :
    t.pending := by
  rw [pending, h, Resolver.run_search]
  rfl

theorem pending_of_enter
    (h : t.program = ExceptT.run (Resolver.settle t.oid t.provider [])) :
    t.pending := by
  rw [pending, h, Resolver.run_settle_nil]
  rfl

theorem pending_of_update {v : Vehicle}
    (h : t.program = ExceptT.run (Resolver.settle t.oid t.provider [v]))
    (ne : v.oid ≠ some t.oid) : t.pending := by
  rw [pending, h, Resolver.run_settle_of_ne ne]
  rfl

/-- A resolution is as far as it was after a write of another one. -/
theorem Sound.frame {oid : UInt32} {provider : ProviderId} (ht : t.Sound s)
    (hs : s.Extends s' oid provider)
    (hne : t.pending → ¬ (t.oid = oid ∧ t.provider = provider)) :
    t.Sound s' := by
  cases ht with
  | lookup h => exact .lookup h
  | search h absent =>
    exact .search h (hs.absent (hne (pending_of_search h)) absent)
  | enter h absent =>
    exact .enter h (hs.absent (hne (pending_of_enter h)) absent)
  | update v w h ne found same absent =>
    obtain ⟨u, hu, hp⟩ := hs.kept v.id w found
    have habs := hs.absent (hne (pending_of_update h ne)) absent
    exact .update v u h ne hu (hp.trans same) habs
  | done a h => exact .done a h
  | stop h => exact .stop h

/-- What a request of a resolution leaves behind. -/
structure Served (b : Backend) (t : Resolving) (r : Request) (t' : Resolving)
    (b' : Backend) : Prop where
  sound : t'.Sound b'.store
  filed : b'.store.Filed
  fresh : ¬ r.Stale b.store
  frame : b'.store = b.store
    ∨ t.pending ∧ b.store.Extends b'.store t.oid t.provider

/-- **A request that files nothing** leaves the store as it was, and only its
own resolution gets on. -/
theorem Served.of_read {t' : Resolving} (hb : b.store.Filed)
    (hr : r.files? b.store = none) (ht : t'.Sound b.store) :
    Served b t r t' b where
  sound := ht
  filed := hb
  fresh := fun ⟨v, hv, _⟩ => by rw [hr] at hv; cases hv
  frame := .inl rfl

/-- **A write is not stale if its object number is still absent**, and it
leaves the other resolutions as far as they were. No vehicle of the number is
there but the one that is filed, and resolutions of other numbers do not find
it. -/
theorem Served.of_write {v : Vehicle} {t' : Resolving} {b' : Backend}
    (ht' : t'.Sound b'.store) (hb' : b'.store.Filed) (ht : t.pending)
    (habs : b.store.vehiclesByOid t.oid t.provider = [])
    (hr : r.files? b.store = some v)
    (hs : b'.store.vehicles = b.store.vehicles.insert v.id.val v)
    (ho : v.oid = some t.oid) (hp : v.provider = t.provider)
    (hk : ∀ w, (v.id.val, w) ∈ b.store.vehicles.rows →
      w.provider = t.provider) :
    Served b t r t' b' where
  sound := ht'
  filed := hb'
  fresh := by
    rintro ⟨w, hw, oid, hoid, u, hu, -⟩
    obtain rfl := Option.some.inj (hr.symm.trans hw)
    obtain rfl := Option.some.inj (ho.symm.trans hoid)
    rw [hp, habs] at hu
    cases hu
  frame := .inr ⟨ht, .of_insert hs hp ho hk⟩

/-- **The number of a placeholder is a new one**, or there is none and the
resolution is over. A number that was never given is no number of a vehicle of
another provider. -/
theorem Served.of_enter (hb : b.store.Filed) (ht : t.pending)
    (habs : b.store.vehiclesByOid t.oid t.provider = [])
    {next : Except StoreError VehicleId →
      Program (Except ResolveError Resolution)}
    (hnext : ∀ x, ∃ a, next x = .done a) :
    Served b t (.insertVehicle (.placeholder t.oid t.provider))
      { t with
        program := .resume (r := .insertVehicle _) next
          (b.perform (.insertVehicle (.placeholder t.oid t.provider))).1 }
      (b.perform (.insertVehicle (.placeholder t.oid t.provider))).2 := by
  simp only [Backend.perform]
  cases hs : b.store.insertVehicle (.placeholder t.oid t.provider) with
  | none =>
    have hfull := Store.insertVehicle_eq_none_iff.1 hs
    refine .of_read hb ?_ (.stop rfl)
    rw [Request.files?, nextRowNumber?_eq_none_iff.2 hfull, Option.map_none]
  | some x =>
    obtain ⟨id, s⟩ := x
    obtain ⟨a, ha⟩ := hnext (.ok id)
    have hfiles :
      (Request.insertVehicle (.placeholder t.oid t.provider)).files? b.store
        = some ((NewVehicle.placeholder t.oid t.provider).toVehicle id) := by
      obtain ⟨hlt, rfl, -⟩ := Store.insertVehicle_eq_some_iff.1 hs
      rw [Request.files?, nextRowNumber?_eq_some_iff.2 ⟨hlt, rfl⟩,
        Option.map_some]
    refine .of_write (.done a ha) (hb.insertVehicle hs) ht habs hfiles
      (Store.vehicles_of_insertVehicle hs) rfl rfl fun w hw => ?_
    exact absurd (hb.lt_of_insertVehicle hs hw) (Int.lt_irrefl _)

/-- A vehicle that is updated is one of the provider still. -/
theorem Served.of_update {id : VehicleId} {w : Vehicle} (hb : b.store.Filed)
    (ht : t.pending) (habs : b.store.vehiclesByOid t.oid t.provider = [])
    (found : b.store.findVehicle id = some w) (same : w.provider = t.provider)
    {next : Except StoreError Unit → Program (Except ResolveError Resolution)}
    (hnext : ∀ x, ∃ a, next x = .done a) :
    Served b t (.updateOid id t.oid)
      { t with
        program := .resume (r := .updateOid _ _) next
          (b.perform (.updateOid id t.oid)).1 }
      (b.perform (.updateOid id t.oid)).2 := by
  have hrow : (id.val, w) ∈ b.store.vehicles.rows :=
    Table.find?_eq_some_iff.1 found
  have hid : w.id.val = id.val := hb.numbered id.val w hrow
  have hfiles : (Request.updateOid id t.oid).files? b.store
      = some { w with oid := some t.oid } := by
    simp only [Request.files?, found, Option.map_some]
  obtain ⟨a, ha⟩ := hnext (.ok ())
  have hvehicles := Request.perform_of_some hb.numbered hfiles
  unfold Store.findVehicle at found
  simp only [Backend.perform, Store.updateOid, found] at hvehicles ⊢
  refine .of_write (.done a ha) (hb.insert hvehicles rfl ?_ (Int.le_refl _)) ht
    habs hfiles
    hvehicles rfl same fun u hu => ?_
  · exact hb.le_last _ w (hid ▸ hrow)
  · rw [Table.eq_of_mem hu (hid ▸ hrow)]
    exact same

/-- **One step of a resolution keeps the invariant.** By the stage that it has
come to. -/
theorem Sound.serve (ht : t.Sound b.store) (hb : b.store.Filed)
    (hp : t.program = .ask r next) :
    Served b t r { t with program := .resume next (b.perform r).1 }
      (b.perform r).2 := by
  cases ht with
  | lookup h =>
    rw [hp, Resolver.run_resolve] at h
    cases h
    refine .of_read hb rfl ?_
    show Sound b.store { t with
      program := Resolver.afterLookup t.oid t.provider
        (.ok (b.store.vehiclesByOid t.oid t.provider)) }
    match hl : b.store.vehiclesByOid t.oid t.provider with
    | [] => exact .search rfl hl
    | [v] => exact .done _ rfl
    | v :: w :: l => exact .done _ rfl
  | search h absent =>
    rw [hp, Resolver.run_search] at h
    cases h
    refine .of_read hb rfl ?_
    show Sound b.store { t with
      program := ExceptT.run (Resolver.settle t.oid t.provider
        ((b.store.vehiclesByProvider t.provider).filter
          (Resolver.matchesImei t.oid))) }
    match hl : (b.store.vehiclesByProvider t.provider).filter
      (Resolver.matchesImei t.oid) with
    | [] => exact .enter rfl absent
    | [v] =>
      -- A vehicle that matches and has the number already is left as it is.
      by_cases hv : v.oid = some t.oid
      · exact .done _ (Resolver.run_settle_of_eq t.provider hv)
      · have hmem : v ∈ b.store.vehiclesByProvider t.provider :=
          (List.mem_filter.1 (hl ▸ List.mem_singleton_self v)).1
        obtain ⟨hrow, hprovider⟩ := Store.mem_vehiclesByProvider.1 hmem
        exact .update v v rfl hv (hb.numbered.findVehicle hrow) hprovider absent
    | v :: w :: l => exact .done _ rfl
  | enter h absent =>
    have hpending := pending_of_enter h
    rw [hp, Resolver.run_settle_nil] at h
    cases h
    exact .of_enter hb hpending absent fun _ => ⟨_, rfl⟩
  | update v w h ne found same absent =>
    have hpending := pending_of_update h ne
    rw [hp, Resolver.run_settle_of_ne ne] at h
    cases h
    exact .of_update hb hpending absent found same fun _ => ⟨_, rfl⟩
  | done a h =>
    rw [hp] at h
    cases h
  | stop h =>
    rw [hp] at h
    cases h

end Resolving

/-! ## Runs with exclusion -/

namespace Resolvers

variable {x y : Resolvers} {e : ResolverEvent} {events : List ResolverEvent}
  {t u : Resolving}
  {i j : Nat}

/-- Vehicles are filed under their numbers, and every resolution is as far
as it can be over them. -/
structure Sound (x : Resolvers) : Prop where
  filed : x.backend.store.Filed
  tasks : ∀ t ∈ x.tasks, t.Sound x.backend.store

/-- Of two resolutions that are pending the numbers differ, or the
providers. -/
theorem Exclusive.ne (h : x.Exclusive) (hij : i ≠ j) (hi : x.tasks[i]? = some t)
    (hj : x.tasks[j]? = some u) (ht : t.pending) (hu : u.pending) :
    ¬ (u.oid = t.oid ∧ u.provider = t.provider) := by
  obtain ⟨hil, rfl⟩ := List.getElem?_eq_some_iff.1 hi
  obtain ⟨hjl, rfl⟩ := List.getElem?_eq_some_iff.1 hj
  have hpair := List.pairwise_iff_getElem.1 h
  rintro ⟨ho, hp⟩
  rcases Nat.lt_or_gt_of_ne hij with hlt | hgt
  · exact hpair i j hil hjl hlt ⟨ht, hu, ho.symm, hp.symm⟩
  · exact hpair j i hjl hil hgt ⟨hu, ht, ho, hp⟩

/-- **No write is stale over a sound state.** What is filed is a vehicle under
a number that no other reports under. -/
theorem Sound.not_late (hx : x.Sound) : ¬ x.Late e := by
  cases e with
  | start oid provider => exact id
  | serve i =>
    rintro ⟨t, ht, r, hr, hstale⟩
    have hsound : t.Sound x.backend.store :=
      hx.tasks t (List.mem_of_getElem? ht)
    cases hp : t.program with
    | done a =>
      rw [hp] at hr
      cases hr
    | stop =>
      rw [hp] at hr
      cases hr
    | ask r' next =>
      rw [hp] at hr
      obtain rfl := Option.some.inj hr
      exact (hsound.serve hx.filed hp).fresh hstale

/-- **One step keeps a state sound** if no other resolution of the same number
is pending. The write of one resolution is about its own number, and by the
exclusion no other that is pending is about that one. -/
theorem Sound.step (hx : x.Sound) (he : x.Exclusive) (h : x.step? e = some y) :
    y.Sound := by
  obtain ⟨oid, provider, rfl, rfl⟩ | ⟨i, t, r, next, rfl, ht, hp, rfl⟩ :=
    step?_eq_some h
  · refine ⟨hx.filed, fun u hu => ?_⟩
    rcases List.mem_append.1 hu with hu | hu
    · exact hx.tasks u hu
    · obtain rfl := List.mem_singleton.1 hu
      exact .lookup rfl
  · have hserved := (hx.tasks t (List.mem_of_getElem? ht)).serve hx.filed hp
    refine ⟨hserved.filed, fun u hu => ?_⟩
    obtain ⟨j, hj⟩ := List.mem_iff_getElem?.1 hu
    rw [List.getElem?_set] at hj
    split at hj
    · -- The resolution that was served.
      split at hj
      · exact Option.some.inj hj ▸ hserved.sound
      · cases hj
    · next hij =>
      have hu : u.Sound x.backend.store := hx.tasks u (List.mem_of_getElem? hj)
      rcases hserved.frame with hsame | ⟨hpending, hext⟩
      · exact hsame.symm ▸ hu
      · exact hu.frame hext
          (fun hupending => he.ne hij ht hj hpending hupending)

/-- **A run with exclusion answers no stale write.** By induction on the
events. -/
theorem Sound.not_late_moves (hx : x.Sound)
    (he : ∀ y ∈ x.states events, y.Exclusive) :
    ∀ m ∈ x.moves events, ¬ m.1.Late m.2 := by
  induction events generalizing x with
  | nil =>
    intro m hm
    cases hm
  | cons e events ih =>
    unfold states at he
    unfold moves
    rw [List.forall_mem_cons] at he ⊢
    refine ⟨hx.not_late, ?_⟩
    cases h : x.step? e with
    | none =>
      intro m hm
      cases hm
    | some y =>
      rw [h] at he
      exact ih (hx.step he.1 h) he.2

/-- **Resolutions side by side keep a store unambiguous** at all times of a
run exactly if none of their writes is stale. That is so if no two
resolutions of one object number under one provider are pending at a time. -/
theorem unambiguous_iff_no_late_write (b : Backend)
    (events : List ResolverEvent) (hb : b.store.Filed)
    (hu : b.store.Unambiguous) :
    ((∀ y ∈ (Resolvers.mk b []).states events, y.backend.store.Unambiguous)
      ↔ ∀ m ∈ (Resolvers.mk b []).moves events, ¬ m.1.Late m.2) ∧
    ((∀ y ∈ (Resolvers.mk b []).states events, y.Exclusive) →
      ∀ y ∈ (Resolvers.mk b []).states events,
        y.backend.store.Unambiguous) := by
  refine ⟨unambiguous_states_iff hb.numbered hu, fun he => ?_⟩
  refine (unambiguous_states_iff hb.numbered hu).2 ?_
  have hsound : Sound ⟨b, []⟩ := ⟨hb, nofun⟩
  exact hsound.not_late_moves he

/-- A worker that resolves one number twice enters one vehicle. -/
theorem unambiguous_of_one_worker :
    Store.empty.Filed ∧ Store.empty.Unambiguous ∧
    ∀ y ∈
      (Resolvers.mk
        ⟨.empty, .empty PositionCache.defaultTolerance, []⟩ []).states
        [.start 7 ⟨1⟩, .serve 0, .serve 0, .serve 0, .start 7 ⟨1⟩, .serve 1],
      y.backend.store.Unambiguous := by
  have hu : Store.empty.Unambiguous := by decide
  refine ⟨Store.filed_empty, hu, ?_⟩
  exact (unambiguous_iff_no_late_write _ _ Store.filed_empty hu).2 (by decide)

/-! ## Runs without -/

/-- An object number that is nowhere: neither the lookup nor the search finds
a vehicle. -/
structure Unknown (b : Backend) (oid : UInt32) (provider : ProviderId) :
    Prop where
  absent : b.store.vehiclesByOid oid provider = []
  unmatched : (b.store.vehiclesByProvider provider).filter
    (Resolver.matchesImei oid) = []

/-- Two workers hold the first readings of one terminal, and each has its
requests answered right after the other. -/
def race (oid : UInt32) (provider : ProviderId) : List ResolverEvent :=
  [.start oid provider, .start oid provider,
    .serve 0, .serve 1, .serve 0, .serve 1, .serve 0, .serve 1]

variable {z : Resolvers} {b b' : Backend} {oid : UInt32} {provider : ProviderId}

theorem mem_states_of_step (h : x.step? e = some y) (hz : z ∈ y.states events) :
    z ∈ x.states (e :: events) := by
  unfold states
  rw [h]
  exact .tail _ hz

theorem step?_first {p p' : Program (Except ResolveError Resolution)}
    (h : p.serve? b = some (p', b')) :
    (Resolvers.mk b [⟨oid, provider, p⟩, u]).step? (.serve 0)
      = some ⟨b', [⟨oid, provider, p'⟩, u]⟩ := by
  simp [step?, h]

theorem step?_second {p p' : Program (Except ResolveError Resolution)}
    (h : p.serve? b = some (p', b')) :
    (Resolvers.mk b [t, ⟨oid, provider, p⟩]).step? (.serve 1)
      = some ⟨b', [t, ⟨oid, provider, p'⟩]⟩ := by
  simp [step?, h]

/-- **Two first readings of one unknown terminal enter two placeholders**,
whatever else the store holds, and its object number is ambiguous from then
on. -/
theorem exists_ambiguous_of_race (hb : b.store.Filed)
    (hlast : b.store.lastVehicle + 2 ≤ maxRowNumber)
    (h : Unknown b oid provider) :
    ∃ y ∈ (Resolvers.mk b []).states (race oid provider),
      y.backend.store.vehiclesByOid oid provider
        = [(NewVehicle.placeholder oid provider).toVehicle
          ⟨b.store.lastVehicle + 1⟩,
          (NewVehicle.placeholder oid provider).toVehicle
          ⟨b.store.lastVehicle + 2⟩] ∧
      Task.runIn .none (Resolver.resolve oid provider) y.backend
        = (some (.error (.ambiguous oid 2)), y.backend) := by
  let s :=
    b.store.enterVehicle (.placeholder oid provider) (b.store.lastVehicle + 1)
  let u := s.enterVehicle (.placeholder oid provider) (s.lastVehicle + 1)
  have hs : b.store.insertVehicle (.placeholder oid provider)
      = some (⟨b.store.lastVehicle + 1⟩, s) :=
    Store.insertVehicle_eq_some_iff.2 ⟨by omega, rfl, rfl⟩
  have hlt : s.lastVehicle < maxRowNumber := by
    show b.store.lastVehicle + 1 < maxRowNumber
    omega
  have hu : s.insertVehicle (.placeholder oid provider)
      = some (⟨b.store.lastVehicle + 2⟩, u) :=
    Store.insertVehicle_eq_some_iff.2
      ⟨hlt, congrArg VehicleId.mk (Int.add_assoc _ 1 1).symm, rfl⟩
  have htwo := hb.vehiclesByOid_two_placeholders h.absent hs hu
  have hrun :=
    Resolver.runIn_resolve_of_cons_cons (b := { b with store := u }) htwo
  refine ⟨⟨{ b with store := u },
    [⟨oid, provider, .done (.ok (.created ⟨b.store.lastVehicle + 1⟩))⟩,
      ⟨oid, provider, .done (.ok (.created ⟨b.store.lastVehicle + 2⟩))⟩]⟩, ?_,
        htwo, hrun⟩
  refine mem_states_of_step rfl ?_
  refine mem_states_of_step rfl ?_
  -- Both look the number up, and both search.
  refine mem_states_of_step (step?_first (Resolver.serve?_resolve h.absent)) ?_
  refine mem_states_of_step (step?_second (Resolver.serve?_resolve h.absent)) ?_
  refine mem_states_of_step
    (step?_first (Resolver.serve?_search h.unmatched)) ?_
  refine mem_states_of_step
    (step?_second (Resolver.serve?_search h.unmatched)) ?_
  -- Both enter a vehicle.
  refine mem_states_of_step (step?_first (Resolver.serve?_settle_nil hs)) ?_
  refine mem_states_of_step (step?_second (Resolver.serve?_settle_nil hu)) ?_
  exact .head _

/-- The receiver starts with nothing in its store, and one terminal reports
twice. -/
theorem ambiguous_after_first_readings : Store.empty.Unambiguous ∧
    ∃ y ∈
      (Resolvers.mk
        ⟨.empty, .empty PositionCache.defaultTolerance, []⟩ []).states
        (race 7 ⟨1⟩),
      ¬ y.backend.store.Unambiguous ∧
      Task.runIn .none (Resolver.resolve 7 ⟨1⟩) y.backend
        = (some (.error (.ambiguous 7 2)), y.backend) := by
  refine ⟨by decide, ?_⟩
  obtain ⟨y, hy, htwo, hrun⟩ :=
    exists_ambiguous_of_race
      (b := ⟨.empty, .empty PositionCache.defaultTolerance, []⟩)
      Store.filed_empty (by decide) ⟨rfl, rfl⟩
  refine ⟨y, hy, fun hu => ?_, hrun⟩
  have hone := Store.unambiguous_iff_length_le.1 hu 7 ⟨1⟩
  rw [htwo] at hone
  exact Nat.not_succ_le_self 1 hone

end Resolvers

end Telematics
