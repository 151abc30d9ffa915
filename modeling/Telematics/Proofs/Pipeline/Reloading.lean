import Telematics.Pipeline.Refresh
import Telematics.Proofs.Pipeline.Running
import Telematics.Proofs.Store.Points

/-!
# What a reload of the cache finds

A reload asks for the vehicles, then for the last position of each of them,
and replaces the entries of the cache at the end, all at once. A vehicle whose
position cannot be had is left out like one that has none; only if the
vehicles cannot be listed does nothing change
(`PositionCache.refresh_replaces_or_keeps`).

If nothing fails, it leaves exactly the last positions of the vehicles of the
store (`PositionCache.find?_loaded`). A cache that is settled has them already
(`Backend.settled_iff`), and one that was just reloaded is settled.

Answers are entered one after the other, and a vehicle may be in the list more
than once. What is found in the end is said by lookup and not by the order in
which entries came in (`PositionCache.find?_foldl_entered`): under the number
of a vehicle there is what was answered for it, if it was asked for at all. A
run of the program is a run of its last request with these entries
(`PositionCache.run_look`).
-/

namespace Telematics

/-- Where a vehicle last was, if it is one of the store. -/
def Store.known (s : Store) (v : VehicleId) : Option Position :=
  (s.findVehicle v).bind fun _ => s.lastPosition v

/-- Nothing is known of a vehicle that is not in the store, although there may
be points of it. -/
theorem Store.known_eq (s : Store) (v : VehicleId) :
    s.known v = if (s.findVehicle v).isSome then s.lastPosition v
      else none := by
  unfold known
  cases s.findVehicle v <;> rfl

/-- The vehicles that are listed are those that are found. -/
theorem Store.Numbered.mem_ids {s : Store} (hs : s.Numbered) {w : VehicleId} :
    w ∈ s.vehicles.values.map (·.id) ↔ (s.findVehicle w).isSome := by
  rw [List.mem_map]
  constructor
  · rintro ⟨v, hv, rfl⟩
    rw [hs.findVehicle (Table.mem_values.1 hv)]
    rfl
  · intro h
    obtain ⟨v, hv⟩ := Option.isSome_iff_exists.1 h
    have hrow := Table.find?_eq_some_iff.1 hv
    exact ⟨v, Table.mem_values.2 ⟨_, hrow⟩, VehicleId.val_inj.1 (hs _ v hrow)⟩

namespace PositionCache

variable {s : Store} {b : Backend} {v : Vehicle} {vs : List Vehicle}
  {found : Table Position}

/-! ## The requests of a reload -/

/-- What is known, with the answer for one vehicle. -/
def entered (v : Vehicle) (found : Table Position) :
    Except StoreError (Option Position) → Table Position
  | .ok (some p) => found.insert v.id.val p
  | _ => found

/-- What a reload does when it knows what the entries are. -/
def swap (found : Table Position) : Program (Except StoreError Nat) :=
  .ask (.replaceCache found) fun x => .done (x.map fun _ => found.size)

/-- What a reload does while vehicles are left to be asked for. -/
def look (vs : List Vehicle) (found : Table Position) :
    Program (Except StoreError Nat) :=
  (collect vs found).bind swap

/-- What a reload does with the list of vehicles. -/
def afterListing :
    Except StoreError (List Vehicle) → Program (Except StoreError Nat)
  | .ok vs => look vs ∅
  | .error e => .done (.error e)

theorem look_nil : look [] found = swap found := rfl

/-- The next vehicle is asked for, and its answer entered. -/
theorem look_cons : look (v :: vs) found
    = .ask (.lastPosition v.id) fun x => look vs (entered v found x) := by
  refine congrArg (Program.ask (.lastPosition v.id)) (funext fun x => ?_)
  match x with
  | .ok (some p) => rfl
  | .ok none => rfl
  | .error e => rfl

theorem run_refresh :
    ExceptT.run refresh = .ask .listVehicles afterListing := by
  refine congrArg (Program.ask .listVehicles) (funext fun x => ?_)
  cases x with
  | error e => rfl
  | ok vs =>
    refine (Program.bind_bind (collect vs ∅) _ _).trans ?_
    refine congrArg (collect vs ∅).bind (funext fun found => ?_)
    refine congrArg (Program.ask (.replaceCache found)) (funext fun y => ?_)
    cases y <;> rfl

/-! ## A reload run alone -/

/-- Its last request cannot fail, and yields the number of entries. -/
theorem run_swap (faults : Faults) (b : Backend) (found : Table Position) :
    (swap found).run faults b
      = (some (.ok found.size), { b with cache := b.cache.replace found }) := by
  rw [swap, Program.run, Backend.answer_of_not_leaves rfl]
  rfl

/-- What is answered for the last position of a vehicle. -/
def lookup (faults : Faults) (b : Backend) (w : VehicleId) :
    Except StoreError (Option Position) :=
  match faults (.lastPosition w) with
  | some e => .error e
  | none => .ok (b.store.lastPosition w)

/-- A request that only looks is answered, and leaves all as it was. -/
theorem answer_lastPosition (faults : Faults) (b : Backend) (w : VehicleId) :
    b.answer faults (.lastPosition w) = (some (lookup faults b w), b) := by
  unfold lookup
  cases h : faults (.lastPosition w) with
  | none => exact Backend.answer_of_none h
  | some e => exact Backend.answer_of_some rfl h

/-- Every answer is entered before the next vehicle is asked for. -/
theorem run_look (faults : Faults) (b : Backend) (vs : List Vehicle)
    (found : Table Position) :
    (look vs found).run faults b = (swap (vs.foldl (fun found v =>
      entered v found (lookup faults b v.id)) found)).run faults b := by
  induction vs generalizing found with
  | nil => rfl
  | cons v vs ih =>
    rw [look_cons, Program.run, answer_lastPosition]
    exact ih _

/-- The entries that a reload leaves. -/
def loaded (s : Store) : Table Position :=
  s.vehicles.values.foldl
    (fun found v => entered v found (.ok (s.lastPosition v.id))) ∅

/-- **A reload while nothing fails.** -/
theorem runIn_refresh (b : Backend) : Task.runIn .none refresh b
    = (some (.ok (loaded b.store).size),
      { b with cache := b.cache.replace (loaded b.store) }) := by
  unfold Task.runIn
  rw [run_refresh, Program.run, Backend.answer_of_none rfl, Backend.perform]
  exact (run_look .none b _ ∅).trans (run_swap ..)

/-- What is found once an answer was entered. A vehicle without a position
keeps what was entered before. -/
theorem find?_entered (o : Option Position) (w : VehicleId) :
    (entered v found (.ok o)).find? w.val
      = if v.id = w then o.or (found.find? w.val) else found.find? w.val := by
  cases o with
  | none => simp [entered]
  | some p =>
    rw [entered, Table.find?_insert]
    simp only [VehicleId.val_inj, eq_comm, Option.some_or]

/-- The position that an answer holds. A failure holds none. -/
def answered : Except StoreError (Option Position) → Option Position
  | .ok o => o
  | .error _ => none

/-- There is a position in an answer only if it is no failure. -/
theorem answered_eq_some_iff {x : Except StoreError (Option Position)}
    {p : Position} :
    answered x = some p ↔ x = .ok (some p) := by
  cases x with
  | ok o => rw [Except.ok.injEq, answered]
  | error e => exact iff_of_false nofun nofun

/-- A failure enters as much as no position does. -/
theorem entered_eq (x : Except StoreError (Option Position)) :
    entered v found x = entered v found (.ok (answered x)) := by
  cases x <;> rfl

/-- **What is found once all answers were entered**: under the number of a
vehicle that was asked for, what was answered for it. A vehicle may be asked
for several times and is answered the same each time. -/
theorem find?_foldl_entered
    (lookup : VehicleId → Except StoreError (Option Position))
    (vs : List Vehicle) (found : Table Position) (w : VehicleId) :
    (vs.foldl (fun found v => entered v found (lookup v.id)) found).find? w.val
      = if w ∈ vs.map (·.id) then (answered (lookup w)).or (found.find? w.val)
        else found.find? w.val := by
  induction vs generalizing found with
  | nil => simp
  | cons v vs ih =>
    rw [List.foldl_cons, ih, entered_eq, find?_entered]
    simp only [List.map_cons, List.mem_cons]
    by_cases hv : v.id = w
    · subst hv
      cases answered (lookup v.id) <;> simp
    · simp [hv, Ne.symm hv]

/-- **A reload leaves the last position of every vehicle** of the store, and
nothing else. A vehicle that is in the store and has no point is left out,
like one that is not in it. -/
theorem find?_loaded (hs : s.Numbered) (w : VehicleId) :
    (loaded s).find? w.val = s.known w := by
  unfold loaded Store.known
  rw [find?_foldl_entered fun w => .ok (s.lastPosition w)]
  simp only [hs.mem_ids]
  cases s.findVehicle w with
  | none => rfl
  | some v => exact Option.or_none

/-- **A reload replaces the cache as a whole, or keeps it.** Whatever the cache
has, whatever the store has and whichever requests fail: if the vehicles
cannot be listed, the reload fails with that and nothing has changed.
Otherwise it yields the number of the entries that the cache has then. There
is one for each vehicle of the list for which a position was answered, with
that position, and there is no other: none for a vehicle without a position or
with a failure in its place, and none of those that were there before. -/
theorem refresh_replaces_or_keeps (faults : Faults) (b : Backend) :
    (∀ e, (b.answer faults .listVehicles).1 = some (.error e) →
        Task.runIn faults refresh b = (some (.error e), b))
      ∧ ∀ vs, (b.answer faults .listVehicles).1 = some (.ok vs) →
        ∃ c : PositionCache,
          Task.runIn faults refresh b
            = (some (.ok c.size), { b with cache := c })
          ∧ c.tolerance = b.cache.tolerance
          ∧ ∀ w p, c.get? w = some p ↔
            w ∈ vs.map (·.id)
              ∧ (b.answer faults (.lastPosition w)).1
                = some (.ok (some p)) := by
  have hsame : (b.answer faults .listVehicles).2 = b := by
    rcases b.answer_cases faults .listVehicles with ⟨e, -, h⟩ | h
    · rw [h]
    · rw [h]
      rfl
  have hrun : ∀ x, (b.answer faults .listVehicles).1 = some x →
      Task.runIn faults refresh b = (afterListing x).run faults b := by
    intro x hx
    have hanswer : b.answer faults .listVehicles = (some x, b) :=
      Prod.ext hx hsame
    unfold Task.runIn
    rw [run_refresh, Program.run, hanswer]
  constructor
  · intro e he
    rw [hrun _ he]
    rfl
  · intro vs hvs
    let found :=
      vs.foldl (fun found v => entered v found (lookup faults b v.id)) ∅
    refine ⟨b.cache.replace found, ?_, rfl, fun w p => ?_⟩
    · rw [hrun _ hvs]
      exact (run_look faults b vs ∅).trans (run_swap ..)
    · have hempty : (∅ : Table Position).find? w.val = none := rfl
      show found.find? w.val = some p ↔ _
      rw [find?_foldl_entered (lookup faults b), hempty, Option.or_none,
        Option.ite_none_right_eq_some, answered_eq_some_iff,
        answer_lastPosition, Option.some.injEq]

/-- Three vehicles of which the second has no point, and a cache that has the
first somewhere else and a fourth one. -/
def threeVehicles : Backend where
  store := .ofContents
    { providers := []
      vehicles := [⟨⟨1⟩, "356307042441013", some 7, none, ⟨1⟩, .approved⟩,
        ⟨⟨2⟩, "356307042441014", some 8, none, ⟨1⟩, .approved⟩,
        ⟨⟨3⟩, "356307042441015", some 9, none, ⟨1⟩, .approved⟩]
      points := [⟨⟨1⟩, ⟨1⟩, ⟨55.0, 37.0, none⟩, ⟨10, 0⟩, ⟨10, 0⟩⟩,
        ⟨⟨2⟩, ⟨3⟩, ⟨55.0, 37.5, none⟩, ⟨10, 0⟩, ⟨10, 0⟩⟩] }
  cache := ((empty 10.0).check ⟨1⟩ ⟨54.0, 36.0, none⟩).2.check ⟨4⟩
    ⟨54.0, 36.5, none⟩ |>.2
  log := []

/-- The third vehicle cannot be looked up. -/
def oneTimeout : Faults
  | .lastPosition v => if v = ⟨3⟩ then some (.backend "timeout") else none
  | _ => none

/-- The vehicles cannot be listed. -/
def listTimeout : Faults
  | .listVehicles => some (.backend "timeout")
  | _ => none

/-- One position, one vehicle without and one failure make one entry, and
nothing that was in the cache is left of it; without a list, all of it is. -/
theorem refresh_threeVehicles :
    (threeVehicles.answer listTimeout .listVehicles).1
      = some (.error (.backend "timeout"))
      ∧ Task.runIn listTimeout refresh threeVehicles
        = (some (.error (.backend "timeout")), threeVehicles)
      ∧ (threeVehicles.answer oneTimeout .listVehicles).1
        = some (.ok threeVehicles.store.vehicles.values)
      ∧ ∃ c : PositionCache,
        Task.runIn oneTimeout refresh threeVehicles
            = (some (.ok c.size), { threeVehicles with cache := c })
          ∧ c.size = 1 ∧ c.get? ⟨1⟩ = some ⟨55.0, 37.0, none⟩
          ∧ ∀ w, w ≠ ⟨1⟩ → c.get? w = none := by
  refine ⟨rfl, (refresh_replaces_or_keeps listTimeout threeVehicles).1 _ rfl,
    rfl, ?_⟩
  obtain ⟨c, hrun, -, hget⟩ :=
    (refresh_replaces_or_keeps oneTimeout threeVehicles).2 _ rfl
  have hsize : (Task.runIn oneTimeout refresh threeVehicles).1 = some (.ok 1) :=
    rfl
  refine ⟨c, hrun, ?_, (hget ⟨1⟩ _).2 ⟨by decide, rfl⟩, fun w hw => ?_⟩
  · rw [hrun] at hsize
    exact Except.ok.inj (Option.some.inj hsize)
  · refine Option.eq_none_iff_forall_ne_some.2 fun p hp => ?_
    obtain ⟨hlisted, hanswer⟩ := (hget w p).1 hp
    have hids : threeVehicles.store.vehicles.values.map (·.id)
      = [⟨1⟩, ⟨2⟩, ⟨3⟩] := rfl
    rw [hids] at hlisted
    rcases List.mem_cons.1 hlisted with rfl | hlisted
    · exact hw rfl
    · rcases List.mem_cons.1 hlisted with rfl | hlisted
      · cases hanswer
      · obtain rfl := List.mem_singleton.1 hlisted
        cases hanswer

end PositionCache

namespace Backend

variable {b : Backend}

/-- **Reloading the cache changes nothing**: the entries are those that a
restart would find. -/
def Settled (b : Backend) : Prop :=
  Task.runIn .none PositionCache.refresh b = (some (.ok b.cache.size), b)

/-- To change nothing is to have the entries that a reload leaves. -/
theorem settled_iff_entries :
    b.Settled ↔ b.cache.entries = PositionCache.loaded b.store := by
  unfold Settled
  rw [PositionCache.runIn_refresh]
  constructor
  · intro h
    exact (congrArg (fun x => x.2.cache.entries) h).symm
  · intro h
    unfold PositionCache.replace PositionCache.size
    rw [← h]

/-- **A cache is settled** if it has the last position of every vehicle of the
store, and nothing else. In this form it no longer speaks of a program. -/
theorem settled_iff (hb : b.store.Numbered) :
    b.Settled ↔ ∀ w, b.cache.get? w = b.store.known w := by
  rw [settled_iff_entries]
  constructor
  · intro h w
    rw [PositionCache.get?, h, PositionCache.find?_loaded hb]
  · intro h
    refine Table.ext_find? fun k => ?_
    exact (h ⟨k⟩).trans (PositionCache.find?_loaded hb ⟨k⟩).symm

/-- A cache that was reloaded is settled. -/
theorem settled_refresh (b : Backend) :
    (Task.runIn .none PositionCache.refresh b).2.Settled := by
  rw [PositionCache.runIn_refresh]
  exact settled_iff_entries.2 rfl

end Backend

end Telematics
