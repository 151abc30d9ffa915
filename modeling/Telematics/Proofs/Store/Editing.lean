import Mathlib.Data.List.Induction
import Telematics.Pipeline.Request
import Telematics.Proofs.Store.Ledger
import Telematics.Proofs.Store.Rows

/-!
# Stores that are worked on

A store is opened empty or with the rows of a seed, whatever these are, and
then providers, vehicles and points are entered, vehicles noted under other
object numbers and points deleted. What can be relied on after any number of
such edits is that every row is found under its own number and none is lost by
accident (`Store.Sound`).

Numbers are given anew all the time while others come in from elsewhere. That
a new one was never in use is a statement about all that the store has been,
not about what it holds: the point with the largest number may have been
deleted. If a row is entered at all, its number is such a new one; and it is
entered unless some row had the largest number there is. Rows that are written
to a file are read into the same rows, but with them the store forgets what
was deleted.

What an edit does to each of the two tables is one of the five steps of
`Ledger.Step`, the first of which is to leave it alone, and this is looked up
once for every edit (`step_vehicleLedger`, `step_pointLedger`). All that is
said about numbers is then said of ledgers and holds of vehicles and points
alike. The last edit of a sequence is taken off first, since the past grows at
its end. That rows are under their own numbers is kept by every edit in the
same way (`Store.Orderly.after`).

Whoever relies on rows that are filed under their numbers, none of which is
larger than the one that is remembered, can do so in all these stores
(`Store.filed_edited`).
-/

namespace Telematics.Store

variable {s : Store}

/-- **What is done to a store.** -/
inductive Edit where
  | addProviders (ps : List Provider)
  | putVehicle (v : Vehicle)
  | insertVehicle (v : NewVehicle)
  | updateOid (id : VehicleId) (oid : UInt32)
  | insertPoint (v : VehicleId) (p : Position) (sentAt receivedAt : Instant)
  | save (r : Reading) (v : VehicleId)
  | deletePoint (id : PointId)

/-- The store behind an edit. One that fails, or for which there is no number,
leaves what was there. -/
def after (s : Store) : Edit → Store
  | .addProviders ps => s.addProviders ps
  | .putVehicle v => s.putVehicle v
  | .insertVehicle v => (s.insertVehicle v).elim s (·.2)
  | .updateOid id oid => (s.updateOid id oid).toOption.getD s
  | .insertPoint v p sentAt receivedAt =>
    (s.insertPoint v p sentAt receivedAt).elim s (·.2)
  | .save r v => (s.save r v).getD s
  | .deletePoint id => (s.deletePoint id).toOption.getD s

/-- The edit as a request, if a program can ask for it. -/
def Edit.request? : Edit → Option Request
  | .insertVehicle v => some (.insertVehicle v)
  | .updateOid id oid => some (.updateOid id oid)
  | .save r v => some (.save .store r v)
  | .deletePoint id => some (.deletePoint id)
  | _ => none

/-- The store that is opened with the rows of a seed, or without any. -/
def opened (seed : Option Contents) : Store := seed.elim empty ofContents

/-- The store behind a sequence of edits. -/
def edited (s : Store) (es : List Edit) : Store := es.foldl after s

/-- **All that a store has been**, up to the last edit of a sequence. -/
def states (s : Store) : List Edit → List Store
  | [] => [s]
  | e :: es => s :: (s.after e).states es

theorem edited_concat (es : List Edit) (e : Edit) :
    s.edited (es ++ [e]) = (s.edited es).after e :=
  List.foldl_append

theorem states_concat (es : List Edit) (e : Edit) :
    s.states (es ++ [e]) = s.states es ++ [(s.edited es).after e] := by
  induction es generalizing s with
  | nil => rfl
  | cons d es ih => exact congrArg (s :: ·) ih

/-! ## What an update and a deletion come to -/

/-- **An update** notes the object number of the vehicle that is there, or
fails. -/
theorem updateOid_cases (s : Store) (id : VehicleId) (oid : UInt32) :
    (∃ v, s.vehicles.find? id.val = some v ∧ s.updateOid id oid
        = .ok { s with
          vehicles := s.vehicles.insert id.val { v with oid := some oid } })
      ∨ s.vehicles.find? id.val = none
        ∧ s.updateOid id oid = .error (.notFound id.label) := by
  unfold updateOid
  cases s.vehicles.find? id.val with
  | none => exact .inr ⟨rfl, rfl⟩
  | some v => exact .inl ⟨v, rfl, rfl⟩

/-- **A deletion** removes the point that is there, or fails. The number that
is remembered is left as it is, and so is never given again. -/
theorem deletePoint_cases (s : Store) (id : PointId) :
    (∃ p, s.points.find? id.val = some p
        ∧ s.deletePoint id = .ok { s with points := s.points.erase id.val })
      ∨ s.points.find? id.val = none
        ∧ s.deletePoint id = .error (.notFound id.label) := by
  unfold deletePoint
  cases s.points.find? id.val with
  | none => exact .inr ⟨rfl, rfl⟩
  | some p => exact .inl ⟨p, rfl, rfl⟩

/-- **What a program asks for is done as the edit.** So what is said of edits
is said of programs as well, whatever else these ask for. -/
theorem store_perform (b : Backend) {e : Edit} {r : Request}
    (h : e.request? = some r) :
    (b.perform r).2.store = b.store.after e := by
  cases e with
  | updateOid id oid =>
    cases h
    rcases updateOid_cases b.store id oid with ⟨v, -, hv⟩ | ⟨-, hv⟩ <;>
      simp only [Backend.perform, after, hv] <;> rfl
  | deletePoint id =>
    cases h
    rcases deletePoint_cases b.store id with ⟨p, -, hp⟩ | ⟨-, hp⟩ <;>
      simp only [Backend.perform, after, hp] <;> rfl
  | insertVehicle v =>
    cases h
    simp only [Backend.perform, after]
    cases b.store.insertVehicle v <;> rfl
  | save r v =>
    cases h
    simp only [Backend.perform, after]
    cases b.store.save r v <;> rfl
  | _ => cases h

/-! ## Both tables and their numbers -/

/-- The vehicles, and the largest number of one so far. -/
def vehicleLedger (s : Store) : Ledger Vehicle := ⟨s.vehicles, s.lastVehicle⟩

/-- The points, and the largest number of one so far. -/
def pointLedger (s : Store) : Ledger TrackPoint := ⟨s.points, s.lastPoint⟩

/-- **What an edit does to the vehicles** is a step of their ledger. A vehicle
that is noted under another object number keeps the number that it is filed
under. -/
theorem step_vehicleLedger (s : Store) (e : Edit) :
    Ledger.Step (fun v : Vehicle => v.id.val) s.vehicleLedger
      (s.after e).vehicleLedger := by
  cases e with
  | addProviders ps =>
    have hkeep : (s.addProviders ps).vehicleLedger = s.vehicleLedger :=
      foldl_keeps vehicleLedger addProvider (fun _ _ => rfl) ps s
    rw [after, hkeep]
    exact .keep
  | putVehicle v => exact .put v
  | insertVehicle v =>
    unfold after Store.insertVehicle
    cases hn : nextRowNumber? s.lastVehicle with
    | none => exact .keep
    | some n => exact .enter (l := s.vehicleLedger) (v.toVehicle ⟨n⟩) hn
  | updateOid id oid =>
    rcases updateOid_cases s id oid with ⟨v, hfind, hv⟩ | ⟨-, hv⟩
    · rw [after, hv]
      refine .amend (l := s.vehicleLedger) id.val { v with
        oid := some oid } v hfind ?_
      rfl
    · rw [after, hv]
      exact .keep
  | deletePoint id =>
    rcases deletePoint_cases s id with ⟨p, -, hp⟩ | ⟨-, hp⟩ <;>
      rw [after, hp] <;> exact .keep
  | insertPoint v p sentAt receivedAt =>
    unfold after Store.insertPoint
    cases nextRowNumber? s.lastPoint <;> exact .keep
  | save r v =>
    unfold after Store.save Store.insertPoint
    cases nextRowNumber? s.lastPoint <;> exact .keep

/-- **What an edit does to the points** is a step of their ledger. A reading
that is kept is a point that is entered. -/
theorem step_pointLedger (s : Store) (e : Edit) :
    Ledger.Step (fun p : TrackPoint => p.id.val) s.pointLedger
      (s.after e).pointLedger := by
  cases e with
  | addProviders ps =>
    have hkeep : (s.addProviders ps).pointLedger = s.pointLedger :=
      foldl_keeps pointLedger addProvider (fun _ _ => rfl) ps s
    rw [after, hkeep]
    exact .keep
  | insertPoint v p sentAt receivedAt =>
    unfold after Store.insertPoint
    cases hn : nextRowNumber? s.lastPoint with
    | none => exact .keep
    | some n =>
      exact .enter (l := s.pointLedger) ⟨⟨n⟩, v, p, sentAt, receivedAt⟩ hn
  | save r v =>
    unfold after Store.save Store.insertPoint
    cases hn : nextRowNumber? s.lastPoint with
    | none => exact .keep
    | some n =>
      exact .enter (l := s.pointLedger)
        ⟨⟨n⟩, v, r.position, r.sentAt, r.receivedAt⟩ hn
  | insertVehicle v =>
    unfold after Store.insertVehicle
    cases nextRowNumber? s.lastVehicle <;> exact .keep
  | updateOid id oid =>
    rcases updateOid_cases s id oid with ⟨v, -, hv⟩ | ⟨-, hv⟩ <;>
      rw [after, hv] <;> exact .keep
  | deletePoint id =>
    rcases deletePoint_cases s id with ⟨p, -, hp⟩ | ⟨-, hp⟩
    · rw [after, hp]
      exact .erase id.val
    · rw [after, hp]
      exact .keep
  | putVehicle v => exact .keep

/-- A store is opened with both numbers ahead of what is in it, whatever the
rows of the seed are and in whatever order they come. -/
theorem bounded_opened (seed : Option Contents) :
    (opened seed).vehicleLedger.Bounded
      ∧ (opened seed).pointLedger.Bounded := by
  cases seed with
  | none => exact ⟨nofun, nofun⟩
  | some c =>
    exact ⟨(filed_ofContents c).le_last, (pointsFiled_ofContents c).le_last⟩

/-- Both numbers that are remembered were given to a row that is there, if they
were given. -/
def Attained (s : Store) : Prop :=
  s.vehicleLedger.Attained ∧ s.pointLedger.Attained

/-- **A store that is filled from rows** remembers no number that none of them
has. -/
theorem attained_opened (seed : Option Contents) : (opened seed).Attained := by
  cases seed with
  | none => exact ⟨.inl rfl, .inl rfl⟩
  | some c =>
    have hproviders : (empty.addProviders c.providers).Attained :=
      List.foldlRecOn (motive := Attained) _ _ ⟨.inl rfl, .inl rfl⟩
        fun _ h _ _ => h
    have hvehicles :
        (c.vehicles.foldl putVehicle
          (empty.addProviders c.providers)).Attained :=
      List.foldlRecOn (motive := Attained) _ _ hproviders
        fun _ h v _ => ⟨h.1.put (fun v : Vehicle => v.id.val) v, h.2⟩
    exact List.foldlRecOn (motive := Attained) _ _ hvehicles
      fun _ h p _ => ⟨h.1, h.2.put (fun p : TrackPoint => p.id.val) p⟩

/-- **A table is ahead of all that it has been.** Of an edit only that it is a
step of the ledger is used, so vehicles and points are one case. -/
theorem ahead_states {α : Type} {number : α → Int} {view : Store → Ledger α}
    (hbounded : (view s).Bounded) (hattained : (view s).Attained)
    (hstep : ∀ s e, Ledger.Step number (view s) (view (after s e)))
    (es : List Edit) :
    Ledger.Ahead ((s.states es).map view) (view (s.edited es)) := by
  induction es using List.reverseRecOn with
  | nil => exact hbounded.ahead hattained
  | append_singleton es e ih =>
    rw [states_concat, edited_concat, List.map_append]
    exact ih.step (hstep _ e)

/-! ## Rows under their numbers -/

/-- **Everything is under its own number**, and no two providers have one. -/
structure Orderly (s : Store) : Prop where
  providers : s.providers.Pairwise fun p q => p.id ≠ q.id
  vehicles : s.Numbered
  points : s.PointsNumbered

/-- A provider that is entered sends away the one that has its number, so
there are never two with one. -/
theorem distinct_addProvider (h : s.providers.Pairwise fun p q => p.id ≠ q.id)
    (p : Provider) :
    (s.addProvider p).providers.Pairwise fun p q => p.id ≠ q.id := by
  refine List.pairwise_append.2
    ⟨h.filter _, List.pairwise_singleton _ _, fun q hq r hr => ?_⟩
  rw [List.mem_singleton.1 hr]
  exact bne_iff_ne.1 (List.mem_filter.1 hq).2

theorem distinct_addProviders (h : s.providers.Pairwise fun p q => p.id ≠ q.id)
    (ps : List Provider) :
    (s.addProviders ps).providers.Pairwise fun p q => p.id ≠ q.id :=
  List.foldlRecOn
    (motive := fun s : Store => s.providers.Pairwise fun p q => p.id ≠ q.id)
    _ _ h fun _ h p _ => distinct_addProvider h p

/-- **An edit leaves everything under its own number.** What decides it is
that a vehicle under another object number keeps its own, and that a new row
gets the number that it is filed under. -/
theorem Orderly.after (h : s.Orderly) (e : Edit) : (s.after e).Orderly where
  providers := by
    cases e with
    | addProviders ps => exact distinct_addProviders h.providers ps
    | updateOid id oid =>
      rcases updateOid_cases s id oid with ⟨v, -, hv⟩ | ⟨-, hv⟩ <;>
        rw [Store.after, hv] <;>
        exact h.providers
    | deletePoint id =>
      rcases deletePoint_cases s id with ⟨p, -, hp⟩ | ⟨-, hp⟩ <;>
        rw [Store.after, hp] <;>
        exact h.providers
    | insertVehicle v =>
      unfold Store.after Store.insertVehicle
      cases nextRowNumber? s.lastVehicle <;> exact h.providers
    | insertPoint v p sentAt receivedAt =>
      unfold Store.after Store.insertPoint
      cases nextRowNumber? s.lastPoint <;> exact h.providers
    | save r v =>
      unfold Store.after Store.save Store.insertPoint
      cases nextRowNumber? s.lastPoint <;> exact h.providers
    | putVehicle v => exact h.providers
  vehicles := (s.step_vehicleLedger e).numbered h.vehicles
  points := (s.step_pointLedger e).numbered h.points

/-- A store is opened with everything under its own number, although a seed
may have a number twice: the last row that has it is the one that is filed. -/
theorem orderly_opened (seed : Option Contents) : (opened seed).Orderly := by
  cases seed with
  | none => exact ⟨.nil, nofun, nofun⟩
  | some c =>
    refine ⟨?_, (filed_ofContents c).numbered,
      (pointsFiled_ofContents c).numbered⟩
    show (ofContents c).providers.Pairwise _
    rw [providers_ofContents]
    exact distinct_addProviders .nil c.providers

theorem Orderly.edited (h : s.Orderly) (es : List Edit) :
    (s.edited es).Orderly :=
  List.foldlRecOn _ _ h fun _ h e _ => h.after e

theorem Orderly.states (h : s.Orderly) (es : List Edit) :
    ∀ t ∈ s.states es, t.Orderly := by
  induction es generalizing s with
  | nil => exact fun t ht => List.mem_singleton.1 ht ▸ h
  | cons e es ih => exact List.forall_mem_cons.2 ⟨h, ih (h.after e)⟩

/-- **Rows are filed under their numbers after any edits**, and none of these
is larger than the one that is remembered. This is what statements about a
store at one moment ask for, with the past left out. -/
theorem filed_edited (seed : Option Contents) (es : List Edit) :
    ((opened seed).edited es).Filed
      ∧ ((opened seed).edited es).PointsFiled := by
  obtain ⟨-, hvehicles, hpoints⟩ := (orderly_opened seed).edited es
  have hvehicle := ahead_states (bounded_opened seed).1 (attained_opened seed).1
    step_vehicleLedger es
  have hpoint := ahead_states (bounded_opened seed).2 (attained_opened seed).2
    step_pointLedger es
  exact ⟨⟨hvehicles, hvehicle.le_last _ hvehicle.here⟩,
    ⟨hpoints, hpoint.le_last _ hpoint.here⟩⟩

/-! ## What can be relied on -/

section

variable {α : Type} (number : α → Int) (view : Store → Ledger α)
    (hbounded : (view s).Bounded) (hattained : (view s).Attained)
    (hstep : ∀ s e, Ledger.Step number (view s) (view (after s e)))
    (es : List Edit)
    (hnumbered : ∀ t ∈ s.states es, (view t).Numbered number)

include hbounded hattained hstep hnumbered

/-- **The next number is a new one**: it is larger than every number that
there ever was, and what is entered under it comes behind the others. Two rows
that are entered never get one number, whatever was deleted in between. -/
theorem lt_next_states {n : Int}
    (hn : nextRowNumber? (view (s.edited es)).last = some n) :
    (∀ t ∈ s.states es, ∀ a ∈ (view t).table.values, number a < n)
      ∧ ∀ a, ((view (s.edited es)).table.insert n a).values
          = (view (s.edited es)).table.values ++ [a] := by
  have hahead := ahead_states hbounded hattained hstep es
  refine ⟨fun t ht a ha => ?_, fun a => ?_⟩
  · obtain ⟨k, hk⟩ := Table.mem_values.1 ha
    rw [hnumbered t ht k a hk]
    exact hahead.lt_next hn (List.mem_map_of_mem ht) hk
  · exact Table.values_insert_of_lt fun x hx => hahead.lt_next hn hahead.here hx

/-- **There is a next number** if no row ever had the largest. A row that was
deleted again counts here, and one that was in the seed. -/
theorem last_lt_states
    (hroom : ∀ t ∈ s.states es, ∀ a ∈ (view t).table.values,
      number a < maxRowNumber) :
    (view (s.edited es)).last < maxRowNumber := by
  refine (ahead_states hbounded hattained hstep es).last_lt fun m hm k a ha =>
    ?_
  obtain ⟨t, ht, rfl⟩ := List.mem_map.1 hm
  rw [← hnumbered t ht k a ha]
  exact hroom t ht a (Table.mem_values.2 ⟨k, ha⟩)

end

/-- **An update of a vehicle that is not there** fails and changes nothing.
That the vehicle is there is said by its own number and not by the one that it
is filed under, which are the same here. -/
theorem Numbered.perform_updateOid {b : Backend} (h : b.store.Numbered)
    (id : VehicleId) (oid : UInt32) :
    (∃ v ∈ b.store.vehicles.values, v.id = id)
      ∧ (b.perform (.updateOid id oid)).1 = some (.ok ())
      ∨ (∀ v ∈ b.store.vehicles.values, v.id ≠ id)
        ∧ b.perform (.updateOid id oid)
          = (some (.error (.notFound id.label)), b) := by
  rcases Table.find?_cases h id.val with ⟨v, hv, hid, hfind⟩ | ⟨hnone, hfind⟩
  · refine .inl ⟨⟨v, hv, VehicleId.val_inj.1 hid⟩, ?_⟩
    simp only [Backend.perform, updateOid, hfind]
  · refine .inr ⟨fun v hv hid => hnone v hv (congrArg VehicleId.val hid), ?_⟩
    simp only [Backend.perform, updateOid, hfind]

/-- **A deletion of a point that is not there** fails and changes nothing. So
a second deletion of one point fails. -/
theorem PointsNumbered.perform_deletePoint {b : Backend}
    (h : b.store.PointsNumbered) (id : PointId) :
    (∃ p ∈ b.store.points.values, p.id = id)
      ∧ (b.perform (.deletePoint id)).1 = some (.ok ())
      ∨ (∀ p ∈ b.store.points.values, p.id ≠ id)
        ∧ b.perform (.deletePoint id)
          = (some (.error (.notFound id.label)), b) := by
  rcases Table.find?_cases h id.val with ⟨p, hp, hid, hfind⟩ | ⟨hnone, hfind⟩
  · refine .inl ⟨⟨p, hp, PointId.val_inj.1 hid⟩, ?_⟩
    simp only [Backend.perform, deletePoint, hfind]
  · refine .inr ⟨fun p hp hid => hnone p hp (congrArg PointId.val hid), ?_⟩
    simp only [Backend.perform, deletePoint, hfind]

/-- **A store that is sound**, after it was all of `past`. -/
structure Sound (past : List Store) (s : Store) : Prop where
  /-- No two providers have one number, and everything else is filed under its
  own. -/
  orderly : s.Orderly
  /-- A vehicle is entered as long as none ever had the largest number, and its
  number is larger than every one that there ever was; it comes behind the
  vehicles that are there. -/
  newVehicle : ∀ n,
    ((∀ t ∈ past, ∀ v ∈ t.vehicles.values, v.id.val < maxRowNumber)
        → (s.insertVehicle n).isSome)
      ∧ ∀ id s', s.insertVehicle n = some (id, s') →
        (∀ t ∈ past, ∀ v ∈ t.vehicles.values, v.id.val < id.val)
          ∧ s'.vehicles.values = s.vehicles.values ++ [n.toVehicle id]
  /-- A point is entered as long as none ever had the largest number, and its
  number is larger than every one that there ever was, those of deleted points
  among them; it comes behind the points that are there. -/
  newPoint : ∀ v pos sentAt receivedAt,
    ((∀ t ∈ past, ∀ p ∈ t.points.values, p.id.val < maxRowNumber)
        → (s.insertPoint v pos sentAt receivedAt).isSome)
      ∧ ∀ id s', s.insertPoint v pos sentAt receivedAt = some (id, s') →
        (∀ t ∈ past, ∀ p ∈ t.points.values, p.id.val < id.val)
          ∧ s'.points.values
            = s.points.values ++ [⟨id, v, pos, sentAt, receivedAt⟩]
  /-- What a program asks for is done as the edit. -/
  performed : ∀ e r, Edit.request? e = some r → ∀ b : Backend, b.store = s →
    (b.perform r).2.store = s.after e
  /-- The vehicle is there, or an update of it fails and changes nothing. -/
  updates : ∀ b : Backend, b.store = s → ∀ id oid,
    (∃ v ∈ s.vehicles.values, v.id = id)
      ∧ (b.perform (.updateOid id oid)).1 = some (.ok ())
      ∨ (∀ v ∈ s.vehicles.values, v.id ≠ id)
        ∧ b.perform (.updateOid id oid)
          = (some (.error (.notFound id.label)), b)
  /-- The point is there, or a deletion of it fails and changes nothing. -/
  deletions : ∀ b : Backend, b.store = s → ∀ id,
    (∃ p ∈ s.points.values, p.id = id)
      ∧ (b.perform (.deletePoint id)).1 = some (.ok ())
      ∨ (∀ p ∈ s.points.values, p.id ≠ id)
        ∧ b.perform (.deletePoint id) = (some (.error (.notFound id.label)), b)
  /-- What is written to a file and read again is the same, the providers in
  their order. -/
  reread : (ofContents s.contents).providers = s.providers
    ∧ (ofContents s.contents).vehicles = s.vehicles
    ∧ (ofContents s.contents).points = s.points

/-- **A store is sound after any edits**, whatever rows it was opened with. No
edit is required to go well: one that fails, and one for which there is no
number, leaves the store as it was and the statement with it. -/
theorem sound_edited (seed : Option Contents) (es : List Edit) :
    ((opened seed).edited es).Sound ((opened seed).states es) where
  orderly := (orderly_opened seed).edited es
  newVehicle n := by
    have hnumbered :=
      fun t ht => ((orderly_opened seed).states es t ht).vehicles
    refine ⟨fun hroom => ?_, fun id s' hs => ?_⟩
    · have hlt := last_lt_states (fun v : Vehicle => v.id.val) vehicleLedger
        (bounded_opened seed).1 (attained_opened seed).1 step_vehicleLedger es
          hnumbered hroom
      rw [insertVehicle_eq_some_iff.2 ⟨hlt, rfl, rfl⟩]
      rfl
    · obtain ⟨hlt, rfl, rfl⟩ := insertVehicle_eq_some_iff.1 hs
      obtain ⟨hnew, hvalues⟩ :=
        lt_next_states (fun v : Vehicle => v.id.val) vehicleLedger
        (bounded_opened seed).1 (attained_opened seed).1 step_vehicleLedger es
          hnumbered
        (nextRowNumber?_eq_some_iff.2 ⟨hlt, rfl⟩)
      exact ⟨hnew, hvalues _⟩
  newPoint v pos sentAt receivedAt := by
    have hnumbered := fun t ht => ((orderly_opened seed).states es t ht).points
    refine ⟨fun hroom => ?_, fun id s' hs => ?_⟩
    · have hlt := last_lt_states (fun p : TrackPoint => p.id.val) pointLedger
        (bounded_opened seed).2 (attained_opened seed).2 step_pointLedger es
          hnumbered hroom
      rw [insertPoint_eq_some_iff.2 ⟨hlt, rfl, rfl⟩]
      rfl
    · obtain ⟨hlt, rfl, rfl⟩ := insertPoint_eq_some_iff.1 hs
      obtain ⟨hnew, hvalues⟩ :=
        lt_next_states (fun p : TrackPoint => p.id.val) pointLedger
        (bounded_opened seed).2 (attained_opened seed).2 step_pointLedger es
          hnumbered
        (nextRowNumber?_eq_some_iff.2 ⟨hlt, rfl⟩)
      exact ⟨hnew, hvalues _⟩
  performed e r h b hb := hb ▸ store_perform b h
  updates b hb id oid := by
    rw [← hb]
    exact Numbered.perform_updateOid
      (hb ▸ ((orderly_opened seed).edited es).vehicles) id oid
  deletions b hb id := by
    rw [← hb]
    exact PointsNumbered.perform_deletePoint
      (hb ▸ ((orderly_opened seed).edited es).points) id
  reread := by
    obtain ⟨hproviders, hvehicles, hpoints⟩ := (orderly_opened seed).edited es
    exact ofContents_contents hproviders hvehicles hpoints

/-- Rows in which numbers occur again, one of them below zero. -/
def repeatedRows : Contents where
  providers := [⟨⟨1⟩, "north", ["10.0.0.1"]⟩, ⟨⟨1⟩, "south", ["10.0.0.2"]⟩]
  vehicles := [⟨⟨7⟩, "356307042441013", none, none, ⟨1⟩, .pending⟩,
    ⟨⟨-3⟩, "356307042441014", some 7, none, ⟨1⟩, .approved⟩,
    ⟨⟨7⟩, "356307042441015", some 8, none, ⟨1⟩, .approved⟩]
  points := [⟨⟨5⟩, ⟨7⟩, ⟨55.0, 37.0, none⟩, ⟨10, 0⟩, ⟨10, 0⟩⟩,
    ⟨⟨5⟩, ⟨-3⟩, ⟨55.0, 37.5, none⟩, ⟨20, 0⟩, ⟨20, 0⟩⟩]

/-- A point comes and goes; it goes again, and a vehicle that never was there is
updated. -/
def comingAndGoing : List Edit :=
  [.insertPoint ⟨7⟩ ⟨55.0, 38.0, none⟩ ⟨30, 0⟩ ⟨30, 0⟩, .deletePoint ⟨6⟩,
    .deletePoint ⟨6⟩, .updateOid ⟨9⟩ 4]

/-- The number of the point that is gone is not given again. -/
theorem sound_edited_repeatedRows :
    ((opened (some repeatedRows)).edited comingAndGoing).points.values.map
      (·.id.val) = [5]
      ∧ ((opened (some repeatedRows)).edited comingAndGoing).vehicles.values.map
        (·.id.val)
        = [-3, 7]
      ∧ ∀ v pos sentAt receivedAt, ∃ id s', ((opened (some repeatedRows)).edited
          comingAndGoing).insertPoint v pos sentAt receivedAt = some (id, s')
            ∧ 6 < id.val := by
  refine ⟨rfl, rfl, fun v pos sentAt receivedAt => ?_⟩
  have hroom : ∀ t ∈ (opened (some repeatedRows)).states comingAndGoing,
      ∀ p ∈ t.points.values, p.id.val < maxRowNumber := by decide
  have hgone : ∃ t ∈ (opened (some repeatedRows)).states comingAndGoing,
      ∃ p ∈ t.points.values, p.id.val = 6 := by decide
  obtain ⟨hsome, hnew⟩ :=
    (sound_edited (some repeatedRows) comingAndGoing).newPoint v pos sentAt
      receivedAt
  obtain ⟨⟨id, s'⟩, hs⟩ := Option.isSome_iff_exists.1 (hsome hroom)
  obtain ⟨t, ht, p, hp, hid⟩ := hgone
  exact ⟨id, s', hs, hid ▸ (hnew id s' hs).1 t ht p hp⟩

end Telematics.Store
