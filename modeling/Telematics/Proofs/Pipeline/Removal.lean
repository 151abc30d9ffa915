import Telematics.Pipeline.Thinner
import Telematics.Proofs.Pipeline.Running
import Telematics.Proofs.Store.Points

/-!
# What a pass of thinning removes

A pass looks once at the tracks of its span and then deletes, one after the
other, what these drop. A deletion that fails leaves its point in place and
does not keep the others from theirs. So what a pass removes is known
beforehand: the points that the tracks drop as they are when it begins, less
those whose deletion fails (`Backend.Loses`), and all else is as it was.

That exactly these points go is proved of one deletion, of the deletions for
one track and of the tracks of a pass, each time as the composition of the
steps (`Loses.trans`). What a point is deleted for plays no part in it, so
nothing here depends on how tracks are thinned. A pass may come to no deletion
at all: if it would look back too far, or if the tracks are not to be had
(`Thinner.runIn_run`).
-/

namespace Telematics

namespace Store

variable {s s' s'' : Store} {P Q : PointId → Prop}

/-- **Exactly these points are gone**, and all else is as it was. -/
structure Loses (P : PointId → Prop) (s s' : Store) : Prop where
  providers : s'.providers = s.providers
  vehicles : s'.vehicles = s.vehicles
  lastVehicle : s'.lastVehicle = s.lastVehicle
  lastPoint : s'.lastPoint = s.lastPoint
  points : ∀ k p, (k, p) ∈ s'.points.rows ↔ (k, p) ∈ s.points.rows ∧ ¬ P ⟨k⟩

namespace Loses

theorem refl (s : Store) : s.Loses (fun _ => False) s :=
  ⟨rfl, rfl, rfl, rfl, fun _ _ => (and_iff_left not_false).symm⟩

theorem trans (h : s.Loses P s') (h' : s'.Loses Q s'') :
    s.Loses (fun id => P id ∨ Q id) s'' where
  providers := h'.providers.trans h.providers
  vehicles := h'.vehicles.trans h.vehicles
  lastVehicle := h'.lastVehicle.trans h.lastVehicle
  lastPoint := h'.lastPoint.trans h.lastPoint
  points k p := by rw [h'.points, h.points, not_or, and_assoc]

theorem congr (h : s.Loses P s') (hPQ : ∀ id, P id ↔ Q id) : s.Loses Q s' where
  providers := h.providers
  vehicles := h.vehicles
  lastVehicle := h.lastVehicle
  lastPoint := h.lastPoint
  points k p := by rw [h.points, hPQ]

/-- The points that are left, by number. -/
theorem values_eq [DecidablePred P] (h : s.Loses P s') (hs : s.PointsNumbered) :
    s'.points.values = s.points.values.filter fun p => ¬ P p.id := by
  refine Table.values_eq_filter fun k p =>
    (h.points k p).trans (and_congr_right fun hp => ?_)
  rw [decide_eq_true_iff, ← hs k p hp]

end Loses

/-- A point is deleted, if it is there. -/
theorem loses_of_deletePoint {id : PointId} (h : s.deletePoint id = .ok s') :
    s.Loses (· = id) s' := by
  unfold deletePoint at h
  split at h
  · cases h
    refine ⟨rfl, rfl, rfl, rfl, fun k p => ?_⟩
    obtain ⟨i⟩ := id
    rw [Table.mem_erase, PointId.mk.injEq]
  · cases h

/-- A deletion that fails does so because its point is not there. -/
theorem loses_self_of_deletePoint {id : PointId} {e : StoreError}
    (h : s.deletePoint id = .error e) : s.Loses (· = id) s := by
  unfold deletePoint at h
  split at h
  · cases h
  · next hnone =>
    refine ⟨rfl, rfl, rfl, rfl,
      fun k p => (and_iff_left_of_imp fun hp hk => ?_).symm⟩
    rw [← hk, Table.find?_eq_some_iff.2 hp] at hnone
    cases hnone

end Store

/-- The deletion of this point does not fail. -/
def Faults.Spares (faults : Faults) (id : PointId) : Prop :=
  faults (.deletePoint id) = Option.none

/-- **Exactly these points are gone** from the store; the cache and the log
are as they were. -/
structure Backend.Loses (P : PointId → Prop) (b c : Backend) : Prop where
  store : b.store.Loses P c.store
  cache : c.cache = b.cache
  log : c.log = b.log

namespace Backend

variable {b c d : Backend} {P Q : PointId → Prop} {faults : Faults}

theorem Loses.refl (b : Backend) : b.Loses (fun _ => False) b :=
  ⟨.refl _, rfl, rfl⟩

theorem Loses.trans (h : b.Loses P c) (h' : c.Loses Q d) :
    b.Loses (fun id => P id ∨ Q id) d :=
  ⟨h.store.trans h'.store, h'.cache.trans h.cache, h'.log.trans h.log⟩

theorem Loses.congr (h : b.Loses P c) (hPQ : ∀ id, P id ↔ Q id) : b.Loses Q c :=
  ⟨h.store.congr hPQ, h.cache, h.log⟩

/-- Nothing but points is gone. -/
theorem Loses.eq (h : b.Loses P c) :
    c = { b with store := { b.store with points := c.store.points } } := by
  obtain ⟨⟨hproviders, hvehicles, hlastVehicle, hlastPoint, -⟩, hcache, hlog⟩ :=
    h
  cases c with | mk store cache log =>
  cases store
  simp_all

/-- **One deletion** takes its point, unless it fails. A deletion of a point
that is not there fails as well, and leaves it not there. -/
theorem loses_answer (faults : Faults) (b : Backend) (id : PointId) :
    b.Loses (fun i => i = id ∧ faults.Spares i)
      (b.answer faults (.deletePoint id)).2 := by
  have hkeeps : faults (.deletePoint id) = none →
      ∀ i, i = id ↔ i = id ∧ faults.Spares i :=
    fun h i => (and_iff_left_of_imp fun heq => heq ▸ h).symm
  cases h : faults (.deletePoint id) with
  | none =>
    rw [answer_of_none h, perform]
    cases hd : b.store.deletePoint id with
    | ok s => exact ⟨(Store.loses_of_deletePoint hd).congr (hkeeps h), rfl, rfl⟩
    | error e =>
      exact ⟨(Store.loses_self_of_deletePoint hd).congr (hkeeps h), rfl, rfl⟩
  | some e =>
    rw [answer_of_some rfl h]
    refine (Loses.refl b).congr fun i => iff_of_false not_false ?_
    rintro ⟨rfl, hnone⟩
    cases h.symm.trans hnone

end Backend

namespace Thinner

variable {b c : Backend} {faults : Faults} {tolerance : Float}

/-- The report behind a deletion. -/
def tally (report : ThinningReport) : Except StoreError Unit → ThinningReport
  | .ok _ => { report with deleted := report.deleted + 1 }
  | .error _ => { report with failed := report.failed + 1 }

/-- **A deletion is answered and counted**, and the rest goes on from there. -/
theorem run_deleteAll_cons_iff {id : PointId} {ids : List PointId}
    {report total : ThinningReport} {d : Backend} :
    (deleteAll (id :: ids) report).run faults b = (some total, d)
      ↔ ∃ x c, b.answer faults (.deletePoint id) = (some x, c)
        ∧ (deleteAll ids (tally report x)).run faults c = (some total, d) := by
  rw [deleteAll, Program.run_bind_eq_some_iff, Program.run_request]
  refine exists_congr fun x => exists_congr fun c => and_congr_right fun _ => ?_
  cases x <;> rfl

/-- **Deletions one after the other** take their points, less those whose
deletion fails. A number may be in the list twice; its second deletion finds
nothing. -/
theorem loses_deleteAll {ids : List PointId} {report total : ThinningReport}
    (h : (deleteAll ids report).run faults b = (some total, c)) :
    b.Loses (fun id => id ∈ ids ∧ faults.Spares id) c := by
  induction ids generalizing report b with
  | nil =>
    cases h
    exact (Backend.Loses.refl c).congr fun id => by simp
  | cons id ids ih =>
    obtain ⟨x, d, hanswer, hrest⟩ := run_deleteAll_cons_iff.1 h
    have hone := Backend.loses_answer faults b id
    rw [hanswer] at hone
    refine (hone.trans (ih hrest)).congr fun i => ?_
    rw [List.mem_cons, or_and_right]

/-- **Tracks one after the other** take the points that any of them drops. The
tracks are those that were read at the beginning, so what an earlier one took
from the store makes no difference to a later one. -/
theorem loses_thinAll {ts : List Track} {report total : ThinningReport}
    (h : (thinAll tolerance ts report).run faults b = (some total, c)) :
    b.Loses (fun id => (∃ t ∈ ts, id ∈ t.droppedIds tolerance)
      ∧ faults.Spares id) c := by
  induction ts generalizing report b with
  | nil =>
    cases h
    exact (Backend.Loses.refl c).congr fun id => by simp
  | cons t ts ih =>
    rw [thinAll, Program.run_bind_eq_some_iff] at h
    obtain ⟨behind, d, hdelete, hrest⟩ := h
    refine ((loses_deleteAll hdelete).trans (ih hrest)).congr fun i => ?_
    simp only [← or_and_right, List.mem_cons, exists_eq_or_imp]

/-- Tracks are thinned to the last. -/
theorem exists_run_thinAll (faults : Faults) (tolerance : Float)
    (ts : List Track) (report : ThinningReport) (b : Backend) :
    ∃ total c, (thinAll tolerance ts report).run faults b = (some total, c) :=
  have h := completes_thinAll tolerance ts report faults b
  ⟨_, _, Prod.ext (Option.some_get h).symm rfl⟩

/-- **A pass, step by step**: it fails before anything is deleted, or thins the
tracks of its span as they are when it begins. -/
theorem runIn_run (tolerance : Float) (lookback : Duration) (now : Instant)
    (faults : Faults) (b : Backend) :
    (run tolerance lookback now).runIn faults b =
      match lookback.toSpan? with
      | none => (some (.error (.invalidConfig .lookbackOutOfRange)), b)
      | some span =>
        if (now.minus span).inYears then
          match faults (.listTracks none (now.minus span) now) with
          | some e => (some (.error (.store e)), b)
          | none =>
            ((thinAll tolerance (b.store.tracks none (now.minus span) now)
              ⟨0, 0, 0, 0⟩).run faults b).map (·.map .ok) id
        else (some (.error .outOfCalendar), b) := by
  unfold run
  cases lookback.toSpan? with
  | none => rfl
  | some span =>
    dsimp only
    split
    · rw [Task.runIn_bind, Task.runIn_mapError, Task.runIn_request]
      cases h : faults (.listTracks none (now.minus span) now) with
      | some e =>
        rw [Backend.answer_of_some rfl h]
        rfl
      | none =>
        rw [Backend.answer_of_none h, Backend.perform]
        dsimp only [Except.mapError, Option.map]
        rw [Task.runIn_lift]
        rfl
    · rfl

/-- **A pass that comes to its end** has thinned the tracks of its span, as
they were when it began. What was counted is counted from nothing on. -/
theorem run_eq_ok_iff {lookback : Duration} {now : Instant}
    {report : ThinningReport} :
    (run tolerance lookback now).runIn faults b = (some (.ok report), c) ↔
      ∃ span, lookback.toSpan? = some span ∧ (now.minus span).inYears
        ∧ faults (.listTracks none (now.minus span) now) = none
        ∧ (thinAll tolerance (b.store.tracks none (now.minus span) now)
          ⟨0, 0, 0, 0⟩).run faults b = (some report, c) := by
  rw [runIn_run]
  cases lookback.toSpan? with
  | none => simp
  | some span =>
    dsimp only
    by_cases hyears : (now.minus span).inYears
    · cases h : faults (.listTracks none (now.minus span) now) with
      | some e => simp [hyears, h]
      | none => simp [hyears, h, Prod.ext_iff]
    · simp [hyears]

/-- **What a pass comes to**: it fails and leaves all as it is, or it removes
what is dropped by the tracks of its span, as they are when it begins, less
the points whose deletion fails. -/
theorem run_cases (tolerance : Float) (lookback : Duration) (now : Instant)
    (faults : Faults) (b : Backend) :
    (∃ e, (run tolerance lookback now).runIn faults b = (some (.error e), b)) ∨
      ∃ span report c, lookback.toSpan? = some span ∧
        (run tolerance lookback now).runIn faults b = (some (.ok report), c) ∧
        b.Loses (fun id => (∃ t ∈ b.store.tracks none (now.minus span) now,
          id ∈ t.droppedIds tolerance) ∧ faults.Spares id) c := by
  rw [runIn_run]
  cases lookback.toSpan? with
  | none => exact .inl ⟨_, rfl⟩
  | some span =>
    dsimp only
    split
    · cases faults (.listTracks none (now.minus span) now) with
      | some e => exact .inl ⟨_, rfl⟩
      | none =>
        obtain ⟨report, c, h⟩ := exists_run_thinAll faults tolerance
          (b.store.tracks none (now.minus span) now) ⟨0, 0, 0, 0⟩ b
        dsimp only
        rw [h]
        exact .inr ⟨span, report, c, rfl, rfl, loses_thinAll h⟩
    · exact .inl ⟨_, rfl⟩

end Thinner

end Telematics
