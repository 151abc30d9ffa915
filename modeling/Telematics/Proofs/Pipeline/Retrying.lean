import Telematics.Proofs.Geo.Stability
import Telematics.Proofs.Pipeline.Endpoints
import Telematics.Proofs.Store.Tracks

/-!
# A pass of thinning, exactly, and the pass after it

A deletion that fails is counted, its point stays and the pass goes on. What
the pass comes to is fixed all the same by the store at its beginning and by
which deletions fail (`Thinner.Outcome`): every point of the window is kept by
the track of its vehicle, or deleted, or one of those whose deletion failed,
and the report counts them so.

The points that stayed are in the way of nothing. The next pass finds tracks
that have lost some of what thinning drops and nothing of what it keeps, and
of such a track it keeps the same points (`Track.keptIds_of_sublist`, which is
where the stability of thinning comes in). So if nothing fails the second
time, the two passes leave what one pass would have left.

The outcome of a pass is read off what it removes (`Backend.Loses`) and what
it counts (`Thinner.report_thinAll`), both of which go track by track, while
`Thinner.Outcome` speaks of the window as a whole. Between the two stands that
the tracks are the points of the window in another order. That a pass comes to
its end is a hypothesis of `Thinner.run_outcome_and_retry`: one that fails has
removed nothing, and there is nothing to retry. What makes up for a failure is
a pass at the same time; a later one looks at another span.
-/

namespace Telematics

namespace Track

variable {t u : Track} {tolerance : Float}

/-- **What is kept of a track is kept of any part of it** that has all of
that, and nothing else is. This is the stability of thinning, said of numbers:
the points that are left stand at ascending places of the track. -/
theorem keptIds_of_sublist (hnodup : t.points.Nodup)
    (hsub : u.points.Sublist t.points)
    (hkept : ∀ p ∈ t.points, p.id ∈ t.keptIds tolerance → p ∈ u.points) :
    u.keptIds tolerance = t.keptIds tolerance := by
  obtain ⟨picks, hpicks, hasc⟩ := List.sublist_eq_map_getElem hsub
  -- The part as a list of places in the whole.
  let indices : List Nat := picks.map (·.val)
  have hascending : indices.Pairwise (· < ·) := List.pairwise_map.2 hasc
  have hof : ∀ i ∈ indices, i < t.places.length := fun i hi => by
    obtain ⟨pick, -, rfl⟩ := List.mem_map.1 hi
    exact pick.isLt.trans_eq t.length_places.symm
  have hpoint : ∀ j : Nat, u.points[j]? = indices[j]?.bind (t.points[·]?) :=
    fun j => by
    rw [hpicks, List.getElem?_map, List.getElem?_map]
    cases picks[j]? <;> simp
  have hplaces : u.places = Thinning.pointsAt t.places indices := by
    rw [Thinning.pointsAt_eq hof, places, hpicks, List.map_map, List.map_map]
    refine List.map_congr_left fun pick _ => ?_
    simp [places]
  have hhas : ∀ i ∈ Thinning.keptPoints t.places tolerance, i ∈ indices :=
    fun i hi => by
    have hlt : i < t.points.length :=
      t.length_places ▸ Thinning.lt_of_mem_kept hi
    have hmem := hkept _ (List.getElem_mem hlt) (id_mem_keptIds hlt hi)
    rw [hpicks, List.mem_map] at hmem
    obtain ⟨pick, hpick, heq⟩ := hmem
    exact List.mem_map.2 ⟨pick, hpick, hnodup.getElem_inj_iff.1 heq⟩
  have hsame :=
    (Thinning.recovers_keptPoints (hascending.imp Nat.le_of_lt) hof
      hhas).in_order
    hascending
  calc u.keptIds tolerance
      = ((Thinning.keptPoints (Thinning.pointsAt t.places indices)
        tolerance).map
          (indices[·]?)).filterMap
            (·.bind fun i => t.points[i]?.map (·.id)) := by
        rw [keptIds_eq, hplaces, List.filterMap_map]
        refine List.filterMap_congr fun j _ => ?_
        rw [hpoint, Option.map_bind]
        rfl
    _ = ((Thinning.keptPoints t.places tolerance).map some).filterMap
          (·.bind fun i => t.points[i]?.map (·.id)) := by rw [hsame]
    _ = t.keptIds tolerance := by
        rw [keptIds_eq, List.filterMap_map]
        rfl

end Track

namespace Store

variable {s s' : Store} {tolerance : Float} {start stop : Instant}
  {p : TrackPoint}

/-- **The point is kept** when the track of its vehicle is thinned. -/
def Retains (s : Store) (tolerance : Float) (start stop : Instant)
    (p : TrackPoint) : Prop :=
  p.id ∈ (s.trackOf p.vehicle start stop).keptIds tolerance

instance (s : Store) (tolerance : Float) (start stop : Instant) :
    DecidablePred (s.Retains tolerance start stop) :=
  fun _ => inferInstanceAs (Decidable (_ ∈ _))

/-- **What the tracks of a window drop** are the points of the window that are
not kept. -/
theorem PointsNumbered.dropped_iff (h : s.PointsNumbered) {k : Int}
    (hp : (k, p) ∈ s.points.rows) :
    (∃ t ∈ s.tracks none start stop, ⟨k⟩ ∈ t.droppedIds tolerance)
      ↔ p.ReceivedWithin start stop ∧ ¬ s.Retains tolerance start stop p := by
  have hid : p.id = ⟨k⟩ := PointId.val_inj.1 (h k p hp)
  simp only [Track.droppedIds_eq, List.mem_filter, decide_eq_true_iff,
    List.mem_map]
  constructor
  · rintro ⟨t, ht, ⟨q, hq, hqk⟩, hdropped⟩
    obtain ⟨o, -, rfl⟩ := mem_tracks.1 ht
    obtain ⟨hwithin, hv⟩ := mem_trackOf.1 hq
    obtain ⟨hrow, hreceived⟩ := mem_pointsWithin.1 hwithin
    obtain rfl : q = p := h.eq_of_id hrow ⟨k, hp⟩ (hqk.trans hid.symm)
    rw [← hv, ← hid] at hdropped
    exact ⟨hreceived, hdropped⟩
  · rintro ⟨hreceived, hdropped⟩
    have hwithin : p ∈ s.pointsWithin none start stop :=
      mem_pointsWithin.2 ⟨⟨k, hp⟩, hreceived⟩
    exact ⟨_, mem_tracks.2 ⟨p, hwithin, rfl⟩,
      ⟨p, mem_trackOf.2 ⟨hwithin, rfl⟩, hid⟩, hid ▸ hdropped⟩

/-- **What is dropped, track by track,** is as much as is not kept over the
window. The tracks have the points of the window, each once, and drop those
that they do not keep. -/
theorem PointsNumbered.length_flatMap_droppedIds (h : s.PointsNumbered) :
    ((s.tracks none start stop).flatMap (·.droppedIds tolerance)).length
        + ((s.pointsWithin none start stop).filter
          (s.Retains tolerance start stop ·)).length
      = (s.pointsWithin none start stop).length := by
  have htrack : ∀ t ∈ s.tracks none start stop, t.droppedIds tolerance
      = (t.points.filter (¬ s.Retains tolerance start stop ·)).map (·.id) :=
    fun t ht => by
    obtain ⟨o, -, rfl⟩ := mem_tracks.1 ht
    rw [Track.droppedIds_eq, List.filter_map]
    refine congrArg (List.map _) (List.filter_congr fun p hp => ?_)
    rw [Function.comp_apply, decide_eq_decide, Retains, (mem_trackOf.1 hp).2]
  have hdropped : (s.tracks none start stop).flatMap (·.droppedIds tolerance)
      = (((s.tracks none start stop).flatMap (·.points)).filter
          (¬ s.Retains tolerance start stop ·)).map (·.id) := by
    rw [List.flatMap_congr htrack, List.filter_flatMap, List.map_flatMap]
  have hsplit : (s.pointsWithin none start stop).length = _ :=
    List.length_eq_length_filter_add (s.Retains tolerance start stop ·)
  rw [hdropped, List.length_map,
    ((h.flatMap_tracks_perm start stop).filter _).length_eq,
    Nat.add_comm, hsplit]
  simp only [decide_not]

/-- **Where nothing is gone that is kept, the same is kept.** A track that has
lost only what it drops keeps the same points, and is the track of the same
vehicle. -/
theorem PointsNumbered.retains_iff (h : s.PointsNumbered)
    {Q : TrackPoint → Prop}
    (hleft : ∀ k p, (k, p) ∈ s'.points.rows ↔ (k, p) ∈ s.points.rows ∧ ¬ Q p)
    (hQ : ∀ p, Q p → ¬ s.Retains tolerance start stop p) (p : TrackPoint) :
    s'.Retains tolerance start stop p ↔ s.Retains tolerance start stop p := by
  classical
  have hpoints : (s'.trackOf p.vehicle start stop).points
      = (s.trackOf p.vehicle start stop).points.filter (¬ Q ·) :=
    h.points_trackOf_filter fun k p => by rw [hleft, decide_eq_true_iff]
  rw [Retains, Retains,
    Track.keptIds_of_sublist h.nodup_trackOf (hpoints ▸ List.filter_sublist)]
  intro q hq hkept
  rw [hpoints, List.mem_filter, decide_eq_true_iff]
  refine ⟨hq, fun hgone => hQ q hgone ?_⟩
  rwa [Retains, (mem_trackOf.1 hq).2]

end Store

/-! ## What is counted -/

namespace Thinner

variable {b c : Backend} {faults : Faults} {tolerance : Float}
  {lookback : Duration}
  {start stop now : Instant} {report total : ThinningReport}

/-- A deletion is counted once, as one that was made or one that failed. -/
theorem tally_counts (report : ThinningReport) (x : Except StoreError Unit) :
    (tally report x).points = report.points
      ∧ (tally report x).deleted + (tally report x).failed
        = report.deleted + report.failed + 1 := by
  cases x with
  | ok _ => exact ⟨rfl, Nat.add_right_comm _ _ _⟩
  | error _ => exact ⟨rfl, rfl⟩

/-- Every deletion of a track is counted, as one that was made or one that
failed. -/
theorem report_deleteAll {ids : List PointId}
    (h : (deleteAll ids report).run faults b = (some total, c)) :
    total.points = report.points
      ∧ total.deleted + total.failed
        = report.deleted + report.failed + ids.length := by
  induction ids generalizing report b with
  | nil =>
    cases h
    exact ⟨rfl, rfl⟩
  | cons id ids ih =>
    obtain ⟨x, d, -, hrest⟩ := run_deleteAll_cons_iff.1 h
    obtain ⟨hpoints, hcount⟩ := ih hrest
    obtain ⟨hpoints', hcount'⟩ := tally_counts report x
    rw [hpoints, hcount, hpoints', hcount', List.length_cons]
    exact ⟨rfl, by omega⟩

/-- **Every point of a track is counted**, and every one that is dropped is
counted as deleted or as failed. What fails is counted like what succeeds, so
the two counts together do not depend on it. -/
theorem report_thinAll {ts : List Track}
    (h : (thinAll tolerance ts report).run faults b = (some total, c)) :
    total.points = report.points + (ts.flatMap (·.points)).length
      ∧ total.deleted + total.failed
        = report.deleted + report.failed
          + (ts.flatMap (·.droppedIds tolerance)).length := by
  induction ts generalizing report b with
  | nil =>
    cases h
    exact ⟨rfl, rfl⟩
  | cons t ts ih =>
    rw [thinAll, Program.run_bind_eq_some_iff] at h
    obtain ⟨behind, d, hdelete, hrest⟩ := h
    obtain ⟨hpoints, hcount⟩ := report_deleteAll hdelete
    obtain ⟨hpoints', hcount'⟩ := ih hrest
    rw [hpoints', hcount', hpoints, hcount]
    simp only [List.flatMap_cons, List.length_append]
    omega

/-! ## A pass -/

/-- **What a pass over a window comes to**, its failures included. -/
structure Outcome (faults : Faults) (tolerance : Float) (start stop : Instant)
    (b : Backend) (report : ThinningReport) (c : Backend) : Prop where
  /-- The points that are gone were received within the window, are not kept by
  the track of their vehicle, and their deletion did not fail. -/
  points : ∀ k p, (k, p) ∈ c.store.points.rows ↔ (k, p) ∈ b.store.points.rows
    ∧ ¬ (p.ReceivedWithin start stop ∧ ¬ b.store.Retains tolerance start stop p
      ∧ faults.Spares p.id)
  /-- Nothing else is touched. -/
  rest : c = { b with store := { b.store with points := c.store.points } }
  /-- Every point of the window is looked at. -/
  seen : report.points = (b.store.pointsWithin none start stop).length
  /-- It is deleted, or its deletion failed, or it is kept. -/
  accounted : report.deleted + report.failed
      + ((b.store.pointsWithin none start stop).filter
          (b.store.Retains tolerance start stop ·)).length
    = report.points

/-- The outcome is what comes of thinning the tracks of the window. -/
theorem outcome_thinAll (hb : b.store.PointsNumbered)
    (h : (thinAll tolerance (b.store.tracks none start stop) ⟨0, 0, 0, 0⟩).run
      faults b
      = (some report, c)) : Outcome faults tolerance start stop b report c := by
  obtain ⟨hpoints, hcount⟩ := report_thinAll h
  have hloses := loses_thinAll h
  have hseen := (hb.flatMap_tracks_perm start stop).length_eq
  refine ⟨fun k p => ?_, hloses.eq, ?_, ?_⟩
  · rw [hloses.store.points]
    refine and_congr_right fun hp => not_congr ?_
    rw [hb.dropped_iff hp, and_assoc, ← PointId.val_inj.1 (hb k p hp)]
  · rw [hpoints, hseen, Nat.zero_add]
  · rw [hpoints, hcount, hseen]
    simpa only [Nat.zero_add] using hb.length_flatMap_droppedIds

/-- The points that a pass leaves are under their numbers. -/
theorem Outcome.pointsNumbered
    (h : Outcome faults tolerance start stop b report c)
    (hb : b.store.PointsNumbered) : c.store.PointsNumbered :=
  fun k p hp => hb k p ((h.points k p).1 hp).1

/-- **What a second pass leaves** is what the first would have left, if
nothing fails. A point that is gone in either way is one of the window that is
not kept, and by then all of these are gone. -/
theorem Outcome.retry_eq {first second : ThinningReport} {d d' : Backend}
    (h : Outcome faults tolerance start stop b report c)
    (hb : b.store.PointsNumbered)
    (hfirst : Outcome .none tolerance start stop b first d)
    (hsecond : Outcome .none tolerance start stop c second d') : d' = d := by
  have hretains : ∀ p, c.store.Retains tolerance start stop p
      ↔ b.store.Retains tolerance start stop p :=
    hb.retains_iff h.points fun _ hgone => hgone.2.1
  have hspares : ∀ id, Faults.none.Spares id := fun _ => rfl
  have hpoints : d'.store.points = d.store.points := Table.ext_mem fun x => by
    obtain ⟨k, p⟩ := x
    rw [hsecond.points, h.points, hfirst.points, hretains]
    simp only [hspares, and_true]
    tauto
  rw [hsecond.rest, hpoints, h.rest, hfirst.rest]

/-- **What a failed deletion comes to, and what makes up for it.** In any store
that comes about, with any tolerance, over any span and at any time, and
whichever deletions fail: if a pass comes to its end, the points that are gone
are those received within the span that the track of their vehicle does not
keep, less the ones whose deletion failed. All else is as it was, and the
report counts every point of the span and all of them that are not kept. A
pass after it, at the same time and without failures, leaves what is left if
the first pass has none. -/
theorem run_outcome_and_retry (hb : b.store.Arises)
    (h : (run tolerance lookback now).runIn faults b = (some (.ok report), c)) :
    ∃ span, lookback.toSpan? = some span
      ∧ Outcome faults tolerance (now.minus span) now b report c
      ∧ ∃ first second d, (run tolerance lookback now).runIn .none b
        = (some (.ok first), d)
        ∧ (run tolerance lookback now).runIn .none c
          = (some (.ok second), d) := by
  have hnumbered := hb.pointsNumbered
  obtain ⟨span, hspan, hyears, -, hthin⟩ := run_eq_ok_iff.1 h
  have houtcome := outcome_thinAll hnumbered hthin
  -- Nothing keeps a pass without failures from its end, then or now.
  have hends : ∀ e : Backend, e.store.PointsNumbered → ∃ report d,
      (run tolerance lookback now).runIn .none e = (some (.ok report), d)
        ∧ Outcome .none tolerance (now.minus span) now e report d :=
        fun e he => by
    obtain ⟨report, d, h⟩ := exists_run_thinAll .none tolerance
      (e.store.tracks none (now.minus span) now) ⟨0, 0, 0, 0⟩ e
    exact ⟨report, d, run_eq_ok_iff.2 ⟨span, hspan, hyears, rfl, h⟩,
      outcome_thinAll he h⟩
  obtain ⟨first, d, hfirst, hfirstOutcome⟩ := hends b hnumbered
  obtain ⟨second, d', hsecond, hsecondOutcome⟩ :=
    hends c (houtcome.pointsNumbered hnumbered)
  obtain rfl := houtcome.retry_eq hnumbered hfirstOutcome hsecondOutcome
  exact ⟨span, hspan, houtcome, first, second, d', hfirst, hsecond⟩

/-- Points of a vehicle that went straight ahead and reported as it went. -/
def straightAhead : Store.Contents where
  providers := []
  vehicles := []
  points := [⟨⟨1⟩, ⟨1⟩, ⟨55.0, 37.0, none⟩, ⟨10, 0⟩, ⟨50, 0⟩⟩,
    ⟨⟨2⟩, ⟨1⟩, ⟨55.0, 37.1, none⟩, ⟨20, 0⟩, ⟨55, 0⟩⟩,
    ⟨⟨3⟩, ⟨1⟩, ⟨55.0, 37.2, none⟩, ⟨30, 0⟩, ⟨60, 0⟩⟩,
    ⟨⟨4⟩, ⟨1⟩, ⟨55.0, 37.3, none⟩, ⟨40, 0⟩, ⟨65, 0⟩⟩]

/-- Two points are to go and one of them cannot: it goes with the next pass. -/
theorem retry_of_straightAhead :
    let b : Backend := ⟨.ofContents straightAhead, .empty 10.0, []⟩
    let pass := run 0.001 (.ofSeconds 86400) ⟨100, 0⟩
    b.store.Arises ∧ ∃ report c,
      pass.runIn oneFailure b = (some (.ok report), c)
      ∧ report.points = 4 ∧ report.deleted + report.failed = 2
      ∧ ∃ first second d, pass.runIn .none b = (some (.ok first), d)
        ∧ pass.runIn .none c = (some (.ok second), d) := by
  intro b pass
  have hb : b.store.Arises := .ofContents straightAhead
  obtain ⟨report, c, h⟩ : ∃ report c, pass.runIn oneFailure b
      = (some (.ok report), c) := by
    obtain ⟨report, c, h⟩ := exists_run_thinAll oneFailure 0.001
      (b.store.tracks none ⟨-86300, 0⟩ ⟨100, 0⟩) ⟨0, 0, 0, 0⟩ b
    exact ⟨report, c, run_eq_ok_iff.2 ⟨_, rfl, by decide, rfl, h⟩⟩
  obtain ⟨span, hspan, houtcome, hretry⟩ := run_outcome_and_retry hb h
  obtain rfl : (⟨86400000000000⟩ : Duration) = span := Option.some.inj hspan
  refine ⟨hb, report, c, h, houtcome.seen, ?_, hretry⟩
  -- The points are in order as they are, so the track is the rows.
  have htrack : b.store.trackOf ⟨1⟩ ⟨-86300, 0⟩ ⟨100, 0⟩
      = ⟨⟨1⟩, straightAhead.points⟩ :=
    congrArg (Track.mk _) (List.mergeSort_of_pairwise (by decide +kernel))
  have hids : (Track.mk ⟨1⟩ straightAhead.points).keptIds 0.001
      = [⟨1⟩, ⟨4⟩] := by
    decide +kernel
  have hvehicle : ∀ p ∈ straightAhead.points, p.vehicle = ⟨1⟩ := by decide
  have hkept : straightAhead.points.filter
    (b.store.Retains 0.001 ⟨-86300, 0⟩ ⟨100, 0⟩ ·)
      = straightAhead.points.filter (·.id ∈ [⟨1⟩, ⟨4⟩]) := by
    refine List.filter_congr fun p hp => ?_
    rw [decide_eq_decide, Store.Retains, hvehicle p hp, htrack, hids]
  have haccounted : report.deleted + report.failed
      + (straightAhead.points.filter
        (b.store.Retains 0.001 ⟨-86300, 0⟩ ⟨100, 0⟩ ·)).length
    = report.points := houtcome.accounted
  rw [hkept, houtcome.seen] at haccounted
  exact Nat.add_right_cancel haccounted

end Thinner

end Telematics
