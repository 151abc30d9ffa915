import Mathlib.Data.List.Forall2
import Telematics.Proofs.Session.Dialogue

/-!
# Records over a whole connection

A terminal says who it is in one record and where it is in another, and the
two may be packets apart. The program goes through the records one by one and
carries the terminal along. What is due for records can be said without it:
the terminal is the one that was named last by a record that was not denied,
wherever on the connection that was (`Record.LastNamed`), and the rest is a
matter of each record by itself (`Batch.Due`). A record names a terminal in
its header or, if it has none there, in the first identity that it holds
(`Record.Names`).

Two things follow for anyone who counts on the readings. Only the order of the
records matters and not the packets in which they come, so records may be sent
together or one by one. And a record that is denied leaves nothing behind but
its own acknowledgement: it can neither name a terminal nor keep one from
being named.

What is carried along and what was named last are brought together by
`Record.Recalls`. It is kept by one more record, since the last record of a
list either names a terminal or leaves the question to those before it
(`Record.lastNamed_concat_iff`), and by induction it holds behind any records
that came. From there on the pass over a batch is compared with what is due
record by record, each behind all the earlier ones of the connection
(`Record.reported_readingsOf`). `Session.batches_taken_in` states the whole.
-/

namespace Telematics

/-! ## What is due -/

namespace Record

/-- The record comes from a service that is served. -/
def Served (r : Record) : Prop := r.sourceService = 1 ∨ r.sourceService = 2

instance : DecidablePred Served := fun _ => inferInstanceAs (Decidable (_ ∨ _))

/-- Some sub-record has a code without a layout. -/
def Unfamiliar (r : Record) : Prop :=
  ∃ code data, .unknown code data ∈ r.subrecords

/-- The record says where the terminal is. -/
def Located (r : Record) : Prop := ∃ p, .fix p ∈ r.subrecords

/-- **How a record is acknowledged.** -/
structure Acknowledged (r : Record) (a : RecordResponse) : Prop where
  number : a.recordNumber = r.recordNumber
  /-- The service is denied. -/
  denied : ¬ r.Served → a.status = 149
  /-- The type is not supported. -/
  unsupported : r.Served → r.Unfamiliar → a.status = 133
  accepted : r.Served → ¬ r.Unfamiliar → a.status = 0

/-- **The terminal that a record names.** -/
inductive Names (r : Record) (oid : UInt32) : Prop where
  /-- Its header has the number. -/
  | header (h : r.objectId = some oid)
  /-- Its header has none, and the first identity of its sub-records does. -/
  | identity (h : r.objectId = none) {front back : List Subrecord}
    {p : TermIdentity}
    (hsubrecords : r.subrecords = front ++ .termIdentity p :: back)
    (hfirst : ∀ q, .termIdentity q ∉ front) (hp : p.terminalId = oid)

/-- The record is not denied and names a terminal. -/
def Introduces (r : Record) : Prop := r.Served ∧ ∃ oid, r.Names oid

/-- **The terminal that was named last** in the course of records: by the
latest of them that is not denied and names one. -/
def LastNamed (rs : List Record) (oid : UInt32) : Prop :=
  ∃ front r back, rs = front ++ r :: back ∧ r.Served ∧ r.Names oid
    ∧ ∀ q ∈ back, ¬ q.Introduces

/-- **The readings of records** that come behind earlier ones. -/
inductive Reported (n : UInt16) (now : Instant) :
    List Record → List Record → List Reading → Prop where
  | nil {earlier : List Record} : Reported n now earlier [] []
  /-- A record that is accepted and has a fix is a reading of the terminal
  that was named last. -/
  | reading {earlier rs : List Record} {r : Record} {oid : UInt32} {x : Reading}
    {xs : List Reading} (hserved : r.Served) (hfamiliar : ¬ r.Unfamiliar)
    (hfix : r.Located)
    (hknown : LastNamed (earlier ++ [r]) oid)
    (hx : Reading.ofRecord? r oid n now = some x)
    (hrest : Reported n now (earlier ++ [r]) rs xs) :
    Reported n now earlier (r :: rs) (x :: xs)
  /-- Any other record is none. -/
  | nothing {earlier rs : List Record} {r : Record} {xs : List Reading}
    (hnot : ¬ (r.Served ∧ ¬ r.Unfamiliar ∧ r.Located
      ∧ ∃ oid, LastNamed (earlier ++ [r]) oid))
    (hrest : Reported n now (earlier ++ [r]) rs xs) :
    Reported n now earlier (r :: rs) xs

end Record

/-- Records that are taken in together. -/
structure Batch where
  packetId : UInt16
  receivedAt : Instant
  records : List Record

/-- **What a batch leads to** behind records that came earlier on the
connection. -/
structure Batch.Due (b : Batch) (earlier : List Record) (i : Intake) :
    Prop where
  responses : List.Forall₂ Record.Acknowledged b.records i.responses
  readings : Record.Reported b.packetId b.receivedAt earlier b.records
    i.readings
  authenticated : i.authenticated = true ↔ ∃ r ∈ b.records, r.Served
    ∧ ∃ sub ∈ r.subrecords, (∃ p, sub = .termIdentity p)
      ∨ ∃ p, sub = .authInfo p
  /-- The service of the first record that is not denied. -/
  service : (∃ front r back, b.records = front ++ r :: back
    ∧ (∀ q ∈ front, ¬ q.Served)
      ∧ r.Served ∧ i.service = r.sourceService)
    ∨ ((∀ r ∈ b.records, ¬ r.Served) ∧ i.service = 2)

/-- Another record in the place of one that is denied, which is denied as
well. -/
def Record.Replaces (r' r : Record) : Prop :=
  r' = r ∨ (¬ r'.Served ∧ ¬ r.Served)

/-- The same batch but for records that are denied. -/
structure Batch.Alike (b b' : Batch) : Prop where
  packetId : b'.packetId = b.packetId
  receivedAt : b'.receivedAt = b.receivedAt
  records : List.Forall₂ Record.Replaces b'.records b.records

/-- The same but for the numbers under which records are denied. -/
structure Intake.Alike (i i' : Intake) : Prop where
  readings : i'.readings = i.readings
  authenticated : i'.authenticated = i.authenticated
  service : i'.service = i.service
  responses : List.Forall₂ (fun a' a => a'.status = a.status
    ∧ (a'.recordNumber = a.recordNumber ∨ a.status = 149)) i'.responses
      i.responses

namespace Session

/-- The session after a batch. -/
def afterBatch (s : Session) (b : Batch) : Session :=
  (s.takeIn b.packetId b.records b.receivedAt).session

/-- **What batches lead to** that are taken in one after the other. -/
def intakes (s : Session) : List Batch → List Intake
  | [] => []
  | b :: bs => .ofRecords s.objectId b.records b.packetId b.receivedAt
      :: (s.afterBatch b).intakes bs

end Session

/-! ## One record -/

namespace Record

variable {r : Record} {rs earlier : List Record} {n : UInt16} {now : Instant}
  {known : Option UInt32} {oid : UInt32} {x : Reading}

/-- The program's test for a code without a layout. -/
theorem hasUnknown_iff : r.hasUnknown = true ↔ r.Unfamiliar := by
  unfold hasUnknown Unfamiliar
  rw [List.any_eq_true]
  constructor
  · rintro ⟨sub, hsub, h⟩
    cases sub with
    | unknown code data => exact ⟨code, data, hsub⟩
    | _ => cases h
  · rintro ⟨code, data, h⟩
    exact ⟨_, h, rfl⟩

/-- A service that is not served is denied, whatever else the record has. -/
theorem status_of_not_served (h : ¬ r.Served) : r.status = .serviceDenied :=
  if_pos (not_or.1 h)

/-- Of a record that is served the codes decide. -/
theorem status_of_served (h : r.Served) :
    r.status = if r.hasUnknown then .unsupportedType else .ok :=
  if_neg fun hnot => h.elim hnot.1 hnot.2

theorem not_isDenied (r : Record) : (!r.isDenied) = decide r.Served := by
  unfold isDenied
  by_cases hserved : r.Served
  · rw [status_of_served hserved, decide_eq_true hserved]
    cases r.hasUnknown <;> rfl
  · rw [status_of_not_served hserved, decide_eq_false hserved]
    rfl

/-- A good result is given to what is served and all of which has a layout. -/
theorem status_eq_ok_iff : r.status = .ok ↔ r.Served ∧ ¬ r.Unfamiliar := by
  by_cases hserved : r.Served
  · rw [status_of_served hserved, ← hasUnknown_iff]
    cases r.hasUnknown <;> simp [hserved]
  · rw [status_of_not_served hserved]
    exact iff_of_false nofun fun h => hserved h.1

/-- **Every record is acknowledged as is due.** Whether it is served comes
first: a record that is denied is so whatever is in it. -/
theorem acknowledged_acknowledgement (r : Record) :
    r.Acknowledged r.acknowledgement where
  number := rfl
  denied h := congrArg ResultCode.toByte (status_of_not_served h)
  unsupported hserved h := by
    have hstatus := status_of_served hserved
    rw [if_pos (hasUnknown_iff.2 h)] at hstatus
    exact congrArg ResultCode.toByte hstatus
  accepted hserved h :=
    congrArg ResultCode.toByte (status_eq_ok_iff.2 ⟨hserved, h⟩)

/-- **What is read off a record for a hint** is the terminal that it names:
the number in its header, or else that of the first identity in it. Later
identities are not looked at, even if the header has no number. -/
theorem objectIdHint_eq_some_iff : r.objectIdHint = some oid ↔ r.Names oid := by
  unfold objectIdHint
  cases hheader : r.objectId with
  | some id =>
    show some id = some oid ↔ _
    constructor
    · intro h
      exact .header (hheader.trans h)
    · rintro (h | ⟨h, -, -, -⟩)
      · exact hheader.symm.trans h
      · cases hheader.symm.trans h
  | none =>
    show r.subrecords.findSome? _ = some oid ↔ _
    rw [List.findSome?_eq_some_iff]
    constructor
    · rintro ⟨front, sub, back, hsubrecords, hsub, hfirst⟩
      cases sub with
      | termIdentity p =>
        refine .identity hheader hsubrecords (fun q hq => ?_)
          (Option.some.inj hsub)
        cases hfirst _ hq
      | _ => cases hsub
    · rintro (h | @⟨-, front, back, p, hsubrecords, hfirst, rfl⟩)
      · cases hheader.symm.trans h
      · refine ⟨front, _, back, hsubrecords, rfl, fun sub hsub => ?_⟩
        cases sub with
        | termIdentity q => exact absurd hsub (hfirst q)
        | _ => rfl

/-- So there is no hint exactly if no terminal is named. -/
theorem objectIdHint_eq_none_iff :
    r.objectIdHint = none ↔ ¬ ∃ oid, r.Names oid := by
  simp only [Option.eq_none_iff_forall_ne_some, ← objectIdHint_eq_some_iff,
    not_exists, ne_eq]

/-- A record that is denied names no terminal. -/
theorem knownAfter_of_not_served (h : ¬ r.Served) (known : Option UInt32) :
    r.knownAfter known = known := by
  have hdenied := not_isDenied r
  rw [decide_eq_false h, Bool.not_eq_false'] at hdenied
  exact if_pos hdenied

/-- A record that is served names a terminal, or leaves the one that is
known. -/
theorem knownAfter_of_served (h : r.Served) (known : Option UInt32) :
    r.knownAfter known = (r.objectIdHint <|> known) := by
  have hserved := not_isDenied r
  rw [decide_eq_true h, Bool.not_eq_true'] at hserved
  exact if_neg (Bool.not_eq_true _ ▸ hserved)

/-- The terminal that is known behind a record is the one that it introduces,
or else the one that was known before. -/
theorem knownAfter_eq_some_iff : r.knownAfter known = some oid
    ↔ r.Served ∧ r.Names oid ∨ ¬ r.Introduces ∧ known = some oid := by
  unfold Introduces
  by_cases hserved : r.Served
  · rw [knownAfter_of_served hserved]
    cases hint : r.objectIdHint with
    | some o =>
      have ho : r.Names o := objectIdHint_eq_some_iff.1 hint
      rw [← objectIdHint_eq_some_iff, hint]
      exact ⟨fun h => .inl ⟨hserved, h⟩,
        fun h => (h.resolve_right fun h' => h'.1 ⟨hserved, o, ho⟩).2⟩
    | none =>
      have hnone := objectIdHint_eq_none_iff.1 hint
      exact ⟨fun h => .inr ⟨fun h' => hnone h'.2, h⟩,
        fun h => (h.resolve_left fun h' => hnone ⟨oid, h'.2⟩).2⟩
  · rw [knownAfter_of_not_served hserved]
    exact ⟨fun h => .inr ⟨fun h' => hserved h'.1, h⟩,
      fun h => (h.resolve_left fun h' => hserved h'.1).2⟩

/-- **The terminal that was named last**, with one more record: by that
record, or by those before it if that record introduces none. -/
theorem lastNamed_concat_iff : LastNamed (rs ++ [r]) oid
    ↔ r.Served ∧ r.Names oid ∨ ¬ r.Introduces ∧ LastNamed rs oid := by
  constructor
  · rintro ⟨front, q, back, heq, hserved, hnames, hback⟩
    rcases List.eq_nil_or_concat back with rfl | ⟨back, z, rfl⟩
    · obtain ⟨-, hq⟩ := List.append_inj' heq rfl
      obtain rfl := (List.cons.inj hq).1
      exact .inl ⟨hserved, hnames⟩
    · rw [List.concat_eq_append] at heq hback
      rw [← List.cons_append, ← List.append_assoc] at heq
      obtain ⟨rfl, hz⟩ := List.append_inj' heq rfl
      obtain rfl := (List.cons.inj hz).1
      obtain ⟨hback, hlast⟩ := List.forall_mem_append.1 hback
      exact .inr ⟨hlast _ (List.mem_singleton_self _), front, q, back, rfl,
        hserved, hnames, hback⟩
  · rintro (⟨hserved, hnames⟩
      | ⟨hnot, front, q, back, rfl, hserved, hnames, hback⟩)
    · exact ⟨rs, r, [], rfl, hserved, hnames, List.forall_mem_nil _⟩
    · refine ⟨front, q, back ++ [r], ?_, hserved, hnames, ?_⟩
      · rw [List.append_assoc, List.cons_append]
      · exact List.forall_mem_append.2 ⟨hback, List.forall_mem_singleton.2 hnot⟩

theorem not_lastNamed_nil : ¬ LastNamed [] oid := by
  rintro ⟨front, r, back, h, -⟩
  exact List.append_ne_nil_of_right_ne_nil front
    (List.cons_ne_nil r back) h.symm

/-- The terminal that is known is the one that was named last. -/
def Recalls (known : Option UInt32) (rs : List Record) : Prop :=
  ∀ oid, known = some oid ↔ LastNamed rs oid

/-- A connection begins without a terminal. -/
theorem recalls_nil : Recalls none [] :=
  fun _ => iff_of_false nofun not_lastNamed_nil

/-- **One record keeps it so.** A record that is denied changes nothing on
either side. -/
theorem Recalls.knownAfter (h : Recalls known rs) (r : Record) :
    Recalls (r.knownAfter known) (rs ++ [r]) := fun oid => by
  rw [knownAfter_eq_some_iff, lastNamed_concat_iff, h oid]

/-- A terminal that is carried along is the one that was named last. -/
theorem Recalls.foldl (h : Recalls known earlier) (rs : List Record) :
    Recalls (rs.foldl Record.knownAfter known) (earlier ++ rs) := by
  induction rs generalizing known earlier with
  | nil => rwa [List.foldl_nil, List.append_nil]
  | cons r rs ih =>
    rw [List.foldl_cons, List.append_cons]
    exact ih (h.knownAfter r)

/-- **A record with a fix is a reading**, and no other is. What else it holds
is merged into the reading and never makes one. -/
theorem exists_ofRecord?_iff :
    (∃ x, Reading.ofRecord? r oid n now = some x) ↔ r.Located := by
  constructor
  · rintro ⟨x, hx⟩
    obtain ⟨p, hp, -⟩ := Option.bind_eq_some_iff.1 hx
    obtain ⟨sub, hsub, h⟩ := List.exists_of_findSome?_eq_some hp
    cases sub with
    | fix q => exact ⟨q, hsub⟩
    | _ => cases h
  · rintro ⟨p, hp⟩
    refine Option.ne_none_iff_exists'.1 fun hnone => ?_
    have hfix := Option.eq_none_iff_forall_ne_some.2 fun q hq =>
      Option.some_ne_none _ (Option.bind_eq_none_iff.1 hnone q hq)
    cases List.findSome?_eq_none_iff.1 hfix _ hp

/-- Only what is accepted is passed on, as a reading of the terminal that is
known. -/
theorem acceptedReading_eq_some_iff : r.acceptedReading known n now = some x
    ↔ r.Served ∧ ¬ r.Unfamiliar ∧ ∃ oid, known = some oid
      ∧ Reading.ofRecord? r oid n now = some x := by
  unfold acceptedReading
  rw [← and_assoc, ← status_eq_ok_iff]
  simp [guard, Option.bind_eq_some_iff]

/-- **The readings that are passed on are those that are due.** By induction
on the records, each behind those in front of it, the earlier ones of the
connection included. -/
theorem reported_readingsOf (n : UInt16) (now : Instant)
    (h : Recalls known earlier) (rs : List Record) :
    Reported n now earlier rs (Intake.readingsOf n now known rs) := by
  induction rs generalizing known earlier with
  | nil => exact .nil
  | cons r rs ih =>
    have hrecalls := h.knownAfter r
    have hrest := ih hrecalls
    rw [Intake.readingsOf]
    cases hx : r.acceptedReading (r.knownAfter known) n now with
    | some x =>
      obtain ⟨hserved, hfamiliar, oid, hknown, hofRecord⟩ :=
        acceptedReading_eq_some_iff.1 hx
      have hfix := exists_ofRecord?_iff.1 ⟨x, hofRecord⟩
      exact .reading hserved hfamiliar hfix ((hrecalls oid).1 hknown)
        hofRecord hrest
    | none =>
      refine .nothing ?_ hrest
      rintro ⟨hserved, hfamiliar, hfix, oid, hnamed⟩
      obtain ⟨x, hofRecord⟩ := exists_ofRecord?_iff.2 hfix
      have hsome := acceptedReading_eq_some_iff.2
        ⟨hserved, hfamiliar, oid, (hrecalls oid).2 hnamed, hofRecord⟩
      cases hsome.symm.trans hx

end Record

/-! ## One batch -/

namespace Record

/-- The terminal that is known does not depend on what is denied. -/
theorem foldl_knownAfter_filter (known : Option UInt32) (rs : List Record) :
    (rs.filter (Served ·)).foldl knownAfter known
      = rs.foldl knownAfter known := by
  induction rs generalizing known with
  | nil => rfl
  | cons r rs ih =>
    by_cases hserved : r.Served
    · rw [List.filter_cons, if_pos (decide_eq_true hserved), List.foldl_cons,
        List.foldl_cons, ih]
    · rw [List.filter_cons, if_neg (mt of_decide_eq_true hserved),
        List.foldl_cons, knownAfter_of_not_served hserved, ih]

/-- What is served is the same if only what is denied is replaced. -/
theorem filter_served_of_replaces {rs rs' : List Record}
    (h : List.Forall₂ Replaces rs' rs) :
    rs'.filter (Served ·) = rs.filter (Served ·) := by
  induction h with
  | nil => rfl
  | cons hr _ ih =>
    rw [List.filter_cons, List.filter_cons, ih]
    rcases hr with rfl | ⟨hr', hr⟩
    · rfl
    · rw [if_neg (mt of_decide_eq_true hr'), if_neg (mt of_decide_eq_true hr)]

end Record

namespace Intake

variable {known : Option UInt32} {rs : List Record} {n : UInt16} {now : Instant}

/-- **What a batch leads to is what is due.** The readings go with the
terminal as it is known at each of them and not at the end of the batch. -/
theorem due_ofRecords (b : Batch) {earlier : List Record}
    (h : Record.Recalls known earlier) :
    b.Due earlier (ofRecords known b.records b.packetId b.receivedAt) where
  responses := List.forall₂_map_right_iff.2
    (List.forall₂_same.2 fun r _ => r.acknowledged_acknowledgement)
  readings := Record.reported_readingsOf _ _ h _
  authenticated := by
    rw [authenticated_iff]
    simp only [Named, ← Bool.not_eq_true', Record.not_isDenied,
      decide_eq_true_eq]
  service := by
    unfold ofRecords
    simp only [Record.not_isDenied]
    cases hfind : b.records.find? fun r => decide r.Served with
    | some r =>
      obtain ⟨hr, front, back, hrecords, hfront⟩ :=
        List.find?_eq_some_iff_append.1 hfind
      exact .inl ⟨front, r, back, hrecords,
        fun q hq => by simpa using hfront q hq, of_decide_eq_true hr, rfl⟩
    | none =>
      exact .inr
        ⟨fun r hr => by simpa using List.find?_eq_none.1 hfind r hr, rfl⟩

/-- **Records that are taken in together** are read like the same records one
part after the other. What the first part hands on to the second is the
terminal that is known. -/
theorem readingsOf_append (rs rs' : List Record) :
    readingsOf n now known (rs ++ rs')
      = readingsOf n now known rs
        ++ readingsOf n now (rs.foldl Record.knownAfter known) rs' := by
  induction rs generalizing known with
  | nil => rfl
  | cons r rs ih =>
    rw [List.cons_append, readingsOf, ih, ← List.append_assoc]; rfl

/-- Neither do the readings. -/
theorem readingsOf_filter (n : UInt16) (now : Instant) (known : Option UInt32)
    (rs : List Record) :
    readingsOf n now known (rs.filter (Record.Served ·))
      = readingsOf n now known rs := by
  induction rs generalizing known with
  | nil => rfl
  | cons r rs ih =>
    by_cases hserved : r.Served
    · rw [List.filter_cons, if_pos (decide_eq_true hserved), readingsOf,
        readingsOf, ih]
    · have hnone : r.acceptedReading known n now = none :=
        Option.eq_none_iff_forall_ne_some.2
        fun _ hx => hserved (Record.acceptedReading_eq_some_iff.1 hx).1
      rw [List.filter_cons, if_neg (mt of_decide_eq_true hserved), readingsOf,
        Record.knownAfter_of_not_served hserved, hnone, ih]
      rfl

/-- **A record that is denied leaves nothing behind** but its own
acknowledgement. The batch without what is denied has the same readings,
admits the same terminal and leaves the same one known. -/
theorem ofRecords_eq_filter (known : Option UInt32) (rs : List Record)
    (n : UInt16) (now : Instant) : ofRecords known rs n now
      = { ofRecords known (rs.filter (Record.Served ·)) n now with
          responses := rs.map Record.acknowledgement } := by
  unfold ofRecords
  simp only [readingsOf_filter, Record.not_isDenied, List.any_filter,
    List.find?_filter, Bool.and_self_left, and_self, Bool.decide_eq_true]

/-- What is denied may be replaced. -/
theorem alike_ofRecords (n : UInt16) (now : Instant) (known : Option UInt32)
    {rs rs' : List Record} (h : List.Forall₂ Record.Replaces rs' rs) :
    Alike (ofRecords known rs n now) (ofRecords known rs' n now) := by
  rw [ofRecords_eq_filter known rs, ofRecords_eq_filter known rs',
    Record.filter_served_of_replaces h]
  refine ⟨rfl, rfl, rfl,
    List.forall₂_map_left_iff.2 (List.forall₂_map_right_iff.2
      (h.imp fun r' r hr => ?_))⟩
  rcases hr with rfl | ⟨hr', hr⟩
  · exact ⟨rfl, .inl rfl⟩
  · rw [r'.acknowledged_acknowledgement.denied hr',
      r.acknowledged_acknowledgement.denied hr]
    exact ⟨rfl, .inr rfl⟩

end Intake

/-! ## Batches one after the other -/

namespace Session

variable {s s' : Session} {b : Batch} {bs : List Batch}

theorem objectId_acknowledge (s : Session) (n : UInt16) (i : Intake) :
    (s.acknowledge n i).2.objectId = s.objectId := by
  unfold acknowledge
  split <;> rfl

/-- The terminal that is known after a batch. -/
theorem objectId_afterBatch (s : Session) (b : Batch) :
    (s.afterBatch b).objectId
      = b.records.foldl Record.knownAfter s.objectId := by
  unfold afterBatch takeIn
  by_cases h : (Intake.ofRecords s.objectId b.records b.packetId
    b.receivedAt).authenticated = true
  · simp only [if_pos h]
    exact objectId_acknowledge _ _ _
  · simp only [if_neg h]
    exact objectId_acknowledge _ _ _

/-- After batches it is what all of their records make it. -/
theorem objectId_foldl_afterBatch (s : Session) (bs : List Batch) :
    (bs.foldl afterBatch s).objectId
      = (bs.flatMap Batch.records).foldl Record.knownAfter s.objectId := by
  induction bs generalizing s with
  | nil => rfl
  | cons b bs ih =>
    rw [List.foldl_cons, ih, objectId_afterBatch, List.flatMap_cons,
      List.foldl_append]

/-- **The terminal that is known after batches** is the one that was named
last. How the records were parted into batches does not show in it. -/
theorem recalls_foldl_afterBatch_new (bs : List Batch) :
    Record.Recalls (bs.foldl afterBatch new).objectId
      (bs.flatMap Batch.records) := by
  rw [objectId_foldl_afterBatch]
  exact Record.recalls_nil.foldl _

/-- Batches that come later are taken in from where the earlier ones left. -/
theorem intakes_append (s : Session) (bs bs' : List Batch) :
    s.intakes (bs ++ bs')
      = s.intakes bs ++ (bs.foldl afterBatch s).intakes bs' := by
  induction bs generalizing s with
  | nil => rfl
  | cons b bs ih => rw [List.cons_append, intakes, ih]; rfl

theorem length_intakes (s : Session) (bs : List Batch) :
    (s.intakes bs).length = bs.length := by
  induction bs generalizing s with
  | nil => rfl
  | cons b bs ih => exact congrArg (· + 1) (ih _)

/-- Of what a session remembers, only the terminal counts. -/
theorem intakes_congr (h : s'.objectId = s.objectId) :
    s'.intakes bs = s.intakes bs := by
  induction bs generalizing s s' with
  | nil => rfl
  | cons b bs ih =>
    rw [intakes, intakes, h, ih]
    rw [objectId_afterBatch, objectId_afterBatch, h]

/-- A batch is answered as the terminal that is known when it comes has it. -/
theorem intakes_append_cons (s : Session) (before after : List Batch)
    (b : Batch) :
    s.intakes (before ++ b :: after) = s.intakes before
      ++ .ofRecords (before.foldl afterBatch s).objectId b.records b.packetId
        b.receivedAt
      :: ((before.foldl afterBatch s).afterBatch b).intakes after :=
  intakes_append s before (b :: after)

/-- **Behind the records that came earlier**, a batch leads to what is due.
The batches in front of it count only as the records in them. -/
theorem exists_due_intakes (before after : List Batch) (b : Batch) :
    ∃ i, (new.intakes (before ++ b :: after))[before.length]? = some i
      ∧ b.Due (before.flatMap Batch.records) i := by
  refine ⟨_, ?_, Intake.due_ofRecords b (recalls_foldl_afterBatch_new before)⟩
  rw [intakes_append_cons,
    List.getElem?_append_right (Nat.le_of_eq (length_intakes _ _)),
    length_intakes, Nat.sub_self]
  rfl

/-- Parts of a batch lead to the same acknowledgements and readings. -/
theorem flatMap_intakes_parts (s : Session) (n : UInt16) (now : Instant)
    (parts : List (List Record)) :
    (s.intakes (parts.map (Batch.mk n now))).flatMap Intake.responses
        = (Intake.ofRecords s.objectId parts.flatten n now).responses
      ∧ (s.intakes (parts.map (Batch.mk n now))).flatMap Intake.readings
        = (Intake.ofRecords s.objectId parts.flatten n now).readings := by
  induction parts generalizing s with
  | nil => exact ⟨rfl, rfl⟩
  | cons rs parts ih =>
    obtain ⟨hresponses, hreadings⟩ := ih (s.afterBatch ⟨n, now, rs⟩)
    rw [objectId_afterBatch] at hresponses hreadings
    constructor
    · rw [List.map_cons, intakes, List.flatMap_cons, hresponses]
      exact List.map_append.symm
    · rw [List.map_cons, intakes, List.flatMap_cons, hreadings]
      exact (Intake.readingsOf_append rs parts.flatten).symm

/-- So a batch in parts leaves the same terminal. -/
theorem objectId_foldl_parts (s : Session) (n : UInt16) (now : Instant)
    (parts : List (List Record)) :
    ((parts.map (Batch.mk n now)).foldl afterBatch s).objectId
      = (s.afterBatch ⟨n, now, parts.flatten⟩).objectId := by
  rw [objectId_foldl_afterBatch, objectId_afterBatch, List.flatMap_map]
  exact congrArg _ List.flatMap_id

/-- What is denied may be replaced, all along a connection. -/
theorem alike_intakes {bs' : List Batch} (h : List.Forall₂ Batch.Alike bs bs')
    (hs : s'.objectId = s.objectId) :
    List.Forall₂ Intake.Alike (s.intakes bs) (s'.intakes bs')
      ∧ (bs'.foldl afterBatch s').objectId
        = (bs.foldl afterBatch s).objectId := by
  induction h generalizing s s' with
  | nil => exact ⟨.nil, hs⟩
  | @cons b b' bs bs' hb _ ih =>
    have hobjectId : (s'.afterBatch b').objectId
        = (s.afterBatch b).objectId := by
      rw [objectId_afterBatch, objectId_afterBatch, hs,
        ← Record.foldl_knownAfter_filter,
        Record.filter_served_of_replaces hb.records,
        Record.foldl_knownAfter_filter]
    obtain ⟨hrest, hlast⟩ := ih hobjectId
    refine ⟨.cons ?_ hrest, hlast⟩
    rw [hb.packetId, hb.receivedAt, hs]
    exact Intake.alike_ofRecords _ _ _ hb.records

/-- **Every batch leads to what is due, and only the records count.** On any
connection, whatever batches come and in whatever order,

* the terminal that is known is the one that was named last;
* each batch is acknowledged and read as is due behind all the records that
  came before it;
* records lead to the same in one batch and in parts of it, and so do the
  batches before and after them;
* other records in the place of those that are denied change nothing but the
  numbers under which they are denied. -/
theorem batches_taken_in :
    (∀ bs : List Batch, (new.intakes bs).length = bs.length
      ∧ ∀ oid, (bs.foldl afterBatch new).objectId = some oid
        ↔ Record.LastNamed (bs.flatMap Batch.records) oid)
    ∧ (∀ (before after : List Batch) (b : Batch), ∃ i,
      (new.intakes (before ++ b :: after))[before.length]? = some i
        ∧ b.Due (before.flatMap Batch.records) i)
    ∧ (∀ (before after : List Batch) (n : UInt16) (now : Instant)
      (parts : List (List Record)), ∃ is i js ks,
      new.intakes (before ++ ⟨n, now, parts.flatten⟩ :: after) = is ++ i :: js
        ∧ new.intakes (before ++ parts.map (Batch.mk n now) ++ after)
          = is ++ ks ++ js
        ∧ is.length = before.length ∧ ks.length = parts.length
        ∧ ks.flatMap Intake.responses = i.responses
        ∧ ks.flatMap Intake.readings = i.readings)
    ∧ (∀ bs bs' : List Batch, List.Forall₂ Batch.Alike bs bs' →
      List.Forall₂ Intake.Alike (new.intakes bs) (new.intakes bs')
        ∧ (bs'.foldl afterBatch new).objectId
          = (bs.foldl afterBatch new).objectId) := by
  refine ⟨fun bs => ⟨length_intakes new bs, recalls_foldl_afterBatch_new bs⟩,
    exists_due_intakes, fun before after n now parts => ?_,
      fun bs bs' h => alike_intakes h rfl⟩
  have hparts := flatMap_intakes_parts (before.foldl afterBatch new) n now parts
  refine ⟨_, _, _, _, intakes_append_cons new before after _, ?_,
    length_intakes new before,
    (length_intakes _ _).trans (List.length_map _), hparts⟩
  -- What comes behind finds the same terminal known.
  rw [intakes_append, intakes_append, List.foldl_append,
    intakes_congr (objectId_foldl_parts (before.foldl afterBatch new) n
      now parts)]

end Session

end Telematics
