import Telematics.Session.Basic
import Telematics.Proofs.Wire.RoundTrip

/-!
# The replies of a session

A session is over once a packet that it has to send cannot be written, so
every one of them must fit, and what is written must be read as that packet by
the terminal (`Packet.Transmissible`).

The only reply whose size depends on what was received is an acknowledgement.
It takes six octets for each record that it acknowledges; a record takes seven
at least, which is why what fitted into one packet is acknowledged in one
(`Packet.length_records_of_decode`). All other replies carry one record at
most, with a single sub-record.

So that a session never ends for want of room is a matter of one octet per
record. The bound on the records is taken from the octets that were received,
whatever is in them, and handed on to the reply with its ten octets of header
and response in front (`Session.transmissible_acknowledge`). Nothing is left
to a check of the writer: the three lengths that a reply has in it are below
that bound, too.
-/

namespace Telematics

variable {d : Bytes}

/-! ## What fits into a packet -/

/-- **A packet that is accepted has few records.** Each takes seven octets of
the frame data at least, and the frame data has a limit. -/
theorem Packet.length_records_of_decode {p : Packet} (h : decode d = .ok p) :
    7 * p.frame.records.length ≤ maxFrameData := by
  obtain ⟨l, hl, -⟩ := Layout.decode_eq_ok.1 h
  obtain ⟨set, hset, rfl⟩ := Writing.map_eq_ok.1 hl
  have hentries :=
    Writing.mul_length_le_length_flatMap Entry.length_octets_ge l.entries
  have hsize := l.size_le
  rw [List.length_append] at hsize
  calc 7 * (frameOf l.acknowledged set).records.length
      = 7 * l.entries.length := by
        rw [records_frameOf, Writing.length_of_mapM hset]
    _ ≤ (l.entries.flatMap Entry.octets).length := hentries
    _ ≤ maxFrameData := by omega

namespace Subrecord

/-- Acknowledgements take six octets each. -/
theorem exists_encodeSet_recordResponse (as : List RecordResponse) :
    ∃ data, encodeSet (as.map recordResponse) = .ok data
      ∧ data.length = 6 * as.length := by
  have hone : ∀ (a : RecordResponse) (w : Bytes),
    (encode ∘ recordResponse) a = .ok w
      ↔ True ∧ w = 0 :: Bytes.ofUInt16 3 ++ a.encode := fun a w => by
    show Except.ok _ = Except.ok w ↔ _
    rw [Except.ok.injEq, true_and, eq_comm]
    rfl
  have hset : encodeSet (as.map recordResponse)
      = .ok (as.flatMap fun a => 0 :: Bytes.ofUInt16 3 ++ a.encode) := by
    rw [encodeSet, List.mapM_map]
    exact (Writing.flatten_mapM_eq_ok hone).2 ⟨fun _ _ => trivial, rfl⟩
  refine ⟨_, hset, ?_⟩
  rw [List.length_flatMap]
  simp [RecordResponse.encode, List.map_const', Nat.mul_comm]

end Subrecord

namespace Record

/-- **A record without optional fields**, none of whose sub-records holds a
bit that is written from another field. -/
structure Bare (r : Record) : Prop where
  objectId : r.objectId = none
  eventId : r.eventId = none
  time : r.time = none
  priority : r.priority = 0
  subrecords : ∀ s ∈ r.subrecords, s.Clean

/-- It takes seven octets and its sub-records. -/
theorem Bare.exists_encode {r : Record} (hr : r.Bare) {data : Bytes}
    (hdata : Subrecord.encodeSet r.subrecords = .ok data)
    (hlen : data.length ≤ 65535) :
    ∃ w, r.encode = .ok w ∧ w.length = 7 + data.length := by
  unfold encode
  simp only [Writing.bind_eq_ok, Writing.fitLength_eq_ok, Writing.pure_eq_ok]
  refine ⟨_, ⟨data, hdata, _, ⟨hlen, rfl⟩, rfl⟩, ?_⟩
  rw [hr.objectId, hr.eventId, hr.time]
  simp only [Option.elim_none, List.length_append, Bytes.length_ofUInt16,
    List.length_cons, List.length_nil]

end Record

/-! ## Packets that arrive -/

namespace Packet

/-- **The packet arrives**: it can be written, and what is written is read as
that packet. -/
def Transmissible (p : Packet) : Prop :=
  ∃ w, p.encode = .ok w ∧ decode w = .ok p

/-- A plain packet arrives if its frame data is written and fits. -/
theorem transmissible_ofFrame {n : UInt16} {f : Frame} {data : Bytes}
    (hrecords : ∀ r ∈ f.records, r.Bare) (hdata : encodeFrame f = .ok data)
    (hlen : data.length ≤ maxFrameData) : (ofFrame n f).Transmissible := by
  have hclean : (ofFrame n f).Clean :=
    { headerVersion := (by decide : (0 : UInt8) ≤ 3)
      priority := (by decide : (0 : UInt8) ≤ 3)
      encryption := rfl
      compressed := rfl
      recordPriority := fun r hr => by
        rw [(hrecords r hr).priority]
        decide
      subrecords := fun r hr => (hrecords r hr).subrecords }
  have hwritten := (encode_eq_ok (p := ofFrame n f)).2 ⟨data, hdata, hlen, rfl⟩
  exact ⟨_, hwritten,
    Layout.decode_eq_ok.2 (Layout.exists_of_encode hclean hwritten)⟩

/-- A packet without records arrives. -/
theorem transmissible_of_no_records {n : UInt16} {a : Option (UInt16 × UInt8)} :
    (ofFrame n (frameOf a [])).Transmissible := by
  refine transmissible_ofFrame ?_ (encodeFrame_frameOf.2 ⟨[], rfl, rfl⟩) ?_
  · rw [records_frameOf]
    exact nofun
  · cases a with
    | none => decide
    | some a => show (3 : Nat) ≤ maxFrameData; decide

/-- A packet with one record arrives if its sub-records fit. -/
theorem transmissible_of_record {n : UInt16} {a : Option (UInt16 × UInt8)}
    {r : Record} (hr : r.Bare) {data : Bytes}
    (hdata : Subrecord.encodeSet r.subrecords = .ok data)
    (hlen : data.length + 10 ≤ maxFrameData) :
    (ofFrame n (frameOf a [r])).Transmissible := by
  have hmax : maxFrameData ≤ 65535 := by decide
  obtain ⟨w, hw, hwlen⟩ := hr.exists_encode hdata (by omega)
  have hset : Record.encodeSet [r] = .ok w := by
    rw [Record.encodeSet, Writing.map_eq_ok]
    exact ⟨[w], Writing.mapM_cons_eq_ok.2 ⟨w, [], hw, rfl, rfl⟩,
      List.append_nil w⟩
  refine transmissible_ofFrame ?_ (encodeFrame_frameOf.2 ⟨w, hset, rfl⟩) ?_
  · rw [records_frameOf]
    exact List.forall_mem_singleton.2 hr
  · have hack : (a.elim [] ackOctets).length ≤ 3 := by
      cases a with
      | none => decide
      | some a => exact Nat.le_refl 3
    rw [List.length_append]
    omega

end Packet

/-! ## What a session sends -/

namespace Session

variable {s : Session} {n : UInt16} {intake : Intake}

/-- Without records there is nothing in the response but its result. -/
theorem acknowledge_of_nil (h : intake.responses = []) :
    (s.acknowledge n intake).1
      = .ofFrame s.nextPacketId (.response n 0 []) := by
  rw [acknowledge, h]
  rfl

/-- Records are acknowledged in one record. -/
theorem acknowledge_of_ne_nil (h : intake.responses ≠ []) :
    (s.acknowledge n intake).1 = .ofFrame s.nextPacketId (.response n 0
      [{ Record.ofService s.nextRecordNumber intake.service
          (intake.responses.map .recordResponse) with group := true }]) := by
  rw [acknowledge, if_neg (by simpa using h)]
  rfl

/-- **The acknowledgement of records arrives** if there are not too many of
them. The limit is that of the packet that is acknowledged: an acknowledgement
of a record is no longer than a record. -/
theorem transmissible_acknowledge
    (h : 7 * intake.responses.length ≤ maxFrameData) :
    (s.acknowledge n intake).1.Transmissible := by
  by_cases hnil : intake.responses = []
  · rw [acknowledge_of_nil hnil]
    exact Packet.transmissible_of_no_records (a := some (n, 0))
  · rw [acknowledge_of_ne_nil hnil]
    obtain ⟨data, hdata, hlen⟩ :=
      Subrecord.exists_encodeSet_recordResponse intake.responses
    refine Packet.transmissible_of_record (a := some (n, 0))
      ⟨rfl, rfl, rfl, rfl, ?_⟩ hdata ?_
    · exact List.forall_mem_map.2 fun _ _ => trivial
    · unfold maxFrameData at *
      omega

/-- A refusal arrives. -/
theorem transmissible_refuse (n : UInt16) (f : Packet.Failure) :
    (Packet.ofFrame n (.response (f.packetId.getD 0) f.error.resultCode.toByte
      [])).Transmissible :=
  Packet.transmissible_of_no_records
    (a := some (f.packetId.getD 0, f.error.resultCode.toByte))

/-- The admission of a terminal arrives. -/
theorem transmissible_welcome (s : Session) : s.welcome.1.Transmissible := by
  have hset : Subrecord.encodeSet [.authResult ⟨ResultCode.ok.toByte⟩]
    = .ok [9, 1, 0, 0] := rfl
  exact Packet.transmissible_of_record (a := none)
    ⟨rfl, rfl, rfl, rfl, List.forall_mem_singleton.2 trivial⟩ hset (by decide)

/-- **The answer to records**: an acknowledgement, an admission if the
terminal said who it is, and then the readings. The two states are those from
which the acknowledgement and the admission take their numbers. -/
theorem exists_events_takeIn (s : Session) (n : UInt16) (rs : List Record)
    (now : Instant) :
    ∃ t u : Session, (s.takeIn n rs now).events
      = .send (t.acknowledge n (.ofRecords s.objectId rs n now)).1
        :: (if (Intake.ofRecords s.objectId rs n now).authenticated
          then [.send u.welcome.1]
          else [])
        ++ (Intake.ofRecords s.objectId rs n now).readings.map .submit := by
  let t : Session :=
    { s with objectId := rs.foldl Record.knownAfter s.objectId }
  refine ⟨t, (t.acknowledge n (.ofRecords s.objectId rs n now)).2, ?_⟩
  unfold takeIn
  by_cases h : (Intake.ofRecords s.objectId rs n now).authenticated = true
  · simp only [if_pos h]
    rfl
  · simp only [if_neg h]
    rfl

/-- The records of one packet are not too many for what is sent in answer to
them. -/
theorem transmissible_of_mem_takeIn {rs : List Record}
    (h : 7 * rs.length ≤ maxFrameData) {now : Instant} {q : Packet}
    (hq : .send q ∈ (s.takeIn n rs now).events) :
    q.Transmissible := by
  obtain ⟨t, u, hevents⟩ := exists_events_takeIn s n rs now
  rw [hevents, List.mem_append, List.mem_cons] at hq
  have hresponses : (Intake.ofRecords s.objectId rs n now).responses.length
      = rs.length :=
    List.length_map _
  rcases hq with (hack | hadmission) | hreading
  · obtain rfl := Event.send.inj hack
    exact transmissible_acknowledge (by rw [hresponses]; exact h)
  · split at hadmission
    · obtain rfl := Event.send.inj (List.mem_singleton.1 hadmission)
      exact transmissible_welcome u
    · cases hadmission
  · obtain ⟨_, -, hsubmit⟩ := List.mem_map.1 hreading
    cases hsubmit

/-! ## The answer to a packet -/

/-- What cannot be read is refused. -/
theorem answer_of_error {f : Packet.Failure} (h : Packet.decode d = .error f)
    (s : Session) (now : Instant) : s.answer d now = s.refuse f := by
  rw [answer, h]

/-- A response is not answered. -/
theorem answer_of_response {p : Packet} {i : UInt16} {r : UInt8}
    {rs : List Record} (h : Packet.decode d = .ok p)
    (hp : p.frame = .response i r rs) (s : Session) (now : Instant) :
    s.answer d now = ⟨s, []⟩ := by
  rw [answer, h]
  dsimp only
  rw [hp]

/-- Records are taken in. -/
theorem answer_of_appData {p : Packet} {rs : List Record}
    (h : Packet.decode d = .ok p) (hp : p.frame = .appData rs) (s : Session)
    (now : Instant) :
    s.answer d now = s.takeIn p.packetId rs now := by
  rw [answer, h]
  dsimp only
  rw [hp]

/-- **Whatever a session sends arrives.** Nothing is asked of the packet that
is answered, which may be any octets at all. -/
theorem transmissible_of_mem_answer {now : Instant} {q : Packet}
    (hq : .send q ∈ (s.answer d now).events) : q.Transmissible := by
  cases h : Packet.decode d with
  | error f =>
    rw [answer_of_error h] at hq
    obtain rfl := Event.send.inj (List.mem_singleton.1 hq)
    exact transmissible_refuse _ f
  | ok p =>
    cases hp : p.frame with
    | response i r rs =>
      rw [answer_of_response h hp] at hq
      cases hq
    | appData rs =>
      rw [answer_of_appData h hp] at hq
      have hrecords := Packet.length_records_of_decode h
      rw [hp] at hrecords
      exact transmissible_of_mem_takeIn hrecords hq

/-- **The acknowledgement of a packet fits and is exact.** Whatever the
session has been through, a packet of records is answered first of all with
a response that can be written and is read as it was meant: under the number
of the packet, with a good result, and with all its records acknowledged in
order, in one record that is marked as a group. -/
theorem acknowledgement_of_decode {p : Packet} {rs : List Record}
    (h : Packet.decode d = .ok p) (hp : p.frame = .appData rs) (s : Session)
    (now : Instant) :
    ∃ (reply : Packet) (more : List Event) (w : Bytes) (acks : List Record),
      (s.answer d now).events = .send reply :: more ∧ reply.encode = .ok w
        ∧ Packet.decode w = .ok reply
        ∧ reply.frame = .response p.packetId 0 acks
        ∧ (rs = [] → acks = [])
        ∧ (rs ≠ [] → ∃ r, acks = [r] ∧ r.group = true
          ∧ r.subrecords = rs.map fun r => .recordResponse
            ⟨r.recordNumber, r.status.toByte⟩) := by
  obtain ⟨t, u, hevents⟩ := exists_events_takeIn s p.packetId rs now
  rw [← answer_of_appData h hp] at hevents
  have hsent : Event.send
    (t.acknowledge p.packetId (.ofRecords s.objectId rs p.packetId now)).1
      ∈ (s.answer d now).events := by
    rw [hevents]
    exact List.mem_cons_self
  obtain ⟨w, hw, hread⟩ := transmissible_of_mem_answer hsent
  have hresponses :
      (Intake.ofRecords s.objectId rs p.packetId now).responses = []
        ↔ rs = [] := List.map_eq_nil_iff
  by_cases hnil : rs = []
  · refine ⟨_, _, w, [], hevents, hw, hread, ?_, fun _ => rfl,
      fun hne => absurd hnil hne⟩
    rw [acknowledge_of_nil (hresponses.2 hnil)]
    rfl
  · have hack :=
      acknowledge_of_ne_nil (s := t) (n := p.packetId) (mt hresponses.1 hnil)
    refine ⟨_, _, w, _, hevents, hw, hread, congrArg Packet.frame hack,
      fun h => absurd h hnil, fun _ => ⟨_, rfl, rfl, List.map_map⟩⟩

/-- Two records in one packet, of which the second is from a service that is
not served. -/
theorem acknowledgement_of_accepted_and_denied_record :
    ∃ (reply : Packet) (more : List Event) (w : Bytes) (r : Record),
      (new.answer [1, 0, 0, 11, 0, 18, 0, 7, 0, 1, 45, 4, 0, 1, 0, 0, 2, 2, 17,
        1, 0, 0, 0, 0, 2, 0, 0, 4, 4, 246, 187] ⟨0, 0⟩).events
        = .send reply :: more
        ∧ reply.encode = .ok w ∧ Packet.decode w = .ok reply
        ∧ reply.frame = .response 7 0 [r] ∧ r.group = true
        ∧ r.subrecords
          = [.recordResponse ⟨1, 0⟩, .recordResponse ⟨2, 149⟩] := by
  let l : Layout := ⟨0, 0, 0, 7, none, none,
    [⟨1, 0, none, none, none, 2, 2, [⟨17, [0], by decide⟩], rfl, rfl, rfl,
        by decide⟩,
      ⟨2, 0, none, none, none, 4, 4, [], rfl, rfl, rfl, by decide⟩],
    rfl, by decide, by decide⟩
  have h := Layout.decode_eq_ok.2 ⟨l, (by decide +kernel : l.packet
    = .ok (Packet.ofFrame 7 (.appData [.ofService 1 teledataService
        [.fixQuality ⟨none, none, none, none, none⟩], .ofService 2 4 []]))),
    (by decide +kernel : l.octets
      = [1, 0, 0, 11, 0, 18, 0, 7, 0, 1, 45, 4, 0, 1, 0, 0, 2, 2, 17, 1, 0, 0,
        0, 0, 2, 0, 0, 4, 4, 246, 187])⟩
  obtain ⟨reply, more, w, _, hevents, hw, hread, hframe, -, hacks⟩ :=
    acknowledgement_of_decode h rfl new ⟨0, 0⟩
  obtain ⟨r, rfl, hgroup, hsubrecords⟩ := hacks (List.cons_ne_nil _ _)
  exact ⟨reply, more, w, r, hevents, hw, hread, hframe, hgroup, hsubrecords⟩

end Session

end Telematics
