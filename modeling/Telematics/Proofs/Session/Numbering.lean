import Mathlib.Data.List.Forall2
import Telematics.Proofs.Session.Dialogue

/-!
# The numbers of what is sent

A terminal finds out by their numbers whether it has seen all that the
receiver sent, so packets and records have to be numbered in the order in
which they go out, each kind by itself and without a gap. The program takes a
number wherever it makes up a packet or a record, on four branches and not in
the order in which the two are written: the record of an acknowledgement has
its number before the packet around it.

Numbers that follow one another are an inductive type (`InTurn`), and so is
what a session does between two states of its counters: `Session.Numbers` says
that the numbers of what is sent lead from one state to the other. It is
closed under sequence, so it is shown of a single packet and holds of whole
connections. No number is lost on the way, since whatever has been given one
can be written (`Session.transmissible_of_mem_answer`).

The counters have sixteen bits and go on from zero behind the largest number,
so numbers in turn are not ascending, and the place of a packet says its
number only up to a multiple of 65536 (`InTurn.toNat_of_getElem?`). A terminal
that counts along does so in the same sixteen bits and never disagrees.
-/

namespace Telematics

/-- **Numbers in turn**, from one on up to another that has not been given
yet. The number after the largest is zero. -/
inductive InTurn : UInt16 → List UInt16 → UInt16 → Prop where
  | nil {n : UInt16} : InTurn n [] n
  | cons {n m : UInt16} {ns : List UInt16} (h : InTurn (n + 1) ns m) :
    InTurn n (n :: ns) m

namespace InTurn

variable {n m l : UInt16} {ns ms : List UInt16}

/-- One number is in turn. -/
theorem single : InTurn n [n] (n + 1) := .cons .nil

/-- Numbers in turn go on where others left. -/
theorem append (h : InTurn n ns m) (h' : InTurn m ms l) :
    InTurn n (ns ++ ms) l := by
  induction h with
  | nil => exact h'
  | cons _ ih => exact .cons (ih h')

/-- **The place of a number** says which it is, by counting from the first one
in sixteen bits. Behind the largest number the count goes on at zero. -/
theorem eq_of_getElem? (h : InTurn n ns m) {k : Nat} {a : UInt16}
    (ha : ns[k]? = some a) :
    a = n + UInt16.ofNat k := by
  induction h generalizing k with
  | nil => cases ha
  | @cons n m ns _ ih =>
    cases k with
    | zero =>
      obtain rfl := Option.some.inj ha
      exact (UInt16.add_zero _).symm
    | succ k =>
      rw [ih ha, UInt16.ofNat_add, UInt16.add_assoc, UInt16.add_comm 1]
      rfl

/-- The numbers from zero on are the places, as far as sixteen bits hold
them. -/
theorem toNat_of_getElem? (h : InTurn 0 ns m) {k : Nat} {a : UInt16}
    (ha : ns[k]? = some a) :
    a.toNat = k % 65536 := by
  rw [h.eq_of_getElem? ha, UInt16.zero_add, UInt16.toNat_ofNat']

end InTurn

namespace Session

namespace Event

/-- The packets that are sent in the course of events. -/
def packets (events : List Event) : List Packet := events.filterMap packet?

/-- The records that are sent in the course of events. -/
def records (events : List Event) : List Record :=
  (packets events).flatMap (·.frame.records)

variable {events more : List Event}

/-- Packets of later events are sent later. -/
theorem packets_append :
    packets (events ++ more) = packets events ++ packets more :=
  List.filterMap_append

/-- So are records. -/
theorem records_append :
    records (events ++ more) = records events ++ records more := by
  rw [records, packets_append, List.flatMap_append]
  rfl

/-- Passing a reading on is not sending. -/
theorem packets_map_submit (rs : List Reading) :
    packets (rs.map .submit) = [] := by
  rw [packets, List.filterMap_map]
  exact List.filterMap_eq_nil_iff.2 fun _ _ => rfl

theorem mem_packets {p : Packet} : p ∈ packets events ↔ .send p ∈ events := by
  refine List.mem_filterMap.trans ⟨?_, fun h => ⟨_, h, rfl⟩⟩
  rintro ⟨e, he, hp⟩
  cases e with
  | send q => exact Option.some.inj hp ▸ he
  | submit r => cases hp

end Event

/-- **What is sent leads from one state of the counters to another.** -/
structure Numbers (s : Session) (events : List Event) (t : Session) : Prop where
  packets : InTurn s.nextPacketId ((Event.packets events).map (·.packetId))
    t.nextPacketId
  records : InTurn s.nextRecordNumber
    ((Event.records events).map (·.recordNumber))
    t.nextRecordNumber

namespace Numbers

variable {s t u : Session} {events more : List Event}

/-- Nothing is sent. -/
theorem nil (s : Session) : Numbers s [] s := ⟨.nil, .nil⟩

/-- **What is sent in sequence** leads from the first state to the last. So a
run is numbered if each of its answers is. -/
theorem append (h : Numbers s events t) (h' : Numbers t more u) :
    Numbers s (events ++ more) u where
  packets := by
    rw [Event.packets_append, List.map_append]
    exact h.packets.append h'.packets
  records := by
    rw [Event.records_append, List.map_append]
    exact h.records.append h'.records

/-- Readings have no part in it. -/
theorem submit (s : Session) (rs : List Reading) :
    Numbers s (rs.map .submit) s := by
  constructor
  · rw [Event.packets_map_submit]
    exact .nil
  · rw [Event.records, Event.packets_map_submit]
    exact .nil

theorem of_objectId (known : Option UInt32)
    (h : Numbers { s with objectId := known } events t) :
    Numbers s events t :=
  ⟨h.packets, h.records⟩

/-- A packet without a record takes one number. -/
theorem of_no_records {f : Frame} (s : Session) (hf : f.records = []) :
    Numbers s [.send (.ofFrame s.nextPacketId f)]
      { s with nextPacketId := s.nextPacketId + 1 } where
  packets := .single
  records := by
    show InTurn _ ((f.records ++ []).map _) _
    rw [hf]
    exact .nil

/-- A packet with a record takes one number of either kind. -/
theorem of_record {f : Frame} {r : Record} (s : Session) (hf : f.records = [r])
    (hr : r.recordNumber = s.nextRecordNumber) :
    Numbers s [.send (.ofFrame s.nextPacketId f)]
      ⟨s.objectId, s.nextPacketId + 1, s.nextRecordNumber + 1⟩ where
  packets := .single
  records := by
    show InTurn _ ((f.records ++ []).map _) _
    rw [hf, List.append_nil, List.map_singleton, hr]
    exact .single

end Numbers

/-! ## One packet -/

/-- A refusal takes the number of a packet. -/
theorem numbers_refuse (s : Session) (e : Packet.Failure) :
    s.Numbers (s.refuse e).events (s.refuse e).session :=
  .of_no_records s rfl

/-- An acknowledgement takes the number of a packet and, if there is anything
to acknowledge, that of a record. -/
theorem numbers_acknowledge (s : Session) (n : UInt16) (i : Intake) :
    s.Numbers [.send (s.acknowledge n i).1] (s.acknowledge n i).2 := by
  unfold acknowledge
  split
  · exact .of_no_records s rfl
  · exact .of_record s rfl rfl

/-- An admission takes one number of either kind. -/
theorem numbers_welcome (s : Session) :
    s.Numbers [.send s.welcome.1] s.welcome.2 :=
  .of_record s rfl rfl

/-- Records are answered by an acknowledgement and perhaps an admission, in
that order. -/
theorem numbers_takeIn (s : Session) (n : UInt16) (rs : List Record)
    (now : Instant) :
    s.Numbers (s.takeIn n rs now).events (s.takeIn n rs now).session := by
  refine Numbers.of_objectId (rs.foldl Record.knownAfter s.objectId) ?_
  have hreply := numbers_acknowledge { s with
    objectId := rs.foldl Record.knownAfter s.objectId } n
    (.ofRecords s.objectId rs n now)
  unfold takeIn
  by_cases h : (Intake.ofRecords s.objectId rs n now).authenticated = true
  · simp only [if_pos h]
    exact hreply.append ((numbers_welcome _).append (.submit _ _))
  · simp only [if_neg h]
    exact hreply.append (.submit _ _)

/-- **The answer to a packet** is numbered in turn, whichever it is. A
refusal, an acknowledgement and an admission take their numbers in the order
in which they are sent. -/
theorem numbers_answer (s : Session) (d : Bytes) (now : Instant) :
    s.Numbers (s.answer d now).events (s.answer d now).session := by
  cases h : Packet.decode d with
  | error e =>
    rw [answer_of_error h]
    exact numbers_refuse s e
  | ok p =>
    cases hp : p.frame with
    | response i result rs =>
      rw [answer_of_response h hp]
      exact .nil s
    | appData rs =>
      rw [answer_of_appData h hp]
      exact numbers_takeIn s p.packetId rs now

/-! ## A whole connection -/

/-- What has arrived is answered in turn. -/
theorem numbers_serve (s : Session) (now : Instant) (d : Bytes) :
    s.Numbers (s.serve now d).events (s.serve now d).session := by
  fun_induction serve s now d with
  | case1 s d h => exact .nil s
  | case2 s d h => exact .nil s
  | case3 s d m h => exact .nil s
  | case4 s d f rest h turn done e hdone =>
    cases hdone.symm.trans (carryOut_answer s f now)
  | case5 s d f rest h turn done hdone _ more ih =>
    obtain rfl := congrArg Prod.fst (hdone.symm.trans (carryOut_answer s f now))
    exact (numbers_answer s f now).append ih

end Session

namespace Connection

open Session

/-- Octets that arrive are answered in turn, and an end of the connection
takes no number. -/
theorem numbers_receive (c : Connection) (time : Nat) (now : Instant)
    (d : Bytes) :
    c.session.Numbers (c.receive time now d).2
      (c.receive time now d).1.session := by
  unfold receive
  split
  · exact .nil _
  · exact numbers_serve c.session now (c.pending ++ d)

/-- So a whole connection is numbered in turn, however its octets arrive. -/
theorem numbers_receiveAll (c : Connection) (arrivals : List Arrival) :
    c.session.Numbers (c.receiveAll arrivals).2
      (c.receiveAll arrivals).1.session := by
  induction arrivals generalizing c with
  | nil => exact .nil _
  | cons a arrivals ih =>
    rw [receiveAll_cons]
    exact (numbers_receive c a.time a.now a.octets).append (ih _)

end Connection

/-- Packets that can be written are written one after the other, and read
again. -/
theorem Packet.exists_written {ps : List Packet}
    (h : ∀ p ∈ ps, p.Transmissible) :
    ∃ ws : List Bytes, ps.flatMap (fun p => p.encode.toOption.getD [])
      = ws.flatten
      ∧ List.Forall₂ (fun w p => decode w = .ok p) ws ps := by
  induction ps with
  | nil => exact ⟨[], rfl, .nil⟩
  | cons p ps ih =>
    obtain ⟨⟨w, hw, hread⟩, hps⟩ := List.forall_mem_cons.1 h
    obtain ⟨ws, hflat, hwritten⟩ := ih hps
    refine ⟨w :: ws, ?_, .cons hread hwritten⟩
    rw [List.flatMap_cons, List.flatten_cons, hflat, hw]
    rfl

namespace Connection

open Session

/-- **Whatever a connection sends is numbered without a gap.** Whichever octets
arrive, in whatever pieces and however many, sound packets of either kind or
not, the octets that are sent back are packets one after the other, the number
of each is its place modulo 65536, counted from zero, and so is the number of
each record among the records of all of them. -/
theorem numbered_without_gaps (limit : Option Nat) (arrivals : List Arrival) :
    ∃ events, ((start limit).receiveAll arrivals).2 = events
      ∧ (∃ ws : List Bytes, Event.octets events = ws.flatten
        ∧ List.Forall₂ (fun w p => Packet.decode w = .ok p) ws
          (Event.packets events))
      ∧ (∀ k p, (Event.packets events)[k]? = some p →
        p.packetId.toNat = k % 65536)
      ∧ ∀ k r, (Event.records events)[k]? = some r →
        r.recordNumber.toNat = k % 65536 := by
  obtain ⟨-, -, -, -, -, hsent⟩ :=
    exists_frames_receiveAll (c := start limit) rfl
    (.finished (by decide : 0 < 10)) arrivals
  have hwritten := Packet.exists_written fun p hp =>
    hsent p (Event.mem_packets.1 hp)
  have hnumbers := numbers_receiveAll (start limit) arrivals
  refine ⟨_, rfl, hwritten, fun k p hp => ?_, fun k r hr => ?_⟩
  · refine hnumbers.packets.toNat_of_getElem? (k := k) ?_
    rw [List.getElem?_map, hp]
    rfl
  · refine hnumbers.records.toNat_of_getElem? (k := k) ?_
    rw [List.getElem?_map, hr]
    rfl

end Connection

end Telematics
