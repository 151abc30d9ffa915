import Telematics.Session.Connection
import Telematics.Proofs.Session.Framing
import Telematics.Proofs.Session.Replies

/-!
# What a connection says

Whatever octets arrive on a connection, and in whatever pieces, they are cut
into frames by the rule of `Session.Framed`, every frame is answered in turn
(`Session.Answers`), and the connection ends as the rule says. Since all that
a session sends can be written (`Session.transmissible_of_mem_answer`), there
is no other way for it to end.

The answer to a frame depends on what is in the frame; where the next one
begins does not. A terminal that sends one packet badly still has the others
answered one by one.

The pieces are dealt with by one invariant: what has arrived and was not
answered is a stream that might end here (`Session.Stopped`). With the next
piece behind it, it is served as far as it goes
(`Session.exists_sound_serve`), and what is then left is such a stream again.
So the frames of the whole are those of the pieces one after the other, and no
piece is looked at twice (`Connection.exists_frames_receiveAll`).
-/

namespace Telematics

variable {d f : Bytes} {now : Instant}

/-! ## The answer to a frame -/

/-- Some record that is not denied says who the terminal is. -/
def Intake.Named (rs : List Record) : Prop :=
  ∃ r ∈ rs, r.isDenied = false
    ∧ ∃ sub ∈ r.subrecords, (∃ p, sub = .termIdentity p)
      ∨ ∃ p, sub = .authInfo p

/-- The program's test for a record that says who the terminal is. -/
theorem Record.identifies_iff {r : Record} : r.identifies = true ↔
    ∃ sub ∈ r.subrecords, (∃ p, sub = .termIdentity p)
      ∨ ∃ p, sub = .authInfo p := by
  unfold identifies
  rw [List.any_eq_true]
  refine exists_congr fun sub => and_congr_right fun _ => ?_
  cases sub <;> simp

/-- A terminal is admitted if some record that is not denied says who it
is. -/
theorem Intake.authenticated_iff {known : Option UInt32} {rs : List Record}
    {n : UInt16} :
    (ofRecords known rs n now).authenticated = true ↔ Named rs := by
  unfold ofRecords Named
  simp only [List.any_eq_true, Bool.and_eq_true, Bool.not_eq_true',
    Record.identifies_iff]

namespace Session

/-- A frame begins with the marker, since it announces a length. -/
theorem IsFrame.head? (h : IsFrame f) : f.head? = some protocolMarker := by
  obtain ⟨n, hn, -⟩ := id h
  exact Decidable.not_not.1 fun hne =>
    Option.some_ne_none n
      (hn.symm.trans ((Packet.announcedLength?_eq_none_iff h.length_ge).2 hne))

/-- **How a frame is answered.** -/
inductive Answers (f : Bytes) : List Event → Prop where
  /-- An acknowledgement is not answered. -/
  | silence {p : Packet} {i : UInt16} {result : UInt8} {rs : List Record}
    (h : Packet.decode f = .ok p) (hp : p.frame = .response i result rs) :
    Answers f []
  /-- What cannot be read is refused, under the number in the eighth and the
  ninth octet. -/
  | refusal {e : Packet.Failure} {reply : Packet} {lo hi result : UInt8}
    (h : Packet.decode f = .error e) (hlo : f[7]? = some lo)
    (hhi : f[8]? = some hi)
    (hreply : reply.frame
      = .response (UInt16.ofNat (lo.toNat + 256 * hi.toNat)) result [])
    (hresult : 128 ≤ result.toNat) : Answers f [.send reply]
  /-- Records are acknowledged before what they report is passed on. -/
  | receipt {p reply : Packet} {rs acks : List Record} {readings : List Reading}
    (h : Packet.decode f = .ok p) (hp : p.frame = .appData rs)
    (hnot : ¬ Intake.Named rs)
    (hreply : reply.frame = .response p.packetId 0 acks) :
    Answers f (.send reply :: readings.map .submit)
  /-- A terminal that has said who it is is told that it is let in, too. -/
  | admission {p reply admission : Packet} {rs acks : List Record} {r : Record}
    {readings : List Reading} (h : Packet.decode f = .ok p)
    (hp : p.frame = .appData rs)
    (hnamed : Intake.Named rs)
    (hreply : reply.frame = .response p.packetId 0 acks)
    (hadmission : admission.frame = .appData [r])
    (hservice : r.sourceService = authService)
    (hr : r.subrecords = [.authResult ⟨0⟩]) :
    Answers f (.send reply :: .send admission :: readings.map .submit)

/-- Records are acknowledged under the number of their packet, with a good
result. -/
theorem exists_frame_acknowledge (s : Session) (n : UInt16) (intake : Intake) :
    ∃ acks, (s.acknowledge n intake).1.frame = .response n 0 acks := by
  by_cases h : intake.responses = []
  · rw [acknowledge_of_nil h]
    exact ⟨_, rfl⟩
  · rw [acknowledge_of_ne_nil h]
    exact ⟨_, rfl⟩

/-- **A frame is answered as it should be**, whatever the session has been
through. One case for what the frame is read as: nothing, an acknowledgement,
or records. -/
theorem answers_answer (hf : IsFrame f) (s : Session) (now : Instant) :
    Answers f (s.answer f now).events := by
  cases h : Packet.decode f with
  | error e =>
    obtain ⟨lo, hi, hlo, hhi, hid⟩ := Packet.exists_announcedId? hf.length_ge
    have hn := Packet.packetId_of_decode_error hf.head? hid h
    rw [answer_of_error h]
    refine .refusal h hlo hhi ?_ e.error.resultCode_ge
    show Frame.response (e.packetId.getD 0) _ _ = _
    rw [hn]
    rfl
  | ok p =>
    cases hp : p.frame with
    | response i result rs =>
      rw [answer_of_response h hp]
      exact .silence h hp
    | appData rs =>
      obtain ⟨t, u, hevents⟩ := exists_events_takeIn s p.packetId rs now
      obtain ⟨acks, hacks⟩ := exists_frame_acknowledge t p.packetId
        (.ofRecords s.objectId rs p.packetId now)
      rw [answer_of_appData h hp, hevents]
      split
      · next hauth =>
        exact .admission h hp (Intake.authenticated_iff.1 hauth) hacks
          rfl rfl rfl
      · next hauth =>
          exact .receipt h hp (mt Intake.authenticated_iff.2 hauth) hacks

/-! ## The answer to what has arrived -/

/-- **Frames, answered one after the other.** -/
inductive Answered : List Bytes → List Event → Prop where
  | nil : Answered [] []
  | cons {f : Bytes} {fs : List Bytes} {events more : List Event}
    (hf : Answers f events)
    (hfs : Answered fs more) : Answered (f :: fs) (events ++ more)

/-- Frames of two streams are answered in their order. -/
theorem Answered.append {fs gs : List Bytes} {events more : List Event}
    (h : Answered fs events) (h' : Answered gs more) :
    Answered (fs ++ gs) (events ++ more) := by
  induction h with
  | nil => exact h'
  | cons hf _ ih =>
    rw [List.cons_append, List.append_assoc]
    exact .cons hf ih

/-- What can be written is carried out. -/
theorem carryOut_of_transmissible {events : List Event}
    (h : ∀ p, .send p ∈ events → p.Transmissible) :
    carryOut events = (events, none) := by
  induction events with
  | nil => rfl
  | cons event events ih =>
    have ih := ih fun p hp => h p (List.mem_cons_of_mem _ hp)
    cases event with
    | submit r => simp only [carryOut, ih]
    | send p =>
      obtain ⟨w, hw, -⟩ := h p List.mem_cons_self
      simp only [carryOut, hw, ih]

/-- **All of an answer is carried out.** Only a packet that cannot be written
would end it early, and of these an answer has none. -/
theorem carryOut_answer (s : Session) (f : Bytes) (now : Instant) :
    carryOut (s.answer f now).events = ((s.answer f now).events, none) :=
  carryOut_of_transmissible fun _ => transmissible_of_mem_answer

/-- Serving has come to a stop in front of what is left: without a fault if
the stream may end there, and with one if it cannot be cut whatever
follows. -/
def Stopped (rest : Bytes) : Option Error → Prop
  | none => Framed rest [] (ended rest)
  | some e => ∀ more, Framed (rest ++ more) [] (.error e)

/-- What serving octets comes to, given the frames among them. -/
structure Served.Sound (d : Bytes) (fs : List Bytes) (v : Served) : Prop where
  octets : d = fs.flatten ++ v.rest
  frames : ∀ f ∈ fs, IsFrame f
  answered : Answered fs v.events
  sent : ∀ p, .send p ∈ v.events → p.Transmissible
  stopped : Stopped v.rest v.failure

/-- Serving that stops at once has answered nothing. -/
theorem Served.Sound.idle (s : Session) {failure : Option Error}
    (h : Stopped d failure) :
    Sound d [] (.idle s d failure) :=
  ⟨rfl, nofun, .nil, nofun, h⟩

/-- **What has arrived is cut into frames, and they are answered.** By
induction on what is left, since every frame takes ten octets at least. -/
theorem exists_sound_serve (s : Session) (now : Instant) (d : Bytes) :
    ∃ fs, (s.serve now d).Sound d fs := by
  fun_induction serve s now d with
  | case1 s d h => exact ⟨[], .idle s (sound_of_cut h)⟩
  | case2 s d h => exact ⟨[], .idle s (sound_of_cut h)⟩
  | case3 s d m h =>
    obtain ⟨hlen, hm, t, rfl⟩ := sound_of_cut h
    refine ⟨[], .idle s fun more => .foreign ?_ hm⟩
    show _ ≤ ((m :: t) ++ more).length
    rw [List.length_append]
    exact Nat.le_trans hlen (Nat.le_add_right _ _)
  | case4 s d f rest h turn done e hdone =>
    -- There is nothing to be sent that cannot be written.
    cases hdone.symm.trans (carryOut_answer s f now)
  | case5 s d f rest h turn done hdone _ more ih =>
    obtain ⟨hf, rfl⟩ := sound_of_cut h
    obtain rfl := congrArg Prod.fst (hdone.symm.trans (carryOut_answer s f now))
    obtain ⟨fs, hfs⟩ := ih
    refine ⟨f :: fs, ?_, List.forall_mem_cons.2 ⟨hf, hfs.frames⟩,
      .cons (answers_answer hf s now) hfs.answered, fun p hp => ?_, hfs.stopped⟩
    · rw [List.flatten_cons, List.append_assoc]
      exact congrArg (f ++ ·) hfs.octets
    · rcases List.mem_append.1 hp with hp | hp
      · exact transmissible_of_mem_answer hp
      · exact hfs.sent p hp

end Session

/-! ## The whole of a connection -/

/-- Octets that arrive: when, what the clock on the wall shows, and which. -/
structure Arrival where
  time : Nat
  now : Instant
  octets : Bytes

namespace Connection

open Session

/-- Octets arrive one after the other. -/
def receiveAll (c : Connection) : List Arrival → Connection × List Event
  | [] => (c, [])
  | a :: rest =>
    let (next, events) := c.receive a.time a.now a.octets
    let (last, more) := next.receiveAll rest
    (last, events ++ more)

/-- The first octets to arrive are dealt with before the others do. -/
theorem receiveAll_cons (c : Connection) (a : Arrival)
    (arrivals : List Arrival) :
    c.receiveAll (a :: arrivals)
      = (((c.receive a.time a.now a.octets).1.receiveAll arrivals).1,
        (c.receive a.time a.now a.octets).2
          ++ ((c.receive a.time a.now a.octets).1.receiveAll arrivals).2) :=
  rfl

theorem not_isClosed {c : Connection} (h : c.result = none) :
    ¬ c.isClosed = true := by
  rw [isClosed, h]
  exact Bool.false_ne_true

theorem isClosed_of_result {c : Connection} {result : Except Error Unit}
    (h : c.result = some result) : c.isClosed = true := by
  rw [isClosed, h]
  rfl

/-- What octets do to a connection that goes on. -/
theorem exists_receive {c : Connection} (hopen : c.result = none) (time : Nat)
    (now : Instant) (d : Bytes) : ∃ next : Connection,
      c.receive time now d
        = (next, (c.session.serve now (c.pending ++ d)).events)
        ∧ next.pending = (c.session.serve now (c.pending ++ d)).rest
        ∧ next.result
          = (c.session.serve now (c.pending ++ d)).failure.map .error := by
  rw [receive, if_neg (not_isClosed hopen)]
  exact ⟨_, rfl, rfl, rfl⟩

theorem receiveAll_of_closed {c : Connection} {result : Except Error Unit}
    (h : c.result = some result) (arrivals : List Arrival) :
    c.receiveAll arrivals = (c, []) := by
  induction arrivals with
  | nil => rfl
  | cons a arrivals ih =>
    rw [receiveAll_cons, receive, if_pos (isClosed_of_result h), ih,
      List.append_nil]

theorem hangUp_of_closed {c : Connection} {result : Except Error Unit}
    (h : c.result = some result) : c.hangUp.result = some result := by
  rw [hangUp, if_pos (isClosed_of_result h), h]

/-- On a connection that goes on, the end of the stream is judged by what was
not answered. -/
theorem hangUp_of_open {c : Connection} (h : c.result = none) :
    c.hangUp.result = some (ended c.pending) := by
  rw [hangUp, if_neg (not_isClosed h)]

/-- What is still to arrive on a connection that goes on is cut together with
what has arrived and was not answered, and both are answered. -/
theorem exists_frames_receiveAll {c : Connection} (hopen : c.result = none)
    (hpending : Framed c.pending [] (ended c.pending))
    (arrivals : List Arrival) :
    ∃ fs result, Framed (c.pending ++ arrivals.flatMap Arrival.octets) fs result
      ∧ (c.receiveAll arrivals).1.hangUp.result = some result
      ∧ Answered fs (c.receiveAll arrivals).2
      ∧ ∀ p, .send p ∈ (c.receiveAll arrivals).2 → p.Transmissible := by
  induction arrivals generalizing c with
  | nil =>
    refine ⟨[], ended c.pending, ?_, hangUp_of_open hopen, .nil, nofun⟩
    rwa [List.flatMap_nil, List.append_nil]
  | cons a arrivals ih =>
    obtain ⟨fs, hserved⟩ :=
      exists_sound_serve c.session a.now (c.pending ++ a.octets)
    obtain ⟨next, hreceive, hrest, hresult⟩ :=
      exists_receive hopen a.time a.now a.octets
    have hstopped := hserved.stopped
    rw [List.flatMap_cons, ← List.append_assoc, hserved.octets, receiveAll_cons,
      hreceive, List.append_assoc]
    cases hfailure :
      (c.session.serve a.now (c.pending ++ a.octets)).failure with
    | some e =>
      -- The connection is over, whatever else arrives.
      rw [hfailure] at hresult hstopped
      rw [receiveAll_of_closed hresult, List.append_nil]
      have hframed :=
        Framed.append hserved.frames
          (hstopped (arrivals.flatMap Arrival.octets))
      rw [List.append_nil] at hframed
      exact ⟨fs, _, hframed, hangUp_of_closed hresult, hserved.answered,
        hserved.sent⟩
    | none =>
      rw [hfailure] at hresult hstopped
      rw [← hrest] at hstopped ⊢
      obtain ⟨gs, result, hframed, hlast, hanswered, hsent⟩ :=
        ih hresult hstopped
      refine ⟨_, result, .append hserved.frames hframed, hlast,
        hserved.answered.append hanswered, fun p hp => ?_⟩
      rcases List.mem_append.1 hp with hp | hp
      · exact hserved.sent p hp
      · exact hsent p hp

/-- **A connection cuts its stream and answers it frame by frame.** Whatever
octets arrive, in whatever pieces and whenever, they fall into frames in the
one way that there is, each frame is answered in turn by packets that arrive,
and once the stream ends the connection has come to the result that is due.

The only results are that the peer is done, that a foreign octet stands where
a packet should begin and that the last packet is not there in full. -/
theorem framed_and_answered (limit : Option Nat) (s : Session)
    (arrivals : List Arrival) :
    ∃ fs result,
      (∀ fs' result', Framed (arrivals.flatMap Arrival.octets) fs' result'
        ↔ fs' = fs ∧ result' = result)
      ∧ ({ start limit with session := s }.receiveAll arrivals).1.hangUp.result
        = some result
      ∧ Answered fs ({ start limit with session := s }.receiveAll arrivals).2
      ∧ ∀ p, .send p ∈ ({ start limit with session := s }.receiveAll arrivals).2
        → p.Transmissible := by
  obtain ⟨fs, result, hframed, hresult, hanswered, hsent⟩ :=
    exists_frames_receiveAll
    (c := { start limit with session := s }) rfl
      (.finished (by decide : 0 < 10)) arrivals
  refine ⟨fs, result, fun fs' result' => ⟨hframed.unique, ?_⟩, hresult,
    hanswered, hsent⟩
  rintro ⟨rfl, rfl⟩
  exact hframed

end Connection

end Telematics
