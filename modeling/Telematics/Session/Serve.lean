import Telematics.Error
import Telematics.Session.Basic

/-!
# Serving a stream of octets

The stream is cut by the length that the first ten octets of a packet
announce, and nothing else about a packet matters for where the next one
begins. `Session.serve` answers all that has arrived in full and keeps the
rest; `Session.run` serves a stream up to its end. A stream may end between
packets or within the first ten octets of one, but not later.
-/

namespace Telematics.Session

/-- The front of a stream. -/
inductive Cut where
  /-- Fewer than ten octets are there. -/
  | noHeader
  /-- The stream is not made of packets. -/
  | foreign (marker : UInt8)
  /-- The packet is not there in full. -/
  | noBody
  | packet (d rest : Bytes)
  deriving DecidableEq, Repr

/-- The octets that are read for a packet: ten at least, even if fewer are
announced. -/
def frameSize (announced : Nat) : Nat := max fixedHeaderSize announced

/-- Looks at the front of a stream. -/
def cut (d : Bytes) : Cut :=
  if d.length < fixedHeaderSize then .noHeader
  else
    match Packet.announcedLength? (d.take fixedHeaderSize) with
    | none => .foreign (d.headD 0)
    | some announced =>
      if d.length < frameSize announced then .noBody
      else .packet (d.take (frameSize announced)) (d.drop (frameSize announced))

theorem length_of_cut {d frame rest : Bytes} (h : cut d = .packet frame rest) :
    rest.length < d.length := by
  simp only [cut] at h
  split at h
  · cases h
  · split at h
    · cases h
    · split at h
      · cases h
      · cases h
        have : 10 ≤ frameSize ‹Nat› := Nat.le_max_left ..
        rw [List.length_drop]
        simp only [fixedHeaderSize] at *
        omega

/-- What serving came to. -/
structure Served where
  session : Session
  /-- The octets that no packet has been made of yet. -/
  rest : Bytes
  /-- What was done, in order. -/
  events : List Event
  /-- The packets that were read, sound or not. -/
  count : Nat
  /-- Why serving cannot go on. -/
  failure : Option Error

namespace Served

/-- Nothing was done, and the octets are left. -/
def idle (s : Session) (rest : Bytes) (failure : Option Error) : Served :=
  ⟨s, rest, [], 0, failure⟩

end Served

/-- The events of a list that take place: all up to the first packet that
cannot be written, and why it cannot. -/
def carryOut : List Event → List Event × Option WireError
  | [] => ([], none)
  | .submit r :: rest =>
    let (done, failure) := carryOut rest
    (.submit r :: done, failure)
  | .send p :: rest =>
    match p.encode with
    | .error e => ([], some e)
    | .ok _ =>
      let (done, failure) := carryOut rest
      (.send p :: done, failure)

/-- **Answers every packet that is there in full.** -/
def serve (s : Session) (now : Instant) (d : Bytes) : Served :=
  match h : cut d with
  | .noHeader => .idle s d none
  | .noBody => .idle s d none
  | .foreign marker => .idle s d (some (.protocol (.notEgts marker)))
  | .packet frame rest =>
    let turn := s.answer frame now
    match carryOut turn.events with
    -- An answer that cannot be written ends the session.
    | (done, some e) => ⟨turn.session, rest, done, 1, some (.protocol e)⟩
    | (done, none) =>
      have : rest.length < d.length := length_of_cut h
      let more := serve turn.session now rest
      { more with
        events := done ++ more.events
        count := more.count + 1 }
termination_by d.length

/-- What the end of a stream means, given the octets that are left. -/
def ended (rest : Bytes) : Except Error Unit :=
  if rest.length < fixedHeaderSize then .ok () else .error .connectionClosed

/-- **Serves a stream up to its end.** -/
def run (s : Session) (now : Instant) (d : Bytes) :
    Except Error Unit × Served :=
  let served := s.serve now d
  (match served.failure with
    | some e => .error e
    | none => ended served.rest,
   served)

end Telematics.Session
