import Telematics.Session.Serve

/-!
# A connection in time

A connection reads ten octets, then the rest of a packet, and each of the two
reads has to end within a limit from its start. A connection is therefore a
session, the octets that have arrived for the present read, and the moment
the read began; time is counted in milliseconds since the connection was
opened.

Octets that arrive at the very moment the limit is reached still count.
-/

namespace Telematics

/-- A connection. -/
structure Connection where
  session : Session
  /-- How long a read may take. -/
  limit : Option Nat
  /-- The octets that have arrived and are not answered. -/
  pending : Bytes
  /-- When the present read began. -/
  since : Nat
  /-- How the connection ended, if it did. -/
  result : Option (Except Error Unit)

namespace Connection

/-- A connection at its start. -/
def start (limit : Option Nat) : Connection := ⟨.new, limit, [], 0, none⟩

/-- The connection is over. -/
def isClosed (c : Connection) : Bool := c.result.isSome

/-- The first ten octets of a packet have been read. -/
def inBody (c : Connection) : Bool := fixedHeaderSize ≤ c.pending.length

/-- Octets arrive, and what is done about them. A read that they end gives way
to the next. -/
def receive (c : Connection) (time : Nat) (now : Instant) (d : Bytes) :
    Connection × List Session.Event :=
  if c.isClosed then (c, [])
  else
    let served := c.session.serve now (c.pending ++ d)
    let next : Connection :=
      { c with
        session := served.session
        pending := served.rest
        result := served.failure.map .error }
    -- Octets that end neither a header nor a packet win no time.
    let since :=
      if served.count = 0 ∧ next.inBody = c.inBody then c.since else time
    ({ next with since }, served.events)

/-- The peer sends no more. -/
def hangUp (c : Connection) : Connection :=
  if c.isClosed then c else { c with result := some (Session.ended c.pending) }

/-- Time passes up to a moment. -/
def elapse (c : Connection) (time : Nat) : Connection :=
  if c.isClosed then c
  else
    match c.limit with
    | some limit =>
      if c.since + limit < time then
        { c with result := some (.error .connectionTimeout) }
      else c
    | none => c

end Connection

end Telematics
