import Telematics.Pipeline.Processing
import Telematics.Session.Connection

/-!
# A connection and the processing behind it

The readings of a connection are processed as they come. The time of the
connection passes only in `Exchange.elapse`; the clock on the wall is set
from outside and stands still otherwise.
-/

namespace Telematics

/-- A connection that is being served. -/
structure Exchange where
  peer : Address
  connection : Connection
  processing : Processing
  /-- Milliseconds since the connection was opened. -/
  time : Nat

namespace Exchange

/-- A connection is opened. -/
def start (peer : Address) (limit : Option Nat) (processing : Processing) :
    Exchange :=
  ⟨peer, .start limit, processing, 0⟩

/-- Octets arrive; the answer is what is sent back. -/
def receive (x : Exchange) (d : Bytes) : Bytes × Exchange :=
  let (connection, events) := x.connection.receive x.time x.processing.clock d
  (Session.Event.octets events,
    { x with
      connection
      processing :=
        x.processing.submitAll
          ((events.filterMap Session.Event.reading?).map (⟨·, x.peer⟩)) })

/-- The peer sends no more. -/
def hangUp (x : Exchange) : Exchange :=
  { x with connection := x.connection.hangUp }

/-- The clock on the wall is set. -/
def setClock (x : Exchange) (now : Instant) : Exchange :=
  { x with processing.clock := now }

/-- Milliseconds pass. -/
def elapse (x : Exchange) (millis : Nat) : Exchange :=
  let time := x.time + millis
  { x with time, connection := x.connection.elapse time }

end Exchange

end Telematics
