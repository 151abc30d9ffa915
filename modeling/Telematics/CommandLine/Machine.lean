import Telematics.Receiver.Basic
import Telematics.Terminal.Acknowledgement

/-!
# What a command needs

A command reads and writes files, prints, looks at the clock and uses the
network. It does so through the operations of a `Machine` and nothing else, so
that the same command runs on a real machine and on one that is a value.
-/

namespace Telematics

/-- What a command can ask of the machine that it runs on. -/
class Machine (m : Type → Type) where
  /-- The text of a file, if it can be read. -/
  readFile : String → m (Option String)
  /-- Gives a file a text; says whether that was done. -/
  writeFile : String → String → m Bool
  /-- Makes sure that lines can be added to a file; says whether they can. -/
  openForLines : String → m Bool
  /-- The file of settings that is used if none is named and it is there. -/
  usualConfig : m (Option String)
  print : String → m Unit
  /-- Says why a command did not do its work. -/
  complain : String → m Unit
  now : m Instant
  /-- The address that a name and a port stand for. -/
  findServer : String → m (Option Endpoint)
  /-- Sends a packet, and waits for its acknowledgement for so many seconds. -/
  exchange : Endpoint → Packet → Nat → m (Except Error Acknowledgement)
  /-- Listens at all of these addresses; yields those it listens at. -/
  listen : List Endpoint → m (Except Error (List Endpoint))
  /-- Lets a receiver work until the machine is told to stop it. -/
  serve : Receiver → m QueueStats

end Telematics
