import Std.Async.DNS
import Std.Async.Signal
import Std.Async.TCP
import Std.Async.Timer
import Std.Sync.Mutex
import Std.Time.DateTime.Timestamp
import Telematics.CommandLine.Run
import Telematics.Store.Journal

/-!
# The program on a real machine

Files, the clock, signals and sockets. Everything that is decided is decided
elsewhere: a command asks for one operation after the other, and a receiver at
work is a value behind a lock, which every connection changes by its own
octets.
-/

namespace Telematics.Shell

open Std.Async Std.Net

/-- What is open while a command runs: the sockets that listen. -/
abbrev Action := ReaderT (IO.Ref (List TCP.Socket.Server)) IO

/-! ## Files and time -/

/-- The text of a file, if it can be read. -/
def readFile (path : String) : IO (Option String) := do
  try
    pure (some (← IO.FS.readFile path))
  catch _ => pure none

/-- An action is done without a failure. -/
def succeeds (x : IO Unit) : IO Bool := do
  try
    x
    pure true
  catch _ => pure false

/-- Adds a text to a file, which need not be there. -/
def appendFile (path text : String) : IO Unit := do
  let h ← IO.FS.Handle.mk path .append
  h.putStr text

/-- The file of settings in the directory for them. -/
def usualConfig : IO (Option String) := do
  let directory ← match ← IO.getEnv "XDG_CONFIG_HOME" with
    | some directory => pure (some directory)
    | none => pure ((← IO.getEnv "HOME").map (· ++ "/.config"))
  match directory.map
    (· ++ "/" ++ CommandLine.programName ++ "/config.toml") with
  | some path => pure (if (← readFile path).isSome then some path else none)
  | none => pure none

/-- The clock on the wall. -/
def now : IO Instant := do
  let nanos := (← Std.Time.Timestamp.now).toNanosecondsSinceUnixEpoch.val
  pure ⟨nanos / 1000000000, (nanos % 1000000000).toNat⟩

/-- Milliseconds, for a timer. -/
def milliseconds (n : Nat) : Std.Time.Millisecond.Offset :=
  .ofNat (min n 0x10000000000)

/-! ## Addresses -/

/-- An endpoint as sockets take it. -/
def toSocketAddress (e : Endpoint) : SocketAddress :=
  match e.address with
  | .v4 octets => .v4 ⟨⟨octets⟩, e.port⟩
  | .v6 groups => .v6 ⟨⟨groups⟩, e.port⟩

/-- An endpoint as sockets give it. -/
def ofSocketAddress : SocketAddress → Endpoint
  | .v4 a => ⟨.v4 a.addr.octets, 0, a.port⟩
  | .v6 a => ⟨.v6 a.addr.segments, 0, a.port⟩

/-- The address that a name stands for. -/
def lookUp (host : String) (port : UInt16) : IO (Option Endpoint) := do
  try
    let found ← (DNS.getAddrInfo host (toString port.toNat)).block
    pure (found[0]?.map fun
      | .v4 a => ⟨.v4 a.octets, 0, port⟩
      | .v6 a => ⟨.v6 a.segments, 0, port⟩)
  catch _ => pure none

/-- The address that a name and a port stand for. -/
def findServer (server : String) : IO (Option Endpoint) := do
  match Endpoint.ofText? server.toList with
  | some e => pure (some e)
  | none =>
    let reversed := server.toList.reverse
    let port := (reversed.takeWhile (· ≠ ':')).reverse
    match Text.unsigned? UInt16.size port, reversed.dropWhile (· ≠ ':') with
    | some port, _ :: host =>
      lookUp (String.ofList host.reverse) (UInt16.ofNat port)
    | _, _ => pure none

/-! ## Sending -/

/-- The octets that came in. -/
def octets (d : ByteArray) : Bytes := d.data.toList

/-- The octets that go out. -/
def packed (d : Bytes) : ByteArray := ⟨d.toArray⟩

/-- Reads until the acknowledgement of a packet is there. -/
partial def awaitAcknowledgement (client : TCP.Socket.Client)
  (packetId : UInt16) (d : Bytes) :
    Async (Except Error Acknowledgement) := do
  match Acknowledgement.search packetId d with
  | .found a => pure (.ok a)
  | .failed e => pure (.error (.protocol e))
  | .wait rest =>
    match ← client.recv? 65536 with
    | none => pure (.error .connectionClosed)
    | some more => awaitAcknowledgement client packetId (rest ++ octets more)

/-- Sends a packet and waits for its acknowledgement. -/
def converse (address : Endpoint) (packetId : UInt16) (d : Bytes) :
    Async (Except Error Acknowledgement) := do
  try
    let client ← TCP.Socket.Client.mk
    client.connect (toSocketAddress address)
    client.send (packed d)
    awaitAcknowledgement client packetId []
  catch e => pure (.error (.io (toString e)))

/-- Sends a packet, and waits for its acknowledgement for so many seconds. -/
def exchange (address : Endpoint) (p : Packet) (seconds : Nat) :
    IO (Except Error Acknowledgement) := do
  match p.encode with
  | .error e => pure (.error (.protocol e))
  | .ok d =>
    let timeout : Async (Except Error Acknowledgement) := do
      sleep (milliseconds (1000 * seconds))
      pure (.error .connectionTimeout)
    let _ : Inhabited (Except Error Acknowledgement) :=
      ⟨.error .connectionTimeout⟩
    (Async.race (converse address p.packetId d) timeout).block

/-! ## Receiving -/

/-- Listens at one address. -/
def listenAt (address : Endpoint) : IO (Except Error TCP.Socket.Server) := do
  try
    let server ← TCP.Socket.Server.mk
    server.bind (toSocketAddress address)
    server.listen 1024
    pure (.ok server)
  catch e => pure (.error (.bindFailed address.toText (toString e)))

/-- Listens at all of these addresses. -/
def listen : List Endpoint → Action (Except Error (List Endpoint))
  | [] => pure (.ok [])
  | address :: rest => do
    match ← listenAt address with
    | .error e => pure (.error e)
    | .ok server =>
      (← read).modify (· ++ [server])
      let bound := ofSocketAddress (← server.getSockName)
      pure ((← listen rest).map (bound :: ·))

/-- Changes the receiver, and adds what it has logged to its file. -/
def change (receiver : Std.Mutex Receiver) (f : Receiver → α × Receiver) :
    IO α :=
  receiver.atomically do
    let (a, r) := f (← get)
    let (entries, r) := r.takeLog
    set r
    match r.config.storage.readingsFile with
    | some path =>
      let text :=
        Journal.toText
          (entries.map fun (vehicle, reading) => ⟨vehicle, reading⟩)
      if text ≠ "" then let _ ← (succeeds (appendFile path text) : IO Bool)
    | none => pure ()
    pure a

/-- The octets that come next; none if the peer sends no more, or not in time.
-/
def receiveWithin (client : TCP.Socket.Client) (limit : Option Nat) :
    Async (Option ByteArray) := do
  match limit with
  | none => client.recv? 65536
  | some millis =>
    let late ← Selector.sleep (milliseconds millis)
    Selectable.one #[.case (client.recvSelector 65536) pure,
      .case late fun _ => pure none]

/-- Serves a connection until it is over. -/
partial def serveConnection (receiver : Std.Mutex Receiver)
  (client : TCP.Socket.Client)
    (peer : Address) (opened : Nat) (c : Connection) : Async Unit := do
  let elapsed := (← IO.monoMsNow) - opened
  match ← receiveWithin client (c.limit.map (c.since + · - elapsed)) with
  | none => pure ()
  | some d =>
    let elapsed := (← IO.monoMsNow) - opened
    let clock ← now
    let (answer, c) ← change receiver fun r =>
      let (answer, c, r) := r.receive peer c elapsed clock (octets d)
      ((answer, c), r)
    if !answer.isEmpty then client.send (packed answer)
    if !c.isClosed then serveConnection receiver client peer opened c

/-- Serves a connection if it is let in. -/
def serveClient (receiver : Std.Mutex Receiver) (client : TCP.Socket.Client) :
    Async Unit := do
  let peer := (ofSocketAddress (← client.getPeerName)).address
  let opened ← IO.monoMsNow
  match ← change receiver (·.letIn peer) with
  | none => client.shutdown
  | some c =>
    try
      serveConnection receiver client peer opened c
      client.shutdown
    catch _ => pure ()
    change receiver fun r => ((), r.release)

/-- Lets connections in, one after the other. -/
partial def acceptAll (receiver : Std.Mutex Receiver)
  (server : TCP.Socket.Server) :
    Async Unit := do
  let client ← server.accept
  background (try serveClient receiver client catch _ => pure ())
  acceptAll receiver server

/-- Does a job whenever it is due. -/
partial def keepUp (trigger : Trigger) (job : Async Unit) : Async Unit := do
  let clock ← now
  match trigger.nextAfter clock with
  | none => pure ()
  | some next =>
    sleep (milliseconds ((next.since clock).millis + 1))
    job
    keepUp trigger job

/-- The program is told to stop. -/
def stopped (signal : Signal) : Async Unit := do
  let waiter ← Signal.Waiter.mk signal false
  let _ ← await (← waiter.wait)

/-- Lets a receiver work until the program is told to stop. -/
def serve (r : Receiver) : Action QueueStats := do
  let receiver ← Std.Mutex.new r
  let servers ← (← read).get
  (do
    for server in servers do
      background (acceptAll receiver server)
    background (keepUp r.refreshTrigger do
      let _ ← change receiver Receiver.refresh)
    background (keepUp r.thinTrigger do
      let clock ← now
      let _ ← change receiver (·.thin clock))
    Async.race (stopped .sigterm) (stopped .sigint) : Async Unit).block
  let done ← change receiver fun r => (r.stats, r)
  pure done

instance : Machine Action where
  readFile path := readFile path
  writeFile path text := succeeds (IO.FS.writeFile path text)
  openForLines path := succeeds (appendFile path "")
  usualConfig := usualConfig
  print s := do
    let out ← IO.getStdout
    out.putStr s
    out.flush
  complain s := IO.eprint s
  now := now
  findServer server := findServer server
  exchange address p seconds := exchange address p seconds
  listen := listen
  serve := serve

end Telematics.Shell

/-- The program. -/
def main (args : List String) : IO UInt32 := do
  let sockets ← IO.mkRef []
  (Telematics.CommandLine.run args : Telematics.Shell.Action UInt32).run sockets
