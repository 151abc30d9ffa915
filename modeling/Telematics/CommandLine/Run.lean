import Telematics.CommandLine.Invocation
import Telematics.CommandLine.Machine
import Telematics.Config.Text

/-!
# Running a command

Settings come from a file, and what the command line says about the log goes
before them. Each command prints what it did; one that fails says why and
yields a status other than zero: two if the command line was not understood,
101 if a time left the calendar, one otherwise.
-/

namespace Telematics.CommandLine

open Machine

/-- The version of the program. -/
def version : String := "0.3.0"

/-- Why a command did not do its work. -/
inductive Failure where
  | error (e : Error)
  | noSeedFile
  | unwritable (path : String)
  | unresolved (server : String)
  | unacknowledged (e : Error)
  | refused (packetId : UInt16) (result : ResultCode)

/-- The failure in words. -/
def Failure.message : Failure → String
  | error e => e.message
  | noSeedFile => "storage.seed_file is not configured"
  | unwritable path => "cannot write " ++ path
  | unresolved server => server ++ " did not resolve to any address"
  | unacknowledged e => "no acknowledgement: " ++ e.message
  | refused packetId result =>
    "packet " ++ toString packetId.toNat ++ " rejected: " ++ result.describe

/-- A command at work. -/
abbrev Work (m : Type → Type) := ExceptT Failure m

variable {m : Type → Type} [Monad m] [Machine m]

namespace Work

/-- Asks the machine. -/
def ask (x : m α) : Work m α := ExceptT.lift x

/-- A step that may fail. -/
def require (x : Except Error α) : Work m α :=
  match x with
  | .ok a => pure a
  | .error e => throw (.error e)

end Work

open Work

/-- The last part of a path, if it names a file. -/
def fileName? (path : String) : Option String :=
  let parts := (Text.splitAt (· = '/') path.toList).filter fun p => p ≠ []
    ∧ p ≠ ['.']
  (parts.getLast?.filter (· ≠ ['.', '.'])).map String.ofList

/-- The settings, as the command line has them. -/
def settings (s : Shared) : Work m Config := do
  let file ← match s.config with
    | some path => pure (some path)
    | none => ask usualConfig
  let c ← match file with
    | some path => require (Config.load (← ask (readFile path)))
    | none => pure {}
  let logging : Config.Logging :=
    { c.logging with
      level := s.logLevel.getD c.logging.level
      format := (s.logFormat.map LogFormat.name).getD c.logging.format
      color := c.logging.color && !s.noColor }
  match logging.file with
  | some path =>
    if (fileName? path).isNone then
      throw (.error (.config (.described ("Invalid log file path " ++ path))))
  | none => pure ()
  pure { c with logging }

/-- The store of the settings; the file that readings are added to is opened. -/
def openStore (c : Config) : Work m Store := do
  let seed ← match c.storage.seedFile with
    | some path => ask (readFile path)
    | none => pure none
  let store ← require (c.openStore seed)
  match c.storage.readingsFile with
  | some path =>
    if !(← ask (openForLines path))
      then throw (.error (.store (.unavailable path)))
  | none => pure ()
  pure store

/-- The settings of a receiver, as the command line has them. -/
def ServeOptions.override (o : ServeOptions) (c : Config) : Config :=
  { c with
    listener :=
      { c.listener with
        addresses := if o.listen.isEmpty then c.listener.addresses else o.listen
        ttl := o.ttl.getD c.listener.ttl }
    storage := ⟨o.seedFile <|> c.storage.seedFile, o.readingsFile
      <|> c.storage.readingsFile⟩ }

/-- Runs a receiver until it is told to stop. -/
def serve (o : ServeOptions) (c : Config) : Work m Unit := do
  let c := o.override c
  require c.validate
  ask (print ("EGTS receiver " ++ version ++ "\n"))
  let store ← openStore c
  let receiver ← require (Receiver.start c store (← ask now))
  for address in ← require (← ask (listen c.listener.addresses)) do
    ask (print ("  → " ++ address.toText ++ "\n"))
  let stats ← ask (Machine.serve receiver)
  ask (print ("Stopped: saved " ++ toString stats.saved ++ ", skipped "
    ++ toString stats.skipped ++ ", failed " ++ toString stats.failed ++ "\n"))

/-- The packet to send. -/
def SendOptions.sample (o : SendOptions) (now : Instant) : Sample where
  kind := o.kind
  packetId := o.packetId
  objectId := o.objectId
  time := o.time.getD now
  latitude := o.latitude
  longitude := o.longitude
  liquidLevel := o.liquidLevel

/-- Sends a sample packet and looks at its acknowledgement. -/
def send (o : SendOptions) : Work m Unit := do
  match ← ask (findServer o.server) with
  | none => throw (.unresolved o.server)
  | some address =>
    let sample := o.sample (← ask now)
    let number := toString o.packetId.toNat
    ask (print ("Sending " ++ o.kind.name ++ " packet " ++ number ++ " (oid "
      ++ toString o.objectId.toNat ++ ") to " ++ address.toText ++ "\n"))
    match ← ask (exchange address sample.packet o.timeout) with
    | .error e => throw (.unacknowledged e)
    | .ok a =>
      if !a.result.isOk then throw (.refused o.packetId a.result)
      ask (print ("✓ packet " ++ number ++ " acknowledged\n"))
      for s in a.records.flatMap (·.subrecords) do
        ask (print ("  " ++ Acknowledgement.describe s ++ "\n"))

/-- Thins the tracks of the seed file. -/
def simplify (o : SimplifyOptions) (c : Config) : Work m Unit := do
  match c.storage.seedFile with
  | none => throw .noSeedFile
  | some path =>
    let store ← openStore c
    let (report, store) ← require
      (store.thin (o.tolerance.getD c.jobs.tolerance)
        (o.lookback.getD c.jobs.lookback) (← ask now))
    if !(← ask (writeFile path store.contents.toText))
      then throw (.unwritable path)
    ask (print ("✓ " ++ toString report.tracks ++ " tracks, "
      ++ toString report.points
      ++ " points, " ++ toString report.deleted ++ " deleted\n"))
    if 0 < report.failed then
      ask (print ("⚠ " ++ toString report.failed ++ " deletions failed\n"))

/-- Writes settings to start from. -/
def sampleConfig (o : ConfigOptions) : Work m Unit := do
  let text := Config.sample.toText
  match o.output with
  | none => ask (print (text ++ "\n"))
  | some path =>
    if !(← ask (writeFile path text)) then throw (.unwritable path)
    ask (print ("✓ Configuration written to " ++ path ++ "\n"))

/-- Does what an invocation asks for. -/
def Invocation.run (i : Invocation) : Work m Unit := do
  let c ← settings i.shared
  match i.command with
  | .serve o => serve o c
  | .send o => send o
  | .simplify o => simplify o c
  | .config o => sampleConfig o

/-- How the program is called. -/
def usage : String :=
  "Usage: " ++ programName ++ " [OPTIONS] <"
    ++ String.intercalate "|" commandNames ++ ">\n"

/-- The status that a failure ends the program with. -/
def Failure.status : Failure → UInt32
  | error .outOfCalendar => 101
  | _ => 1

/-- **Runs the program** with its arguments; yields its status. -/
def run (args : List String) : m UInt32 := do
  match Invocation.ofArgs args with
  | .error .help =>
    print usage
    pure 0
  | .error (.version title) =>
    print (title ++ " " ++ version ++ "\n")
    pure 0
  | .error _ =>
    complain usage
    pure 2
  | .ok i =>
    match ← i.run.run with
    | .ok () => pure 0
    | .error e =>
      complain ("Error: " ++ e.message ++ "\n")
      pure e.status

end Telematics.CommandLine
