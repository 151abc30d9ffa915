import Telematics.CommandLine.Grammar
import Telematics.Net.Address
import Telematics.Terminal.Sample
import Telematics.Text.Decimal
import Telematics.Time.DurationText

/-!
# Invocations

The command line of the program: flags that every command takes, and four
commands with flags of their own. A flag of every command may stand before the
command or behind it; behind it, it counts.
-/

namespace Telematics.CommandLine

/-- How log lines are written. -/
inductive LogFormat where
  | text
  | json
  deriving DecidableEq, Repr

/-- The format as it is written. -/
def LogFormat.name : LogFormat → String
  | text => "text"
  | json => "json"

/-- What every command takes. -/
structure Shared where
  config : Option String := none
  logLevel : Option String := none
  logFormat : Option LogFormat := none
  noColor : Bool := false

/-- These settings, and those around them where these have none. -/
def Shared.orElse (inner outer : Shared) : Shared where
  config := inner.config <|> outer.config
  logLevel := inner.logLevel <|> outer.logLevel
  logFormat := inner.logFormat <|> outer.logFormat
  noColor := inner.noColor || outer.noColor

/-- How to run a receiver. -/
structure ServeOptions where
  listen : List Endpoint := []
  ttl : Option Duration := none
  seedFile : Option String := none
  readingsFile : Option String := none

/-- What to send, and where to. -/
structure SendOptions where
  server : String := "localhost:5555"
  packetId : UInt16 := 1
  objectId : UInt32 := 1
  time : Option Instant := none
  latitude : Float := 55.75
  longitude : Float := 37.62
  liquidLevel : UInt32 := 0
  kind : SampleKind := .telemetry
  /-- Seconds to wait for the answer. -/
  timeout : Nat := 5

/-- How to thin tracks. -/
structure SimplifyOptions where
  tolerance : Option Float := none
  lookback : Option Duration := none

/-- Where to write settings to. -/
structure ConfigOptions where
  output : Option String := none

/-- What to do. -/
inductive Command where
  | serve (o : ServeOptions)
  | send (o : SendOptions)
  | simplify (o : SimplifyOptions)
  | config (o : ConfigOptions)

/-- A command line that asks for work. -/
structure Invocation where
  shared : Shared
  command : Command

/-! ## Values -/

/-- A value that is read, or is a fault. -/
def readAs (read : String → Option β) (v : String) : Except UsageFault β :=
  match read v with
  | some b => .ok b
  | none => .error .unreadableValue

/-- A value among those that are possible. -/
def chosen (name : β → String) (all : List β) (v : String) :
    Except UsageFault β :=
  match all.find? (name · == v) with
  | some b => .ok b
  | none => .error .invalidValue

/-- The name of a file, which is not empty. -/
def path (v : String) : Except UsageFault String :=
  if v = "" then .error .invalidValue else .ok v

/-- A whole number below a bound, perhaps with a sign. -/
def count? (bound : Nat) (v : String) : Option Nat :=
  match v.toList with
  | '-' :: r => (Text.decimal? r).filter (· = 0)
  | cs => Text.unsigned? bound cs

/-- A whole number below a bound, perhaps with a plus sign. -/
def plainCount? (bound : Nat) (v : String) : Option Nat :=
  Text.unsigned? bound v.toList

/-- A slot for one value. -/
def slot (name : String) (read : String → Except UsageFault β)
    (set : β → α → α) : Slot α where
  name
  enter v x := (read v).map (set · x)

/-- A flag for one value. -/
def option (name : String) (short : Option Char)
    (read : String → Except UsageFault β) (set : β → α → α) : Flag α :=
  ⟨name, short, .value (slot name read set)⟩

/-- A flag for a number, which may be negative. -/
def coordinate (name : String) (set : Float → α → α) : Flag α :=
  ⟨name, none, .value
    { slot name (readAs fun v => Decimal.float? v.toList) set with
      hyphens := true }⟩

/-! ## Grammars -/

/-- The flags of every command. -/
def Shared.flags : List (Flag Shared) :=
  [option "config" (some 'c') path fun v s => { s with config := some v },
   option "log-level" (some 'l') .ok fun v s => { s with logLevel := some v },
   option "log-format" none (chosen LogFormat.name [.text, .json])
     fun v s => { s with logFormat := some v },
   ⟨"no-color", none, .toggle fun s => { s with noColor := true }⟩,
   ⟨"help", some 'h', .help⟩,
   ⟨"version", some 'V', .version⟩]

/-- The flags of a receiver. -/
def ServeOptions.flags : List (Flag ServeOptions) :=
  [⟨"listen", some 'L', .value
     { slot "listen" (readAs fun v => Endpoint.ofText? v.toList)
         fun v o => { o with listen := o.listen ++ [v] } with
           repeats := true }⟩,
   option "connection-ttl" none (readAs Duration.ofWords?) fun v o =>
     { o with ttl := some v },
   option "seed" none path fun v o => { o with seedFile := some v },
   option "readings" none path fun v o => { o with readingsFile := some v }]

/-- The address to send to. -/
def SendOptions.serverSlot : Slot SendOptions :=
  slot "server" .ok fun v o => { o with server := v }

/-- The flags of a sample packet. -/
def SendOptions.flags : List (Flag SendOptions) :=
  [option "pid" none (readAs (count? UInt16.size)) fun v o => { o with
    packetId := UInt16.ofNat v },
   option "oid" none (readAs (count? UInt32.size)) fun v o =>
     { o with objectId := UInt32.ofNat v },
   option "time" none (readAs Instant.ofRfc3339?) fun v o =>
     { o with time := some v },
   coordinate "lat" fun v o => { o with latitude := v },
   coordinate "lon" fun v o => { o with longitude := v },
   option "liquid" none (readAs (count? UInt32.size))
     fun v o => { o with liquidLevel := UInt32.ofNat v },
   option "type" (some 't') (chosen SampleKind.name [.auth, .telemetry, .mixed])
     fun v o => { o with kind := v },
   option "timeout" none (readAs (plainCount? UInt64.size)) fun v o => { o with
     timeout := v }]

/-- The flags of thinning. -/
def SimplifyOptions.flags : List (Flag SimplifyOptions) :=
  [option "tolerance" none (readAs fun v => Decimal.float? v.toList)
     fun v o => { o with tolerance := some v },
   option "lookback" none (readAs Duration.ofWords?) fun v o => { o with
     lookback := some v }]

/-- The flags of writing settings. -/
def ConfigOptions.flags : List (Flag ConfigOptions) :=
  [option "output" (some 'o') path fun v o => { o with output := some v }]

/-- The name of the program. -/
def programName : String := "egts-receiver"

/-- The flags of every command, and its own. -/
def commandGrammar (name : String) (own : List (Flag α))
    (word : Option (Slot α)) : Grammar (Shared × α) where
  title := programName ++ "-" ++ name
  flags := Shared.flags.map (·.within (·.1) fun x s => (s, x.2))
    ++ own.map (·.within (·.2) fun x o => (x.1, o))
  word := word.map (·.within (·.2) fun x o => (x.1, o))
  commands := []

/-- The commands. -/
def commandNames : List String :=
  ["serve", "send", "simplify", "config", "help"]

/-- What stands before a command. -/
def rootGrammar : Grammar Shared :=
  ⟨programName, Shared.flags, none, commandNames⟩

/-! ## Reading -/

/-- A request for help, on the program or one of its commands. -/
def helpOn : List String → UsageFault
  | [] => .help
  | [name] => if commandNames.contains name then .help else .unknownCommand
  | _ => .unknownCommand

/-- The arguments of a command. -/
def readCommand (name : String) (own : List (Flag α)) (word : Option (Slot α))
    (default : α) (args : List String) : Except UsageFault (Shared × α) := do
  let (l, _) ←
    (Level.start (({} : Shared), default)).read
      (commandGrammar name own word) args
  pure (← l.settle).settings

/-- The arguments behind the name of a command. -/
def Command.ofArgs (name : String) (args : List String) :
    Except UsageFault (Shared × Command) :=
  match name with
  | "serve" =>
    (readCommand name ServeOptions.flags none {} args).map fun (s, o) =>
      (s, .serve o)
  | "send" =>
    (readCommand name SendOptions.flags (some SendOptions.serverSlot) {}
      args).map
      fun (s, o) => (s, .send o)
  | "simplify" =>
    (readCommand name SimplifyOptions.flags none {} args).map fun (s, o) =>
      (s, .simplify o)
  | "config" =>
    (readCommand name ConfigOptions.flags none {} args).map fun (s, o) =>
      (s, .config o)
  | _ => .error (helpOn args)

/-- **The invocation that arguments ask for.** -/
def Invocation.ofArgs (args : List String) : Except UsageFault Invocation := do
  match ← (Level.start ({} : Shared)).read rootGrammar args with
  | (l, some (name, r)) =>
    let (inner, command) ← Command.ofArgs name r
    let l ← l.settle
    pure ⟨inner.orElse l.settings, command⟩
  | (l, none) =>
    let l ← l.settle
    .error (if l.given.isEmpty then .helpForNothing else .missingCommand)

end Telematics.CommandLine
