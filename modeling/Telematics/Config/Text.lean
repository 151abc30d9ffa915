import Telematics.Config.Basic
import Telematics.Text.Toml.Parser
import Telematics.Text.Toml.Printer
import Telematics.Time.DurationText

/-!
# The file of settings

A TOML document with a table for each group of settings and an array of tables
for the providers. Names that are not known are passed over, and whatever is
missing has its own value; a value of the wrong kind makes the whole file
unreadable.
-/

namespace Telematics

namespace Toml

/-- A count. -/
def count? (v : Toml) : Option Nat := v.nat? 0x8000000000000000

/-- The number of a month, or another number of thirty-two bits. -/
def month? (v : Toml) : Option Nat := v.nat? UInt32.size

/-- A duration in words. -/
def duration? (v : Toml) : Option Duration := do
  let s ← v.string?
  Duration.ofWords? s

/-- An address and a port, as text. -/
def endpoint? (v : Toml) : Option Endpoint := do
  let s ← v.string?
  Endpoint.ofText? s.toList

/-- A provider. -/
def provider? (v : Toml) : Option Provider := do
  match ← v.fields? ["id", "name", "ip_patterns"] with
  | [id, name, patterns] =>
    pure
      { id := ⟨← id.required (integer? minRowNumber maxRowNumber)⟩
        name := ← name.required string?
        patterns := ← patterns.required (list? string?) }
  | _ => none

/-- A value that is there. -/
def present? (f : Toml → Option α) (v : Toml) : Option (Option α) :=
  (f v).map some

/-- An optional member. -/
def ofOption (name : String) (f : α → Toml) (o : Option α) :
    List (String × Toml) :=
  o.toList.map fun a => (name, f a)

end Toml

namespace Config

open Toml

/-! ## Writing -/

/-- The settings of the listener. -/
def Listener.toToml (l : Listener) : Toml :=
  .table [("listen_addrs", .array (l.addresses.map (.string ·.toText))),
    ("connection_ttl", .string l.ttl.toWords),
    ("max_connections", .integer l.maxConnections)]

/-- The settings of the queue. -/
def Queue.toToml (q : Queue) : Toml :=
  .table [("queue_capacity", .integer q.capacity),
    ("workers", .integer q.workers)]

/-- The months of recording. -/
def Recording.toToml (r : Recording) : Toml :=
  .table [("month_start", .integer r.monthStart),
    ("month_end", .integer r.monthEnd)]

/-- The settings of the jobs. -/
def Jobs.toToml (j : Jobs) : Toml :=
  .table [("timezone", .string j.timezone),
    ("cache_refresh", .string j.cacheRefresh), ("simplify", .string j.simplify),
    ("tolerance", .float j.tolerance),
    ("lookback", .string j.lookback.toWords)]

/-- The settings of the log. -/
def Logging.toToml (l : Logging) : Toml :=
  .table ([("level", .string l.level), ("format", .string l.format)]
    ++ ofOption "file" .string l.file
    ++ ofOption "max_files" (fun n => .integer n) l.maxFiles
    ++ [("color", .boolean l.color)])

/-- The names of the files. -/
def Storage.toToml (s : Storage) : Toml :=
  .table (ofOption "seed_file" .string s.seedFile
    ++ ofOption "readings_file" .string s.readingsFile)

/-- A provider. -/
def providerToToml (p : Provider) : Toml :=
  .table [("id", .integer p.id.val), ("name", .string p.name),
    ("ip_patterns", .array (p.patterns.map .string))]

/-- **The text of a file of settings.** -/
def toText (c : Config) : String :=
  documentText [("server", c.listener.toToml), ("pipeline", c.queue.toToml),
    ("recording", c.recording.toToml), ("schedule", c.jobs.toToml),
    ("logging", c.logging.toToml), ("storage", c.storage.toToml),
    ("providers", .array (c.providers.map providerToToml))]

/-! ## Reading -/

/-- The settings of a listener. -/
def Listener.ofToml? (v : Toml) : Option Listener := do
  match ← v.fields? ["listen_addrs", "connection_ttl", "max_connections"] with
  | [addresses, ttl, maxConnections] =>
    let d : Listener := {}
    pure
      { addresses := ← addresses.withDefault d.addresses (list? endpoint?)
        ttl := ← ttl.withDefault d.ttl duration?
        maxConnections := ← maxConnections.withDefault d.maxConnections count? }
  | _ => none

/-- The settings of a queue. -/
def Queue.ofToml? (v : Toml) : Option Queue := do
  match ← v.fields? ["queue_capacity", "workers"] with
  | [capacity, workers] =>
    let d : Queue := {}
    pure
      { capacity := ← capacity.withDefault d.capacity count?
        workers := ← workers.withDefault d.workers count? }
  | _ => none

/-- The months of recording. -/
def Recording.ofToml? (v : Toml) : Option Recording := do
  match ← v.fields? ["month_start", "month_end"] with
  | [monthStart, monthEnd] =>
    let d : Recording := {}
    pure
      { monthStart := ← monthStart.withDefault d.monthStart month?
        monthEnd := ← monthEnd.withDefault d.monthEnd month? }
  | _ => none

/-- The settings of the jobs. -/
def Jobs.ofToml? (v : Toml) : Option Jobs := do
  match ← v.fields? ["timezone", "cache_refresh", "simplify", "tolerance",
    "lookback"] with
  | [timezone, cacheRefresh, simplify, tolerance, lookback] =>
    let d : Jobs := {}
    pure
      { timezone := ← timezone.withDefault d.timezone string?
        cacheRefresh := ← cacheRefresh.withDefault d.cacheRefresh string?
        simplify := ← simplify.withDefault d.simplify string?
        tolerance := ← tolerance.withDefault d.tolerance float?
        lookback := ← lookback.withDefault d.lookback duration? }
  | _ => none

/-- The settings of the log. -/
def Logging.ofToml? (v : Toml) : Option Logging := do
  match ← v.fields? ["level", "format", "file", "max_files", "color"] with
  | [level, format, file, maxFiles, color] =>
    let d : Logging := {}
    pure
      { level := ← level.withDefault d.level string?
        format := ← format.withDefault d.format string?
        file := ← file.optional (present? string?)
        maxFiles := ← maxFiles.optional (present? count?)
        color := ← color.withDefault d.color boolean? }
  | _ => none

/-- The names of the files. -/
def Storage.ofToml? (v : Toml) : Option Storage := do
  match ← v.fields? ["seed_file", "readings_file"] with
  | [seedFile, readingsFile] =>
    pure
      { seedFile := ← seedFile.optional (present? string?)
        readingsFile := ← readingsFile.optional (present? string?) }
  | _ => none

/-- The settings of a document. -/
def ofToml? (v : Toml) : Option Config := do
  match ← v.fields?
      ["server", "pipeline", "recording", "schedule", "logging", "storage",
        "providers"] with
  | [listener, queue, recording, jobs, logging, storage, providers] =>
    pure
      { listener := ← listener.withDefault {} Listener.ofToml?
        queue := ← queue.withDefault {} Queue.ofToml?
        recording := ← recording.withDefault {} Recording.ofToml?
        jobs := ← jobs.withDefault {} Jobs.ofToml?
        logging := ← logging.withDefault {} Logging.ofToml?
        storage := ← storage.withDefault {} Storage.ofToml?
        providers := ← providers.withDefault [] (list? provider?) }
  | _ => none

/-- The settings of a file. -/
def ofText? (s : String) : Option Config := do
  let members ← Toml.parse? s
  ofToml? (.table members)

/-- **The settings of a file**, if it could be read, that a receiver can run
with. -/
def load (content : Option String) : Except Error Config := do
  match content with
  | none => .error (.config .unreadable)
  | some s =>
    match ofText? s with
    | none => .error (.config .unparsable)
    | some c =>
      c.validate
      pure c

end Config

end Telematics
