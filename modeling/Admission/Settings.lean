import Admission.Host
import Admission.Log
import Admission.Server.Config
import Admission.Settings.Conversion
import Admission.Settings.Sources
import Admission.Settings.Value

/-! # Settings

Settings are three sections of fields, each with a default. A settings file gives
fields other values, and the environment has the last word. `Settings.ofRoot` reads
the fields of what the sources put together; a source that does not mention a field
leaves it alone, and names that mean nothing here are passed over.
-/

namespace Admission

/-- The server's section. Times are in milliseconds. -/
structure ServerSettings where
  /-- The host to listen on, or a URL that names it. -/
  url : String := "127.0.0.1"
  port : UInt16 := 8080
  workers : UInt64 := 8
  queueSize : UInt64 := 64
  tokenRate : UInt32 := 100
  tokenLimit : UInt32 := 200
  readTimeout : UInt64 := 3000
  writeTimeout : UInt64 := 2000
  deriving DecidableEq, Repr

structure MetricsSettings where
  enabled : Bool := true
  port : UInt16 := 9090
  /-- The path that is asked for the metrics. -/
  endpoint : String := "/metrics"
  deriving DecidableEq, Repr

structure LogSettings where
  format : LogFormat := .pretty
  /-- Which lines are written. -/
  filter : String := "tollgate=info"
  deriving DecidableEq, Repr

structure Settings where
  server : ServerSettings := {}
  metrics : MetricsSettings := {}
  log : LogSettings := {}
  deriving DecidableEq, Repr

namespace Settings

/-- The fields of a section that are set, each with the key that messages call it
by. -/
abbrev Fields := Keyed (String × Value)

/-- The fields that a table sets. -/
def fieldsOfTable (whole : Section) (entries : Keyed Value) : Fields :=
  whole.fieldNames.filterMap fun name =>
    (entries.find? name).map fun value => (name, whole.name ++ "." ++ name, value)

/-- The fields that a list sets: its items fill them in order. -/
def fieldsOfList (whole : Section) (items : List Value) : Fields :=
  (whole.fieldNames.zip items).zipIdx.map fun ((name, value), index) =>
    (name, whole.name ++ "[" ++ toString index ++ "]", value)

def fields (whole : Section) : Option Value → Except Mistake Fields
  | none => .ok []
  | some (.table _ entries) => .ok (fieldsOfTable whole entries)
  | some (.list _ items) => .ok (fieldsOfList whole items)
  | some value => .error (.notASection (Found.ofValue value) whole)

/-- The value of a field, or its default where it is not set. -/
def field {α : Type} (fields : Fields) (name : String) (convert : Value → Except Mismatch α)
    (default : α) : Except Mistake α :=
  match fields.find? name with
  | none => .ok default
  | some (key, value) => (convert value).mapError fun mismatch => .mistyped mismatch key

/-- The log format of a name, in any case of letters. -/
def formatOfName (name : String) : Except Mistake LogFormat :=
  match LogFormat.all.find? fun format => Text.lower name = format.name with
  | some format => .ok format
  | none => .error (.unknownFormat name)

/-- The log format that a text or a table of one entry names. -/
def formatOf : Value → Except Mistake LogFormat
  | .atom _ (.text name) => formatOfName name
  | .table _ [(name, _)] => formatOfName name
  | _ => .error .notAFormat

def serverOf (value : Option Value) : Except Mistake ServerSettings := do
  let given ← fields .server value
  let default : ServerSettings := {}
  return {
    url := ← field given "url" Value.toText default.url
    port := ← field given "port" Value.toWord16 default.port
    workers := ← field given "workers" Value.toWord64 default.workers
    queueSize := ← field given "queue_size" Value.toWord64 default.queueSize
    tokenRate := ← field given "token_rate" Value.toWord32 default.tokenRate
    tokenLimit := ← field given "token_limit" Value.toWord32 default.tokenLimit
    readTimeout := ← field given "read_timeout_ms" Value.toWord64 default.readTimeout
    writeTimeout := ← field given "write_timeout_ms" Value.toWord64 default.writeTimeout }

def metricsOf (value : Option Value) : Except Mistake MetricsSettings := do
  let given ← fields .metrics value
  let default : MetricsSettings := {}
  return {
    enabled := ← field given "enabled" Value.toBool default.enabled
    port := ← field given "port" Value.toWord16 default.port
    endpoint := ← field given "endpoint" Value.toText default.endpoint }

def logOf (value : Option Value) : Except Mistake LogSettings := do
  let given ← fields .log value
  let default : LogSettings := {}
  return {
    format := ← match given.find? "format" with
      | none => pure default.format
      | some (_, value) => formatOf value
    filter := ← field given "filter" Value.toText default.filter }

/-- The settings of what the sources put together. -/
def ofRoot (root : Value) : Except Mistake Settings := do
  let sections := root.asTable.2
  return {
    server := ← serverOf (sections.find? Section.server.name)
    metrics := ← metricsOf (sections.find? Section.metrics.name)
    log := ← logOf (sections.find? Section.log.name) }

/-- Puts the entries of a source over what is there. -/
def withSource (root : Value) (origin : Option Origin) (entries : Keyed Datum) : Value :=
  entries.foldl (fun root (key, datum) =>
    (KeyPath.ofKey key).put (.ofDatum origin datum) root) root

/-- What is there before any source. -/
def bare : Value := .table none []

/-- The settings of a TOML document alone. -/
def ofToml (text : String) : Except Mistake Settings :=
  match Toml.read? text with
  | none => .error .unreadable
  | some entries => ofRoot (withSource bare none entries)

/-- The settings of a file, where there is one, and of the environment. -/
def load (files environment : Keyed String) (path : String) : Except Mistake Settings := do
  let filed ←
    match findFile? files path with
    | none => pure bare
    | some file =>
      match file.read? with
      | none => throw .unreadable
      | some entries => pure (withSource bare (some (.file file.name)) entries)
  ofRoot (withSource filed (some .environment) (Environment.entries environment))

/-- What was being done when `load` failed. -/
def loadContext (path : String) : String :=
  "loading settings from " ++ path

/-- The configuration of the server: the host is what the URL names, and times are in
nanoseconds. -/
def serverConfig (settings : Settings) : Server.Config :=
  let server := settings.server
  { host := Host.normalize server.url
    port := server.port
    workers := server.workers
    queueSize := server.queueSize
    tokenRate := server.tokenRate
    tokenLimit := server.tokenLimit
    readTimeout := server.readTimeout.toNat * 1000000
    writeTimeout := server.writeTimeout.toNat * 1000000 }

end Settings

end Admission
