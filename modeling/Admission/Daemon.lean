import Admission.Daemon.Event
import Admission.Exporter
import Admission.Log
import Admission.Server.Session
import Admission.Settings

/-! # The daemon

The daemon reads its arguments and its settings, binds the metrics exporter and the
server, serves until it is told to shut down, and drains. `run` follows all of it on a
given machine; what goes wrong before the server is up ends the run with a report on
the error output.
-/

namespace Admission

/-- The machine a daemon runs on. -/
structure Machine where
  network : Network
  resolve : Resolver := .loopback
  /-- The files in the working directory. -/
  files : Keyed String := []
  environment : Keyed String := []

namespace Daemon

/-- How a run ended. -/
structure Ending where
  code : Nat := 0
  /-- What was written to the output apart from the log. -/
  output : String := ""
  complaint : String := ""
  format : LogFormat := .pretty
  /-- The lines that the filter let through. -/
  log : List LogLine := []
  /-- What the clients received. -/
  answers : List String := []
  deriving Repr

/-- The report of a failure: what was being done, and what was behind it. Several causes
are numbered. -/
def report (failure : String) (causes : List String) : String :=
  let shown :=
    match causes with
    | [] => ""
    | [cause] => "\nCaused by:\n    " ++ cause ++ "\n"
    | _ =>
      "\nCaused by:\n" ++ String.join (causes.zipIdx.map fun (cause, index) =>
        "    " ++ toString index ++ ": " ++ cause ++ "\n")
  "Error: " ++ failure ++ "\n" ++ shown

def failed (failure : String) (causes : List String) : Ending :=
  { code := 1, complaint := report failure causes }

/-- The variable that overrides the filter of the settings. -/
def filterVariable : String := "RUST_LOG"

/-- The filter of the log: from the environment where it is one, else from the
settings. -/
def logFilter (machine : Machine) (settings : Settings) : Except FilterFault LogFilter :=
  match (machine.environment.find? filterVariable).map LogFilter.read with
  | some (.ok filter) => .ok filter
  | _ => LogFilter.read settings.log.filter

def exporterAddress (settings : Settings) : String :=
  "0.0.0.0:" ++ toString settings.metrics.port.toNat

def bindExporter (settings : Settings) (network : Network) : Except IoFault Network :=
  if settings.metrics.enabled then network.listen settings.metrics.port else .ok network

/-- What the exporter tells: its start, unless its endpoint cannot be served. -/
def exporterEvents (settings : Settings) : List Event :=
  if settings.metrics.enabled then
    match Exporter.at? settings.metrics.endpoint with
    | .ok exporter => [.exporterStarting (exporterAddress settings) exporter.endpoint]
    | .error _ => []
  else []

def startEvents (config : Server.Config) : List Event :=
  let workers := List.range config.workers.toNat
  let limit :=
    if config.isLimited then .limited config.tokenLimit.toNat config.tokenRate.toNat
    else .unlimited
  workers.map .workerStarting
    ++ [.poolStarted config.workers.toNat config.queueSize.toNat config.pool.capacity.toNat,
      limit, .bound config.address, .ready, .handling config.address]
    ++ workers.map .workerRunning

def drainEvents (config : Server.Config) (inFlight : Nat) : List Event :=
  let workers := List.range config.workers.toNat
  [.signalled, .closing inFlight, .loopStopped, .listenerReleased,
      .poolClosing config.workers.toNat inFlight]
    ++ workers.map .workerStopped ++ [.poolClosed, .closed, .complete]

/-- What is told about the connection that was dispatched last. -/
def admissionEvent (server : Server Float) : Event :=
  let number := server.dispatched - 1
  let away := server.turnedAway.find? fun away => away.number = number
  let going := server.rejections.find? fun rejection => rejection.number = number
  match (away.map TurnedAway.cause).orElse fun _ => going.map Rejection.cause with
  | none => .accepted server.dispatched
  | some cause => .refused server.dispatched cause

/-- Serves clients, one after the other; answers what they received and what is told
about them. A client that does not get through receives nothing. -/
def serveClients (session : Session Float) :
    List Client → List String × List Event × Session Float
  | [] => ([], [], session)
  | client :: rest =>
    match session.connect client with
    | .error _ => serveClients session rest
    | .ok connected =>
      let event := admissionEvent connected.server
      match connected.read (connected.numbers.length - 1) with
      | none => serveClients connected rest
      | some (text, after) =>
        let (texts, events, session) := serveClients after rest
        (text :: texts, event :: events, session)

/-- A run from the point where the settings are known. -/
def runWith (machine : Machine) (settings : Settings) (filter : LogFilter)
    (clients : List Client) : Ending :=
  let format := settings.log.format
  let written (events : List Event) : List LogLine :=
    (events.map Event.line).filter filter.allows
  let stopped (failure : String) (causes : List String) : Ending :=
    { failed failure causes with format, log := written [.starting] }
  match bindExporter settings machine.network with
  | .error fault =>
    stopped ("binding metrics exporter on " ++ exporterAddress settings) [fault.message]
  | .ok network =>
    let config := settings.serverConfig
    let processor : Processor :=
      { handling := .serve (Server.Config.millis config.readTimeout)
          (Server.Config.millis config.writeTimeout) }
    match Server.bindOn network config processor true machine.resolve with
    | .error fault =>
      stopped "starting server"
        (fault.message :: (fault.source.map IoFault.message).toList)
    | .ok server =>
      let (answers, admissions, session) := serveClients (Session.start network server) clients
      let inFlight := session.server.floor.inFlight
      { format
        answers
        log := written (.starting :: exporterEvents settings ++ startEvents config ++ admissions
          ++ drainEvents config inFlight) }

/-- The variables that a run looks at. -/
def variableNames : List String :=
  pathVariable :: filterVariable :: Settings.Environment.names

/-- The files that a run may look at, by the path of its settings file. -/
def fileNames (path : String) : List String :=
  let name := Settings.plainPath path
  name :: Settings.FileForm.all.map fun form => name ++ "." ++ form.ending

/-- A run that serves, with the path of the settings file where an argument gave it. -/
def serve (machine : Machine) (given : Option String) (clients : List Client) : Ending :=
  match pathOf given (machine.environment.find? pathVariable) with
  | .error fault => { code := 2, complaint := fault.message }
  | .ok path =>
    match Settings.load machine.files machine.environment path with
    | .error mistake => failed (Settings.loadContext path) mistake.message?.toList
    | .ok settings =>
      match logFilter machine settings with
      | .error fault => failed fault.message fault.causes
      | .ok filter => runWith machine settings filter clients

/-- A run: the arguments say what is wanted, and clients come before the daemon is told
to shut down. -/
def run (machine : Machine) (arguments : List String) (clients : List Client) : Ending :=
  match Request.ofArguments arguments with
  | .error fault => { code := 2, complaint := fault.message }
  | .ok .showVersion => { output := versionText }
  | .ok .showHelp => { output := helpText (machine.environment.find? pathVariable) }
  | .ok (.run given) => serve machine given clients

end Daemon

end Admission
