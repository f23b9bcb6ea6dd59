import Admission.Daemon.CommandLine
import Admission.Log
import Admission.Refusal

/-! # What the daemon tells in its log

The events of a run that are logged, in the order of a run, and the line for each.
-/

namespace Admission.Daemon

/-- What is worth a line in the log. -/
inductive Event where
  | starting
  | exporterStarting (address endpoint : String)
  | workerStarting (index : Nat)
  | poolStarted (workers queueSize capacity : Nat)
  | limited (most rate : Nat)
  | unlimited
  | bound (address : String)
  | ready
  | handling (address : String)
  | workerRunning (index : Nat)
  | accepted (id : Nat)
  | refused (id : Nat) (cause : Refusal)
  | signalled
  | closing (inFlight : Nat)
  | loopStopped
  | listenerReleased
  | poolClosing (workers inFlight : Nat)
  | workerStopped (index : Nat)
  | poolClosed
  | closed
  | complete
  deriving DecidableEq, Repr

namespace Event

def ofDaemon (message : String) : LogLine :=
  { level := .info, target := "tollgate", message }

def ofServer (level : Level) (message : String) (fields : List (String × FieldValue)) : LogLine :=
  { level, target := "tollgate_server::server", message, fields }

def ofPool (message : String) (fields : List (String × FieldValue)) : LogLine :=
  { level := .info, target := "tollgate_core::application::worker::pool", message, fields }

def ofWorker (message : String) (index : Nat) : LogLine :=
  { level := .debug, target := "tollgate_core::application::worker", message,
    fields := [("worker_id", .number index)] }

def line : Event → LogLine
  | starting => ofDaemon ("Tollgate v" ++ version ++ " starting...")
  | exporterStarting address endpoint =>
    { level := .info, target := "tollgate::metrics", message := "Starting metrics exporter",
      fields := [("addr", .word address), ("endpoint", .word endpoint)] }
  | workerStarting index => ofPool "Starting worker" [("worker_id", .number index)]
  | poolStarted workers queueSize capacity =>
    ofPool "Worker pool started" [("workers", .number workers), ("queue_size", .number queueSize),
      ("capacity", .number capacity)]
  | limited most rate =>
    ofServer .info "Rate limiting enabled" [("max_tokens", .number most),
      ("refill_rate", .number rate)]
  | unlimited => ofServer .info "Rate limiting disabled" []
  | bound address => ofServer .info "Server bound" [("addr", .word address)]
  | ready => ofDaemon "System ready. Press Ctrl+C to shutdown"
  | handling address => ofServer .info "Start handling requests" [("addr", .word address)]
  | workerRunning index => ofWorker "Worker started" index
  | accepted id => ofServer .debug "Request accepted" [("conn_id", .number id)]
  | refused id cause =>
    ofServer .info "Request rejected" [("conn_id", .number id), ("reason", .word cause.label)]
  | signalled => ofDaemon "Shutdown signal received. Draining..."
  | closing inFlight => ofServer .info "Closing server" [("in_flight", .number inFlight)]
  | loopStopped => ofServer .info "Accept loop stopped, listener closed" []
  | listenerReleased => ofServer .debug "Accept loop released the listener" []
  | poolClosing workers inFlight =>
    ofPool "Closing worker pool, draining queued jobs" [("workers", .number workers),
      ("in_flight", .number inFlight)]
  | workerStopped index => ofWorker "Worker stopped" index
  | poolClosed => ofPool "Worker pool closed" []
  | closed => ofServer .info "Server closed" []
  | complete => ofDaemon "Shutdown complete."

end Event

end Admission.Daemon
