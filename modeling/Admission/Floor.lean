import Admission.Job
import Admission.Pool
import Admission.Processor
import Admission.Task.Live
import Admission.Timeline

/-! # The pool in the course of time

The floor is a pool whose jobs are live tasks, with one clock for all of them, a
gate in front of some of them, and the calls that wait for the pool to drain.

`workerStride`, `gateStride` and `closingStride` are what can happen without time
passing; they make the floor a timeline, on which time moves only from a settled
state and never past the next event. Every stride makes `work` smaller.
-/

namespace Admission

/-- A job on its way through the pool. -/
structure Errand where
  number : Nat
  job : Job
  live : Live Outcome

/-- A job that is over. -/
structure Ending where
  number : Nat
  id : Nat
  /-- None when the processing broke off. -/
  outcome : Option Outcome
  record : Record
  instant : Nat
  deriving DecidableEq, Repr

/-- A call that closes the pool and waits for it to drain. -/
inductive Closing where
  | draining
  | returned
  deriving DecidableEq, Repr

namespace Errand

def waiting (number : Nat) (job : Job) (task : Task Outcome) (conn : Connection) : Errand :=
  ⟨number, job, ⟨task, conn, 0, 0⟩⟩

/-- The job as a worker takes it at an instant. -/
def begun (errand : Errand) (now : Nat) : Errand :=
  { errand with live := Live.enter errand.live.task errand.live.conn now }

def goneOn (errand : Errand) (live : Live Outcome) : Errand :=
  { errand with live }

/-- Whether the processing breaks off before anything else. -/
def breaksOff (errand : Errand) : Bool :=
  match errand.live.task with
  | .crash => true
  | _ => false

/-- How the job ended. A job that broke off drops its connection on the way
out. -/
def ending (errand : Errand) (outcome : Option Outcome) (instant : Nat) : Ending :=
  let conn := errand.live.conn
  { number := errand.number
    id := errand.job.id
    outcome
    record := if outcome.isSome then conn.record else conn.dropped.record
    instant }

end Errand

/-- The pool with its clock, its gate and the calls that close it. -/
structure Floor where
  processor : Processor
  pool : Pool Errand
  now : Nat := 0
  /-- Permits that lie at the gate. -/
  permits : Nat := 0
  /-- Jobs whose processing began and did not break off at once. -/
  started : Nat := 0
  /-- The calls that close the pool, the first one first. -/
  closings : List Closing := []
  /-- The jobs that are over, the first one first. -/
  endings : List Ending := []

namespace Floor

def noRuntime : String :=
  "worker pool needs a Tokio runtime: there is no reactor running, "
    ++ "must be called from the context of a Tokio 1.x runtime"

/-- A floor with a new pool. It needs a size that makes sense, and a runtime for its
workers. -/
def start (config : Pool.Config) (processor : Processor) (runtime : Bool) :
    Except AppFault Floor :=
  match config.validate with
  | .error fault => .error fault
  | .ok () =>
    if runtime then .ok { processor, pool := Pool.start config }
    else .error (.internal noRuntime)

/-- Submits a job with its connection; a job that comes back still has it. -/
def submit (floor : Floor) (number : Nat) (job : Job) (conn : Connection) :
    Submission Errand × Floor :=
  let errand := Errand.waiting number job (floor.processor.task job.id) conn
  let (answer, pool) := floor.pool.submit errand
  (answer, { floor with pool })

/-- Lets `count` more jobs through the gate, now or when they come. Without a gate
nothing changes. -/
def release (floor : Floor) (count : Nat) : Floor :=
  { floor with permits := floor.permits + count }

/-- A call that closes the pool. The first one waits for the workers; a later one
finds nothing to wait for. -/
def close (floor : Floor) : Floor :=
  let call := if floor.pool.isOpen then Closing.draining else .returned
  { floor with pool := floor.pool.close, closings := floor.closings ++ [call] }

def workerStride (floor : Floor) (index : Nat) : Option Floor :=
  match floor.pool.workers[index]? with
  | none => none
  | some .gone => none
  | some (.spent _) => (floor.pool.release index).map fun pool => { floor with pool }
  | some .idle =>
    match floor.pool.take index with
    | none => (floor.pool.leave index).map fun pool => { floor with pool }
    | some pool =>
      match pool.workers[index]? with
      | some (.busy errand) =>
        some { floor with
          pool := pool.setWorker index (.busy (errand.begun floor.now))
          started := floor.started + if errand.breaksOff then 0 else 1 }
      | _ => none
  | some (.busy errand) =>
    match errand.live.prospect with
    | .gate => none
    | .finished outcome =>
      (floor.pool.finish index).map fun pool =>
        { floor with
          pool
          endings := floor.endings ++ [errand.ending outcome floor.now] }
    | .event due after =>
      if due ≤ floor.now then
        some { floor with pool := floor.pool.setWorker index (.busy (errand.goneOn after)) }
      else none

/-- The first of the workers from `index` on that can do something, and what comes
of it. -/
def workersStride (floor : Floor) : (count index : Nat) → Option Floor
  | 0, _ => none
  | count + 1, index =>
    match floor.workerStride index with
    | some next => some next
    | none => floor.workersStride count (index + 1)

/-- The workers whose jobs wait at the gate, with those jobs. -/
def atGate (floor : Floor) : List (Nat × Errand) :=
  (floor.pool.workers.zipIdx).filterMap fun (worker, index) =>
    match worker with
    | .busy errand => if errand.live.atGate then some (index, errand) else none
    | _ => none

/-- The one of two waiting jobs whose connection came first. -/
def earlier (first second : Nat × Errand) : Nat × Errand :=
  if second.2.number < first.2.number then second else first

/-- A permit goes to the job that has waited longest. Jobs are taken in the order
in which they were accepted, so that is the one whose connection came first. -/
def gateStride (floor : Floor) : Option Floor :=
  match floor.permits, floor.atGate with
  | permits + 1, first :: others =>
    let (index, errand) := others.foldl earlier first
    some { floor with
      permits
      pool := floor.pool.setWorker index
        (.busy (errand.goneOn (errand.live.letThrough floor.now))) }
  | _, _ => none

/-- A call that waits for the drain returns once every worker is gone. -/
def closingStride (floor : Floor) : Option Floor :=
  if floor.closings.contains .draining ∧ floor.pool.drained then
    some { floor with closings := floor.closings.map fun _ => .returned }
  else none

/-- Something that can happen at this instant, if anything can. -/
def stride (floor : Floor) : Option Floor :=
  (floor.workersStride floor.pool.workers.length 0).orElse fun _ =>
    floor.gateStride.orElse fun _ => floor.closingStride

/-- How many strides a worker still has before it. -/
def workerWork : Worker Errand → Nat
  | .idle => 1
  | .busy errand => errand.live.work + 3
  | .spent _ => 2
  | .gone => 0

/-- A bound on the strides that are still to come. -/
def work (floor : Floor) : Nat :=
  (floor.pool.queue.map fun errand => errand.live.work + 4).foldr (· + ·) 0
    + (floor.pool.workers.map workerWork).foldr (· + ·) 0
    + floor.closings.count .draining

def nextDue (floor : Floor) : Option Nat :=
  (floor.pool.workers.filterMap fun worker =>
    match worker with
    | .busy errand => errand.live.due
    | _ => none).min?

instance : Timeline Floor where
  now := Floor.now
  moveTo instant floor := { floor with now := instant }
  stride := Floor.stride
  nextDue := Floor.nextDue
  work := Floor.work

def inFlight (floor : Floor) : Nat :=
  floor.pool.inFlight

/-- The jobs that a processor which counts has started. -/
def countedStarts (floor : Floor) : Nat :=
  if floor.processor.counts then floor.started else 0

/-- The jobs that a processor which counts has finished. -/
def countedEnds (floor : Floor) : Nat :=
  if floor.processor.counts then floor.endings.countP fun ending => ending.outcome.isSome else 0

end Floor

end Admission
