import Admission.Fault

/-! # The worker pool

The size of a pool, and its permits, its queue and its workers.
-/

namespace Admission.Pool

/-! ## The size of a pool

A pool has workers and waiting room. Both sizes are words of 64 bits, and their
sum must not exceed the number of permits a semaphore can hold; `capacity` is the
exact sum for every size that `validate` accepts.
-/

/-- The greatest number of permits a semaphore can hold. -/
def maxPermits : UInt64 := 2305843009213693951

/-- How large a pool is. -/
structure Config where
  workers : UInt64 := 8
  /-- How many more may wait. -/
  queueSize : UInt64 := 64
  deriving DecidableEq, Repr

namespace Config

/-- The sum of two words, or the greatest word where the sum does not fit. -/
def saturatingAdd (a b : UInt64) : UInt64 :=
  if a.toNat + b.toNat < UInt64.size then a + b else 0xFFFFFFFFFFFFFFFF

/-- How many jobs may be queued or in progress at the same time. -/
def capacity (config : Config) : UInt64 :=
  saturatingAdd config.workers config.queueSize

def oversized : String :=
  "workers + queue_size must not exceed " ++ toString maxPermits.toNat

/-- A pool needs a worker, and its capacity must be a number of permits. -/
def validate (config : Config) : Except AppFault Unit :=
  if config.workers = 0 then .error (.config "worker count must be at least 1")
  else if config.workers.toNat + config.queueSize.toNat ≤ maxPermits.toNat then .ok ()
  else .error (.config oversized)

end Config

end Admission.Pool

namespace Admission

/-! ## Permits, queue and workers

A pool is a bounded queue, a fixed roster of workers, and as many permits as the
two have room for. A job holds a permit from its acceptance until the worker that
had it is free again, so queued and held jobs together never exceed the capacity.

Everything a pool does is one of the steps below. Submitting and closing come
from outside; the other steps are the workers': `take` a job off the queue,
`finish` it, `release` its permit, and `leave` once the pool is closed and the
queue is empty. No step waits; a step that is not available is not offered.
-/

/-- What a worker is doing. -/
inductive Worker (α : Type) where
  | idle
  | busy (job : α)
  /-- Done with a job whose permit is still out. -/
  | spent (job : α)
  /-- Gone; the pool was closed and drained. -/
  | gone
  deriving DecidableEq, Repr

namespace Worker

variable {α β : Type}

/-- The job a worker holds a permit for. -/
def holds : Worker α → Option α
  | busy job => some job
  | spent job => some job
  | idle => none
  | gone => none

def isGone : Worker α → Bool
  | gone => true
  | _ => false

def map (f : α → β) : Worker α → Worker β
  | idle => idle
  | busy job => busy (f job)
  | spent job => spent (f job)
  | gone => gone

end Worker

/-- What becomes of a submission. A job that is not accepted comes back. -/
inductive Submission (α : Type) where
  | accepted
  /-- Every in-flight slot is taken. -/
  | full (job : α)
  /-- The pool is closed. -/
  | closed (job : α)
  deriving DecidableEq, Repr

/-- A bounded queue with its workers and permits. -/
structure Pool (α : Type) where
  config : Pool.Config
  isOpen : Bool
  /-- Permits that no job holds. -/
  free : Nat
  /-- Accepted jobs that no worker has taken, the oldest first. -/
  queue : List α
  workers : List (Worker α)
  deriving DecidableEq, Repr

namespace Pool

variable {α β : Type}

def start (config : Config) : Pool α :=
  { config
    isOpen := true
    free := config.capacity.toNat
    queue := []
    workers := List.replicate config.workers.toNat .idle }

/-- How many jobs the queue has room for. -/
def room (pool : Pool α) : Nat :=
  pool.config.capacity.toNat

/-- Jobs that were accepted and are not done with. -/
def inFlight (pool : Pool α) : Nat :=
  pool.config.capacity.toNat - pool.free

def drained (pool : Pool α) : Bool :=
  pool.workers.all Worker.isGone

/-- The jobs that workers hold a permit for. -/
def held (pool : Pool α) : List α :=
  pool.workers.filterMap Worker.holds

/-- What the queue answers to a job that has a permit. -/
inductive Send (α : Type) where
  | sent (pool : Pool α)
  | noRoom
  | disconnected

/-- Puts a job at the end of the queue, if there is room and a worker left. -/
def send (pool : Pool α) (job : α) : Send α :=
  if pool.drained then .disconnected
  else if pool.room ≤ pool.queue.length then .noRoom
  else .sent { pool with queue := pool.queue ++ [job] }

/-- Submits a job without ever waiting. The permit is taken before the queue is
tried, and given back when the queue does not take the job. -/
def submit (pool : Pool α) (job : α) : Submission α × Pool α :=
  if !pool.isOpen then (.closed job, pool)
  else if pool.free = 0 then (.full job, pool)
  else
    match pool.send job with
    | .sent next => (.accepted, { next with free := next.free - 1 })
    | .noRoom => (.full job, pool)
    | .disconnected => (.closed job, pool)

def close (pool : Pool α) : Pool α :=
  { pool with isOpen := false }

def setWorker (pool : Pool α) (index : Nat) (worker : Worker α) : Pool α :=
  { pool with workers := pool.workers.set index worker }

/-- An idle worker takes the oldest job. -/
def take (pool : Pool α) (index : Nat) : Option (Pool α) :=
  match pool.workers[index]?, pool.queue with
  | some .idle, job :: rest => some ({ pool with queue := rest }.setWorker index (.busy job))
  | _, _ => none

/-- A worker is done with its job, however the processing ended. -/
def finish (pool : Pool α) (index : Nat) : Option (Pool α) :=
  match pool.workers[index]? with
  | some (.busy job) => some (pool.setWorker index (.spent job))
  | _ => none

/-- A worker that is done gives the permit back. -/
def release (pool : Pool α) (index : Nat) : Option (Pool α) :=
  match pool.workers[index]? with
  | some (.spent _) => some ({ pool with free := pool.free + 1 }.setWorker index .idle)
  | _ => none

/-- An idle worker leaves a pool that is closed and has nothing queued. -/
def leave (pool : Pool α) (index : Nat) : Option (Pool α) :=
  match pool.workers[index]?, pool.queue with
  | some .idle, [] => if pool.isOpen then none else some (pool.setWorker index .gone)
  | _, _ => none

def map (f : α → β) (pool : Pool α) : Pool β :=
  { config := pool.config
    isOpen := pool.isOpen
    free := pool.free
    queue := pool.queue.map f
    workers := pool.workers.map (Worker.map f) }

end Pool

end Admission
