import Admission.Job

/-! # Tasks

A task is the program that serves one connection: a tree of calls, each under its
own limit, which goes on according to how the call ended. `Task.run` is the task
on its own: it answers the result, the milliseconds it took and the connection
afterwards. `Admission.Task.Live` runs the same program one beat at a time, so
that many can share one clock.
-/

namespace Admission

/-- A call that a task makes on its connection. -/
inductive Request where
  /-- One read of at most `room` bytes. -/
  | read (room limit : Nat)
  | write (bytes : List UInt8) (limit : Nat)
  | shutdown (limit : Nat)
  deriving DecidableEq, Repr

namespace Request

def limit : Request → Nat
  | read _ limit => limit
  | write _ limit => limit
  | shutdown limit => limit

/-- The call made on a connection that nobody else uses. -/
def perform (conn : Connection) : Request → Ended
  | read room limit => conn.read room limit
  | write bytes limit => conn.write bytes limit
  | shutdown limit => conn.shutdown limit

end Request

/-- The program that serves one connection. -/
inductive Task (α : Type) where
  | finish (result : α)
  /-- Makes a call and goes on according to how it ended. -/
  | ask (request : Request) (next : Reply → Task α)
  | drop (next : Task α)
  /-- Waits for a permit at the gate. -/
  | pass (next : Task α)
  /-- Breaks off; the connection is dropped on the way out. -/
  | crash

/-- A task that has come to its end: its result, or none when it broke off, the
milliseconds it took, and its connection. -/
structure Run (α : Type) where
  result : Option α
  took : Nat
  conn : Connection
  deriving DecidableEq, Repr

namespace Task

variable {α β : Type}

/-- Goes on with another task after this one. -/
def andThen : Task α → (α → Task β) → Task β
  | finish result, next => next result
  | ask request cont, next => ask request fun reply => (cont reply).andThen next
  | drop cont, next => drop (cont.andThen next)
  | pass cont, next => pass (cont.andThen next)
  | crash, _ => crash

/-- The task on its own. A permit is there when the task wants one. -/
def run : Task α → Connection → Run α
  | finish result, conn => ⟨some result, 0, conn⟩
  | ask request next, conn =>
    let ended := request.perform conn
    let rest := (next ended.reply).run ended.conn
    { rest with took := ended.took + rest.took }
  | drop next, conn => next.run conn.dropped
  | pass next, conn => next.run conn
  | crash, conn => ⟨none, 0, conn.dropped⟩

def depth : Task α → Nat
  | finish _ => 0
  | ask _ next =>
    max (max (next .done).depth (next .ended).depth) (max (next .failed).depth (next .late).depth)
      + 1
  | drop next => next.depth + 1
  | pass next => next.depth + 1
  | crash => 1

/-- Whatever the reply, what follows a call is shorter. -/
theorem depth_next_lt (request : Request) (next : Reply → Task α) (reply : Reply) :
    (next reply).depth < (ask request next).depth := by
  cases reply <;> simp only [depth] <;> omega

end Task

end Admission
