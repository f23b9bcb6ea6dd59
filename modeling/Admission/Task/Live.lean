import Admission.Task

/-! # Tasks in the course of time

A live task is a program under way: the connection, the instant of its latest
event and the deadline of the call it is in. `prospect` tells what comes next and
when, and nothing else moves it: an event takes one beat off the connection's
script or ends the call. A call that meets an act exactly at its deadline is in
time.

`work` bounds the events that are still to come, so every task comes to an end.
-/

namespace Admission

/-- A task under way. -/
structure Live (α : Type) where
  task : Task α
  conn : Connection
  /-- The instant of the latest event. -/
  clock : Nat
  /-- When the call in progress has to be over. -/
  deadline : Nat

/-- What comes next for a live task. -/
inductive Prospect (α : Type) where
  | finished (result : Option α)
  | gate
  /-- Nothing happens before the instant `due`, and then the task goes on as
  `after`. -/
  | event (due : Nat) (after : Live α)

namespace Live

variable {α : Type}

/-- The task goes on with a program at an instant; a call gets its deadline. -/
def enter (task : Task α) (conn : Connection) (clock : Nat) : Live α :=
  match task with
  | .ask request _ => ⟨task, conn, clock, clock + request.limit⟩
  | _ => ⟨task, conn, clock, clock⟩

/-- What the front of a script means for a call that has come as far as `clock`
and must be over by `deadline`. -/
inductive Front (β : Type) where
  /-- The call resumes with the rest of the script at a later instant. -/
  | resume (instant : Nat) (rest : Script β)
  | late
  | act (what : β) (rest : Script β)
  | spent

/-- Reads the front of a script. -/
def front {β : Type} (script : Script β) (clock deadline : Nat) : Front β :=
  match script with
  | [] => .spent
  | .wait ms :: rest => if clock + ms ≤ deadline then .resume (clock + ms) rest else .late
  | .stall :: _ => .late
  | .act what :: rest => .act what rest

/-- The event at which a call ends and the task goes on. -/
def reply (next : Reply → Task α) (due : Nat) (how : Reply) (conn : Connection) : Prospect α :=
  .event due (enter (next how) conn due)

def prospect (live : Live α) : Prospect α :=
  let conn := live.conn
  match live.task with
  | .finish result => .finished (some result)
  | .crash => .finished none
  | .pass _ => .gate
  | .drop next => .event live.clock (enter next conn.dropped live.clock)
  | .ask (.read room _) next =>
    match front conn.reads live.clock live.deadline with
    | .resume due rest => .event due { live with conn := { conn with reads := rest }, clock := due }
    | .act what rest =>
      let (how, conn) := conn.readAct room what rest
      reply next live.clock how conn
    | .spent => reply next live.deadline .late conn
    | .late => reply next live.deadline .late conn
  | .ask (.shutdown _) next =>
    match front conn.closing live.clock live.deadline with
    | .resume due rest =>
      .event due { live with conn := { conn with closing := rest }, clock := due }
    | .act what rest =>
      let (how, conn) := conn.closeAct what rest
      reply next live.clock how conn
    | .spent => reply next live.clock .done conn.closed
    | .late => reply next live.deadline .late conn
  | .ask (.write [] _) next => reply next live.clock .done conn
  | .ask (.write (byte :: bytes) limit) next =>
    match front conn.writes live.clock live.deadline with
    | .resume due rest =>
      .event due { live with conn := { conn with writes := rest }, clock := due }
    | .act (.fail kind) rest =>
      if Connection.retried kind then
        .event live.clock { live with conn := { conn with writes := rest } }
      else reply next live.clock .failed { conn with writes := rest }
    | .act (.accept count) rest =>
      if count = 0 then reply next live.clock .failed { conn with writes := rest }
      else
        let all := byte :: bytes
        .event live.clock
          { live with
            task := .ask (.write (all.drop count) limit) next
            conn := { conn.took (all.take count) with writes := rest } }
    | .spent => reply next live.clock .done (conn.took (byte :: bytes))
    | .late => reply next live.deadline .late conn

/-- The task goes through the gate at an instant; any other task stays as it
is. -/
def letThrough (live : Live α) (now : Nat) : Live α :=
  match live.task with
  | .pass next => enter next live.conn now
  | _ => live

/-- When the next event is due, if one is to come without the gate. -/
def due (live : Live α) : Option Nat :=
  match live.prospect with
  | .event due _ => some due
  | _ => none

def atGate (live : Live α) : Bool :=
  match live.task with
  | .pass _ => true
  | _ => false

/-- A bound on the events that are still to come. -/
def work (live : Live α) : Nat :=
  live.task.depth + live.conn.reads.length + live.conn.writes.length + live.conn.closing.length

end Live

end Admission
