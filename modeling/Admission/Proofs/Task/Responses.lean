import Admission.Processor
import Admission.Proofs.Task.Calls

/-! # What a connection gets

A task that responds writes its response once, tries one shutdown and drops the
connection. The peer of a connection that such a task served has a prefix of that
response, and all of it exactly when its script takes all the bytes in time
(`Admission.Connection.Answered`). What a task does to its connection, call by call, is
its list of touches (`Admission.Task.touches`), and nothing else moves the connection
(`Admission.Task.run_conn`).

`Admission.respondTask_answered` says so of a single response, and
`Admission.serveTask_answered` of the task that reads first: the read alone decides
which response it is, and under which limit.

There are five responses (`Admission.Response.texts`), and none of them begins another, so
a peer that has all of one can tell which one it is (`Admission.Response.eq_of_prefix`).
-/

namespace Admission

namespace Response

/-- **The five responses, as they are sent.** -/
theorem texts :
    all.map (fun response => (response.status, response.text)) =
      [(200, "HTTP/1.1 200 OK\r\nConnection: close\r\nContent-Length: 13\r\n\r\nHello world !"),
        (408, "HTTP/1.1 408 Request Timeout\r\nConnection: close\r\nContent-Length: 0\r\n\r\n"),
        (429, "HTTP/1.1 429 Too Many Requests\r\nConnection: close\r\nContent-Length: 19\r\n\r\n"
          ++ "Rate limit exceeded"),
        (503, "HTTP/1.1 503 Service Unavailable\r\nConnection: close\r\nContent-Length: 28\r\n\r\n"
          ++ "Server busy, try again later"),
        (503, "HTTP/1.1 503 Service Unavailable\r\nConnection: close\r\nContent-Length: 20\r\n\r\n"
          ++ "Server shutting down")] := by
  decide +kernel

theorem mem_all (response : Response) : response ∈ all := by
  cases response <;> decide

/-- No response is the beginning of another. -/
theorem eq_of_prefix {first second : Response} (initial : first.bytes <+: second.bytes) :
    first = second := by
  have apart : ∀ first ∈ all, ∀ second ∈ all, first.bytes <+: second.bytes → first = second := by
    decide +kernel
  exact apart first first.mem_all second second.mem_all initial

end Response

namespace Script

instance (script : Script ReadAct) (limit : Nat) : Decidable (script.DeliversWithin limit) :=
  decidable_of_iff _ (Connection.read_done_iff { reads := script } 1 Nat.one_pos limit)

instance (script : Script WriteAct) (size limit : Nat) :
    Decidable (script.TakesWithin size limit) :=
  decidable_of_iff
    ((({} : Connection).writeAlong script (List.replicate size 0) limit).reply = .done)
    (by rw [Connection.writeAlong_done_iff, List.length_replicate])

end Script

namespace Connection

/-- The record of a connection that got one response under a limit, was shut down at
most once, and was dropped once. -/
structure Answered (conn : Connection) (response : Response) (limit : Nat) (record : Record) :
    Prop where
  written : ∃ taken, taken <+: response.bytes ∧ record.written = conn.record.written ++ taken ∧
    (taken = response.bytes ↔ conn.writes.TakesWithin response.bytes.length limit)
  shutdowns : record.shutdowns ≤ conn.record.shutdowns + 1
  drops : record.drops = conn.record.drops + 1

/-- A connection that is answered after a read is answered. -/
theorem Answered.of_read {conn : Connection} (room span : Nat) {limit : Nat}
    {response : Response} {record : Record}
    (answered : (conn.read room span).conn.Answered response limit record) :
    conn.Answered response limit record := by
  obtain ⟨rest, ended, given, -, after⟩ := conn.read_cases room span
  rw [after] at answered
  exact ⟨answered.written, answered.shutdowns, answered.drops⟩

/-- The response that a connection gets from a task that reads first. -/
def response (conn : Connection) (readLimit : Nat) : Response :=
  if conn.reads.DeliversWithin readLimit then .ok else .requestTimeout

/-- The limit under which a connection gets it. -/
def responseLimit (conn : Connection) (readLimit writeLimit : Nat) : Nat :=
  if conn.reads.DeliversWithin readLimit then writeLimit else limits.apology

end Connection

namespace Task

variable {α : Type}

/-- What a task does to its connection. -/
inductive Touch where
  | call (request : Request)
  | drop
  deriving DecidableEq, Repr

def Touch.on (conn : Connection) : Touch → Connection
  | call request => (request.perform conn).conn
  | drop => conn.dropped

/-- All that the task does to its connection, the first call first. -/
def touches : Task α → Connection → List Touch
  | finish _, _ => []
  | ask request next, conn =>
    let ended := request.perform conn
    .call request :: (next ended.reply).touches ended.conn
  | drop next, conn => .drop :: next.touches conn.dropped
  | pass next, conn => next.touches conn
  | crash, _ => [.drop]

/-- The connection is left as what the task did to it leaves it. -/
theorem run_conn (task : Task α) (conn : Connection) :
    (task.run conn).conn = (task.touches conn).foldl Touch.on conn := by
  induction task generalizing conn with
  | finish result => rfl
  | ask request next ih => exact ih _ _
  | drop next ih => exact ih _
  | pass next ih => exact ih _
  | crash => rfl

end Task

/-- A task that responds writes, shuts down and drops. -/
theorem respondTask_touches (response : Response) (limit : Nat) (conn : Connection) :
    (respondTask response limit).touches conn =
      [.call (.write response.bytes limit), .call (.shutdown limits.close), .drop] :=
  rfl

/-- **One response.** A task that responds leaves its connection answered. -/
theorem respondTask_answered (response : Response) (limit : Nat) (conn : Connection) :
    conn.Answered response limit ((respondTask response limit).run conn).conn.record := by
  obtain ⟨taken, rest, initial, wrote, complete⟩ :=
    conn.writeAlong_wrote conn.writes response.bytes limit
  obtain ⟨closing, ended, once, shut⟩ :=
    (conn.write response.bytes limit).conn.shutdown_cases limits.close
  have after : ((respondTask response limit).run conn).conn =
      ((conn.write response.bytes limit).conn.shutdown limits.close).conn.dropped := by
    rw [Task.run_conn, respondTask_touches]
    rfl
  rw [after, shut, Connection.write, wrote]
  refine ⟨⟨taken, initial, rfl, ?_⟩, Nat.add_le_add_left once _, rfl⟩
  rw [← complete]
  exact conn.writeAlong_done_iff conn.writes response.bytes limit

/-- Handling comes to a result unless it breaks off. -/
theorem Processor.task_result {processor : Processor} {id : Nat} (whole : id ∉ processor.broken)
    (conn : Connection) : ((processor.task id).run conn).result.isSome = true := by
  have unbroken : processor.broken.contains id = false := by
    simpa only [List.contains_eq_mem, decide_eq_false_iff_not] using whole
  rw [task, unbroken, if_neg Bool.false_ne_true]
  cases processor.handling with
  | serve readLimit writeLimit =>
      simp only [serveTask, Task.run]
      cases (Request.perform conn (.read readRoom readLimit)).reply <;> rfl
  | answer => rfl
  | gated => rfl

/-- A task that reads first reads once, and then responds. -/
theorem serveTask_touches (readLimit writeLimit : Nat) (conn : Connection) :
    (serveTask readLimit writeLimit).touches conn =
      [.call (.read readRoom readLimit),
        .call (.write (conn.response readLimit).bytes (conn.responseLimit readLimit writeLimit)),
        .call (.shutdown limits.close), .drop] := by
  have delivers := conn.read_done_iff readRoom (by decide) readLimit
  rw [serveTask, Task.touches, Request.perform, Connection.response, Connection.responseLimit]
  by_cases done : (conn.read readRoom readLimit).reply = .done
  · rw [if_pos (delivers.mp done), if_pos (delivers.mp done), done]
    rfl
  · rw [if_neg (mt delivers.mpr done), if_neg (mt delivers.mpr done)]
    cases reply : (conn.read readRoom readLimit).reply with
    | done => exact (done reply).elim
    | ended => rfl
    | failed => rfl
    | late => rfl

/-- **One response after one read.** -/
theorem serveTask_answered (readLimit writeLimit : Nat) (conn : Connection) :
    conn.Answered (conn.response readLimit) (conn.responseLimit readLimit writeLimit)
      ((serveTask readLimit writeLimit).run conn).conn.record := by
  have served : ((serveTask readLimit writeLimit).run conn).conn =
      ((respondTask (conn.response readLimit) (conn.responseLimit readLimit writeLimit)).run
        (conn.read readRoom readLimit).conn).conn := by
    rw [Task.run_conn, Task.run_conn, serveTask_touches, respondTask_touches]
    rfl
  rw [served]
  exact .of_read readRoom readLimit (respondTask_answered ..)

end Admission
