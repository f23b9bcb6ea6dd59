import Admission.Proofs.Task.Meetings
import Admission.Proofs.Task.Responses

/-! # Outcomes

A task reports how it went, and its peer saw how it went. The two agree: a task that responds
answers that it wrote its response exactly when the peer has all of it
(`Admission.respondTask_truthful`), and the outcome of a task that reads first says what the read
came to and, where there was a request, whether its response is complete
(`Admission.serveTask_truthful`).
-/

namespace Admission

namespace Task

def Touch.isRead : Touch → Bool
  | call (.read ..) => true
  | _ => false

/-- Only a read adds to the reads of the record, and it adds one at most. -/
theorem Touch.reads_le (touch : Touch) (conn : Connection) :
    (touch.on conn).record.reads ≤ conn.record.reads + touch.isRead.toNat := by
  cases touch with
  | drop => exact Nat.le_refl _
  | call request =>
      cases request with
      | read room limit =>
          obtain ⟨rest, ended, given, once, read⟩ := conn.read_cases room limit
          rw [on, Request.perform, read]
          exact Nat.add_le_add_left once _
      | write bytes limit =>
          obtain ⟨taken, rest, -, wrote, -⟩ := conn.writeAlong_wrote conn.writes bytes limit
          rw [on, Request.perform, Connection.write, wrote]
          exact Nat.le_refl _
      | shutdown limit =>
          obtain ⟨rest, ended, -, shut⟩ := conn.shutdown_cases limit
          rw [on, Request.perform, shut]
          exact Nat.le_refl _

/-- A task completes no more reads than it calls. -/
theorem run_reads_le {α : Type} (task : Task α) (conn : Connection) :
    (task.run conn).conn.record.reads ≤
      conn.record.reads + (task.touches conn).countP Touch.isRead := by
  rw [run_conn]
  generalize task.touches conn = touches
  induction touches generalizing conn with
  | nil => exact Nat.le_refl _
  | cons touch touches ih =>
      have first := touch.reads_le conn
      have others := ih (touch.on conn)
      have counted : (touch :: touches).countP Touch.isRead =
          touches.countP Touch.isRead + touch.isRead.toNat := by
        rw [List.countP_cons]
        cases touch.isRead <;> rfl
      rw [List.foldl_cons, counted]
      omega

end Task

theorem serveTask_of_silent {readLimit : Nat} (conn : Connection)
    (silent : ∀ what, ¬ conn.reads.Brings readLimit what) (writeLimit : Nat) :
    ((serveTask readLimit writeLimit).run conn).result = some .readTimedOut := by
  rw [serveTask, Task.run, Request.perform, Connection.read_of_silent silent]
  rfl

theorem serveTask_of_refuses {readLimit : Nat} (conn : Connection)
    (refuses : conn.reads.Refuses readLimit) (writeLimit : Nat) :
    ((serveTask readLimit writeLimit).run conn).result = some .readFailed := by
  rw [serveTask, Task.run, Request.perform]
  rcases Connection.read_of_refuses refuses readRoom with failed | ended
  · rw [failed]
    rfl
  · rw [ended]
    rfl

/-- From a peer that delivers the task reports that it responded if the peer takes the whole
response in time, and otherwise that the write failed. -/
theorem serveTask_of_delivers {readLimit : Nat} (conn : Connection)
    (delivers : conn.reads.DeliversWithin readLimit) (writeLimit : Nat) :
    ((serveTask readLimit writeLimit).run conn).result =
      some (if conn.writes.TakesWithin Response.ok.bytes.length writeLimit then .responded
        else .writeFailed) := by
  have done := (conn.read_done_iff readRoom (by decide) readLimit).mpr delivers
  obtain ⟨rest, ended, given, -, after⟩ := conn.read_cases readRoom readLimit
  have writes : (conn.read readRoom readLimit).conn.writes = conn.writes := by rw [after]
  have complete := (conn.read readRoom readLimit).conn.writeAlong_done_iff conn.writes
    Response.ok.bytes writeLimit
  have result : ((serveTask readLimit writeLimit).run conn).result =
      some (if ((conn.read readRoom readLimit).conn.write Response.ok.bytes writeLimit).reply ==
        .done then .responded else .writeFailed) := by
    rw [serveTask, Task.run, Request.perform, done]
    rfl
  rw [result, Connection.write, writes]
  simp only [beq_iff_eq, complete]

/-- **A response reports what the peer took.** The task answers that it wrote its response
exactly when the peer has taken all of it, which the peer's script decides: until then every beat
keeps the write going, and the waits fit into the limit. Written or not, one shutdown is tried and
the connection is dropped once. -/
theorem respondTask_truthful (response : Response) (limit : Nat) (conn : Connection) :
    let run := (respondTask response limit).run conn
    (∃ taken, run.conn.record.written = conn.record.written ++ taken ∧
      taken <+: response.bytes ∧
      (run.result = some true ↔ taken = response.bytes) ∧
      (run.result = some false ↔ taken ≠ response.bytes) ∧
      (taken = response.bytes ↔ conn.writes.TakesWithin response.bytes.length limit)) ∧
    (respondTask response limit).touches conn =
      [.call (.write response.bytes limit), .call (.shutdown limits.close), .drop] ∧
    run.conn.record.shutdowns = conn.record.shutdowns +
      (if conn.closing.leading ≤ limits.close ∧ conn.closing.upNext ≠ some .stall then 1
        else 0) ∧
    run.conn.record.drops = conn.record.drops + 1 ∧ limits.close = 500 := by
  intro run
  obtain ⟨⟨taken, initial, written, complete⟩, -, drops⟩ :=
    respondTask_answered response limit conn
  have result : run.result = some ((conn.write response.bytes limit).reply == .done) := rfl
  have done : (conn.write response.bytes limit).reply = .done ↔ taken = response.bytes :=
    (conn.writeAlong_done_iff conn.writes response.bytes limit).trans complete.symm
  refine ⟨⟨taken, written, initial, ?_, ?_, complete⟩, rfl, ?_, drops, rfl⟩
  · rw [result, Option.some_inj, beq_iff_eq, done]
  · rw [result, Option.some_inj, beq_eq_false_iff_ne, Ne, done]
  · obtain ⟨taken, rest, -, wrote, -⟩ := conn.writeAlong_wrote conn.writes response.bytes limit
    have closed := (conn.write response.bytes limit).conn.shutdown_count limits.close
    rw [Connection.write, wrote] at closed
    have after : run.conn = ((conn.write response.bytes limit).conn.shutdown
        limits.close).conn.dropped := rfl
    rw [after, Connection.write, wrote]
    exact closed

/-- Not every error ends a write: one that was interrupted goes on, and the response is complete
though the peer did not take it before the error. -/
theorem respondTask_interrupted :
    ((respondTask .busy 250).run
        { writes := [.act (.accept 17), .act (.fail .interrupted)] }).result = some true ∧
      ((respondTask .busy 250).run
        { writes := [.act (.accept 17), .act (.fail .interrupted)] }).conn.record.written =
          Response.busy.bytes ∧
      ¬ ∃ earlier later : Script WriteAct,
        [.act (.accept 17), .act (.fail .interrupted)] = earlier ++ later ∧
          (∀ beat ∈ earlier, beat.isWilling = true ∧ ∀ kind, beat ≠ .act (.fail kind)) ∧
          earlier.waiting ≤ 250 ∧
          (Response.busy.bytes.length ≤ (earlier.map Beat.taking).sum ∨ later = []) := by
  have long : 17 < Response.busy.bytes.length := by decide +kernel
  refine ⟨by decide +kernel, by decide +kernel, ?_⟩
  rintro ⟨earlier, later, shape, unfailing, -, enough⟩
  rcases earlier with _ | ⟨first, _ | ⟨second, others⟩⟩
  · obtain rfl : _ = later := shape
    rcases enough with few | none
    · rw [List.map_nil, List.sum_nil] at few
      omega
    · cases none
  · obtain ⟨rfl, rest⟩ := List.cons.inj shape
    rcases enough with few | none
    · have taken : ([.act (.accept 17)].map Beat.taking).sum = 17 := rfl
      rw [taken] at few
      omega
    · rw [none] at rest
      cases rest
  · obtain ⟨-, rest⟩ := List.cons.inj shape
    obtain ⟨rfl, -⟩ := List.cons.inj rest
    exact (unfailing _ (List.mem_cons_of_mem _ List.mem_cons_self)).2 .interrupted rfl

/-- Which outcome it is, but for that of the write, is decided by the read. -/
theorem serveTask_result (readLimit writeLimit : Nat) (conn : Connection) :
    let run := (serveTask readLimit writeLimit).run conn
    (run.result = some .readTimedOut ↔ ∀ what, ¬ conn.reads.Brings readLimit what) ∧
    (run.result = some .readFailed ↔ conn.reads.Refuses readLimit) ∧
    (run.result = some .responded ∨ run.result = some .writeFailed ↔
      conn.reads.DeliversWithin readLimit) := by
  intro run
  rcases conn.reads.silent_or_refuses_or_delivers readLimit with silent | refuses | delivers
  · have result : run.result = some .readTimedOut := serveTask_of_silent conn silent writeLimit
    rw [result]
    refine ⟨iff_of_true rfl silent, iff_of_false nofun ?_, iff_of_false nofun ?_⟩
    · exact fun refuses => refuses.not_silent silent
    · exact fun delivers => delivers.not_silent silent
  · have result : run.result = some .readFailed := serveTask_of_refuses conn refuses writeLimit
    rw [result]
    exact ⟨iff_of_false nofun refuses.not_silent, iff_of_true rfl refuses,
      iff_of_false nofun refuses.not_delivers⟩
  · have result := serveTask_of_delivers conn delivers writeLimit
    have written : run.result = some .responded ∨ run.result = some .writeFailed := by
      rw [result]
      split
      · exact .inl rfl
      · exact .inr rfl
    refine ⟨iff_of_false ?_ delivers.not_silent, iff_of_false ?_ ?_, iff_of_true written delivers⟩
    · rcases written with result | result <;> rw [result] <;> nofun
    · rcases written with result | result <;> rw [result] <;> nofun
    · exact fun refuses => refuses.not_delivers delivers

/-- What a peer has of an apology is never the response to a request. -/
theorem ok_bytes_ne_of_apology {taken : List UInt8}
    (initial : taken <+: Response.requestTimeout.bytes) : taken ≠ Response.ok.bytes := by
  rintro rfl
  cases Response.eq_of_prefix initial

/-- What the peer has of its response, by the outcome. -/
theorem serveTask_written (readLimit writeLimit : Nat) (conn : Connection) :
    let run := (serveTask readLimit writeLimit).run conn
    ∃ taken, run.conn.record.written = conn.record.written ++ taken ∧
      (run.result = some .responded ↔ taken = Response.ok.bytes) ∧
      (run.result = some .writeFailed →
        taken <+: Response.ok.bytes ∧ taken ≠ Response.ok.bytes) ∧
      (run.result = some .readTimedOut ∨ run.result = some .readFailed →
        taken <+: Response.requestTimeout.bytes) := by
  intro run
  obtain ⟨⟨taken, initial, written, complete⟩, -, -⟩ :=
    serveTask_answered readLimit writeLimit conn
  obtain ⟨late, failed, delivered⟩ := serveTask_result readLimit writeLimit conn
  refine ⟨taken, written, ?_⟩
  by_cases delivers : conn.reads.DeliversWithin readLimit
  · have result : run.result = _ := serveTask_of_delivers conn delivers writeLimit
    rw [Connection.response, if_pos delivers] at initial complete
    rw [Connection.responseLimit, if_pos delivers] at complete
    have responded : run.result = some .responded ↔ taken = Response.ok.bytes := by
      rw [complete, result, Option.some_inj]
      by_cases takes : conn.writes.TakesWithin Response.ok.bytes.length writeLimit
      · rw [if_pos takes]
        exact iff_of_true rfl takes
      · rw [if_neg takes]
        exact iff_of_false Outcome.noConfusion takes
    refine ⟨responded, fun cut => ⟨initial, fun whole => ?_⟩, ?_⟩
    · cases cut.symm.trans (responded.mpr whole)
    · rintro (silent | refused)
      · exact (delivers.not_silent (late.mp silent)).elim
      · exact ((failed.mp refused).not_delivers delivers).elim
  · rw [Connection.response, if_neg delivers] at initial
    have other : taken ≠ Response.ok.bytes := ok_bytes_ne_of_apology initial
    refine ⟨iff_of_false (fun responded => delivers (delivered.mp (.inl responded))) other, ?_, ?_⟩
    · exact fun cut => (delivers (delivered.mp (.inr cut))).elim
    · exact fun _ => initial

/-- **An outcome reports what happened on the wire.** There is one read. That nothing came in
time, or an error or the end of the stream, is the outcome whatever becomes of the apology;
otherwise the outcome says whether the peer has the whole response. Then there is one shutdown,
and nothing after it but the drop. -/
theorem serveTask_truthful (readLimit writeLimit : Nat) (conn : Connection) :
    let run := (serveTask readLimit writeLimit).run conn
    run.conn.record.reads ≤ conn.record.reads + 1 ∧
    (run.result = some .readTimedOut ↔ ∀ what, ¬ conn.reads.Brings readLimit what) ∧
    (run.result = some .readFailed ↔ conn.reads.Refuses readLimit) ∧
    (run.result = some .responded ∨ run.result = some .writeFailed ↔
      conn.reads.DeliversWithin readLimit) ∧
    (∃ taken, run.conn.record.written = conn.record.written ++ taken ∧
      (run.result = some .responded ↔ taken = Response.ok.bytes) ∧
      (run.result = some .writeFailed →
        taken <+: Response.ok.bytes ∧ taken ≠ Response.ok.bytes) ∧
      (run.result = some .readTimedOut ∨ run.result = some .readFailed →
        taken <+: Response.requestTimeout.bytes)) ∧
    (run.result = some .readTimedOut ∨ run.result = some .readFailed →
      ∀ writes closing limit,
        ((serveTask readLimit limit).run { conn with writes, closing }).result = run.result) ∧
    (serveTask readLimit writeLimit).touches conn =
      [.call (.read readRoom readLimit),
        .call (.write (conn.response readLimit).bytes (conn.responseLimit readLimit writeLimit)),
        .call (.shutdown limits.close), .drop] ∧
    run.conn.record.drops = conn.record.drops + 1 := by
  intro run
  obtain ⟨late, failed, delivered⟩ := serveTask_result readLimit writeLimit conn
  have reads := Task.run_reads_le (serveTask readLimit writeLimit) conn
  rw [serveTask_touches] at reads
  refine ⟨reads, late, failed, delivered, serveTask_written readLimit writeLimit conn, ?_,
    serveTask_touches readLimit writeLimit conn, ?_⟩
  · -- The read comes first, and it is the same read whatever is written to.
    rintro (result | result) writes closing limit
    · have silent := late.mp result
      exact (serveTask_of_silent { conn with writes, closing } silent limit).trans result.symm
    · have refuses := failed.mp result
      exact (serveTask_of_refuses { conn with writes, closing } refuses limit).trans result.symm
  · exact (serveTask_answered readLimit writeLimit conn).drops

/-- The stream ends just in time, the peer takes ten bytes of the apology and then stalls, and the
shutdown takes too long. -/
theorem serveTask_truthful_ended :
    let conn : Connection :=
      { reads := [.wait 2, .wait 3, .act (.deliver 0)], writes := [.act (.accept 10), .stall],
        closing := [.wait 501] }
    let run := (serveTask 5 0).run conn
    run.result = some .readFailed ∧ conn.reads.Refuses 5 ∧
      run.conn.record =
        { written := Response.requestTimeout.bytes.take 10, drops := 1, reads := 1 } ∧
      run.conn.record.text = "HTTP/1.1 4" ∧
      ∀ writes closing limit,
        ((serveTask 5 limit).run { conn with writes, closing }).result = some .readFailed := by
  intro conn run
  have failed : run.result = some .readFailed := by decide +kernel
  obtain ⟨-, -, refused, -, -, whatever, -⟩ := serveTask_truthful 5 0 conn
  have same := whatever (.inr failed)
  exact ⟨failed, refused.mp failed, by decide +kernel, by decide +kernel,
    fun writes closing limit => (same writes closing limit).trans failed⟩

end Admission
