import Admission.Proofs.Task.Outcomes
import Admission.Proofs.Task.RunOut

/-! # Longer limits

A limit matters to a call only when it passes first. A call that is not late goes the same way
under any longer limit (`Admission.Request.perform_longer`), and a write that is late goes on from
there (`Admission.Connection.writeAlong_longer`). So a peer gets no less, and a response that is
complete under some limit is the same response, in the same time, under any longer one
(`Admission.longer_limits_harmless`).
-/

namespace Admission

namespace Script

variable {α : Type}

/-- What is met in time is met under a longer limit. -/
theorem meet_longer {script : Script α} {limit longer : Nat} (le : limit ≤ longer)
    (inTime : ∀ rest, script.meet limit ≠ .late rest) :
    script.meet longer = script.meet limit := by
  induction script generalizing limit longer with
  | nil => rfl
  | cons beat script ih =>
      cases beat with
      | act what => rfl
      | stall => exact (inTime _ rfl).elim
      | wait ms =>
          by_cases fits : ms ≤ limit
          · have later : meet script (longer - ms) = meet script (limit - ms) := by
              apply ih (Nat.sub_le_sub_right le ms)
              intro rest late
              apply inTime rest
              rw [meet, if_pos fits, late, Meeting.after]
            rw [meet, meet, if_pos fits, if_pos (Nat.le_trans fits le), later]
          · exact (inTime _ (if_neg fits)).elim

end Script

namespace Connection

variable {limit longer : Nat}

theorem read_longer (conn : Connection) (room : Nat) (le : limit ≤ longer)
    (inTime : (conn.read room limit).reply ≠ .late) :
    conn.read room longer = conn.read room limit := by
  have same : conn.reads.meet longer = conn.reads.meet limit := by
    apply Script.meet_longer le
    intro rest late
    apply inTime
    rw [read, late]
  rw [read] at inTime
  rw [read, read, same]
  cases met : conn.reads.meet limit with
  | reached what took rest => rfl
  | spent took =>
      rw [met] at inTime
      exact (inTime rfl).elim
  | late rest =>
      rw [met] at inTime
      exact (inTime rfl).elim

theorem shutdown_longer (conn : Connection) (le : limit ≤ longer)
    (inTime : (conn.shutdown limit).reply ≠ .late) :
    conn.shutdown longer = conn.shutdown limit := by
  have same : conn.closing.meet longer = conn.closing.meet limit := by
    apply Script.meet_longer le
    intro rest late
    apply inTime
    rw [shutdown, late]
  rw [shutdown] at inTime
  rw [shutdown, shutdown, same]
  cases met : conn.closing.meet limit with
  | reached what took rest => rfl
  | spent took => rfl
  | late rest =>
      rw [met] at inTime
      exact (inTime rfl).elim

/-- A write under a longer limit goes on where this one is late, and goes the same way
otherwise. -/
theorem writeAlong_longer (conn : Connection) (script : Script WriteAct) (bytes : List UInt8)
    (le : limit ≤ longer) :
    conn.writeAlong script bytes longer = conn.writeAlong script bytes limit ∨
      (conn.writeAlong script bytes limit).reply = .late ∧
        (conn.writeAlong script bytes limit).conn.record.written <+:
          (conn.writeAlong script bytes longer).conn.record.written := by
  fun_induction writeAlong conn script bytes limit generalizing longer with
  | case1 conn left script =>
      left
      rw [writeAlong]
  | case2 conn left bytes some =>
      left
      rw [writeAlong]
      exact some
  | case3 conn ms rest bytes left some fits ended =>
      rename_i ih
      rw [writeAlong, if_pos (Nat.le_trans fits le)]
      · rcases ih (Nat.sub_le_sub_right le ms) with same | late
        · left
          rw [same]
        · exact .inr late
      · exact some
  | case4 conn ms rest bytes left some late =>
      obtain ⟨taken, behind, -, wrote, -⟩ :=
        conn.writeAlong_wrote (.wait ms :: rest) bytes longer
      rw [wrote]
      exact .inr ⟨rfl, List.prefix_append _ _⟩
  | case5 conn bytes rest left some =>
      obtain ⟨taken, behind, -, wrote, -⟩ := conn.writeAlong_wrote (.stall :: rest) bytes longer
      rw [wrote]
      exact .inr ⟨rfl, List.prefix_append _ _⟩
  | case6 conn kind rest bytes left some again ih =>
      rw [writeAlong, if_pos again]
      · exact ih le
      · exact some
  | case7 conn kind rest bytes left some final =>
      left
      rw [writeAlong, if_neg final]
      exact some
  | case8 conn rest bytes left some =>
      left
      rw [writeAlong, if_pos rfl]
      exact some
  | case9 conn count rest bytes left some taking ih =>
      rw [writeAlong, if_neg taking]
      · exact ih le
      · exact some

end Connection

/-- A call that is not late goes the same way under any longer limit. -/
theorem Request.perform_longer (request : Request) (conn : Connection) {limit longer : Nat}
    (le : limit ≤ longer) (inTime : ((request.within limit).perform conn).reply ≠ .late) :
    (request.within longer).perform conn = (request.within limit).perform conn := by
  cases request with
  | read room _ => exact conn.read_longer room le inTime
  | write bytes _ =>
      rcases conn.writeAlong_longer conn.writes bytes le with same | ⟨late, -⟩
      · exact same
      · exact (inTime late).elim
  | shutdown _ => exact conn.shutdown_longer le inTime

/-- A response that is complete is the same under any longer limit. -/
theorem respondTask_longer (response : Response) (conn : Connection) {limit longer : Nat}
    (le : limit ≤ longer) (complete : ((respondTask response limit).run conn).result = some true) :
    (respondTask response longer).run conn = (respondTask response limit).run conn := by
  have result : ((respondTask response limit).run conn).result =
      some (((Request.write response.bytes limit).perform conn).reply == .done) := rfl
  have inTime : ((Request.write response.bytes limit).perform conn).reply ≠ .late := by
    intro late
    rw [result, late] at complete
    cases complete
  have same : (Request.write response.bytes longer).perform conn =
      (Request.write response.bytes limit).perform conn :=
    (Request.write response.bytes limit).perform_longer conn le inTime
  rw [respondTask, respondTask, Task.run, Task.run, same]

/-- What a peer has of a response is what its write left. -/
theorem respondTask_written (response : Response) (limit : Nat) (conn : Connection) :
    ((respondTask response limit).run conn).conn.record.written =
      (conn.write response.bytes limit).conn.record.written := by
  obtain ⟨rest, ended, -, shut⟩ :=
    (conn.write response.bytes limit).conn.shutdown_cases limits.close
  have after : ((respondTask response limit).run conn).conn =
    ((conn.write response.bytes limit).conn.shutdown limits.close).conn.dropped := rfl
  rw [after, shut, Connection.dropped]

/-- A peer has no less of a response under a longer limit. -/
theorem respondTask_longer_prefix (response : Response) (conn : Connection) {limit longer : Nat}
    (le : limit ≤ longer) :
    ((respondTask response limit).run conn).conn.record.written <+:
      ((respondTask response longer).run conn).conn.record.written := by
  rw [respondTask_written, respondTask_written, Connection.write, Connection.write]
  rcases conn.writeAlong_longer conn.writes response.bytes le with same | ⟨-, part⟩
  · exact ⟨[], by rw [List.append_nil, same]⟩
  · exact part

/-- A task that has read something responds, and its outcome says whether that was complete. -/
theorem serveTask_of_done {readLimit : Nat} {conn : Connection}
    (done : (conn.read readRoom readLimit).reply = .done) (writeLimit : Nat) :
    (serveTask readLimit writeLimit).run conn =
      let answer := (respondTask .ok writeLimit).run (conn.read readRoom readLimit).conn
      { result := answer.result.map fun written => if written then .responded else .writeFailed
        took := (conn.read readRoom readLimit).took + answer.took
        conn := answer.conn } := by
  rw [serveTask, Task.run, Request.perform, done]
  rfl

/-- A job that is responded to is so in the same way under any longer limits. -/
theorem serveTask_longer (conn : Connection) {readLimit readLonger writeLimit writeLonger : Nat}
    (readLe : readLimit ≤ readLonger) (writeLe : writeLimit ≤ writeLonger)
    (responded : ((serveTask readLimit writeLimit).run conn).result = some .responded) :
    (serveTask readLonger writeLonger).run conn = (serveTask readLimit writeLimit).run conn := by
  obtain ⟨-, -, delivered⟩ := serveTask_result readLimit writeLimit conn
  have done : (conn.read readRoom readLimit).reply = .done :=
    (conn.read_done_iff readRoom (by decide) readLimit).mpr (delivered.mp (.inl responded))
  have read : conn.read readRoom readLonger = conn.read readRoom readLimit :=
    conn.read_longer readRoom readLe (by rw [done]; nofun)
  have later : (conn.read readRoom readLonger).reply = .done := read ▸ done
  have complete : ((respondTask .ok writeLimit).run (conn.read readRoom readLimit).conn).result =
      some true := by
    rw [serveTask_of_done done, Option.map_eq_some_iff] at responded
    obtain ⟨written, result, whole⟩ := responded
    cases written with
    | true => exact result
    | false => cases whole
  rw [serveTask_of_done done, serveTask_of_done later, read,
    respondTask_longer .ok _ writeLe complete]

/-- **Longer limits do no harm.** Under a longer limit a peer has taken at least the bytes of the
response that it takes under a shorter one, in the same order. A response that is complete under
the shorter limit is the same under the longer one, in the same time and with the same connection
behind it; and so is a job that is responded to, whatever its other limit becomes. -/
theorem longer_limits_harmless (response : Response) (conn : Connection)
    {readLimit readLonger limit longer : Nat} (readLe : readLimit ≤ readLonger)
    (le : limit ≤ longer) :
    (∃ taken more,
      ((respondTask response limit).run conn).conn.record.written =
        conn.record.written ++ taken ∧
      ((respondTask response longer).run conn).conn.record.written =
        conn.record.written ++ (taken ++ more)) ∧
    (((respondTask response limit).run conn).result = some true →
      (respondTask response longer).run conn = (respondTask response limit).run conn) ∧
    (((serveTask readLimit limit).run conn).result = some .responded →
      (serveTask readLonger longer).run conn = (serveTask readLimit limit).run conn) := by
  refine ⟨?_, respondTask_longer response conn le, serveTask_longer conn readLe le⟩
  obtain ⟨⟨taken, -, written, -⟩, -, -⟩ := respondTask_answered response limit conn
  obtain ⟨more, whole⟩ := respondTask_longer_prefix response conn le
  refine ⟨taken, more, written, ?_⟩
  rw [← whole, written, List.append_assoc]

/-- The read and the write are just in time; with more time nothing changes. -/
theorem longer_limits_harmless_tie :
    let conn : Connection :=
      { reads := [.wait 5, .act (.deliver 3)], writes := [.act (.accept 10), .wait 7]
        closing := [.wait 2] }
    5 ≤ 9 ∧ 7 ≤ 8 ∧ ((serveTask 5 7).run conn).result = some .responded ∧
      (serveTask 9 8).run conn = (serveTask 5 7).run conn ∧
      ((serveTask 9 8).run conn).took = 14 ∧
      (respondTask .busy 8).run conn = (respondTask .busy 7).run conn := by
  intro conn
  have responded : ((serveTask 5 7).run conn).result = some .responded := by decide +kernel
  obtain ⟨-, answered, served⟩ :=
    longer_limits_harmless .busy conn (by decide : 5 ≤ 9) (by decide : 7 ≤ 8)
  have same := served responded
  refine ⟨by decide, by decide, responded, same, ?_, answered (by decide +kernel)⟩
  rw [same]
  decide +kernel

end Admission
