import Admission.Processor
import Admission.Proofs.Task.Meetings
import Admission.Proofs.Task.RunOut

/-! # How long a task takes

No call takes longer than its limit (`Admission.Request.perform_took_le`), so a task that
responds is over within the limit of its response and that of the shutdown
(`Admission.respondTask_took_le`), and one that reads first within that of its read as well
(`Admission.serveTask_took_le`).

A live task moves forward only: each event leaves less work
(`Admission.Live.work_lt_of_event`) and none comes before the one before it
(`Admission.Live.clock_of_event`). The instant of its end is the one at which the rest of
its run would end alone (`Admission.Live.took_of_finished`).
-/

namespace Admission

namespace Script

variable {α : Type}

/-- A script that is used up was so in time. -/
theorem spent_le {script : Script α} {left span : Nat} (met : script.meet left = .spent span) :
    span ≤ left := by
  rcases script.meet_cases left with ⟨what, rest, -, same⟩ | ⟨within, -, same⟩ | ⟨-, rest, same⟩
  · cases same.symm.trans met
  · cases same.symm.trans met
    exact within
  · cases same.symm.trans met

/-- A peer whose act is reached waited no longer than there was time. -/
theorem reached_le {script rest : Script α} {left span : Nat} {what : α}
    (met : script.meet left = .reached what span rest) : span ≤ left := by
  obtain ⟨waits, -, -, within⟩ := waits_of_meet met
  exact within

end Script

namespace Connection

/-- A read takes no longer than its limit. -/
theorem read_took_le (conn : Connection) (room limit : Nat) :
    (conn.read room limit).took ≤ limit := by
  unfold read
  split
  next what took rest met => exact Script.reached_le met
  next => exact Nat.le_refl _
  next => exact Nat.le_refl _

theorem shutdown_took_le (conn : Connection) (limit : Nat) :
    (conn.shutdown limit).took ≤ limit := by
  unfold shutdown
  split
  next what took rest met => exact Script.reached_le met
  next took met => exact Script.spent_le met
  next => exact Nat.le_refl _

/-- A write takes no longer than what is left of its limit. -/
theorem writeAlong_took_le (conn : Connection) (script : Script WriteAct) (bytes : List UInt8)
    (left : Nat) : (conn.writeAlong script bytes left).took ≤ left := by
  fun_induction writeAlong conn script bytes left with
  | case1 conn left script => exact Nat.zero_le _
  | case2 conn left bytes some => exact Nat.zero_le _
  | case3 conn ms rest bytes left some fits ended ih =>
      have within : ended.took ≤ left - ms := ih
      simp only
      omega
  | case4 conn ms rest bytes left some late => exact Nat.le_refl _
  | case5 conn bytes rest left some => exact Nat.le_refl _
  | case6 conn kind rest bytes left some again ih => exact ih
  | case7 conn kind rest bytes left some final => exact Nat.zero_le _
  | case8 conn rest bytes left some => exact Nat.zero_le _
  | case9 conn count rest bytes left some taking ih => exact ih

/-- How many beats the peer's scripts still have. -/
def beats (conn : Connection) : Nat :=
  conn.reads.length + conn.writes.length + conn.closing.length

end Connection

/-- No call takes longer than its limit. -/
theorem Request.perform_took_le (request : Request) (conn : Connection) :
    (request.perform conn).took ≤ request.limit := by
  cases request with
  | read room limit => exact conn.read_took_le room limit
  | write bytes limit => exact conn.writeAlong_took_le conn.writes bytes limit
  | shutdown limit => exact conn.shutdown_took_le limit

/-- A response takes no longer than its limit and the limit of the shutdown behind it. -/
theorem respondTask_took_le (response : Response) (limit : Nat) (conn : Connection) :
    ((respondTask response limit).run conn).took ≤ limit + limits.close := by
  have write : (conn.write response.bytes limit).took ≤ limit :=
    (Request.write response.bytes limit).perform_took_le conn
  have shutdown : ((conn.write response.bytes limit).conn.shutdown limits.close).took ≤
      limits.close := Connection.shutdown_took_le _ _
  calc ((respondTask response limit).run conn).took
      = (conn.write response.bytes limit).took +
          ((conn.write response.bytes limit).conn.shutdown limits.close).took := rfl
    _ ≤ limit + limits.close := Nat.add_le_add write shutdown

/-- Nothing in the task waits for a permit. -/
def Task.Gateless {α : Type} : Task α → Prop
  | finish _ => True
  | ask _ next => ∀ reply, (next reply).Gateless
  | drop next => next.Gateless
  | pass _ => False
  | crash => True

/-- A task that responds waits for no permit. -/
theorem respondTask_gateless (response : Response) (limit : Nat) :
    (respondTask response limit).Gateless := by
  intro written closed
  trivial

theorem serveTask_gateless (readLimit writeLimit : Nat) :
    (serveTask readLimit writeLimit).Gateless := by
  intro reply
  cases reply <;>
    · intro written closed
      trivial

/-- A task that reads takes no longer than its read, its response and its shutdown may. -/
theorem serveTask_took_le (readLimit writeLimit : Nat) (conn : Connection) :
    ((serveTask readLimit writeLimit).run conn).took ≤
      readLimit + max limits.apology writeLimit + limits.close := by
  have read := conn.read_took_le readRoom readLimit
  have apology := respondTask_took_le .requestTimeout limits.apology
    (conn.read readRoom readLimit).conn
  have response := respondTask_took_le .ok writeLimit (conn.read readRoom readLimit).conn
  have longest := Nat.le_max_left limits.apology writeLimit
  have longer := Nat.le_max_right limits.apology writeLimit
  have took : ((serveTask readLimit writeLimit).run conn).took =
      (conn.read readRoom readLimit).took +
        if (conn.read readRoom readLimit).reply = .done then
          ((respondTask .ok writeLimit).run (conn.read readRoom readLimit).conn).took
        else
          ((respondTask .requestTimeout limits.apology).run
            (conn.read readRoom readLimit).conn).took := by
    rw [serveTask, Task.run, Request.perform]
    cases (conn.read readRoom readLimit).reply <;> rfl
  rw [took]
  split <;> omega

namespace Live

variable {α : Type} {live after : Live α} {due : Nat}

theorem enter_task (task : Task α) (conn : Connection) (clock : Nat) :
    (enter task conn clock).task = task ∧ (enter task conn clock).conn = conn ∧
      (enter task conn clock).clock = clock := by
  cases task <;> exact ⟨rfl, rfl, rfl⟩

/-- What is due is an event that comes next. -/
theorem due_eq_some_iff : live.due = some due ↔ ∃ after, live.prospect = .event due after := by
  unfold Live.due
  constructor
  · intro shown
    split at shown
    next instant after event =>
      obtain rfl := Option.some.inj shown
      exact ⟨after, event⟩
    next => cases shown
  · rintro ⟨after, event⟩
    rw [event]

/-- The work of a live task is what is left of its program and of its peer's scripts. -/
theorem work_eq (live : Live α) : live.work = live.task.depth + live.conn.beats := by
  simp only [work, Connection.beats, Nat.add_assoc]

/-- A call that ends leaves less work, whatever the reply, unless beats were added. -/
theorem work_of_reply {request : Request} {next : Reply → Task α} {conn later : Connection}
    {clock deadline instant : Nat} {how : Reply} (fewer : later.beats ≤ conn.beats)
    (event : reply next instant how later = .event due after) :
    after.work < (⟨.ask request next, conn, clock, deadline⟩ : Live α).work := by
  obtain ⟨rfl, rfl⟩ := Prospect.event.inj event
  have shorter := Task.depth_next_lt request next how
  obtain ⟨task, entered, -⟩ := enter_task (next how) later instant
  rw [work_eq, work_eq, task, entered]
  simp only
  omega

/-- A read that met an act leaves no more of the scripts. -/
theorem readAct_beats {conn : Connection} {room : Nat} {what : ReadAct} {rest : Script ReadAct}
    (script : conn.reads = .act what :: rest) :
    (conn.readAct room what rest).2.beats ≤ conn.beats := by
  have length : conn.reads.length = rest.length + 1 := by rw [script, List.length_cons]
  cases what with
  | fail kind =>
      simp only [Connection.readAct, Connection.beats, Connection.delivered]
      omega
  | deliver count =>
      by_cases more : room < count
      · simp only [Connection.readAct, Connection.beats, Connection.delivered, more, if_true,
          List.length_cons]
        omega
      · simp only [Connection.readAct, Connection.beats, Connection.delivered, more, if_false]
        omega

theorem closeAct_beats {conn : Connection} {what : CloseAct} {rest : Script CloseAct}
    (script : conn.closing = .act what :: rest) :
    (conn.closeAct what rest).2.beats ≤ conn.beats := by
  have length : conn.closing.length = rest.length + 1 := by rw [script, List.length_cons]
  cases what <;>
    · simp only [Connection.closeAct, Connection.beats, Connection.closed]
      omega

/-- A write that has bytes left goes on with fewer beats, or ends. -/
theorem work_of_write {byte : UInt8} {bytes : List UInt8} {limit : Nat}
    {next : Reply → Task α} {conn : Connection} {clock deadline : Nat}
    (event : (⟨.ask (.write (byte :: bytes) limit) next, conn, clock, deadline⟩ :
      Live α).prospect = .event due after) :
    after.work <
      (⟨.ask (.write (byte :: bytes) limit) next, conn, clock, deadline⟩ : Live α).work := by
  simp only [prospect] at event
  split at event
  next instant rest resumes =>
    obtain ⟨ms, script, -⟩ := front_resume resumes
    obtain ⟨rfl, rfl⟩ := Prospect.event.inj event
    simp only [work, script, List.length_cons]
    omega
  next kind rest acts =>
    have script := front_act acts
    split at event
    next =>
      obtain ⟨rfl, rfl⟩ := Prospect.event.inj event
      simp only [work, script, List.length_cons]
      omega
    next =>
      refine work_of_reply ?_ event
      simp only [Connection.beats, script, List.length_cons]
      omega
  next count rest acts =>
    have script := front_act acts
    split at event
    next =>
      refine work_of_reply ?_ event
      simp only [Connection.beats, script, List.length_cons]
      omega
    next =>
      obtain ⟨rfl, rfl⟩ := Prospect.event.inj event
      simp only [work, Task.depth, Connection.took, script, List.length_cons]
      omega
  next =>
    have same : (conn.took (byte :: bytes)).beats = conn.beats := rfl
    exact work_of_reply (Nat.le_of_eq same) event
  next => exact work_of_reply (Nat.le_refl _) event

/-- **Every event leaves less work.** -/
theorem work_lt_of_event (event : live.prospect = .event due after) : after.work < live.work := by
  obtain ⟨task, conn, clock, deadline⟩ := live
  cases task with
  | finish result => cases event
  | crash => cases event
  | pass next => cases event
  | drop next =>
      obtain ⟨rfl, rfl⟩ := Prospect.event.inj event
      obtain ⟨task, entered, -⟩ := enter_task next conn.dropped clock
      rw [work_eq, work_eq, task, entered]
      simp only [Task.depth, Connection.dropped, Connection.beats]
      omega
  | ask request next =>
      -- A call resumes with a shorter script, or ends with none that is longer.
      cases request with
      | read room limit =>
          simp only [prospect] at event
          split at event
          next instant rest resumes =>
            obtain ⟨ms, script, -⟩ := front_resume resumes
            obtain ⟨rfl, rfl⟩ := Prospect.event.inj event
            simp only [work, script, List.length_cons]
            omega
          next what rest acts => exact work_of_reply (readAct_beats (front_act acts)) event
          next => exact work_of_reply (Nat.le_refl _) event
          next => exact work_of_reply (Nat.le_refl _) event
      | shutdown limit =>
          simp only [prospect] at event
          split at event
          next instant rest resumes =>
            obtain ⟨ms, script, -⟩ := front_resume resumes
            obtain ⟨rfl, rfl⟩ := Prospect.event.inj event
            simp only [work, script, List.length_cons]
            omega
          next what rest acts => exact work_of_reply (closeAct_beats (front_act acts)) event
          next =>
            have same : conn.closed.beats = conn.beats := rfl
            exact work_of_reply (Nat.le_of_eq same) event
          next => exact work_of_reply (Nat.le_refl _) event
      | write bytes limit =>
          cases bytes with
          | nil => exact work_of_reply (Nat.le_refl _) event
          | cons byte bytes => exact work_of_write event

/-- A task that is over ended at its latest event. -/
theorem took_of_finished {result : Option α} (timely : live.Timely)
    (finished : live.prospect = .finished result) : live.runOut.took = live.clock := by
  obtain ⟨task, conn, clock, deadline⟩ := live
  cases task with
  | finish value => rfl
  | crash => rfl
  | pass next => cases finished
  | drop next => cases finished
  | ask request next =>
      have advance := advance_ask request next conn timely
      rw [finished] at advance
      cases advance

/-- The instants of the events of a task do not go back. -/
theorem clock_of_event (timely : live.Timely) (event : live.prospect = .event due after) :
    after.clock = due ∧ live.clock ≤ due := by
  obtain ⟨task, conn, clock, deadline⟩ := live
  cases task with
  | finish result => cases event
  | crash => cases event
  | pass next => cases event
  | drop next =>
      obtain ⟨rfl, rfl⟩ := Prospect.event.inj event
      obtain ⟨-, -, entered⟩ := enter_task next conn.dropped clock
      exact ⟨entered, Nat.le_refl _⟩
  | ask request next =>
      have advance := advance_ask request next conn timely
      generalize prospect ⟨.ask request next, conn, clock, deadline⟩ = shown at event advance
      cases advance with
      | onward forth inTime same =>
          obtain ⟨rfl, rfl⟩ := Prospect.event.inj event
          exact ⟨rfl, forth⟩
      | @ending instant how later forth same =>
          obtain ⟨rfl, rfl⟩ := Prospect.event.inj event
          obtain ⟨-, -, entered⟩ := enter_task (next how) later instant
          exact ⟨entered, forth⟩

/-- No task is over before now. -/
theorem clock_le_runOut (live : Live α) : live.clock ≤ live.runOut.took :=
  Nat.le_add_right _ _

theorem not_atGate_of_gateless (gateless : live.task.Gateless) : live.atGate = false := by
  obtain ⟨task, conn, clock, deadline⟩ := live
  cases task with
  | pass next => exact gateless.elim
  | finish result => rfl
  | ask request next => rfl
  | drop next => rfl
  | crash => rfl

/-- A task under way that does not wait for a permit has something to do, or is over. -/
theorem prospect_of_gateless (gateless : live.task.Gateless) (timely : live.Timely) :
    (∃ result, live.prospect = .finished result) ∨
      ∃ due after, live.prospect = .event due after ∧ after.task.Gateless := by
  obtain ⟨task, conn, clock, deadline⟩ := live
  cases task with
  | finish result => exact .inl ⟨some result, rfl⟩
  | crash => exact .inl ⟨none, rfl⟩
  | pass next => exact gateless.elim
  | drop next =>
      obtain ⟨entered, -, -⟩ := enter_task next conn.dropped clock
      refine .inr ⟨clock, _, rfl, ?_⟩
      rw [entered]
      exact gateless
  | ask request next =>
      have advance := advance_ask request next conn timely
      generalize prospect ⟨.ask request next, conn, clock, deadline⟩ = shown at advance
      cases advance with
      | onward forth inTime same => exact .inr ⟨_, _, rfl, gateless⟩
      | @ending instant how later forth same =>
          obtain ⟨entered, -, -⟩ := enter_task (next how) later instant
          refine .inr ⟨instant, _, rfl, ?_⟩
          rw [entered]
          exact gateless how

/-- An event leaves a task that waits for no permit one that waits for none. -/
theorem gateless_of_event (gateless : live.task.Gateless) (timely : live.Timely)
    (event : live.prospect = .event due after) : after.task.Gateless := by
  rcases prospect_of_gateless gateless timely with
    ⟨result, finished⟩ | ⟨instant, onward, other, free⟩
  · cases event.symm.trans finished
  · obtain ⟨-, rfl⟩ := Prospect.event.inj (event.symm.trans other)
    exact free

/-- Every event of a task comes before its end. -/
theorem due_le_runOut (timely : live.Timely) (event : live.prospect = .event due after) :
    due ≤ live.runOut.took := by
  obtain ⟨clock, -⟩ := clock_of_event timely event
  obtain ⟨-, same⟩ := runOut_of_event timely event
  rw [← same, ← clock]
  exact after.clock_le_runOut

/-- The task goes on without a permit, and it is over by an instant. -/
structure EndsBy (live : Live α) (instant : Nat) : Prop where
  timely : live.Timely
  gateless : live.task.Gateless
  within : live.runOut.took ≤ instant

namespace EndsBy

variable {instant : Nat}

/-- A task that enters ends by the time of its run. -/
theorem enter {task : Task α} (gateless : task.Gateless) {conn : Connection} {clock : Nat}
    (within : clock + (task.run conn).took ≤ instant) :
    (enter task conn clock).EndsBy instant where
  timely := enter_timely task conn clock
  gateless := by
    rw [(enter_task task conn clock).1]
    exact gateless
  within := by
    rw [enter_runOut]
    exact within

theorem event (ends : live.EndsBy instant) (event : live.prospect = .event due after) :
    after.EndsBy instant := by
  obtain ⟨timely, gateless, within⟩ := ends
  obtain ⟨later, same⟩ := runOut_of_event timely event
  exact ⟨later, gateless_of_event gateless timely event, same ▸ within⟩

theorem mono (ends : live.EndsBy instant) {later : Nat} (forth : instant ≤ later) :
    live.EndsBy later :=
  ⟨ends.timely, ends.gateless, Nat.le_trans ends.within forth⟩

/-- A task that ends on its own is not at the gate. -/
theorem not_atGate (ends : live.EndsBy instant) : live.atGate = false :=
  not_atGate_of_gateless ends.gateless

end EndsBy

end Live

end Admission
