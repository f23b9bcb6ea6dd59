import Admission.Task.Live
import Admission.Proofs.Task.Calls

/-! # A task under way ends as it would alone

A live task goes on one beat at a time, between other tasks. What it will have come to
is fixed all the same: `Admission.Live.runOut` lets the rest of the task run on its own,
under what is left of its deadline. No event changes it
(`Admission.Live.runOut_of_event`), and a task that enters, or is let through the gate,
starts with the run of its whole program.
-/

namespace Admission

/-- The call with what is left of its limit. -/
def Request.within (left : Nat) : Request → Request
  | read room _ => read room left
  | write bytes _ => write bytes left
  | shutdown _ => shutdown left

/-- The task whose first call has so much of its limit left. -/
def Task.within {α : Type} (left : Nat) : Task α → Task α
  | ask request next => ask (request.within left) next
  | task => task

def Run.after {α : Type} (ms : Nat) (run : Run α) : Run α :=
  { run with took := ms + run.took }

def Ended.after (ms : Nat) (ended : Ended) : Ended :=
  { ended with took := ms + ended.took }

namespace Connection

/-- A read that resumes after a wait is the read of the rest, that much later. -/
theorem read_of_later {conn : Connection} {script : Script ReadAct} {left later ms : Nat}
    (meets : conn.reads.meet left = (script.meet later).after ms) (span : left = ms + later)
    (room : Nat) :
    conn.read room left = (({ conn with reads := script }).read room later).after ms := by
  unfold read
  rw [meets]
  cases script.meet later with
  | reached what took rest => cases what <;> rfl
  | spent took => rw [span]; rfl
  | late rest => rw [span]; rfl

/-- A shutdown that resumes after a wait is the shutdown along the rest, that much
later. -/
theorem shutdown_of_later {conn : Connection} {script : Script CloseAct} {left later ms : Nat}
    (meets : conn.closing.meet left = (script.meet later).after ms) (span : left = ms + later) :
    conn.shutdown left = (({ conn with closing := script }).shutdown later).after ms := by
  unfold shutdown
  rw [meets]
  cases script.meet later with
  | reached what took rest => cases what <;> rfl
  | spent took => rfl
  | late rest => rw [span]; rfl

/-- A write follows the script it is given, whatever the connection's own. -/
theorem writeAlong_of_writes (conn : Connection) (writes script : Script WriteAct)
    (bytes : List UInt8) (left : Nat) :
    ({ conn with writes } : Connection).writeAlong script bytes left =
      conn.writeAlong script bytes left := by
  induction script generalizing conn writes bytes left with
  | nil => cases bytes <;> rfl
  | cons beat script ih =>
      cases bytes with
      | nil => rfl
      | cons byte bytes =>
          cases beat with
          | stall => rfl
          | wait ms => simp only [writeAlong, ih]
          | act what =>
              cases what with
              | fail kind => simp only [writeAlong, ih]
              | accept count =>
                  have same := ih (conn.took ((byte :: bytes).take count)) writes
                  simp only [writeAlong, ← same]
                  rfl

end Connection

namespace Live

variable {α : Type}

/-- The deadline of the call in progress has not passed. -/
def Timely (live : Live α) : Prop :=
  live.clock ≤ live.deadline

/-- What the task comes to: its result and its connection at the end, and the instant
of its end. -/
def runOut (live : Live α) : Run α :=
  ((live.task.within (live.deadline - live.clock)).run live.conn).after live.clock

/-- A task that enters has its whole deadline ahead. -/
theorem enter_timely (task : Task α) (conn : Connection) (clock : Nat) :
    (enter task conn clock).Timely := by
  cases task with
  | ask request next => exact Nat.le_add_right _ _
  | finish result => exact Nat.le_refl _
  | drop next => exact Nat.le_refl _
  | pass next => exact Nat.le_refl _
  | crash => exact Nat.le_refl _

/-- A task that enters has its whole run before it. -/
theorem enter_runOut (task : Task α) (conn : Connection) (clock : Nat) :
    (enter task conn clock).runOut = (task.run conn).after clock := by
  cases task with
  | ask request next =>
      have whole : request.within request.limit = request := by
        cases request <;> rfl
      simp only [enter, runOut, Task.within, Nat.add_sub_cancel_left, whole]
  | finish result => rfl
  | drop next => rfl
  | pass next => rfl
  | crash => rfl

/-- The rest of a task in a call is the call under what is left of its limit, and then the rest
behind its reply. -/
theorem runOut_ask (request : Request) (next : Reply → Task α) (conn : Connection)
    (clock deadline : Nat) :
    (⟨.ask request next, conn, clock, deadline⟩ : Live α).runOut =
      let ended := (request.within (deadline - clock)).perform conn
      ((next ended.reply).run ended.conn).after (clock + ended.took) := by
  simp only [runOut, Task.within, Task.run, Run.after, Nat.add_assoc]

/-- A script that lets a call resume has a wait in front, which fits into the limit. -/
theorem front_resume {β : Type} {script rest : Script β} {clock deadline due : Nat}
    (resumes : front script clock deadline = .resume due rest) :
    ∃ ms, script = .wait ms :: rest ∧ due = clock + ms ∧ due ≤ deadline := by
  cases script with
  | nil => cases resumes
  | cons beat script =>
      cases beat with
      | stall => cases resumes
      | act what => cases resumes
      | wait ms =>
          rw [front] at resumes
          split at resumes
          next fits =>
            cases resumes
            exact ⟨ms, rfl, rfl, fits⟩
          next => cases resumes

/-- An act that is met now is the first beat of the script. -/
theorem front_act {β : Type} {script rest : Script β} {clock deadline : Nat} {what : β}
    (acts : front script clock deadline = .act what rest) : script = .act what :: rest := by
  cases script with
  | nil => cases acts
  | cons beat script =>
      cases beat with
      | stall => cases acts
      | act what =>
          cases acts
          rfl
      | wait ms =>
          rw [front] at acts
          split at acts <;> cases acts

/-- A script that is met when it is used up is empty. -/
theorem front_spent {β : Type} {script : Script β} {clock deadline : Nat}
    (spent : front script clock deadline = .spent) : script = [] := by
  cases script with
  | nil => rfl
  | cons beat script =>
      cases beat with
      | stall => cases spent
      | act what => cases spent
      | wait ms =>
          rw [front] at spent
          split at spent <;> cases spent

/-- A script that makes a call late has a stall in front, or a wait that is too long. -/
theorem front_late {β : Type} {script : Script β} {clock deadline : Nat}
    (late : front script clock deadline = .late) :
    ∃ rest, script = .stall :: rest ∨ ∃ ms, script = .wait ms :: rest ∧ deadline < clock + ms := by
  cases script with
  | nil => cases late
  | cons beat script =>
      refine ⟨script, ?_⟩
      cases beat with
      | stall => exact .inl rfl
      | act what => cases late
      | wait ms =>
          rw [front] at late
          split at late
          next => cases late
          next slow => exact .inr ⟨ms, rfl, Nat.lt_of_not_le slow⟩

/-- What the front of a script means for the meeting with it. -/
theorem meet_of_front {β : Type} (script : Script β) {clock deadline : Nat}
    (timely : clock ≤ deadline) :
    script.meet (deadline - clock) =
      match front script clock deadline with
      | .resume due rest => (rest.meet (deadline - due)).after (due - clock)
      | .act what rest => .reached what 0 rest
      | .spent => .spent 0
      | .late => .late script := by
  cases shown : front script clock deadline with
  | resume due rest =>
      obtain ⟨ms, rfl, rfl, fits⟩ := front_resume shown
      have within : ms ≤ deadline - clock := by omega
      simp only [Script.meet, if_pos within, Nat.sub_sub, Nat.add_sub_cancel_left]
  | act what rest =>
      rw [front_act shown]
      rfl
  | spent =>
      rw [front_spent shown]
      rfl
  | late =>
      obtain ⟨rest, rfl | ⟨ms, rfl, slow⟩⟩ := front_late shown
      · rfl
      · have without : ¬ ms ≤ deadline - clock := by omega
        rw [Script.meet, if_neg without]

/-- A read goes as the front of the peer's script says. -/
theorem read_of_front (conn : Connection) {clock deadline : Nat} (timely : clock ≤ deadline)
    (room : Nat) :
    conn.read room (deadline - clock) =
      match front conn.reads clock deadline with
      | .resume due rest =>
        (({ conn with reads := rest }).read room (deadline - due)).after (due - clock)
      | .act what rest =>
        ⟨(conn.readAct room what rest).1, 0, (conn.readAct room what rest).2⟩
      | .spent => ⟨.late, deadline - clock, conn⟩
      | .late => ⟨.late, deadline - clock, conn⟩ := by
  have meets := meet_of_front conn.reads timely
  cases shown : front conn.reads clock deadline with
  | resume due rest =>
      obtain ⟨ms, script, rfl, fits⟩ := front_resume shown
      rw [shown] at meets
      exact Connection.read_of_later meets (by omega) room
  | act what rest =>
      rw [shown] at meets
      simp only [Connection.read, meets]
  | spent =>
      rw [shown] at meets
      have same : { conn with reads := [] } = conn := by rw [← front_spent shown]
      simp only [Connection.read, meets, same]
  | late =>
      rw [shown] at meets
      simp only [Connection.read, meets]

theorem shutdown_of_front (conn : Connection) {clock deadline : Nat}
    (timely : clock ≤ deadline) :
    conn.shutdown (deadline - clock) =
      match front conn.closing clock deadline with
      | .resume due rest =>
        (({ conn with closing := rest }).shutdown (deadline - due)).after (due - clock)
      | .act what rest => ⟨(conn.closeAct what rest).1, 0, (conn.closeAct what rest).2⟩
      | .spent => ⟨.done, 0, conn.closed⟩
      | .late => ⟨.late, deadline - clock, conn⟩ := by
  have meets := meet_of_front conn.closing timely
  cases shown : front conn.closing clock deadline with
  | resume due rest =>
      obtain ⟨ms, script, rfl, fits⟩ := front_resume shown
      rw [shown] at meets
      exact Connection.shutdown_of_later meets (by omega)
  | act what rest =>
      rw [shown] at meets
      simp only [Connection.shutdown, meets]
  | spent =>
      rw [shown] at meets
      have same : { conn.closed with closing := [] } = conn.closed := by
        rw [← front_spent shown, Connection.closed]
      simp only [Connection.shutdown, meets, same]
  | late =>
      rw [shown] at meets
      simp only [Connection.shutdown, meets]

/-- What the front of a script means for a write that has bytes left. -/
theorem write_of_front (conn : Connection) {clock deadline : Nat} (timely : clock ≤ deadline)
    (byte : UInt8) (bytes : List UInt8) :
    conn.write (byte :: bytes) (deadline - clock) =
      match front conn.writes clock deadline with
      | .resume due rest =>
        (({ conn with writes := rest }).write (byte :: bytes) (deadline - due)).after (due - clock)
      | .act (.fail kind) rest =>
        if Connection.retried kind then
          ({ conn with writes := rest }).write (byte :: bytes) (deadline - clock)
        else ⟨.failed, 0, { conn with writes := rest }⟩
      | .act (.accept count) rest =>
        if count = 0 then ⟨.failed, 0, { conn with writes := rest }⟩
        else
          ({ conn.took ((byte :: bytes).take count) with writes := rest }).write
            ((byte :: bytes).drop count) (deadline - clock)
      | .spent => ⟨.done, 0, conn.took (byte :: bytes)⟩
      | .late => ⟨.late, deadline - clock, conn⟩ := by
  have along := conn.writeAlong_of_writes
  cases shown : front conn.writes clock deadline with
  | resume due rest =>
      obtain ⟨ms, script, rfl, fits⟩ := front_resume shown
      have within : ms ≤ deadline - clock := by omega
      simp only [Connection.write, script, Connection.writeAlong, if_pos within, Nat.sub_sub,
        Nat.add_sub_cancel_left, along, Ended.after]
  | act what rest =>
      have script := front_act shown
      cases what with
      | fail kind => simp only [Connection.write, script, Connection.writeAlong, along]
      | accept count =>
          simp only [Connection.write, script, Connection.writeAlong,
            Connection.writeAlong_of_writes]
  | spent =>
      have script := front_spent shown
      have same : { conn.took (byte :: bytes) with writes := [] } = conn.took (byte :: bytes) := by
        rw [← script, Connection.took]
      simp only [Connection.write, script, Connection.writeAlong, same]
  | late =>
      obtain ⟨rest, script | ⟨ms, script, slow⟩⟩ := front_late shown
      · have same : { conn with writes := .stall :: rest } = conn := by rw [← script]
        simp only [Connection.write, script, Connection.writeAlong, same]
      · have same : { conn with writes := .wait ms :: rest } = conn := by rw [← script]
        have without : ¬ ms ≤ deadline - clock := by omega
        simp only [Connection.write, script, Connection.writeAlong, if_neg without, same]

/-- What comes next for a call in progress: either it goes on with what is left of it, or
it ends. In both cases the call comes to the same as before. -/
inductive Advance (request : Request) (next : Reply → Task α) (conn : Connection)
    (clock deadline : Nat) : Prospect α → Prop where
  | onward {due : Nat} {later : Request} {conn' : Connection} (forth : clock ≤ due)
      (inTime : due ≤ deadline)
      (same : (request.within (deadline - clock)).perform conn =
        ((later.within (deadline - due)).perform conn').after (due - clock)) :
      Advance request next conn clock deadline
        (.event due ⟨.ask later next, conn', due, deadline⟩)
  | ending {due : Nat} {how : Reply} {conn' : Connection} (forth : clock ≤ due)
      (same : (request.within (deadline - clock)).perform conn = ⟨how, due - clock, conn'⟩) :
      Advance request next conn clock deadline (reply next due how conn')

/-- A call that ends now comes to its reply. -/
theorem Advance.now {request : Request} {next : Reply → Task α} {conn conn' : Connection}
    {clock deadline : Nat} {how : Reply}
    (same : (request.within (deadline - clock)).perform conn = ⟨how, 0, conn'⟩) :
    Advance request next conn clock deadline (reply next clock how conn') :=
  .ending (Nat.le_refl _) (by rw [same, Nat.sub_self])

/-- A call may give way to another one that comes to the same. -/
theorem Advance.through {request later : Request} {next : Reply → Task α}
    {conn conn' : Connection} {clock deadline : Nat} (timely : clock ≤ deadline)
    (same : (request.within (deadline - clock)).perform conn =
      (later.within (deadline - clock)).perform conn') :
    Advance request next conn clock deadline
      (.event clock ⟨.ask later next, conn', clock, deadline⟩) := by
  refine .onward (Nat.le_refl _) timely ?_
  rw [same, Ended.after, Nat.sub_self, Nat.zero_add]

theorem advance_read {room limit clock deadline : Nat} (next : Reply → Task α)
    (conn : Connection) (timely : clock ≤ deadline) :
    Advance (.read room limit) next conn clock deadline
      (prospect ⟨.ask (.read room limit) next, conn, clock, deadline⟩) := by
  have read := read_of_front conn timely room
  simp only [prospect]
  cases shown : front conn.reads clock deadline with
  | resume due rest =>
      obtain ⟨ms, -, rfl, fits⟩ := front_resume shown
      rw [shown] at read
      exact .onward (Nat.le_add_right _ _) fits read
  | act what rest =>
      rw [shown] at read
      exact .now read
  | spent =>
      rw [shown] at read
      exact .ending timely read
  | late =>
      rw [shown] at read
      exact .ending timely read

theorem advance_shutdown {limit clock deadline : Nat} (next : Reply → Task α)
    (conn : Connection) (timely : clock ≤ deadline) :
    Advance (.shutdown limit) next conn clock deadline
      (prospect ⟨.ask (.shutdown limit) next, conn, clock, deadline⟩) := by
  have shutdown := shutdown_of_front conn timely
  simp only [prospect]
  cases shown : front conn.closing clock deadline with
  | resume due rest =>
      obtain ⟨ms, -, rfl, fits⟩ := front_resume shown
      rw [shown] at shutdown
      exact .onward (Nat.le_add_right _ _) fits shutdown
  | act what rest =>
      rw [shown] at shutdown
      exact .now shutdown
  | spent =>
      rw [shown] at shutdown
      exact .now shutdown
  | late =>
      rw [shown] at shutdown
      exact .ending timely shutdown

theorem advance_write {bytes : List UInt8} {limit clock deadline : Nat}
    (next : Reply → Task α) (conn : Connection) (timely : clock ≤ deadline) :
    Advance (.write bytes limit) next conn clock deadline
      (prospect ⟨.ask (.write bytes limit) next, conn, clock, deadline⟩) := by
  cases bytes with
  | nil =>
      apply Advance.now
      simp only [Request.within, Request.perform, Connection.write, Connection.writeAlong]
  | cons byte bytes =>
      have write := write_of_front conn timely byte bytes
      simp only [prospect]
      cases shown : front conn.writes clock deadline with
      | resume due rest =>
          obtain ⟨ms, -, rfl, fits⟩ := front_resume shown
          rw [shown] at write
          exact .onward (Nat.le_add_right _ _) fits write
      | act what rest =>
          rw [shown] at write
          cases what with
          | fail kind =>
              by_cases again : Connection.retried kind = true
              · simp only [again, if_true] at write ⊢
                exact .through timely write
              · simp only [again, Bool.false_eq_true, if_false] at write ⊢
                exact .now write
          | accept count =>
              by_cases none : count = 0
              · simp only [none, if_true] at write ⊢
                exact .now write
              · simp only [none, if_false] at write ⊢
                exact .through timely write
      | spent =>
          rw [shown] at write
          exact .now write
      | late =>
          rw [shown] at write
          exact .ending timely write

/-- What comes next for a call comes to the same as the call. -/
theorem advance_ask (request : Request) (next : Reply → Task α) (conn : Connection)
    {clock deadline : Nat} (timely : clock ≤ deadline) :
    Advance request next conn clock deadline
      (prospect ⟨.ask request next, conn, clock, deadline⟩) := by
  cases request with
  | read room limit => exact advance_read next conn timely
  | write bytes limit => exact advance_write next conn timely
  | shutdown limit => exact advance_shutdown next conn timely

/-- An advance changes nothing of what the task comes to. -/
theorem Advance.runOut_eq {request : Request} {next : Reply → Task α} {conn : Connection}
    {clock deadline due : Nat} {after : Live α}
    (advance : Advance request next conn clock deadline (.event due after)) :
    after.Timely ∧
      after.runOut = (⟨.ask request next, conn, clock, deadline⟩ : Live α).runOut := by
  generalize event : Prospect.event due after = prospect at advance
  cases advance with
  | onward forth inTime same =>
      obtain ⟨rfl, rfl⟩ := Prospect.event.inj event
      refine ⟨inTime, ?_⟩
      rw [runOut_ask, runOut_ask, same]
      simp only [Ended.after]
      congr 1
      omega
  | ending forth same =>
      obtain ⟨rfl, rfl⟩ := Prospect.event.inj event
      refine ⟨enter_timely .., ?_⟩
      rw [enter_runOut, runOut_ask, same]
      simp only [Nat.add_sub_of_le forth]

/-- **A beat changes nothing.** Whatever event comes next, the task comes to the same
result, at the same instant, with the same connection. -/
theorem runOut_of_event {live after : Live α} {due : Nat} (timely : live.Timely)
    (event : live.prospect = .event due after) :
    after.Timely ∧ after.runOut = live.runOut := by
  obtain ⟨task, conn, clock, deadline⟩ := live
  cases task with
  | finish result => cases event
  | crash => cases event
  | pass next => cases event
  | drop next =>
      obtain ⟨rfl, rfl⟩ := Prospect.event.inj event
      exact ⟨enter_timely .., enter_runOut ..⟩
  | ask request next =>
      have advance := advance_ask request next conn timely
      rw [event] at advance
      exact advance.runOut_eq

theorem letThrough_timely {live : Live α} (timely : live.Timely) (now : Nat) :
    (live.letThrough now).Timely := by
  unfold letThrough
  split
  next next waits => exact enter_timely ..
  next => exact timely

/-- The gate changes no more than the instant. -/
theorem letThrough_runOut (live : Live α) (now : Nat) :
    (live.letThrough now).runOut.result = live.runOut.result ∧
      (live.letThrough now).runOut.conn = live.runOut.conn := by
  unfold letThrough
  split
  next next waits =>
    rw [enter_runOut, runOut, waits]
    exact ⟨rfl, rfl⟩
  next => exact ⟨rfl, rfl⟩

/-- A task that is over has come to what it is. -/
theorem runOut_of_finished {live : Live α} {result : Option α} (timely : live.Timely)
    (finished : live.prospect = .finished result) :
    live.runOut.result = result ∧
      live.runOut.conn = if result.isSome then live.conn else live.conn.dropped := by
  obtain ⟨task, conn, clock, deadline⟩ := live
  cases task with
  | finish value =>
      obtain rfl := Prospect.finished.inj finished
      exact ⟨rfl, rfl⟩
  | crash =>
      obtain rfl := Prospect.finished.inj finished
      exact ⟨rfl, rfl⟩
  | pass next => cases finished
  | drop next => cases finished
  | ask request next =>
      have advance := advance_ask request next conn timely
      rw [finished] at advance
      cases advance

/-- What happened so far stays. -/
theorem upTo_runOut (live : Live α) : live.conn.record.UpTo live.runOut.conn.record :=
  Task.run_upTo _ _

end Live

end Admission
