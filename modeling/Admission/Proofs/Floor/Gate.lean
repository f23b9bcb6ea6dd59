import Admission.Proofs.Floor.Punctual

/-! # A gated pool, counted

A gated processor lets a job go on only with a permit, and permits may be there before any
job is. With connections that are written to and closed at once, all that a job ever waits
for is its permit. Then every permit is with a job that is over or under way past the gate,
or lies at the gate (`Admission.Floor.Balanced`), and at rest no job is under way past the
gate. So what a gated pool shows at rest depends on two numbers, the jobs that were taken in
and the permits that were given (`Admission.Floor.gated_settles`), whatever the order of
the calls.
-/

namespace Admission

/-- The response to the connection is written at once, and so the connection is closed. -/
structure Connection.AtOnce (conn : Connection) : Prop where
  write : (conn.write Response.ok.bytes limits.answer).took = 0
  shutdown :
    ((conn.write Response.ok.bytes limits.answer).conn.shutdown limits.close).took = 0

instance (conn : Connection) : Decidable conn.AtOnce :=
  decidable_of_iff
    ((conn.write Response.ok.bytes limits.answer).took = 0 ∧
      ((conn.write Response.ok.bytes limits.answer).conn.shutdown limits.close).took = 0)
    ⟨fun both => ⟨both.1, both.2⟩, fun atOnce => ⟨atOnce.write, atOnce.shutdown⟩⟩

/-- The answer to such a connection takes no time. -/
theorem Connection.AtOnce.answer {conn : Connection} (atOnce : conn.AtOnce) :
    (answerTask.run conn).took = 0 := by
  calc (answerTask.run conn).took
      = (conn.write Response.ok.bytes limits.answer).took +
          ((conn.write Response.ok.bytes limits.answer).conn.shutdown limits.close).took := rfl
    _ = 0 := by rw [atOnce.write, atOnce.shutdown]

/-- A pool that is in order takes a job in exactly when it is open and not full. -/
theorem Pool.Sound.isAccepted_iff {α : Type} {config : Pool.Config} {pool : Pool α}
    (sound : pool.Sound config 0) (staff : 0 < config.workers.toNat) (job : α) :
    (pool.submit job).1.isAccepted = true ↔
      pool.isOpen = true ∧ pool.queue.length + pool.held.length ≠ config.capacity.toNat := by
  rcases sound.submit_decided staff job with
    ⟨shut, answer⟩ | ⟨opened, full, answer⟩ | ⟨opened, roomy, answer⟩
  · simp only [answer, shut, Submission.isAccepted, Bool.false_eq_true, false_and]
  · simp only [answer, full, Submission.isAccepted, Bool.false_eq_true, ne_eq, not_true_eq_false,
      and_false]
  · simp only [answer, opened, roomy, Submission.isAccepted, ne_eq, not_false_eq_true, and_self]

theorem answerTask_gateless : answerTask.Gateless := by
  intro written closed
  trivial

namespace Floor

variable {floor next start : Floor} {config : Pool.Config} {calls : List Call}

/-- Jobs that wait for a permit and for nothing else. -/
def gated : Regime where
  waits errand := errand.live.task = .pass answerTask ∧ errand.live.conn.AtOnce
  works now errand :=
    (errand.live.task = .pass answerTask ∧ errand.live.conn.AtOnce) ∨ errand.live.EndsBy now
  begun := by
    rintro errand now ⟨gate, atOnce⟩
    obtain ⟨task, conn, -⟩ := Live.enter_task errand.live.task errand.live.conn now
    left
    rw [Errand.begun, task, conn]
    exact ⟨gate, atOnce⟩
  goneOn := by
    rintro errand now due after (⟨gate, -⟩ | ends) event
    · rw [Live.prospect, gate] at event
      cases event
    · exact .inr (ends.event event)
  letThrough := by
    rintro errand now (⟨gate, atOnce⟩ | ends) waits
    · have entered : errand.live.letThrough now = .enter answerTask errand.live.conn now := by
        rw [Live.letThrough, gate]
      right
      rw [Errand.goneOn, entered]
      exact .enter answerTask_gateless (by rw [atOnce.answer, Nat.add_zero])
    · cases waits.symm.trans ends.not_atGate
  later := by
    rintro errand now instant (waits | ends) forth
    · exact .inl waits
    · exact .inr (ends.mono forth)

/-- Whether a job under way has its permit. -/
def admitted (errand : Errand) : Bool :=
  !errand.live.atGate

/-- A job under way waits for its permit, or it has it and is over at once. -/
theorem gated_cases {now : Nat} {errand : Errand} (works : gated.works now errand) :
    admitted errand = false ∧ errand.live.task = .pass answerTask ∧ errand.live.prospect = .gate ∨
      admitted errand = true ∧ errand.live.EndsBy now := by
  rcases works with ⟨gate, -⟩ | ends
  · left
    rw [admitted, Live.atGate, Live.prospect, gate]
    exact ⟨rfl, rfl, rfl⟩
  · right
    rw [admitted, ends.not_atGate]
    exact ⟨rfl, ends⟩

/-- A job that begins has no permit yet, and does not break off. -/
theorem gated_begun {errand : Errand} (waits : gated.waits errand) (now : Nat) :
    admitted (errand.begun now) = false ∧ errand.breaksOff = false := by
  obtain ⟨gate, -⟩ := waits
  obtain ⟨task, -, -⟩ := Live.enter_task errand.live.task errand.live.conn now
  rw [admitted, Live.atGate, Errand.begun, task, Errand.breaksOff, gate]
  exact ⟨rfl, rfl⟩

/-- A job that goes on has its permit, before and after. -/
theorem gated_goneOn {now due : Nat} {errand : Errand} {after : Live Outcome}
    (works : gated.works now errand) (event : errand.live.prospect = .event due after) :
    admitted errand = true ∧ admitted (errand.goneOn after) = true := by
  rcases gated_cases works with ⟨-, -, gate⟩ | ⟨through, ends⟩
  · cases gate.symm.trans event
  · rw [admitted, admitted, Errand.goneOn, ends.not_atGate, (ends.event event).not_atGate]
    exact ⟨rfl, rfl⟩

/-- A job at the gate has no permit, and has one when it is let through. -/
theorem gated_letThrough {now : Nat} {errand : Errand} (works : gated.works now errand)
    (waits : errand.live.atGate = true) :
    admitted errand = false ∧
      admitted (errand.goneOn (errand.live.letThrough now)) = true := by
  rcases gated_cases works with ⟨before, gate, -⟩ | ⟨-, ends⟩
  · rw [before, Errand.goneOn, Live.letThrough, gate]
    exact ⟨rfl, rfl⟩
  · cases waits.symm.trans ends.not_atGate

theorem gated_finished {now : Nat} {errand : Errand} {outcome : Option Outcome}
    (works : gated.works now errand) (finished : errand.live.prospect = .finished outcome) :
    admitted errand = true := by
  rcases gated_cases works with ⟨-, -, gate⟩ | ⟨through, -⟩
  · cases gate.symm.trans finished
  · exact through

/-- Every permit that was given is at the gate or with one job, and every job that was
started is under way or over. -/
structure Balanced (granted : Nat) (floor : Floor) : Prop where
  governed : gated.Governs floor
  permits :
    floor.permits + floor.endings.length + floor.pool.processing.countP admitted = granted
  started : floor.started = floor.endings.length + floor.pool.processing.length

namespace Balanced

variable {given : Nat}

/-- A worker may change its state as long as the permits and the jobs still add up. -/
theorem replaced (balanced : Balanced given floor) {before behind : List (Worker Errand)}
    {old new : Worker Errand} (workers : floor.pool.workers = before ++ old :: behind)
    (places : next.pool.workers = before ++ new :: behind) (governed : gated.Governs next)
    (permits : next.permits + next.endings.length + new.processes.toList.countP admitted =
      floor.permits + floor.endings.length + old.processes.toList.countP admitted)
    (started : next.started + floor.endings.length + old.processes.toList.length =
      floor.started + next.endings.length + new.processes.toList.length) :
    Balanced given next where
  governed := governed
  permits := by
    have was := balanced.permits
    rw [countP_processing admitted workers] at was
    rw [countP_processing admitted places]
    omega
  started := by
    have was := balanced.started
    rw [length_processing workers] at was
    rw [length_processing places]
    omega

/-- A move keeps the permits accounted for. -/
theorem move (balanced : Balanced given floor) (move : floor.Move next) : Balanced given next := by
  have later := balanced.governed.move move
  have governed := balanced.governed
  cases move with
  | @begin before behind errand rest workers queued =>
      have waits := governed.queued errand (by rw [queued]; exact List.mem_cons_self)
      obtain ⟨gate, whole⟩ := gated_begun waits floor.now
      apply balanced.replaced workers rfl later
      · simp only [Worker.processes, Option.toList, List.countP_singleton, List.countP_nil, gate,
          Bool.false_eq_true, if_false]
      · simp only [Worker.processes, Option.toList, List.length_singleton, List.length_nil, whole,
          Bool.false_eq_true, if_false]
        omega
  | @goOn before behind errand due after workers event reached =>
      obtain ⟨through, still⟩ := gated_goneOn (governed.busy workers) event
      apply balanced.replaced workers rfl later
      · simp only [Worker.processes, Option.toList, List.countP_singleton, through, still]
      · rfl
  | @pass before behind errand permits workers waits granted =>
      obtain ⟨gate, through⟩ := gated_letThrough (governed.busy workers) waits
      apply balanced.replaced workers rfl later
      · simp only [Worker.processes, Option.toList, List.countP_singleton, gate, through, granted,
          Bool.false_eq_true, if_false, if_true]
        omega
      · rfl
  | @finish before behind errand outcome workers finished =>
      have through := gated_finished (governed.busy workers) finished
      apply balanced.replaced workers rfl later
      · simp only [Worker.processes, Option.toList, List.countP_singleton, List.countP_nil, through,
          List.length_append, List.length_singleton, if_true]
        omega
      · simp only [Worker.processes, Option.toList, List.length_append, List.length_singleton,
          List.length_nil]
        omega
  | release workers => exact balanced.replaced workers rfl later rfl rfl
  | leave workers empty shut => exact balanced.replaced workers rfl later rfl rfl
  | join waiting drained => exact ⟨later, balanced.permits, balanced.started⟩

theorem submit (balanced : Balanced given floor) {number : Nat} {job : Job} {conn : Connection}
    (fit : gated.waits (.waiting number job (floor.processor.task job.id) conn)) :
    Balanced given (floor.submit number job conn).2 where
  governed := balanced.governed.submit fun _ => fit
  permits := by
    rw [submit_processing]
    exact balanced.permits
  started := by
    rw [submit_processing]
    exact balanced.started

theorem release (balanced : Balanced given floor) (count : Nat) :
    Balanced (given + count) (floor.release count) where
  governed := ⟨balanced.governed.queued, balanced.governed.underway⟩
  permits := by
    have was := balanced.permits
    simp only [Floor.release]
    omega
  started := balanced.started

/-- All along a run the permits that were given are accounted for. -/
theorem run (started : Floor.start config { handling := .gated } true = .ok start)
    (punctual : Punctual start calls floor)
    (prompt : ∀ submitted ∈ handedIn calls, submitted.conn.AtOnce) :
    Balanced (granted calls) floor := by
  obtain ⟨-, rfl⟩ := start_cases started
  induction punctual with
  | start =>
      refine ⟨.start .., ?_, ?_⟩ <;>
        · simp only [start_processing]
          rfl
  | move before move ih => exact (ih prompt).move move
  | wait before quiet forth soon ih =>
      have balanced := ih prompt
      exact ⟨balanced.governed.wait forth, balanced.permits, balanced.started⟩
  | submit before job conn ih =>
      simp only [handedIn_submit, List.forall_mem_append, List.forall_mem_singleton] at prompt
      obtain ⟨others, last⟩ := prompt
      rw [granted_concat]
      apply (ih others).submit
      rw [before.processor_eq]
      exact ⟨rfl, last⟩
  | release before count ih =>
      rw [handedIn_other rfl] at prompt
      rw [granted_concat]
      exact (ih prompt).release count
  | close before ih =>
      rw [handedIn_other rfl] at prompt
      rw [granted_concat]
      obtain ⟨governed, permits, started⟩ := ih prompt
      exact ⟨⟨governed.queued, governed.underway⟩, permits, started⟩

end Balanced

/-- At rest every job under way waits for a permit. -/
theorem countP_admitted_of_quiet (governed : gated.Governs floor) (quiet : floor.stride = none) :
    floor.pool.processing.countP admitted = 0 := by
  apply List.countP_eq_zero.mpr
  intro errand member
  have busy := mem_processing_iff.mp member
  rcases gated_cases (governed.underway errand busy) with ⟨waits, -, -⟩ | ⟨-, ends⟩
  · rw [waits]
    exact Bool.false_ne_true
  · obtain ⟨due, after, -, later, within⟩ := event_of_quiet quiet busy ends
    have ended := ends.within
    omega

/-- At rest no permit lies at the gate while a job is under way. -/
theorem permits_of_processing (governed : gated.Governs floor) (quiet : floor.stride = none)
    (underway : floor.pool.processing ≠ []) : floor.permits = 0 := by
  obtain ⟨errand, member⟩ := List.exists_mem_of_ne_nil _ underway
  have waits := List.countP_eq_zero.mp (countP_admitted_of_quiet governed quiet) errand member
  rw [admitted, Bool.not_eq_true', Bool.not_eq_false] at waits
  exact permits_of_quiet quiet (mem_processing_iff.mp member) waits

/-- The jobs that were taken in are queued, under way, or over. -/
theorem Faithful.length_eq {processor : Processor} {submissions : List Submitted}
    (faithful : Faithful processor (intakes submissions) floor) :
    floor.pool.queue.length + floor.pool.processing.length + floor.endings.length =
      submissions.countP Submitted.accepted := by
  have length := faithful.foreseen.length_eq
  simp only [forecasts, underway, List.length_append, List.length_map, intakes_length] at length
  rw [← length, Pool.processing]
  omega

/-- Jobs of a processor that breaks none off are over with an outcome. -/
theorem Faithful.countP_endings {processor : Processor} {intakes : List Intake}
    (faithful : Faithful processor intakes floor) (whole : processor.broken = []) :
    floor.endings.countP (fun ending => ending.outcome.isSome) = floor.endings.length := by
  rw [List.countP_eq_length]
  intro ending past
  obtain ⟨intake, -, same⟩ := faithful.exists_intake past
  have outcome : ending.outcome = ((processor.task intake.job.id).run intake.conn).result :=
    congrArg Forecast.outcome same
  rw [outcome]
  exact Processor.task_result (by rw [whole]; exact List.not_mem_nil) intake.conn

/-- At rest as many jobs are over as have permits, and of the others as many are started as
there are workers. -/
theorem Balanced.settled {given : Nat} (balanced : Balanced given floor)
    (sound : floor.pool.Sound config 0) (staff : 0 < config.workers.toNat)
    (quiet : floor.stride = none) :
    let total := floor.pool.queue.length + floor.pool.processing.length + floor.endings.length
    floor.endings.length = min total given ∧
      floor.started = min total (floor.endings.length + config.workers.toNat) := by
  intro total
  have permits := balanced.permits
  rw [countP_admitted_of_quiet balanced.governed quiet] at permits
  have started := balanced.started
  have fewer := processing_length_le sound
  by_cases idle : floor.pool.processing = []
  · -- Nobody has anything to do, so nothing is queued, and some permits may be left.
    have empty : floor.pool.queue = [] := by
      by_contra waiting
      have staffed := staffed_of_quiet quiet sound waiting
      rw [idle, List.length_nil] at staffed
      omega
    have sizes : total = floor.endings.length := by simp [total, idle, empty]
    rw [idle, List.length_nil] at started
    omega
  · have none := permits_of_processing balanced.governed quiet idle
    by_cases empty : floor.pool.queue = []
    · have sizes : total = floor.pool.processing.length + floor.endings.length := by
        simp [total, empty]
      omega
    · have staffed := staffed_of_quiet quiet sound empty
      omega

/-- **A gated pool comes to what its counts say.** Jobs are submitted to a gated pool, permits
are given, before their jobs or after, and the pool may be closed, in any order and whatever
the workers have done in between; the connections are written to and closed at once. Then at
rest as many jobs are over as were taken in and have permits, so many more are started as
there are workers, and the jobs that were taken in and are not over are in flight. A job that
is submitted then is taken in exactly when the pool was not closed and these are fewer than
its capacity. And the call that closed the pool has returned exactly when there are permits
for all the jobs that were taken in. -/
theorem gated_settles (started : Floor.start config { handling := .gated } true = .ok start)
    (punctual : Punctual start calls floor)
    (prompt : ∀ submitted ∈ handedIn calls, submitted.conn.AtOnce)
    (quiet : floor.stride = none) :
    let workers := config.workers.toNat
    let ended := min (takenIn calls) (granted calls)
    floor.countedEnds = ended ∧
    floor.countedStarts = min (takenIn calls) (ended + workers) ∧
    floor.inFlight = takenIn calls - ended ∧
    (∀ number job conn, (floor.submit number job conn).1.isAccepted = true ↔
      .close ∉ calls ∧ takenIn calls - ended < workers + config.queueSize.toNat) ∧
    (.close ∈ calls →
      (floor.closings.head? = some .returned ↔ takenIn calls ≤ granted calls)) := by
  intro workers ended
  obtain ⟨staff, winding⟩ := punctual.run.winding started
  obtain ⟨valid, fresh⟩ := start_cases started
  obtain ⟨-, capacity⟩ := Pool.Config.validate_ok valid
  have sound := winding.sound
  have faithful := punctual.run.faithful started
  have total : floor.pool.queue.length + floor.pool.processing.length + floor.endings.length =
      takenIn calls := faithful.length_eq
  have counts : floor.processor.counts = true := by
    rw [faithful.handled]
    rfl
  obtain ⟨finished, begun⟩ := (Balanced.run started punctual prompt).settled sound staff quiet
  rw [total] at finished begun
  -- At rest the free permits are what the capacity leaves of the jobs that are not over.
  have slots := sound.slots
  rw [held_of_quiet quiet, capacity] at slots
  have opened := punctual.isOpen_iff (by rw [fresh]; rfl)
  refine ⟨?_, ?_, ?_, ?_, ?_⟩
  · rw [countedEnds, counts, if_pos rfl, faithful.countP_endings rfl]
    exact finished
  · rw [countedStarts, counts, if_pos rfl, begun, finished]
  · rw [inFlight, Pool.inFlight, sound.sized, capacity]
    omega
  · intro number job conn
    have answer := sound.isAccepted_iff staff
      (.waiting number job (floor.processor.task job.id) conn)
    rw [opened, held_of_quiet quiet, capacity] at answer
    refine answer.trans (and_congr_right fun _ => ?_)
    omega
  · intro closed
    have shut : floor.pool.isOpen = false :=
      eq_false_of_ne_true fun still => opened.mp still closed
    constructor
    · intro returned
      obtain ⟨empty, -, done, -⟩ := sound.of_drained staff (winding.joined returned)
      rw [empty, done, List.length_nil] at total
      omega
    · intro enough
      have done : floor.pool.processing = [] := by
        apply List.eq_nil_of_length_eq_zero
        omega
      have returned := returned_of_quiet quiet (drained_of_quiet quiet shut done)
      obtain ⟨call, others, called⟩ : ∃ call others, floor.closings = call :: others :=
        List.exists_cons_of_ne_nil fun none =>
          Bool.false_ne_true (shut.symm.trans (winding.opened.mpr none))
      rw [called] at returned ⊢
      cases call with
      | draining => exact (returned List.mem_cons_self).elim
      | returned => rfl

/-- A permit is there before any job; three of four jobs are taken in, and the pool is closed
before the second permit. -/
theorem gated_settles_closing :
    ∃ start floor calls,
      Floor.start ⟨2, 1⟩ { handling := .gated } true = .ok start ∧
      Punctual start calls floor ∧ (∀ submitted ∈ handedIn calls, submitted.conn.AtOnce) ∧
      floor.stride = none ∧ takenIn calls = 3 ∧ granted calls = 2 ∧ .close ∈ calls ∧
      floor.countedEnds = 2 ∧ floor.countedStarts = 3 ∧ floor.inFlight = 1 ∧
      (floor.submit 4 { id := 5 } {}).1.isAccepted = false ∧
      floor.closings.head? ≠ some .returned := by
  have started : Floor.start ⟨2, 1⟩ { handling := .gated } true = .ok _ := rfl
  have fresh : Punctual { processor := { handling := .gated }, pool := Pool.start ⟨2, 1⟩ } [] _ :=
    .start
  have three := (((fresh.release 1).submit { id := 1 } {}).submit { id := 2 }
    { writes := [.act (.accept 9), .act (.fail .brokenPipe)] }).submit { id := 3 } {}
  have crowded := (three.submit { id := 4 } {}).elapse (show _ ≤ 50 by decide +kernel)
  have closed := (crowded.close.release 1).settle
  obtain ⟨ended, begun, flying, taken, returned⟩ :=
    gated_settles started closed (by decide +kernel) (ends.settle_quiet _)
  refine ⟨_, _, _, started, closed, by decide +kernel, ends.settle_quiet _, by decide +kernel,
    by decide +kernel, by decide +kernel, ended.trans (by decide +kernel),
    begun.trans (by decide +kernel), flying.trans (by decide +kernel), ?_, ?_⟩
  · apply eq_false_of_ne_true
    intro accepted
    exact ((taken 4 { id := 5 } {}).mp accepted).1 (by decide +kernel)
  · intro joined
    exact absurd ((returned (by decide +kernel)).mp joined) (by decide +kernel)

end Floor

end Admission
