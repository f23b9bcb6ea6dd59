import Admission.Proofs.Floor.Forecast
import Admission.Proofs.Pool.Drain
import Admission.Proofs.Task.Responses
import Admission.Proofs.Timeline

/-! # Jobs in a pool end as they would alone

A run of the floor is any sequence of submissions, of moves of the workers in any order,
of time, of permits at the gate and of calls that close the pool
(`Admission.Floor.Run`); the order in which the floor itself goes on is one of them
(`Admission.Floor.Run.settle`, `Admission.Floor.Run.elapse`).

All along a run the forecasts are those of the jobs that were taken in, each as its
task on its own has it (`Admission.Floor.Faithful`). So a job that is over ended as it
would have alone, whatever the other jobs did, and once the pool was closed and drained
every job that was taken in is over (`Admission.Floor.pooled_as_alone`).
-/

namespace Admission

def Submission.isAccepted {α : Type} : Submission α → Bool
  | accepted => true
  | _ => false

/-- A job that a pool took in, as it came. -/
structure Intake where
  number : Nat
  job : Job
  conn : Connection
  deriving DecidableEq, Repr

/-- What the job comes to when nothing else goes on. -/
def Intake.alone (processor : Processor) (intake : Intake) : Forecast :=
  let run := (processor.task intake.job.id).run intake.conn
  ⟨intake.number, intake.job.id, run.result, run.conn.record⟩

namespace Floor

/-- Every job that was taken in is to end as it would alone. -/
structure Faithful (processor : Processor) (intakes : List Intake) (floor : Floor) : Prop where
  handled : floor.processor = processor
  timely : floor.Timely
  foreseen : floor.forecasts.Perm (intakes.map (Intake.alone processor))

namespace Faithful

variable {processor : Processor} {intakes : List Intake} {floor next : Floor}

/-- On a new floor nothing is foreseen. -/
theorem start (processor : Processor) (size : Pool.Config) :
    Faithful processor [] { processor, pool := Pool.start size } := by
  have idle : (Pool.start size : Pool Errand).workers.filterMap Worker.processes = [] := by
    apply List.filterMap_eq_nil_iff.mpr
    intro worker member
    rw [List.eq_of_mem_replicate member]
    rfl
  refine ⟨rfl, ?_, ?_⟩
  · intro errand busy
    cases List.eq_of_mem_replicate busy
  · simp only [forecasts, underway, idle]
    exact .refl _

theorem move (faithful : Faithful processor intakes floor) (move : floor.Move next) :
    Faithful processor intakes next where
  handled := move.processor_eq.trans faithful.handled
  timely := move.timely faithful.timely
  foreseen := (move.forecasts faithful.timely).trans faithful.foreseen

/-- A job that is taken in adds its own forecast. -/
theorem accept (faithful : Faithful processor intakes floor) {number : Nat} {job : Job}
    {conn : Connection} {pool : Pool Errand}
    (submitted : floor.pool.submit
      (.waiting number job (floor.processor.task job.id) conn) = (.accepted, pool)) :
    Faithful processor (intakes ++ [⟨number, job, conn⟩]) { floor with pool } := by
  obtain ⟨handled, timely, foreseen⟩ := faithful
  have taken := Pool.eq_of_accepted submitted
  subst taken
  refine ⟨handled, timely, ?_⟩
  have queued := floor.forecasts_queue (floor.pool.free - 1)
    (.waiting number job (floor.processor.task job.id) conn)
  rw [List.map_append, ← handled]
  rw [← handled] at foreseen
  exact queued.trans (foreseen.append_right _)

/-- A job that is over ended as it would have alone. -/
theorem exists_intake (faithful : Faithful processor intakes floor) {ending : Ending}
    (past : ending ∈ floor.endings) :
    ∃ intake ∈ intakes, ending.forecast = intake.alone processor := by
  have forecast : ending.forecast ∈ floor.forecasts :=
    List.mem_append_right _ (List.mem_append_right _ (List.mem_map_of_mem past))
  obtain ⟨intake, member, same⟩ := List.mem_map.mp (faithful.foreseen.mem_iff.mp forecast)
  exact ⟨intake, member, same.symm⟩

/-- With nothing queued and nobody at work, the jobs that were taken in are over. -/
theorem endings_perm (faithful : Faithful processor intakes floor)
    (empty : floor.pool.queue = []) (done : floor.pool.processing = []) :
    (floor.endings.map Ending.forecast).Perm (intakes.map (Intake.alone processor)) := by
  have foreseen := faithful.foreseen
  rw [Pool.processing] at done
  simpa only [forecasts, underway, empty, done, List.map_nil, List.nil_append] using foreseen

end Faithful

/-- Something that happens to a floor between two submissions. -/
inductive Step (floor : Floor) : Floor → Prop where
  | move {next : Floor} (move : floor.Move next) : Step floor next
  | wait (instant : Nat) : Step floor (Timeline.moveTo instant floor)
  | release (count : Nat) : Step floor (floor.release count)
  | close : Step floor floor.close

/-- What happens between two submissions changes nothing of what is foreseen. -/
theorem Faithful.step {processor : Processor} {intakes : List Intake} {floor next : Floor}
    (faithful : Faithful processor intakes floor) (step : floor.Step next) :
    Faithful processor intakes next := by
  cases step with
  | move move => exact faithful.move move
  | wait instant => exact ⟨faithful.handled, faithful.timely, faithful.foreseen⟩
  | release count => exact ⟨faithful.handled, faithful.timely, faithful.foreseen⟩
  | close => exact ⟨faithful.handled, faithful.timely, faithful.foreseen⟩

/-- A job that was submitted with its connection, and whether it was taken in. -/
structure Submitted where
  job : Job
  conn : Connection
  accepted : Bool
  deriving DecidableEq, Repr

/-- A run that leads from one state of the floor to another, with the jobs that were
submitted on the way. They are numbered in this order. -/
inductive Run (start : Floor) : List Submitted → Floor → Prop where
  | start : Run start [] start
  | step {submissions : List Submitted} {floor next : Floor}
      (before : Run start submissions floor) (step : floor.Step next) :
      Run start submissions next
  | submit {submissions : List Submitted} {floor : Floor}
      (before : Run start submissions floor) (job : Job) (conn : Connection) :
      Run start
        (submissions ++
          [⟨job, conn, (floor.submit submissions.length job conn).1.isAccepted⟩])
        (floor.submit submissions.length job conn).2

/-- The submitted jobs that were taken in. -/
def intakes (submissions : List Submitted) : List Intake :=
  (submissions.zipIdx.filter fun entry => entry.1.accepted).map fun entry =>
    ⟨entry.2, entry.1.job, entry.1.conn⟩

/-- One more submission adds an intake if it was accepted. -/
theorem intakes_concat (submissions : List Submitted) (submitted : Submitted) :
    intakes (submissions ++ [submitted]) =
      intakes submissions ++
        if submitted.accepted then [⟨submissions.length, submitted.job, submitted.conn⟩]
        else [] := by
  simp only [intakes, List.zipIdx_append, List.zipIdx_singleton, List.filter_append,
    List.map_append, Nat.zero_add]
  by_cases accepted : submitted.accepted = true
  · simp [accepted]
  · simp [accepted]

/-- The intakes are the accepted submissions, under their places. -/
theorem mem_intakes_iff {submissions : List Submitted} {intake : Intake} :
    intake ∈ intakes submissions ↔
      submissions[intake.number]? = some ⟨intake.job, intake.conn, true⟩ := by
  rw [intakes, List.mem_map]
  constructor
  · rintro ⟨⟨⟨job, conn, accepted⟩, number⟩, member, rfl⟩
    obtain ⟨member, taken⟩ := List.mem_filter.mp member
    have found := List.mem_zipIdx_iff_getElem?.mp member
    obtain rfl : accepted = true := taken
    exact found
  · intro found
    have member : (⟨intake.job, intake.conn, true⟩, intake.number) ∈ submissions.zipIdx :=
      List.mem_zipIdx_iff_getElem?.mpr found
    exact ⟨_, List.mem_filter.mpr ⟨member, rfl⟩, rfl⟩

/-- Each number is given once. -/
theorem intakes_numbers_nodup (submissions : List Submitted) :
    ((intakes submissions).map Intake.number).Nodup := by
  have numbered : (submissions.zipIdx.map Prod.snd).Nodup := by
    rw [List.zipIdx_map_snd]
    exact List.nodup_range'
  rw [intakes, List.map_map]
  exact numbered.sublist (List.filter_sublist.map Prod.snd)

/-- What a call that submits a job leaves of the floor. -/
theorem submit_cases (floor : Floor) (number : Nat) (job : Job) (conn : Connection) :
    (∃ pool, floor.pool.submit (.waiting number job (floor.processor.task job.id) conn) =
        (.accepted, pool) ∧
      (floor.submit number job conn).1.isAccepted = true ∧
      (floor.submit number job conn).2 = { floor with pool }) ∨
    ((floor.submit number job conn).1.isAccepted = false ∧
      (floor.submit number job conn).2 = floor) := by
  unfold submit
  rcases floor.pool.submit_cases (.waiting number job (floor.processor.task job.id) conn) with
    answer | answer | answer
  · simp only [answer]
    exact .inl ⟨_, rfl, rfl, rfl⟩
  · simp only [answer]
    exact .inr ⟨rfl, trivial⟩
  · simp only [answer]
    exact .inr ⟨rfl, trivial⟩

/-- The closing of a pool is in order: it is open as long as no call closed it, and the
first of these calls returns when the pool is drained. -/
structure Winding (size : Pool.Config) (floor : Floor) : Prop where
  sound : floor.pool.Sound size 0
  opened : floor.pool.isOpen = true ↔ floor.closings = []
  joined : floor.closings.head? = some .returned → floor.pool.drained = true

namespace Winding

variable {size : Pool.Config} {floor next : Floor}

theorem move (winding : Winding size floor) (move : floor.Move next) : Winding size next := by
  obtain ⟨sound, opened, joined⟩ := winding
  refine ⟨move.sound sound, ?_, ?_⟩
  · rcases move.working_or_joining with ⟨-, closings, isOpen⟩ | ⟨-, waiting, rfl⟩
    · rw [closings, isOpen]
      exact opened
    · simp only [List.map_eq_nil_iff]
      exact opened
  · intro returned
    rcases move.working_or_joining with ⟨busy, closings, -⟩ | ⟨drained, -, rfl⟩
    · rw [closings] at returned
      cases busy.symm.trans (joined returned)
    · exact drained

/-- A call that closes keeps the closing in order. -/
theorem close (winding : Winding size floor) : Winding size floor.close := by
  obtain ⟨sound, opened, joined⟩ := winding
  refine ⟨sound.close, ?_, ?_⟩
  · simp [Floor.close, Pool.close]
  · intro returned
    by_cases isOpen : floor.pool.isOpen = true
    · have first := opened.mp isOpen
      simp only [Floor.close, isOpen, first, if_true, List.nil_append, List.head?_cons] at returned
      cases returned
    · obtain ⟨first, others, closings⟩ :=
        List.exists_cons_of_ne_nil (mt opened.mpr isOpen)
      simp only [Floor.close, closings, List.cons_append, List.head?_cons] at returned
      rw [closings] at joined
      exact joined returned

theorem step (winding : Winding size floor) (step : floor.Step next) : Winding size next := by
  cases step with
  | move move => exact winding.move move
  | wait instant => exact ⟨winding.sound, winding.opened, winding.joined⟩
  | release count => exact ⟨winding.sound, winding.opened, winding.joined⟩
  | close => exact winding.close

/-- A submission keeps the closing in order. -/
theorem submit (winding : Winding size floor) (staff : 0 < size.workers.toNat) (number : Nat)
    (job : Job) (conn : Connection) : Winding size (floor.submit number job conn).2 := by
  obtain ⟨sound, opened, joined⟩ := winding
  have after := sound.submit staff (.waiting number job (floor.processor.task job.id) conn)
  rcases floor.submit_cases number job conn with ⟨pool, submitted, -, same⟩ | ⟨-, same⟩
  · rw [submitted] at after
    rw [same]
    obtain rfl := Pool.eq_of_accepted submitted
    exact ⟨after, opened, joined⟩
  · rw [same]
    exact ⟨sound, opened, joined⟩

end Winding

variable {config : Pool.Config} {processor : Processor} {start floor : Floor}
  {submissions : List Submitted}

/-- A floor that starts has a pool of a size that makes sense, and nothing else. -/
theorem start_cases (started : Floor.start config processor true = .ok start) :
    config.validate = .ok () ∧ start = { processor, pool := Pool.start config } := by
  unfold Floor.start at started
  split at started
  next => cases started
  next valid =>
    rw [if_pos rfl] at started
    exact ⟨valid, (Except.ok.inj started).symm⟩

namespace Run

/-- Moves and time lead from a run to a run with the same submissions. -/
theorem keeps (start : Floor) (submissions : List Submitted) :
    Timeline.Keeps (Run start submissions) where
  strides := fun run strode => run.step (.move (stride_move strode))
  moves := fun instant run => run.step (.wait instant)

theorem settle (run : Run start submissions floor) :
    Run start submissions (Timeline.settle floor) :=
  (keeps start submissions).settle run

theorem elapse (run : Run start submissions floor) (instant : Nat) :
    Run start submissions (Timeline.elapse floor instant) :=
  (keeps start submissions).elapse instant run

/-- All along a run every job that was taken in is to end as it would alone. -/
theorem faithful (started : Floor.start config processor true = .ok start)
    (run : Run start submissions floor) : Faithful processor (intakes submissions) floor := by
  obtain ⟨-, rfl⟩ := start_cases started
  induction run with
  | start => exact .start processor config
  | step before step ih => exact ih.step step
  | @submit submissions floor before job conn ih =>
      rw [intakes_concat]
      rcases floor.submit_cases submissions.length job conn with
        ⟨pool, submitted, accepted, same⟩ | ⟨refused, same⟩
      · rw [same, accepted, if_pos rfl]
        exact ih.accept submitted
      · rw [same, refused, if_neg Bool.false_ne_true, List.append_nil]
        exact ih

/-- All along a run the closing is in order, and there are workers. -/
theorem winding (started : Floor.start config processor true = .ok start)
    (run : Run start submissions floor) :
    0 < config.workers.toNat ∧ Winding config floor := by
  obtain ⟨valid, rfl⟩ := start_cases started
  obtain ⟨staff, -⟩ := Pool.Config.validate_ok valid
  refine ⟨staff, ?_⟩
  induction run with
  | start =>
      refine ⟨Pool.start_sound config, ⟨fun _ => rfl, fun _ => rfl⟩, ?_⟩
      intro returned
      cases returned
  | step before step ih => exact ih.step step
  | submit before job conn ih => exact ih.submit staff _ job conn

end Run

/-- **Jobs in a pool end as they would alone.** Whatever is submitted to a pool, in
whatever order the workers go on, and whenever time passes: no job is over twice, and a
job that is over is one that was taken in. Unless its own processing broke off, its
outcome and the record of its connection, with the bytes that its peer took, the reads,
the bytes that they delivered, the shutdowns and the drops, are those of its task run
alone on the same connection. This holds whatever became of the other jobs, those that
broke off included. When the call that closes the pool has returned, every job that was
taken in is over. -/
theorem pooled_as_alone {readLimit writeLimit : Nat} {broken : List Nat}
    (started : Floor.start config { handling := .serve readLimit writeLimit, broken } true =
      .ok start)
    (run : Run start submissions floor) :
    (floor.endings.map Ending.number).Nodup ∧
    (∀ ending ∈ floor.endings, ∃ job conn,
      submissions[ending.number]? = some ⟨job, conn, true⟩ ∧ ending.id = job.id ∧
      (job.id ∉ broken →
        let alone := (serveTask readLimit writeLimit).run conn
        ending.outcome = alone.result ∧ alone.result.isSome = true ∧
          ending.record = alone.conn.record)) ∧
    (floor.closings.head? = some .returned →
      ∀ number job conn, submissions[number]? = some ⟨job, conn, true⟩ →
        ∃ ending ∈ floor.endings, ending.number = number) := by
  have faithful := run.faithful started
  obtain ⟨staff, winding⟩ := run.winding started
  refine ⟨?_, ?_, ?_⟩
  · -- The numbers of the endings are among those of all forecasts, which differ.
    have numbers := faithful.foreseen.map Forecast.number
    have distinct := intakes_numbers_nodup submissions
    have same : (floor.forecasts.map Forecast.number).Nodup := by
      rw [numbers.nodup_iff, List.map_map]
      exact distinct
    simp only [forecasts, List.map_append, List.map_map] at same
    exact (List.nodup_append.mp (List.nodup_append.mp same).2.1).2.1
  · intro ending past
    obtain ⟨⟨number, job, conn⟩, member, same⟩ := faithful.exists_intake past
    obtain ⟨rfl, id, outcome, record⟩ := Forecast.mk.inj same
    refine ⟨job, conn, mem_intakes_iff.mp member, id, ?_⟩
    intro whole
    have handled : ({ handling := .serve readLimit writeLimit, broken } : Processor).task
        job.id = serveTask readLimit writeLimit := by
      simp [Processor.task, whole]
    have complete : ((({ handling := .serve readLimit writeLimit, broken } : Processor).task
        job.id).run conn).result.isSome = true := Processor.task_result whole conn
    rw [handled] at outcome record complete
    exact ⟨outcome, complete, record⟩
  · intro returned number job conn accepted
    have drained := winding.joined returned
    obtain ⟨empty, -, done, -⟩ := winding.sound.of_drained staff drained
    have ended := faithful.endings_perm empty done
    have member : (⟨number, job, conn⟩ : Intake) ∈ intakes submissions :=
      mem_intakes_iff.mpr accepted
    have foreseen := ended.mem_iff.mpr (List.mem_map_of_mem member)
    obtain ⟨ending, past, same⟩ := List.mem_map.mp foreseen
    exact ⟨ending, past, (Forecast.mk.inj same).1⟩

/-- One job has a peer that stalls, one breaks off, and one is served behind them. -/
theorem pooled_as_alone_three :
    ∃ (start floor : Floor) (submissions : List Submitted) (ending : Ending),
      Floor.start ⟨2, 4⟩ { handling := .serve 3000 2000, broken := [7] } true = .ok start ∧
      Run start submissions floor ∧ floor.closings.head? = some .returned ∧
      floor.endings.map Ending.outcome = [none, some .responded, some .readTimedOut] ∧
      ending ∈ floor.endings ∧ ending.number = 2 ∧ ending.outcome = some .responded ∧
      ending.record.written = Response.ok.bytes := by
  have fresh : Run { processor := { handling := .serve 3000 2000, broken := [7] },
                     pool := Pool.start ⟨2, 4⟩ } [] _ := .start
  have stalled := fresh.submit { id := 5 } { writes := [.stall], closing := [.stall] }
  have broken := stalled.submit { id := 7 } {}
  have behind := broken.submit { id := 9 } { reads := [.wait 40, .act (.deliver 9)] }
  have drained := (behind.step .close).elapse 5000
  have started : Floor.start ⟨2, 4⟩ { handling := .serve 3000 2000, broken := [7] } true =
    .ok _ := rfl
  obtain ⟨-, alone, ended⟩ := pooled_as_alone started drained
  obtain ⟨ending, past, number⟩ := ended (by decide +kernel) 2 { id := 9 }
    { reads := [.wait 40, .act (.deliver 9)] } (by decide +kernel)
  obtain ⟨job, conn, found, -, same⟩ := alone ending past
  rw [number] at found
  obtain ⟨rfl, rfl, -⟩ := Submitted.mk.inj (Option.some.inj found)
  obtain ⟨outcome, -, record⟩ := same (by decide)
  refine ⟨_, _, _, ending, started, drained, by decide +kernel, by decide +kernel, past, number,
    outcome.trans (by decide +kernel), ?_⟩
  rw [record]
  decide +kernel

end Floor

end Admission
