import Admission.Proofs.Floor.Moves
import Admission.Proofs.Task.Time
import Admission.Proofs.Timeline

/-! # What the floor still has to do

Every move leaves less work (`Admission.Floor.Move.work_lt`), so the floor comes to rest at
each instant (`Admission.Floor.ends`). At rest no job has an event due
(`Admission.Floor.lt_of_quiet`), and the next event of all is one of some job
(`Admission.Floor.event_of_nextDue`).
-/

namespace Admission.Floor

variable {floor next : Floor}

/-- The work of a floor is that of its jobs, of its workers and of the calls that wait for the
drain. -/
theorem work_eq (floor : Floor) :
    floor.work =
      (floor.pool.queue.map fun errand => errand.live.work + 4).sum
        + (floor.pool.workers.map workerWork).sum + floor.closings.count .draining := rfl

theorem workers_work (before behind : List (Worker Errand)) (worker : Worker Errand) :
    ((before ++ worker :: behind).map workerWork).sum =
      workerWork worker + ((before ++ behind).map workerWork).sum := by
  simp only [List.map_append, List.map_cons, List.sum_append, List.sum_cons]
  omega

theorem begun_work (errand : Errand) (now : Nat) :
    (errand.begun now).live.work = errand.live.work := by
  obtain ⟨task, conn, -⟩ := Live.enter_task errand.live.task errand.live.conn now
  rw [Errand.begun, Live.work_eq, Live.work_eq, task, conn]

theorem letThrough_work {live : Live Outcome} (waits : live.atGate = true) (now : Nat) :
    (live.letThrough now).work < live.work := by
  obtain ⟨task, conn, clock, deadline⟩ := live
  cases task with
  | pass next =>
      obtain ⟨entered, same, -⟩ := Live.enter_task next conn now
      rw [Live.letThrough, Live.work_eq, Live.work_eq, entered, same]
      exact Nat.add_lt_add_right (Nat.lt_succ_self _) _
  | finish result => cases waits
  | ask request next => cases waits
  | drop next => cases waits
  | crash => cases waits

/-- A worker that has less to do leaves the floor less to do. -/
theorem work_lt_of_worker {before behind : List (Worker Errand)} {worker other : Worker Errand}
    {now permits started free : Nat} {endings : List Ending}
    (workers : floor.pool.workers = before ++ worker :: behind)
    (less : workerWork other < workerWork worker) :
    Floor.work { floor with
      pool := { floor.pool with free, workers := before ++ other :: behind }
      now, permits, started, endings } < floor.work := by
  simp only [work_eq, workers, workers_work]
  omega

/-- **Every move leaves less work.** -/
theorem Move.work_lt (move : floor.Move next) : next.work < floor.work := by
  cases move with
  | @begin before behind errand rest workers queued =>
      have same := begun_work errand floor.now
      simp only [work_eq, workers, workers_work, queued, List.map_cons, List.sum_cons, workerWork]
      omega
  | goOn workers event reached =>
      have less := Live.work_lt_of_event event
      exact work_lt_of_worker workers (Nat.add_lt_add_right less 3)
  | pass workers waits granted =>
      have less := letThrough_work waits floor.now
      exact work_lt_of_worker workers (Nat.add_lt_add_right less 3)
  | finish workers finished => exact work_lt_of_worker workers (Nat.le_add_left 3 _)
  | release workers => exact work_lt_of_worker workers (Nat.lt_succ_self 1)
  | leave workers empty shut => exact work_lt_of_worker workers Nat.one_pos
  | join waiting drained =>
      have some : 0 < floor.closings.count .draining := List.count_pos_iff.mpr waiting
      have none : (floor.closings.map fun _ => Closing.returned).count .draining = 0 := by
        apply List.count_eq_zero.mpr
        intro member
        obtain ⟨call, -, same⟩ := List.mem_map.mp member
        cases same
      simp only [work_eq, none]
      omega

/-- The floor comes to rest at every instant. -/
theorem ends : Timeline.Ends Floor where
  strides := fun strode => (stride_move strode).work_lt
  moves := fun _ _ => rfl

/-- A call that closes adds one step at most. -/
theorem close_work_le (floor : Floor) : floor.close.work ≤ floor.work + 1 := by
  have one (call : Closing) : [call].count .draining ≤ 1 := List.count_le_length
  have more := one (if floor.pool.isOpen then .draining else .returned)
  simp only [work_eq, close, Pool.close, List.count_append]
  omega

/-- Each of the workers is asked for something to do. -/
theorem workerStride_of_quiet {count index place : Nat}
    (quiet : floor.workersStride count index = none) (since : index ≤ place)
    (below : place < index + count) : floor.workerStride place = none := by
  induction count generalizing index with
  | zero => omega
  | succ count ih =>
      rw [workersStride] at quiet
      split at quiet
      next => cases quiet
      next still =>
        by_cases first : place = index
        · rw [first]
          exact still
        · exact ih quiet (by omega) (by omega)

/-- A worker whose job has an event due goes on with it. -/
theorem workerStride_of_event {index due : Nat} {errand : Errand} {after : Live Outcome}
    (busy : floor.pool.workers[index]? = some (.busy errand))
    (event : errand.live.prospect = .event due after) (reached : due ≤ floor.now) :
    floor.workerStride index ≠ none := by
  intro still
  unfold workerStride at still
  simp only [busy, event, if_pos reached] at still
  cases still

/-- At rest, no job under way has an event due. -/
theorem lt_of_quiet {due : Nat} {errand : Errand} {after : Live Outcome}
    (quiet : floor.stride = none) (busy : .busy errand ∈ floor.pool.workers)
    (event : errand.live.prospect = .event due after) : floor.now < due := by
  obtain ⟨index, inside, found⟩ := List.mem_iff_getElem.mp busy
  have place := List.getElem?_eq_some_iff.mpr ⟨inside, found⟩
  have all : floor.workersStride floor.pool.workers.length 0 = none := by
    simp only [stride, Option.orElse_eq_or, Option.or_eq_none_iff] at quiet
    exact quiet.1
  apply Nat.lt_of_not_le
  intro reached
  exact workerStride_of_event place event reached
    (workerStride_of_quiet all (Nat.zero_le _) (by omega))

/-- The next event of the floor is one of a job under way. -/
theorem event_of_nextDue {due : Nat} (soon : floor.nextDue = some due) :
    ∃ errand after, .busy errand ∈ floor.pool.workers ∧
      errand.live.prospect = .event due after := by
  obtain ⟨member, -⟩ := List.min?_eq_some_iff.mp soon
  obtain ⟨worker, present, shown⟩ := List.mem_filterMap.mp member
  cases worker with
  | busy errand =>
      obtain ⟨after, event⟩ := Live.due_eq_some_iff.mp shown
      exact ⟨errand, after, present, event⟩
  | idle => cases shown
  | spent other => cases shown
  | gone => cases shown

end Admission.Floor
