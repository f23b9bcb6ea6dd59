import Mathlib.Data.List.Basic
import Admission.Proofs.Floor.Work

/-! # The floor at rest

At rest nothing can happen without time passing, so every worker has a reason not to go on
(`Admission.Floor.Rests`): it is gone, or there is nothing for it to take, or its job waits
at the gate or for a later instant. So nobody is idle while a job is queued
(`Admission.Floor.staffed_of_quiet`), and a closed pool without a job under way is drained
(`Admission.Floor.drained_of_quiet`).
-/

namespace Admission

/-- Only a task that is to pass the gate waits there. -/
theorem Live.atGate_of_prospect {α : Type} {live : Live α} (gate : live.prospect = .gate) :
    live.atGate = true := by
  obtain ⟨task, conn, clock, deadline⟩ := live
  cases task with
  | pass next => rfl
  | finish result => cases gate
  | drop next => cases gate
  | crash => cases gate
  | ask request next =>
      cases request with
      | read room limit =>
          simp only [prospect] at gate
          split at gate <;> cases gate
      | shutdown limit =>
          simp only [prospect] at gate
          split at gate <;> cases gate
      | write bytes limit =>
          cases bytes with
          | nil => cases gate
          | cons byte bytes =>
              simp only [prospect] at gate
              split at gate
              next => cases gate
              next => split at gate <;> cases gate
              next => split at gate <;> cases gate
              next => cases gate
              next => cases gate

namespace Floor

variable {floor : Floor} {config : Pool.Config}

/-- What keeps a worker from going on at this instant. -/
inductive Rests (floor : Floor) : Worker Errand → Prop where
  | gone : Rests floor .gone
  | idle (empty : floor.pool.queue = []) (opened : floor.pool.isOpen = true) :
      Rests floor .idle
  | gate {errand : Errand} (waits : errand.live.atGate = true) (none : floor.permits = 0) :
      Rests floor (.busy errand)
  | event {errand : Errand} {due : Nat} {after : Live Outcome}
      (event : errand.live.prospect = .event due after) (later : floor.now < due) :
      Rests floor (.busy errand)

/-- A worker whose job is over can go on. -/
theorem workerStride_of_finished {index : Nat} {errand : Errand} {outcome : Option Outcome}
    (busy : floor.pool.workers[index]? = some (.busy errand))
    (finished : errand.live.prospect = .finished outcome) : floor.workerStride index ≠ none := by
  intro still
  obtain ⟨next, done⟩ := Pool.finish_of_busy busy
  unfold workerStride at still
  simp only [busy, finished, done] at still
  cases still

theorem workerStride_of_spent {index : Nat} {errand : Errand}
    (spent : floor.pool.workers[index]? = some (.spent errand)) :
    floor.workerStride index ≠ none := by
  intro still
  obtain ⟨next, released⟩ := Pool.release_of_spent spent
  unfold workerStride at still
  simp only [spent, released] at still
  cases still

theorem workerStride_of_queued {index : Nat} {errand : Errand} {rest : List Errand}
    (idle : floor.pool.workers[index]? = some .idle)
    (queued : floor.pool.queue = errand :: rest) : floor.workerStride index ≠ none := by
  intro still
  obtain ⟨next, taken⟩ := Pool.take_of_idle idle queued
  obtain ⟨before, behind, job, others, -, -, found, -⟩ := Pool.take_replaced taken
  unfold workerStride at still
  simp only [idle, taken, found] at still
  cases still

theorem workerStride_of_shut {index : Nat} (idle : floor.pool.workers[index]? = some .idle)
    (empty : floor.pool.queue = []) (shut : floor.pool.isOpen = false) :
    floor.workerStride index ≠ none := by
  intro still
  obtain ⟨next, left⟩ := Pool.leave_of_idle idle empty shut
  have nothing : floor.pool.take index = none := by
    unfold Pool.take
    rw [idle, empty]
  unfold workerStride at still
  simp only [idle, nothing, left] at still
  cases still

/-- At rest neither a worker nor the gate nor a call that waits can do anything. -/
theorem strides_of_quiet (quiet : floor.stride = none) :
    floor.workersStride floor.pool.workers.length 0 = none ∧ floor.gateStride = none ∧
      floor.closingStride = none := by
  simpa only [stride, Option.orElse_eq_or, Option.or_eq_none_iff] using quiet

/-- At rest, a job waits at the gate only when no permit lies there. -/
theorem permits_of_quiet (quiet : floor.stride = none) {errand : Errand}
    (busy : .busy errand ∈ floor.pool.workers) (waits : errand.live.atGate = true) :
    floor.permits = 0 := by
  obtain ⟨index, found⟩ := List.mem_iff_getElem?.mp busy
  have present : (index, errand) ∈ floor.atGate := by
    refine List.mem_filterMap.mpr ⟨(.busy errand, index), ?_, ?_⟩
    · exact List.mem_zipIdx_iff_getElem?.mpr found
    · simp only [waits, if_true]
  obtain ⟨-, still, -⟩ := strides_of_quiet quiet
  unfold gateStride at still
  split at still
  next => cases still
  next permits others free =>
    cases gated : floor.atGate with
    | nil =>
        rw [gated] at present
        cases present
    | cons first others =>
        cases granted : floor.permits with
        | zero => rfl
        | succ permits => exact (free permits first others granted gated).elim

/-- **Nobody rests without a reason.** -/
theorem rests_of_quiet (quiet : floor.stride = none) {worker : Worker Errand}
    (member : worker ∈ floor.pool.workers) : floor.Rests worker := by
  obtain ⟨index, inside, found⟩ := List.mem_iff_getElem.mp member
  have place := List.getElem?_eq_some_iff.mpr ⟨inside, found⟩
  have still : floor.workerStride index = none :=
    workerStride_of_quiet (strides_of_quiet quiet).1 (Nat.zero_le _) (by omega)
  cases worker with
  | gone => exact .gone
  | spent errand => exact (workerStride_of_spent place still).elim
  | idle =>
      cases queued : floor.pool.queue with
      | cons errand rest => exact (workerStride_of_queued place queued still).elim
      | nil =>
          cases opened : floor.pool.isOpen with
          | true => exact .idle queued opened
          | false => exact (workerStride_of_shut place queued opened still).elim
  | busy errand =>
      cases next : errand.live.prospect with
      | finished outcome => exact (workerStride_of_finished place next still).elim
      | event due after => exact .event next (lt_of_quiet quiet member next)
      | gate =>
          have waits := Live.atGate_of_prospect next
          exact .gate waits (permits_of_quiet quiet member waits)

/-- The jobs that are processed are those that a worker is busy with. -/
theorem mem_processing_iff {pool : Pool Errand} {errand : Errand} :
    errand ∈ pool.processing ↔ .busy errand ∈ pool.workers := by
  rw [Pool.processing, List.mem_filterMap]
  constructor
  · rintro ⟨worker, member, shown⟩
    cases worker with
    | busy other =>
        obtain rfl := Option.some.inj shown
        exact member
    | idle => cases shown
    | spent other => cases shown
    | gone => cases shown
  · intro member
    exact ⟨.busy errand, member, rfl⟩

/-- One worker's part in what is being processed. -/
theorem countP_processing {pool : Pool Errand} (counts : Errand → Bool)
    {before behind : List (Worker Errand)} {worker : Worker Errand}
    (workers : pool.workers = before ++ worker :: behind) :
    pool.processing.countP counts =
      worker.processes.toList.countP counts +
        ((before ++ behind).filterMap Worker.processes).countP counts := by
  rw [Pool.processing, workers, Pool.filterMap_roster]
  simp only [List.filterMap_append, List.countP_append]
  omega

/-- The number of the jobs under way, with one worker singled out. -/
theorem length_processing {pool : Pool Errand} {before behind : List (Worker Errand)}
    {worker : Worker Errand} (workers : pool.workers = before ++ worker :: behind) :
    pool.processing.length =
      worker.processes.toList.length +
        ((before ++ behind).filterMap Worker.processes).length := by
  simpa only [List.countP_true] using countP_processing (fun _ => true) workers

/-- No more jobs are under way than there are workers. -/
theorem processing_length_le (sound : floor.pool.Sound config 0) :
    floor.pool.processing.length ≤ config.workers.toNat := by
  rw [← sound.roster]
  exact List.length_filterMap_le _ _

/-- Jobs under way hold permits. -/
theorem processing_le_held (pool : Pool Errand) : pool.processing.length ≤ pool.held.length := by
  rw [Pool.processing, Pool.held, List.length_filterMap_eq_countP, List.length_filterMap_eq_countP]
  apply List.countP_mono_left
  intro worker member
  cases worker with
  | busy errand => exact id
  | spent errand => exact fun _ => rfl
  | idle => exact id
  | gone => exact id

/-- At rest every worker is busy as long as a job is queued. -/
theorem staffed_of_quiet (quiet : floor.stride = none) (sound : floor.pool.Sound config 0)
    (waiting : floor.pool.queue ≠ []) :
    floor.pool.processing.length = config.workers.toNat := by
  rw [← sound.roster, Pool.processing, List.length_filterMap_eq_countP, List.countP_eq_length]
  intro worker member
  cases rests_of_quiet quiet member with
  | gone => exact (waiting (sound.emptied member)).elim
  | idle empty opened => exact (waiting empty).elim
  | gate waits none => rfl
  | event event later => rfl

/-- At rest the jobs that hold a permit are queued or under way. -/
theorem held_of_quiet (quiet : floor.stride = none) :
    floor.pool.held = floor.pool.processing := by
  apply List.filterMap_congr
  intro worker member
  cases rests_of_quiet quiet member with
  | gone => rfl
  | idle empty opened => rfl
  | gate waits none => rfl
  | event event later => rfl

/-- At rest a closed pool is drained unless a job is under way. -/
theorem drained_of_quiet (quiet : floor.stride = none) (shut : floor.pool.isOpen = false)
    (done : floor.pool.processing = []) : floor.pool.drained = true := by
  apply Pool.drained_iff.mpr
  intro worker member
  have nobody (errand : Errand) (busy : .busy errand ∈ floor.pool.workers) : False := by
    rw [← mem_processing_iff, done] at busy
    cases busy
  cases rests_of_quiet quiet member with
  | gone => rfl
  | idle empty opened => cases shut.symm.trans opened
  | gate waits none => exact (nobody _ member).elim
  | event event later => exact (nobody _ member).elim

/-- At rest no call waits for a pool that is drained. -/
theorem returned_of_quiet (quiet : floor.stride = none) (drained : floor.pool.drained = true) :
    .draining ∉ floor.closings := by
  intro waiting
  obtain ⟨-, -, still⟩ := strides_of_quiet quiet
  rw [closingStride, if_pos ⟨List.contains_iff_mem.mpr waiting, drained⟩] at still
  cases still

/-- At rest a job that goes on without a permit has an event to come before its end. -/
theorem event_of_quiet (quiet : floor.stride = none) {errand : Errand} {instant : Nat}
    (busy : .busy errand ∈ floor.pool.workers) (ends : errand.live.EndsBy instant) :
    ∃ due after, errand.live.prospect = .event due after ∧ floor.now < due ∧
      due ≤ errand.live.runOut.took := by
  cases rests_of_quiet quiet busy with
  | gate waits none => cases waits.symm.trans ends.not_atGate
  | event event later => exact ⟨_, _, event, later, Live.due_le_runOut ends.timely event⟩

/-- The next event of the floor comes no later than that of any job. -/
theorem exists_nextDue {errand : Errand} {due : Nat} {after : Live Outcome}
    (busy : .busy errand ∈ floor.pool.workers)
    (event : errand.live.prospect = .event due after) :
    ∃ first, floor.nextDue = some first ∧ first ≤ due := by
  have shown : errand.live.due = some due := Live.due_eq_some_iff.mpr ⟨after, event⟩
  cases soonest : floor.nextDue with
  | none =>
      rw [nextDue, List.min?_eq_none_iff, List.filterMap_eq_nil_iff] at soonest
      cases shown.symm.trans (soonest _ busy)
  | some first =>
      have least := (List.min?_eq_some_iff.mp soonest).2
      exact ⟨first, rfl, least due (List.mem_filterMap.mpr ⟨_, busy, shown⟩)⟩

/-- At the instant of its next event the floor can do something. -/
theorem restless_of_nextDue {due : Nat} (soon : floor.nextDue = some due) :
    Timeline.stride (Timeline.moveTo due floor) ≠ none := by
  intro still
  obtain ⟨errand, after, busy, event⟩ := event_of_nextDue soon
  exact Nat.lt_irrefl due (lt_of_quiet still busy event)

theorem now_settle (floor : Floor) : (Timeline.settle floor).now = floor.now := by
  have keeps {state next : Floor} (before : state.now = floor.now)
      (strode : Timeline.stride state = some next) : next.now = floor.now :=
    (stride_move strode).now_eq.trans before
  exact Timeline.settleWithin_of_strides keeps _ rfl

end Floor

end Admission
