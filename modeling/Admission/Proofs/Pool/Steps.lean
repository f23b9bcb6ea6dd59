import Admission.Pool
import Mathlib.Algebra.Ring.Nat

/-! # What the operations of a pool do

Each operation of a pool is opened once, here. A worker's operation singles out
one place of the roster, so its effect is told by splitting the roster at that
place (`Admission.Pool.exists_roster_split`); the queue, the permits and the other
workers are named, and nothing else changes.

`Admission.Pool.Step` is what the workers can do among themselves, and
`Admission.Pool.Reachable` is every state that calls and workers lead to, in any
order.
-/

namespace Admission

/-- A place of a list splits it into what is before and behind; the place may be given
to something else, or be given up. -/
theorem exists_split {β : Type} {items : List β} {index : Nat} {item : β}
    (found : items[index]? = some item) :
    ∃ before behind, items = before ++ item :: behind ∧
      (∀ other, items.set index other = before ++ other :: behind) ∧
      items.eraseIdx index = before ++ behind := by
  obtain ⟨inside, rfl⟩ := List.getElem?_eq_some_iff.mp found
  refine ⟨items.take index, items.drop (index + 1), ?_, ?_, ?_⟩
  · rw [List.getElem_cons_drop, List.take_append_drop]
  · intro other
    rw [List.set_eq_take_append_cons_drop, if_pos inside]
  · exact List.eraseIdx_eq_take_drop_succ items index

theorem mem_replaced {β : Type} {before behind : List β} {old new item : β}
    (member : item ∈ before ++ new :: behind) : item = new ∨ item ∈ before ++ old :: behind := by
  rcases List.mem_append.mp member with earlier | later
  · exact .inr (List.mem_append_left _ earlier)
  · rcases List.mem_cons.mp later with here | behind
    · exact .inl here
    · exact .inr (List.mem_append_right _ (List.mem_cons_of_mem _ behind))

/-- The order of a list aside, a place of it may be the last one. -/
theorem perm_last {β : Type} (before behind : List β) (item : β) :
    (before ++ item :: behind).Perm (before ++ (behind ++ [item])) :=
  (List.perm_append_singleton item behind).symm.append_left before

/-- The job a worker is processing. -/
def Worker.processes {α : Type} : Worker α → Option α
  | .busy job => some job
  | _ => none

namespace Pool

variable {α : Type}

/-- The jobs that are being processed. -/
def processing (pool : Pool α) : List α :=
  pool.workers.filterMap Worker.processes

/-- A place of the roster splits it into the workers before and behind, and another
state of that worker leaves those as they are. -/
theorem exists_roster_split {pool : Pool α} {index : Nat} {worker : Worker α}
    (found : pool.workers[index]? = some worker) :
    ∃ before behind, pool.workers = before ++ worker :: behind ∧
      ∀ other, pool.setWorker index other =
        { pool with workers := before ++ other :: behind } := by
  obtain ⟨before, behind, workers, replaced, -⟩ := exists_split found
  refine ⟨before, behind, workers, fun other => ?_⟩
  rw [setWorker, replaced]

/-- An extract of the roster, with that of one worker singled out. -/
theorem filterMap_roster {β : Type} (extract : Worker α → Option β)
    (before behind : List (Worker α)) (worker : Worker α) :
    (before ++ worker :: behind).filterMap extract =
      before.filterMap extract ++ ((extract worker).toList ++ behind.filterMap extract) := by
  rw [List.filterMap_append, List.filterMap_cons]
  cases extract worker with
  | none => rfl
  | some shown => rfl

/-- A worker that takes a job was idle, and the job was the oldest one queued. -/
theorem take_cases {pool next : Pool α} {index : Nat} (taken : pool.take index = some next) :
    ∃ before behind job rest, pool.workers = before ++ .idle :: behind ∧
      pool.queue = job :: rest ∧
      next = { pool with queue := rest, workers := before ++ .busy job :: behind } := by
  unfold take at taken
  split at taken
  next job rest idle queued =>
    obtain ⟨before, behind, roster, replaced⟩ := exists_roster_split idle
    refine ⟨before, behind, job, rest, roster, queued, ?_⟩
    have shape := congrArg (fun changed : Pool α => { changed with queue := rest })
      (replaced (.busy job))
    exact (Option.some.inj taken).symm.trans shape
  next => cases taken

/-- A worker that is done with its job keeps the job's permit for now. -/
theorem finish_cases {pool next : Pool α} {index : Nat} (finished : pool.finish index = some next) :
    ∃ before behind job, pool.workers[index]? = some (.busy job) ∧
      pool.workers = before ++ .busy job :: behind ∧
      next = { pool with workers := before ++ .spent job :: behind } := by
  unfold finish at finished
  split at finished
  next job busy =>
    obtain ⟨before, behind, roster, replaced⟩ := exists_roster_split busy
    exact ⟨before, behind, job, busy, roster,
      (Option.some.inj finished).symm.trans (replaced (.spent job))⟩
  next => cases finished

/-- A worker that gives its permit back is idle again. -/
theorem release_cases {pool next : Pool α} {index : Nat}
    (released : pool.release index = some next) :
    ∃ before behind job, pool.workers[index]? = some (.spent job) ∧
      pool.workers = before ++ .spent job :: behind ∧
      next = { pool with free := pool.free + 1, workers := before ++ .idle :: behind } := by
  unfold release at released
  split at released
  next job spent =>
    obtain ⟨before, behind, roster, replaced⟩ := exists_roster_split spent
    refine ⟨before, behind, job, spent, roster, ?_⟩
    have shape := congrArg (fun changed : Pool α => { changed with free := pool.free + 1 })
      (replaced .idle)
    exact (Option.some.inj released).symm.trans shape
  next => cases released

/-- A worker leaves only a pool that is closed and has nothing queued. -/
theorem leave_cases {pool next : Pool α} {index : Nat} (left : pool.leave index = some next) :
    ∃ before behind, pool.workers = before ++ .idle :: behind ∧ pool.queue = [] ∧
      pool.isOpen = false ∧ next = { pool with workers := before ++ .gone :: behind } := by
  unfold leave at left
  split at left
  next idle empty =>
    split at left
    next => cases left
    next shut =>
      obtain ⟨before, behind, roster, replaced⟩ := exists_roster_split idle
      exact ⟨before, behind, roster, empty, Bool.eq_false_iff.mpr shut,
        (Option.some.inj left).symm.trans (replaced .gone)⟩
  next => cases left

/-- What a worker does by itself. -/
inductive Step (pool next : Pool α) : Prop where
  | take (index : Nat) (taken : pool.take index = some next)
  | finish (index : Nat) (finished : pool.finish index = some next)
  | release (index : Nat) (released : pool.release index = some next)
  | leave (index : Nat) (left : pool.leave index = some next)

/-- Workers neither open nor close a pool. -/
theorem Step.isOpen_eq {pool next : Pool α} (step : pool.Step next) :
    next.isOpen = pool.isOpen := by
  cases step with
  | take index taken =>
      obtain ⟨before, behind, job, rest, roster, queued, rfl⟩ := take_cases taken
      rfl
  | finish index finished =>
      obtain ⟨before, behind, job, busy, roster, rfl⟩ := finish_cases finished
      rfl
  | release index released =>
      obtain ⟨before, behind, job, spent, roster, rfl⟩ := release_cases released
      rfl
  | leave index left =>
      obtain ⟨before, behind, roster, empty, shut, rfl⟩ := leave_cases left
      rfl

/-- A pool is drained when every worker is gone. -/
theorem drained_iff {pool : Pool α} :
    pool.drained = true ↔ ∀ worker ∈ pool.workers, worker = .gone := by
  unfold drained
  rw [List.all_eq_true]
  constructor
  · intro gone worker member
    have isGone := gone worker member
    cases worker with
    | gone => rfl
    | idle => cases isGone
    | busy job => cases isGone
    | spent job => cases isGone
  · intro gone worker member
    rw [gone worker member]
    rfl

theorem not_step_of_drained {pool next : Pool α} (drained : pool.drained = true) :
    ¬ pool.Step next := by
  have gone := drained_iff.mp drained
  intro step
  cases step with
  | take index taken =>
      obtain ⟨before, behind, job, rest, roster, queued, rfl⟩ := take_cases taken
      cases gone .idle (by rw [roster]; exact List.mem_append_cons_self)
  | finish index finished =>
      obtain ⟨before, behind, job, busy, roster, rfl⟩ := finish_cases finished
      cases gone (.busy job) (by rw [roster]; exact List.mem_append_cons_self)
  | release index released =>
      obtain ⟨before, behind, job, spent, roster, rfl⟩ := release_cases released
      cases gone (.spent job) (by rw [roster]; exact List.mem_append_cons_self)
  | leave index left =>
      obtain ⟨before, behind, roster, empty, shut, rfl⟩ := leave_cases left
      cases gone .idle (by rw [roster]; exact List.mem_append_cons_self)

/-- An idle worker can take the oldest job of the queue. -/
theorem take_of_idle {pool : Pool α} {index : Nat} {job : α} {rest : List α}
    (idle : pool.workers[index]? = some .idle) (queued : pool.queue = job :: rest) :
    ∃ next, pool.take index = some next := by
  unfold take
  rw [idle, queued]
  exact ⟨_, rfl⟩

theorem finish_of_busy {pool : Pool α} {index : Nat} {job : α}
    (busy : pool.workers[index]? = some (.busy job)) : ∃ next, pool.finish index = some next := by
  unfold finish
  rw [busy]
  exact ⟨_, rfl⟩

theorem release_of_spent {pool : Pool α} {index : Nat} {job : α}
    (spent : pool.workers[index]? = some (.spent job)) :
    ∃ next, pool.release index = some next := by
  unfold release
  rw [spent]
  exact ⟨_, rfl⟩

/-- An idle worker can leave a closed pool when nothing is queued. -/
theorem leave_of_idle {pool : Pool α} {index : Nat} (idle : pool.workers[index]? = some .idle)
    (empty : pool.queue = []) (shut : pool.isOpen = false) :
    ∃ next, pool.leave index = some next := by
  unfold leave
  rw [idle, empty, shut]
  exact ⟨_, rfl⟩

/-- A state of a pool of the given size: calls to submit and to close, and what
the workers do, in any order. -/
inductive Reachable (config : Config) : Pool α → Prop where
  | start : Reachable config (Pool.start config)
  | submit {pool : Pool α} (before : Reachable config pool) (job : α) :
      Reachable config (pool.submit job).2
  | close {pool : Pool α} (before : Reachable config pool) : Reachable config pool.close
  | step {pool next : Pool α} (before : Reachable config pool) (step : pool.Step next) :
      Reachable config next

/-- How many steps a worker still has before it. -/
def workerWork : Worker α → Nat
  | .idle => 1
  | .busy _ => 3
  | .spent _ => 2
  | .gone => 0

/-- A bound on the steps that the workers can still take: each queued job is to be
taken, finished and released, and each worker is to leave. -/
def work (pool : Pool α) : Nat :=
  3 * pool.queue.length + (pool.workers.map workerWork).sum

/-- Every step of a worker brings the end nearer. -/
theorem Step.work_lt {pool next : Pool α} (step : pool.Step next) : next.work < pool.work := by
  cases step with
  | take index taken =>
      obtain ⟨before, behind, job, rest, roster, queued, rfl⟩ := take_cases taken
      simp only [work, roster, queued, List.map_append, List.map_cons, List.sum_append,
        List.sum_cons, List.length_cons, workerWork]
      omega
  | finish index finished =>
      obtain ⟨before, behind, job, busy, roster, rfl⟩ := finish_cases finished
      simp only [work, roster, List.map_append, List.map_cons, List.sum_append, List.sum_cons,
        workerWork]
      omega
  | release index released =>
      obtain ⟨before, behind, job, spent, roster, rfl⟩ := release_cases released
      simp only [work, roster, List.map_append, List.map_cons, List.sum_append, List.sum_cons,
        workerWork]
      omega
  | leave index left =>
      obtain ⟨before, behind, roster, empty, shut, rfl⟩ := leave_cases left
      simp only [work, roster, List.map_append, List.map_cons, List.sum_append, List.sum_cons,
        workerWork]
      omega

end Pool

end Admission
