import Admission.Floor
import Admission.Proofs.Pool.Slots

/-! # What can happen on the floor

`Admission.Floor.Move` lists everything that can happen on the floor without time
passing, with its whole effect: a worker begins a job, a job goes on by one event or is
let through the gate, it ends, its permit is given back, a worker leaves, a call that
waits for the drain returns. The floor takes its moves one by one in an order of its own
(`Admission.Floor.stride`); what holds for every move holds in every order.
-/

namespace Admission

namespace Floor

/-- Something that happens at this instant, and the floor then. -/
inductive Move (floor : Floor) : Floor → Prop where
  | begin {before behind : List (Worker Errand)} {errand : Errand} {rest : List Errand}
      (workers : floor.pool.workers = before ++ .idle :: behind)
      (queued : floor.pool.queue = errand :: rest) :
      Move floor
        { floor with
          pool := { floor.pool with
            queue := rest
            workers := before ++ .busy (errand.begun floor.now) :: behind }
          started := floor.started + if errand.breaksOff then 0 else 1 }
  | goOn {before behind : List (Worker Errand)} {errand : Errand} {due : Nat}
      {after : Live Outcome} (workers : floor.pool.workers = before ++ .busy errand :: behind)
      (event : errand.live.prospect = .event due after) (reached : due ≤ floor.now) :
      Move floor
        { floor with
          pool := { floor.pool with workers := before ++ .busy (errand.goneOn after) :: behind } }
  /-- A job that waits at the gate takes a permit and goes on. -/
  | pass {before behind : List (Worker Errand)} {errand : Errand} {permits : Nat}
      (workers : floor.pool.workers = before ++ .busy errand :: behind)
      (waits : errand.live.atGate = true) (granted : floor.permits = permits + 1) :
      Move floor
        { floor with
          permits
          pool := { floor.pool with
            workers :=
              before ++ .busy (errand.goneOn (errand.live.letThrough floor.now)) :: behind } }
  | finish {before behind : List (Worker Errand)} {errand : Errand} {outcome : Option Outcome}
      (workers : floor.pool.workers = before ++ .busy errand :: behind)
      (finished : errand.live.prospect = .finished outcome) :
      Move floor
        { floor with
          pool := { floor.pool with workers := before ++ .spent errand :: behind }
          endings := floor.endings ++ [errand.ending outcome floor.now] }
  | release {before behind : List (Worker Errand)} {errand : Errand}
      (workers : floor.pool.workers = before ++ .spent errand :: behind) :
      Move floor
        { floor with
          pool := { floor.pool with
            free := floor.pool.free + 1
            workers := before ++ .idle :: behind } }
  | leave {before behind : List (Worker Errand)}
      (workers : floor.pool.workers = before ++ .idle :: behind) (empty : floor.pool.queue = [])
      (shut : floor.pool.isOpen = false) :
      Move floor
        { floor with pool := { floor.pool with workers := before ++ .gone :: behind } }
  /-- The calls that wait for the drain return. -/
  | join (waiting : .draining ∈ floor.closings) (drained : floor.pool.drained = true) :
      Move floor { floor with closings := floor.closings.map fun _ => .returned }

end Floor

namespace Pool

variable {α : Type}

/-- A worker that takes a job has it, and may then have another state instead. -/
theorem take_replaced {pool next : Pool α} {index : Nat} (taken : pool.take index = some next) :
    ∃ before behind job rest, pool.workers = before ++ .idle :: behind ∧
      pool.queue = job :: rest ∧ next.workers[index]? = some (.busy job) ∧
      ∀ other, next.setWorker index other =
        { pool with queue := rest, workers := before ++ other :: behind } := by
  unfold take at taken
  split at taken
  next job rest idle queued =>
    obtain rfl := Option.some.inj taken
    obtain ⟨inside, -⟩ := List.getElem?_eq_some_iff.mp idle
    obtain ⟨before, behind, workers, replaced⟩ := exists_roster_split idle
    refine ⟨before, behind, job, rest, workers, queued, List.getElem?_set_self inside, ?_⟩
    intro other
    have roster := congrArg Pool.workers (replaced other)
    simp only [setWorker, List.set_set] at roster ⊢
    rw [roster]
  next => cases taken

end Pool

namespace Floor

variable {floor next : Floor}

/-- What a worker can do is a move. -/
theorem workerStride_move {index : Nat} (strode : floor.workerStride index = some next) :
    floor.Move next := by
  unfold workerStride at strode
  split at strode
  next => cases strode
  next => cases strode
  next errand spent =>
    obtain ⟨pool, released, rfl⟩ := Option.map_eq_some_iff.mp strode
    obtain ⟨before, behind, other, found, workers, rfl⟩ := Pool.release_cases released
    exact .release workers
  next idle =>
    split at strode
    next =>
      obtain ⟨pool, left, rfl⟩ := Option.map_eq_some_iff.mp strode
      obtain ⟨before, behind, workers, empty, shut, rfl⟩ := Pool.leave_cases left
      exact .leave workers empty shut
    next pool taken =>
      obtain ⟨before, behind, job, rest, workers, queued, found, replaced⟩ :=
        Pool.take_replaced taken
      rw [found] at strode
      obtain rfl := Option.some.inj strode
      rw [replaced]
      exact .begin workers queued
  next errand busy =>
    obtain ⟨before, behind, workers, replaced⟩ := Pool.exists_roster_split busy
    split at strode
    next => cases strode
    next outcome finished =>
      obtain ⟨pool, done, rfl⟩ := Option.map_eq_some_iff.mp strode
      obtain ⟨before, behind, other, found, workers, rfl⟩ := Pool.finish_cases done
      obtain rfl := Worker.busy.inj (Option.some.inj (busy.symm.trans found))
      exact .finish workers finished
    next due after event =>
      split at strode
      next reached =>
        rw [replaced] at strode
        cases strode
        exact .goOn workers event reached
      next => cases strode

theorem workersStride_move {count index : Nat}
    (strode : floor.workersStride count index = some next) : floor.Move next := by
  induction count generalizing index with
  | zero => cases strode
  | succ count ih =>
      rw [workersStride] at strode
      split at strode
      next first => exact workerStride_move (first.trans strode)
      next => exact ih strode

/-- One of the waiting jobs is the one that came first. -/
theorem foldl_earlier_mem (first : Nat × Errand) (others : List (Nat × Errand)) :
    others.foldl earlier first ∈ first :: others := by
  induction others generalizing first with
  | nil => exact List.mem_singleton_self first
  | cons second others ih =>
      rw [List.foldl_cons]
      rcases List.mem_cons.mp (ih (earlier first second)) with chosen | later
      · rw [chosen, earlier]
        split
        · exact List.mem_cons_of_mem _ List.mem_cons_self
        · exact List.mem_cons_self
      · exact List.mem_cons_of_mem _ (List.mem_cons_of_mem _ later)

/-- Those at the gate are the workers whose jobs wait there. -/
theorem busy_of_mem_atGate {index : Nat} {errand : Errand}
    (waits : (index, errand) ∈ floor.atGate) :
    floor.pool.workers[index]? = some (.busy errand) ∧ errand.live.atGate = true := by
  obtain ⟨⟨worker, place⟩, member, shown⟩ := List.mem_filterMap.mp waits
  have found := List.mem_zipIdx_iff_getElem?.mp member
  cases worker with
  | busy other =>
      simp only at shown
      split at shown
      next gated =>
        cases shown
        exact ⟨found, gated⟩
      next => cases shown
  | idle => cases shown
  | spent other => cases shown
  | gone => cases shown

/-- Letting a job through the gate is a move. -/
theorem gateStride_move (strode : floor.gateStride = some next) : floor.Move next := by
  unfold gateStride at strode
  split at strode
  next permits first others granted gated =>
    have chosen := foldl_earlier_mem first others
    rw [← gated] at chosen
    obtain ⟨busy, waits⟩ := busy_of_mem_atGate chosen
    obtain ⟨before, behind, workers, replaced⟩ := Pool.exists_roster_split busy
    obtain rfl := Option.some.inj strode
    rw [replaced]
    exact .pass workers waits granted
  next => cases strode

/-- The return of a call that closes is a move. -/
theorem closingStride_move (strode : floor.closingStride = some next) : floor.Move next := by
  unfold closingStride at strode
  split at strode
  next ready =>
    obtain rfl := Option.some.inj strode
    exact .join (List.contains_iff_mem.mp ready.1) ready.2
  next => cases strode

/-- What the floor does at an instant is made of moves. -/
theorem stride_move (strode : floor.stride = some next) : floor.Move next := by
  simp only [stride, Option.orElse_eq_or, Option.or_eq_some_iff] at strode
  rcases strode with worker | ⟨-, gate | ⟨-, closing⟩⟩
  · exact workersStride_move worker
  · exact gateStride_move gate
  · exact closingStride_move closing

/-- What happens leaves the permits accounted for. -/
theorem Move.sound {config : Pool.Config} (move : floor.Move next)
    (sound : floor.pool.Sound config 0) : next.pool.Sound config 0 := by
  cases move with
  | begin workers queued => exact sound.begin workers queued _
  | goOn workers event reached => exact sound.exchange workers rfl sound.emptied nofun
  | pass workers waits granted => exact sound.exchange workers rfl sound.emptied nofun
  | finish workers finished => exact sound.exchange workers rfl sound.emptied nofun
  | release workers => exact sound.giveBack workers
  | leave workers empty shut =>
      exact sound.exchange workers rfl sound.emptied fun _ => ⟨shut, empty⟩
  | join waiting drained => exact sound

/-- With a worker present the pool is not drained. -/
theorem not_drained {before behind : List (Worker Errand)} {worker : Worker Errand}
    (workers : floor.pool.workers = before ++ worker :: behind) (present : worker ≠ .gone) :
    floor.pool.drained = false := by
  apply eq_false_of_ne_true
  intro drained
  apply present
  apply Pool.drained_iff.mp drained
  rw [workers]
  exact List.mem_append_cons_self

/-- Either workers go on, and the pool is not drained; or it is, and the calls that wait
for that return. -/
theorem Move.working_or_joining (move : floor.Move next) :
    (floor.pool.drained = false ∧ next.closings = floor.closings ∧
      next.pool.isOpen = floor.pool.isOpen) ∨
    (floor.pool.drained = true ∧ .draining ∈ floor.closings ∧
      next = { floor with closings := floor.closings.map fun _ => .returned }) := by
  cases move with
  | begin workers queued => exact .inl ⟨not_drained workers nofun, rfl, rfl⟩
  | goOn workers event reached => exact .inl ⟨not_drained workers nofun, rfl, rfl⟩
  | pass workers waits granted => exact .inl ⟨not_drained workers nofun, rfl, rfl⟩
  | finish workers finished => exact .inl ⟨not_drained workers nofun, rfl, rfl⟩
  | release workers => exact .inl ⟨not_drained workers nofun, rfl, rfl⟩
  | leave workers empty shut => exact .inl ⟨not_drained workers nofun, rfl, rfl⟩
  | join waiting drained => exact .inr ⟨drained, waiting, rfl⟩

theorem Move.now_eq (move : floor.Move next) : next.now = floor.now := by
  cases move <;> rfl

theorem Move.processor_eq (move : floor.Move next) : next.processor = floor.processor := by
  cases move <;> rfl

end Floor

end Admission
