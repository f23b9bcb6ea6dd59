import Admission.Floor
import Admission.Proofs.Pool.Traffic

/-! # Where the jobs are

The log of a pool and its state tell the same story (`Admission.Pool.Ledger`):
the accepted jobs are those that were taken, in the same order, and behind them those
that are queued; the taken jobs are those that a worker holds and those that are done;
and a call is accepted, or has its job back, or is still under way.

`Admission.Pool.each_job_once` is what follows for the jobs: none is lost,
none is delivered twice, and none that came back was given to the processor.
-/

namespace Admission

namespace Pool

variable {α : Type}

/-- A job at the end stands, up to order, between two lists and what follows them. -/
private theorem perm_insert {jobs before behind rest : List α} (job : α)
    (same : jobs.Perm (before ++ behind ++ rest)) :
    (jobs ++ [job]).Perm (before ++ job :: behind ++ rest) := by
  classical
  apply List.perm_iff_count.mpr
  intro other
  have counts := List.perm_iff_count.mp same other
  simp only [List.count_append, List.count_cons, List.count_nil] at counts ⊢
  omega

/-- A job from between two lists stands, up to order, behind all that follows. -/
private theorem perm_move {jobs before behind rest : List α} {job : α}
    (same : jobs.Perm (before ++ job :: behind ++ rest)) :
    jobs.Perm (before ++ behind ++ (rest ++ [job])) := by
  classical
  apply List.perm_iff_count.mpr
  intro other
  have counts := List.perm_iff_count.mp same other
  simp only [List.count_append, List.count_cons, List.count_nil] at counts ⊢
  omega

/-- The log, the pool and the calls under way agree on where every job is. -/
structure Ledger (pool : Pool α) (attempts : List (Attempt α)) (log : Log α) : Prop where
  fifo : log.accepted = log.taken ++ pool.queue
  held : log.taken.Perm (pool.held ++ log.done)
  processed : log.taken.Perm (pool.processing ++ log.ended)
  calls : log.called.Perm (attempts.map Attempt.job ++ log.accepted ++ log.handedBack)

namespace Ledger

variable {pool : Pool α} {attempts before behind : List (Attempt α)} {log : Log α}

/-- A call that begins is under way. -/
theorem call (ledger : Ledger pool attempts log) (job : α) :
    Ledger pool (attempts ++ [.looking job]) (log ++ [.called job]) where
  fifo := by simpa using ledger.fifo
  held := by simpa using ledger.held
  processed := by simpa using ledger.processed
  calls := by simpa using perm_insert job ledger.calls

/-- A closed pool hands the job of a call back at once. -/
theorem turnAway (ledger : Ledger pool attempts log) (job : α) :
    Ledger pool attempts (log ++ [.called job] ++ [.answered job (.closed job)]) where
  fifo := by simpa using ledger.fifo
  held := by simpa using ledger.held
  processed := by simpa using ledger.processed
  calls := by simpa using ledger.calls.append_right [job]

/-- A call that gets no permit has its job back. -/
theorem refuse {job : α} (ledger : Ledger pool (before ++ .looking job :: behind) log) :
    Ledger pool (before ++ behind) (log ++ [.answered job (.full job)]) where
  fifo := by simpa using ledger.fifo
  held := by simpa using ledger.held
  processed := by simpa using ledger.processed
  calls := by
    have moved : log.called.Perm (before.map Attempt.job ++
        (behind.map Attempt.job ++ log.accepted) ++ (log.handedBack ++ [job])) :=
      perm_move (by simpa using ledger.calls)
    simpa using moved

theorem permit {job : α} (ledger : Ledger pool (before ++ .looking job :: behind) log)
    (free : Nat) :
    Ledger { pool with free } (before ++ .permitted job :: behind) log where
  fifo := ledger.fifo
  held := ledger.held
  processed := ledger.processed
  calls := by simpa using ledger.calls

/-- An accepted job is queued behind all others. -/
theorem accept {job : α} (ledger : Ledger pool (before ++ .permitted job :: behind) log) :
    Ledger { pool with queue := pool.queue ++ [job] } (before ++ behind)
      (log ++ [.answered job .accepted]) where
  fifo := by simpa using congrArg (· ++ [job]) ledger.fifo
  held := by simpa [Pool.held] using ledger.held
  processed := by simpa [Pool.processing] using ledger.processed
  calls := by
    have calls := ledger.calls
    have moved : (before.map Attempt.job ++ job :: behind.map Attempt.job ++
        log.accepted).Perm (before.map Attempt.job ++ behind.map Attempt.job ++
          (log.accepted ++ [job])) :=
      perm_move (List.Perm.refl _)
    rw [List.map_append, List.map_cons] at calls
    simpa using calls.trans (moved.append_right log.handedBack)

/-- A taken job is the oldest one of the queue, and the worker that took it holds it and processes
it. -/
theorem take {index : Nat} {next : Pool α} {job : α} (ledger : Ledger pool attempts log)
    (oldest : pool.queue.head? = some job) (taken : pool.take index = some next) :
    Ledger next attempts (log ++ [.taken job]) := by
  obtain ⟨before, behind, first, rest, workers, queued, rfl⟩ := take_cases taken
  obtain ⟨fifo, held, processed, calls⟩ := ledger
  rw [queued] at oldest fifo
  rw [Pool.held, workers, filterMap_roster] at held
  rw [processing, workers, filterMap_roster] at processed
  obtain rfl := Option.some.inj oldest
  refine ⟨by simpa using fifo, ?_, ?_, by simpa using calls⟩
  · rw [Pool.held, filterMap_roster]
    simpa [Worker.holds] using perm_insert first held
  · rw [processing, filterMap_roster]
    simpa [Worker.processes] using perm_insert first processed

/-- A job whose processing ended is still held by its worker. -/
theorem finish {index : Nat} {next : Pool α} {job : α} (ledger : Ledger pool attempts log)
    (busy : pool.workers[index]? = some (.busy job)) (finished : pool.finish index = some next)
    (broke : Bool) : Ledger next attempts (log ++ [.ended job broke]) := by
  obtain ⟨before, behind, same, found, workers, rfl⟩ := finish_cases finished
  obtain ⟨fifo, held, processed, calls⟩ := ledger
  rw [Pool.held, workers, filterMap_roster] at held
  rw [processing, workers, filterMap_roster] at processed
  obtain rfl := Worker.busy.inj (Option.some.inj (busy.symm.trans found))
  refine ⟨by simpa using fifo, ?_, ?_, by simpa using calls⟩
  · rw [Pool.held, filterMap_roster]
    simpa [Worker.holds] using held
  · rw [processing, filterMap_roster]
    simpa [Worker.processes] using perm_move processed

/-- A job whose permit was given back is done. -/
theorem release {index : Nat} {next : Pool α} {job : α} (ledger : Ledger pool attempts log)
    (spent : pool.workers[index]? = some (.spent job))
    (released : pool.release index = some next) :
    Ledger next attempts (log ++ [.released job]) := by
  obtain ⟨before, behind, same, found, workers, rfl⟩ := release_cases released
  obtain ⟨fifo, held, processed, calls⟩ := ledger
  rw [Pool.held, workers, filterMap_roster] at held
  rw [processing, workers, filterMap_roster] at processed
  obtain rfl := Worker.spent.inj (Option.some.inj (spent.symm.trans found))
  refine ⟨by simpa using fifo, ?_, ?_, by simpa using calls⟩
  · rw [Pool.held, filterMap_roster]
    simpa [Worker.holds] using perm_move held
  · rw [processing, filterMap_roster]
    simpa [Worker.processes] using processed

theorem leave {index : Nat} {next : Pool α} (ledger : Ledger pool attempts log)
    (left : pool.leave index = some next) : Ledger next attempts log := by
  obtain ⟨before, behind, workers, empty, shut, rfl⟩ := leave_cases left
  obtain ⟨fifo, held, processed, calls⟩ := ledger
  rw [Pool.held, workers, filterMap_roster] at held
  rw [processing, workers, filterMap_roster] at processed
  refine ⟨fifo, ?_, ?_, calls⟩
  · rw [Pool.held, filterMap_roster]
    exact held
  · rw [processing, filterMap_roster]
    exact processed

theorem shut (ledger : Ledger pool attempts log) :
    Ledger pool.close attempts (log ++ [.shut]) where
  fifo := by simpa [close] using ledger.fifo
  held := by simpa [close, Pool.held] using ledger.held
  processed := by simpa [close, processing] using ledger.processed
  calls := by simpa using ledger.calls

end Ledger

namespace Traffic

variable {config : Config} {traffic next : Traffic α}

/-- Whatever happens next, the log and the state still agree. -/
theorem Step.ledger (step : traffic.Step next) (guarded : Guarded config traffic)
    (staff : 0 < config.workers.toNat)
    (ledger : Ledger traffic.pool traffic.attempts traffic.log) :
    Ledger next.pool next.attempts next.log := by
  cases step with
  | call job opened => exact ledger.call job
  | turnAway job shut => exact ledger.turnAway job
  | refuse before behind job underway none =>
      rw [underway] at ledger
      exact ledger.refuse
  | permit before behind job underway available =>
      rw [underway] at ledger
      exact ledger.permit _
  | deliver before behind job underway delivered =>
      obtain ⟨rfl, rfl⟩ := Prod.mk.inj (delivered.symm.trans (guarded.deliver staff underway))
      rw [underway] at ledger
      exact ledger.accept
  | take index oldest taken => exact ledger.take oldest taken
  | finish index broke busy finished => exact ledger.finish busy finished broke
  | release index spent released => exact ledger.release spent released
  | leave index left => exact ledger.leave left
  | shut alone absent => exact ledger.shut
  | join waiting drained => exact ledger

/-- In every state that calls and workers lead to, the log and the pool agree. -/
theorem Reachable.ledger (reachable : Reachable config traffic)
    (staff : 0 < config.workers.toNat) : Ledger traffic.pool traffic.attempts traffic.log := by
  induction reachable with
  | start =>
      have nobody {extract : Worker α → Option α} (idle : extract .idle = none) :
          (List.replicate config.workers.toNat (Worker.idle : Worker α)).filterMap extract =
            [] := by
        apply List.filterMap_eq_nil_iff.mpr
        intro worker member
        rw [List.eq_of_mem_replicate member, idle]
      refine ⟨rfl, ?_, ?_, List.Perm.refl _⟩
      · rw [Pool.held, Pool.start, nobody rfl]
        exact List.Perm.refl _
      · rw [processing, Pool.start, nobody rfl]
        exact List.Perm.refl _
  | step before step ih => exact step.ledger (before.guarded staff) staff ih

end Traffic

/-- A job that comes back from a submission is the one that was submitted. -/
theorem eq_of_handed_back {pool : Pool α} {job back : α}
    (returned : (pool.submit job).1 = .full back ∨ (pool.submit job).1 = .closed back) :
    back = job := by
  rcases pool.submit_cases job with answer | answer | answer
  · rw [answer] at returned
    rcases returned with same | same <;> cases same
  · rw [answer] at returned
    rcases returned with same | same <;> cases same
    rfl
  · rw [answer] at returned
    rcases returned with same | same <;> cases same
    rfl

/-- No worker can do anything by itself; only the processor can go on. -/
def Settled (pool : Pool α) : Prop :=
  ∀ index, pool.take index = none ∧ pool.release index = none ∧ pool.leave index = none

/-- As long as anything is queued, a settled pool has all its workers at work. -/
theorem Sound.busy_of_settled {config : Config} {midway : Nat} {pool : Pool α}
    (sound : pool.Sound config midway) (settled : pool.Settled) (waiting : pool.queue ≠ []) :
    ∀ worker ∈ pool.workers, ∃ job, worker = .busy job := by
  intro worker member
  obtain ⟨index, found⟩ := List.mem_iff_getElem?.mp member
  obtain ⟨noTake, noRelease, noLeave⟩ := settled index
  cases worker with
  | idle =>
      obtain ⟨job, rest, queued⟩ := List.exists_cons_of_ne_nil waiting
      obtain ⟨next, taken⟩ := take_of_idle found queued
      cases noTake.symm.trans taken
  | busy job => exact ⟨job, rfl⟩
  | spent job =>
      obtain ⟨next, released⟩ := release_of_spent found
      cases noRelease.symm.trans released
  | gone => exact (waiting (sound.emptied member)).elim

/-- Where no job is held twice, a job that two workers hold has only one. -/
theorem holder_unique {workers : List (Worker α)} (once : (workers.filterMap Worker.holds).Nodup)
    {first second : Nat} {one other : Worker α} {job : α}
    (found : workers[first]? = some one) (found' : workers[second]? = some other)
    (holds : one.holds = some job) (holds' : other.holds = some job) : first = second := by
  induction workers generalizing first second with
  | nil => cases found
  | cons worker workers ih =>
      have rest : (workers.filterMap Worker.holds).Nodup := by
        rw [List.filterMap_cons] at once
        cases shown : worker.holds with
        | none => simpa only [shown] using once
        | some held =>
            rw [shown] at once
            exact (List.nodup_cons.mp once).2
      have apart {index : Nat} {later : Worker α} (place : workers[index]? = some later)
          (same : later.holds = some job) : worker.holds ≠ some job := by
        intro shown
        rw [List.filterMap_cons, shown] at once
        apply (List.nodup_cons.mp once).1
        exact List.mem_filterMap.mpr ⟨later, List.mem_of_getElem? place, same⟩
      cases first with
      | zero =>
          obtain rfl := Option.some.inj found
          cases second with
          | zero => rfl
          | succ second => exact (apart found' holds' holds).elim
      | succ first =>
          cases second with
          | zero =>
              obtain rfl := Option.some.inj found'
              exact (apart found holds holds').elim
          | succ second => exact congrArg Nat.succ (ih rest found found')

/-- **Every job exactly once.** However calls, workers and one closing take turns, the
jobs leave the queue in the order in which they were accepted, and the accepted jobs
are the queued ones, those that workers hold, and those that are done. Every call is
accepted, or has its own job back, or is still under way. So when the submitted jobs
differ from each other, each accepted job is in one of the three places and with one
worker, and a job that came back was never given to the processor. Each worker holds
at most one job; and whenever no worker can do anything by itself while jobs are
queued, all workers are busy. A job comes back with its own identity and connection. -/
theorem each_job_once {config : Config} (valid : config.validate = .ok ())
    {traffic : Traffic α} (reachable : Traffic.Reachable config traffic) :
    traffic.log.accepted = traffic.log.taken ++ traffic.pool.queue ∧
    traffic.log.accepted.Perm
      (traffic.pool.queue ++ traffic.pool.held ++ traffic.log.done) ∧
    traffic.log.called.Perm
      (traffic.log.accepted ++ traffic.log.handedBack ++ traffic.attempts.map Attempt.job) ∧
    (∀ job answer, .answered job answer ∈ traffic.log →
      answer = .accepted ∨ answer = .full job ∨ answer = .closed job) ∧
    (traffic.log.called.Nodup →
      (traffic.pool.queue ++ traffic.pool.held ++ traffic.log.done).Nodup ∧
      (∀ (first second : Nat) (one other : Worker α) (job : α),
        traffic.pool.workers[first]? = some one → traffic.pool.workers[second]? = some other →
        one.holds = some job → other.holds = some job → first = second) ∧
      ∀ job ∈ traffic.log.handedBack, job ∉ traffic.log.taken) ∧
    traffic.pool.workers.length = config.workers.toNat ∧
    traffic.pool.held.length ≤ config.workers.toNat ∧
    (traffic.pool.Settled → traffic.pool.queue ≠ [] →
      ∀ worker ∈ traffic.pool.workers, ∃ job, worker = .busy job) ∧
    (∀ (floor : Floor) (number : Nat) (job : Job) (conn : Connection) (back : Errand),
      (floor.submit number job conn).1 = .full back ∨
        (floor.submit number job conn).1 = .closed back →
      back.job = job ∧ back.live.conn = conn) := by
  obtain ⟨staff, -⟩ := Config.validate_ok valid
  have sound := (reachable.guarded staff).sound
  obtain ⟨fifo, held, -, calls⟩ := reachable.ledger staff
  have split : traffic.log.accepted.Perm
      (traffic.pool.queue ++ traffic.pool.held ++ traffic.log.done) := by
    rw [fifo, List.append_assoc]
    exact (held.append_right _).trans List.perm_append_comm
  have calls : traffic.log.called.Perm
      (traffic.log.accepted ++ traffic.log.handedBack ++ traffic.attempts.map Attempt.job) := by
    rw [List.append_assoc] at calls
    exact calls.trans List.perm_append_comm
  refine ⟨fifo, split, calls, ?_, fun distinct => ?_, sound.roster, ?_, ?_, ?_⟩
  · intro job answer logged
    -- Each stretch of the log knows its answers.
    obtain ⟨early, late⟩ := reachable.stretches staff
    cases opened : traffic.pool.isOpen with
    | true =>
        rcases (early opened).answers job answer logged with accepted | full
        · exact .inl accepted
        · exact .inr (.inl full)
    | false =>
        obtain ⟨before, after, whole, first, second⟩ := late opened
        rw [whole] at logged
        rcases List.mem_append.mp logged with logged | logged
        · rcases first.answers job answer logged with accepted | full
          · exact .inl accepted
          · exact .inr (.inl full)
        · rcases List.mem_cons.mp logged with shut | logged
          · cases shut
          · exact .inr (.inr (second.answers job answer logged))
  · -- `calls` makes the accepted jobs differ from each other and from those that came
    -- back; `split` carries this over to the three places.
    have apart := (List.nodup_append.mp (calls.nodup_iff.mp distinct)).1
    obtain ⟨once, -, disjoint⟩ := List.nodup_append.mp apart
    have places := split.nodup_iff.mp once
    refine ⟨places, ?_, ?_⟩
    · intro first second one other job found found' holds holds'
      have held := (List.nodup_append.mp (List.nodup_append.mp places).1).2.1
      exact holder_unique held found found' holds holds'
    · intro job back taken
      refine disjoint job ?_ job back rfl
      rw [fifo]
      exact List.mem_append_left _ taken
  · rw [← sound.roster]
    exact List.length_filterMap_le ..
  · exact fun settled waiting => sound.busy_of_settled settled waiting
  · intro floor number job conn back returned
    have own : back = .waiting number job (floor.processor.task job.id) conn :=
      eq_of_handed_back returned
    rw [own]
    exact ⟨rfl, rfl⟩

/-- Three calls that overlap at a pool for two jobs: the second one is faster than the
first, and the third one has its job back. -/
theorem each_job_once_three :
    ∃ traffic : Traffic Nat, Traffic.Reachable ⟨1, 1⟩ traffic ∧
      traffic.log.accepted = [12, 11] ∧ traffic.pool.held = [12] ∧ traffic.pool.queue = [11] ∧
      traffic.log.handedBack = [13] ∧ 13 ∉ traffic.log.taken := by
  have fresh : Traffic.Reachable (α := Nat) ⟨1, 1⟩ _ := .start
  have called := ((fresh.step (.call 11 rfl)).step (.call 12 rfl)).step (.call 13 rfl)
  have first := called.step (.permit [] [_, _] 11 rfl nofun)
  have second := first.step (.permit [_] [_] 12 rfl nofun)
  have third := second.step (.refuse [_, _] [] 13 rfl rfl)
  have faster := third.step (.deliver [_] [] 12 rfl rfl)
  have slower := faster.step (.deliver [] [] 11 rfl rfl)
  have taken := slower.step (.take 0 rfl rfl)
  have once := each_job_once rfl taken
  have distinct := once.2.2.2.2.1 (by decide)
  exact ⟨_, taken, rfl, rfl, rfl, rfl, distinct.2.2 13 (by decide)⟩

end Pool

end Admission
