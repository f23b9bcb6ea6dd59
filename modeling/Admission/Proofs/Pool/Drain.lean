import Mathlib.Logic.Relation
import Admission.Proofs.Pool.Delivery

/-! # Closing and draining

Closing is one step: it splits the log of a pool into answers of an open pool and
answers of a closed one (`Admission.Pool.Traffic.Reachable.stretches`). The call that
closes returns when every worker is gone, and a worker goes only when nothing is
queued, so by then every accepted job has been processed.

A closed pool does not get stuck on the way. `Admission.Pool.work` falls with every
step of a worker, and as long as the pool is not drained some worker has a step; the
processor's part in this is only that each of its calls ends, which is the step
`Admission.Pool.finish`. `Admission.Pool.closing_drains` puts this together.
-/

namespace Admission.Pool

variable {α : Type} {config : Config} {midway : Nat} {pool : Pool α}

/-- When a closed pool has no step left, it is drained. -/
theorem drained_of_stuck (shut : pool.isOpen = false) (stuck : ∀ next, ¬ pool.Step next) :
    pool.drained = true := by
  apply drained_iff.mpr
  intro worker member
  obtain ⟨index, found⟩ := List.mem_iff_getElem?.mp member
  cases worker with
  | idle =>
      cases queued : pool.queue with
      | nil =>
          obtain ⟨next, left⟩ := leave_of_idle found queued shut
          exact (stuck next (.leave index left)).elim
      | cons job rest =>
          obtain ⟨next, taken⟩ := take_of_idle found queued
          exact (stuck next (.take index taken)).elim
  | busy job =>
      obtain ⟨next, finished⟩ := finish_of_busy found
      exact (stuck next (.finish index finished)).elim
  | spent job =>
      obtain ⟨next, released⟩ := release_of_spent found
      exact (stuck next (.release index released)).elim
  | gone => rfl

/-- From every state of a closed pool steps of the workers lead to one that is drained. -/
theorem exists_drained (shut : pool.isOpen = false) :
    ∃ last, Relation.ReflTransGen Step pool last ∧ last.drained = true := by
  -- Every step leaves less work, so the induction is on the work that is left.
  induction bound : pool.work using Nat.strongRecOn generalizing pool with
  | ind work ih =>
      by_cases stuck : ∀ next, ¬ pool.Step next
      · exact ⟨pool, .refl, drained_of_stuck shut stuck⟩
      · obtain ⟨next, step⟩ := Classical.not_forall_not.mp stuck
        have less : next.work < work := bound ▸ step.work_lt
        obtain ⟨last, steps, drained⟩ := ih next.work less (step.isOpen_eq.trans shut) rfl
        exact ⟨last, .head step steps, drained⟩

/-- A drained pool has nothing queued and nothing held, and all its permits are free
but those that submissions have. -/
theorem Sound.of_drained (sound : pool.Sound config midway) (staff : 0 < config.workers.toNat)
    (drained : pool.drained = true) :
    pool.queue = [] ∧ pool.held = [] ∧ pool.processing = [] ∧
      pool.free + midway = config.capacity.toNat := by
  have gone := drained_iff.mp drained
  -- A worker that is gone left an empty queue behind, and there is at least one.
  have queue : pool.queue = [] := by
    apply sound.emptied
    cases workers : pool.workers with
    | nil =>
        have roster := sound.roster
        rw [workers, List.length_nil] at roster
        omega
    | cons worker others =>
        rw [workers] at gone
        rw [gone worker List.mem_cons_self]
        exact List.mem_cons_self
  have held : pool.held = [] := by
    apply List.filterMap_eq_nil_iff.mpr
    intro worker member
    rw [gone worker member]
    rfl
  have processing : pool.processing = [] := by
    apply List.filterMap_eq_nil_iff.mpr
    intro worker member
    rw [gone worker member]
    rfl
  refine ⟨queue, held, processing, ?_⟩
  have slots := sound.slots
  rw [queue, held, List.length_nil] at slots
  omega

namespace Traffic

/-- A step of a worker is one of the traffic, and leaves the call that closes as it was. -/
theorem exists_step {traffic : Traffic α} {next : Pool α} (step : traffic.pool.Step next) :
    ∃ after, traffic.Step after ∧ after.pool = next ∧ after.closer = traffic.closer := by
  cases step with
  | take index taken =>
      obtain ⟨before, behind, job, rest, workers, queued, -⟩ := take_cases taken
      have oldest : traffic.pool.queue.head? = some job := by rw [queued, List.head?_cons]
      exact ⟨_, .take index oldest taken, rfl, rfl⟩
  | finish index finished =>
      obtain ⟨before, behind, job, busy, -⟩ := finish_cases finished
      exact ⟨_, .finish index false busy finished, rfl, rfl⟩
  | release index released =>
      obtain ⟨before, behind, job, spent, -⟩ := release_cases released
      exact ⟨_, .release index spent released, rfl, rfl⟩
  | leave index left => exact ⟨_, .leave index left, rfl, rfl⟩

theorem exists_steps {traffic : Traffic α} {last : Pool α}
    (steps : Relation.ReflTransGen Pool.Step traffic.pool last) :
    ∃ after, Relation.ReflTransGen Step traffic after ∧ after.pool = last ∧
      after.closer = traffic.closer := by
  induction steps with
  | refl => exact ⟨traffic, .refl, rfl, rfl⟩
  | tail steps step ih =>
      obtain ⟨middle, first, rfl, closer⟩ := ih
      obtain ⟨after, second, pool, same⟩ := exists_step step
      exact ⟨after, first.tail second, pool, same.trans closer⟩

/-- Once admission has stopped, the call that closes the pool can always come to its
return. -/
theorem Guarded.exists_returned {traffic : Traffic α} (guarded : Guarded config traffic)
    (shut : traffic.pool.isOpen = false) :
    ∃ last, Relation.ReflTransGen Step traffic last ∧ last.closer = .returned := by
  obtain ⟨pool, among, drained⟩ := exists_drained shut
  obtain ⟨after, steps, rfl, same⟩ := exists_steps among
  cases closer : traffic.closer with
  | absent => cases (guarded.opened.mpr closer).symm.trans shut
  | waiting => exact ⟨_, steps.tail (.join (same.trans closer) drained), rfl⟩
  | returned => exact ⟨after, steps, same.trans closer⟩

end Traffic

/-- **Closing is atomic and drains.** While the pool is open, no call was told that it
is closed. Closing splits the log in two: before it every answer is that of an open
pool; after it every answer is that the pool is closed, no call is midway, and any
further call is turned away whatever the permits. When the call that closes has
returned, every worker is gone, nothing is queued, every accepted job was given to
the processor, in this order, and its processing has ended, and nothing is in flight.
Every step of a worker makes `work` smaller; the closed pools without a step are just
the drained ones; and from any state in which admission has stopped, the call that closes
the pool can come to its return. -/
theorem closing_drains (valid : config.validate = .ok ()) {traffic : Traffic α}
    (reachable : Traffic.Reachable config traffic) :
    (traffic.pool.isOpen = true → .shut ∉ traffic.log ∧
      ∀ job answer, .answered job answer ∈ traffic.log →
        answer = .accepted ∨ answer = .full job) ∧
    (traffic.pool.isOpen = false →
      (∃ before after, traffic.log = before ++ .shut :: after ∧
        .shut ∉ before ∧ .shut ∉ after ∧
        (∀ job answer, .answered job answer ∈ before →
          answer = .accepted ∨ answer = .full job) ∧
        ∀ job answer, .answered job answer ∈ after → answer = .closed job) ∧
      traffic.attempts = [] ∧ ∀ job, traffic.pool.submit job = (.closed job, traffic.pool)) ∧
    (traffic.closer = .returned →
      traffic.pool.queue = [] ∧ (∀ worker ∈ traffic.pool.workers, worker = .gone) ∧
      traffic.log.taken = traffic.log.accepted ∧
      traffic.log.ended.Perm traffic.log.accepted ∧ traffic.pool.inFlight = 0) ∧
    (∀ next, traffic.pool.Step next → next.work < traffic.pool.work) ∧
    (traffic.pool.isOpen = false →
      ((∀ next, ¬ traffic.pool.Step next) ↔
        traffic.pool.queue = [] ∧ ∀ worker ∈ traffic.pool.workers, worker = .gone) ∧
      ∃ last, Relation.ReflTransGen Traffic.Step traffic last ∧ last.closer = .returned) := by
  obtain ⟨staff, -⟩ := Config.validate_ok valid
  have guarded := reachable.guarded staff
  obtain ⟨early, late⟩ := reachable.stretches staff
  refine ⟨fun opened => ?_, fun shut => ⟨?_, guarded.locked shut, fun job => ?_⟩,
    fun returned => ?_, fun next step => step.work_lt, fun shut => ⟨⟨fun stuck => ?_, ?_⟩,
      guarded.exists_returned shut⟩⟩
  · exact ⟨(early opened).steady, (early opened).answers⟩
  · obtain ⟨before, after, log, first, second⟩ := late shut
    exact ⟨before, after, log, first.steady, second.steady, first.answers, second.answers⟩
  · exact submit_of_shut shut job
  · have drained := guarded.joined returned
    have shut : traffic.pool.isOpen = false := by
      apply eq_false_of_ne_true
      intro opened
      cases (guarded.opened.mp opened).symm.trans returned
    obtain ⟨queue, held, processing, free⟩ := guarded.sound.of_drained staff drained
    have ledger := reachable.ledger staff
    have taken : traffic.log.accepted = traffic.log.taken := by
      rw [ledger.fifo, queue, List.append_nil]
    refine ⟨queue, drained_iff.mp drained, taken.symm, ?_, ?_⟩
    · rw [taken]
      have processed := ledger.processed
      rw [processing, List.nil_append] at processed
      exact processed.symm
    · rw [Traffic.midway, guarded.locked shut, List.countP_nil, Nat.add_zero] at free
      rw [inFlight, guarded.sound.sized, free, Nat.sub_self]
  · have drained := drained_of_stuck shut stuck
    exact ⟨(guarded.sound.of_drained staff drained).1, drained_iff.mp drained⟩
  · rintro ⟨-, gone⟩ next
    exact not_step_of_drained (drained_iff.mpr gone)

/-- One job is accepted before the pool is closed, and one comes after that. -/
theorem closing_drains_one :
    ∃ traffic : Traffic Nat, Traffic.Reachable ⟨1, 1⟩ traffic ∧ traffic.closer = .returned ∧
      traffic.log.accepted = [11] ∧ traffic.log.handedBack = [12] ∧
      traffic.log.taken = traffic.log.accepted ∧ traffic.log.ended.Perm traffic.log.accepted ∧
      traffic.pool.inFlight = 0 := by
  have fresh : Traffic.Reachable (α := Nat) ⟨1, 1⟩ _ := .start
  have called := fresh.step (.call 11 rfl)
  have accepted := (called.step (.permit [] [] 11 rfl nofun)).step
    (.deliver [] [] 11 rfl rfl)
  have closed := (accepted.step (.shut rfl rfl)).step (.turnAway 12 rfl)
  have broken := (closed.step (.take 0 rfl rfl)).step (.finish 0 true rfl rfl)
  have gone := (broken.step (.release 0 rfl rfl)).step (.leave 0 rfl)
  have returned := gone.step (.join rfl rfl)
  obtain ⟨-, -, taken, ended, empty⟩ := (closing_drains rfl returned).2.2.1 rfl
  exact ⟨_, returned, rfl, rfl, rfl, taken, ended, empty⟩

end Admission.Pool
