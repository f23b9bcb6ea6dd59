import Admission.Proofs.Pool.Traffic

/-! # The bound on admission

Between calls the free permits are exactly what the queued and the held jobs leave of
the capacity, and that alone decides what becomes of a submission
(`Admission.Pool.queued_and_held_bound`). While calls overlap, the permits that are
midway make up the difference.
-/

namespace Admission.Pool

variable {α : Type}

/-- A worker that takes a job off the queue opens no room: the free permits stay. -/
theorem take_submit_answer {pool next : Pool α} {index : Nat} {config : Config} {midway : Nat}
    (sound : pool.Sound config midway) (staff : 0 < config.workers.toNat)
    (taken : pool.take index = some next) (job : α) :
    (next.submit job).1 = (pool.submit job).1 := by
  have after := sound.step (.take index taken)
  have kept : next.isOpen = pool.isOpen ∧ next.free = pool.free := by
    obtain ⟨before, behind, first, rest, workers, queued, rfl⟩ := take_cases taken
    exact ⟨rfl, rfl⟩
  cases opened : pool.isOpen with
  | false => rw [submit_of_shut opened, submit_of_shut (kept.1.trans opened)]
  | true =>
      by_cases none : pool.free = 0
      · rw [submit_of_none opened none, submit_of_none (kept.1.trans opened) (kept.2.trans none)]
      · rw [sound.submit_of_free staff opened none,
          after.submit_of_free staff (kept.1.trans opened) (kept.2 ▸ none)]

/-- **The bound on admission.** Whatever the order of calls and workers' steps, the
free permits, the queued jobs and the jobs that workers hold add up to the number of
workers and of places to wait. The capacity is that exact sum, and the jobs in flight
are the queued and the held ones. While the pool is open, these alone decide: a job
is accepted exactly when they are fewer than the capacity, and otherwise the pool is
full; and a worker that takes a job off the queue makes no difference. A job with a
permit is never met by a full queue or by a pool without workers, not even when calls
overlap and permits are out with calls that have not reached the queue. -/
theorem queued_and_held_bound {config : Config} (valid : config.validate = .ok ())
    {pool : Pool α} (reachable : Reachable config pool) :
    config.capacity.toNat = config.workers.toNat + config.queueSize.toNat ∧
    pool.free + pool.queue.length + pool.held.length =
      config.workers.toNat + config.queueSize.toNat ∧
    pool.free ≤ pool.config.capacity.toNat ∧
    pool.inFlight = pool.queue.length + pool.held.length ∧
    (pool.isOpen = true → ∀ job,
      ((pool.submit job).1 = .accepted ↔
        pool.queue.length + pool.held.length <
          config.workers.toNat + config.queueSize.toNat) ∧
      ((pool.submit job).1 = .full job ↔
        ¬ pool.queue.length + pool.held.length <
          config.workers.toNat + config.queueSize.toNat) ∧
      (pool.free ≠ 0 → pool.send job = .sent { pool with queue := pool.queue ++ [job] })) ∧
    (∀ index next, pool.take index = some next →
      ∀ job, (next.submit job).1 = (pool.submit job).1) ∧
    ∀ traffic : Traffic α, Traffic.Reachable config traffic →
      traffic.pool.free + traffic.pool.queue.length + traffic.pool.held.length + traffic.midway =
        config.workers.toNat + config.queueSize.toNat ∧
      ∀ before behind job, traffic.attempts = before ++ .permitted job :: behind →
        traffic.pool.send job =
          .sent { traffic.pool with queue := traffic.pool.queue ++ [job] } := by
  obtain ⟨staff, exact⟩ := Config.validate_ok valid
  have sound := reachable.sound staff
  have slots := sound.slots
  rw [exact, Nat.add_zero] at slots
  refine ⟨exact, slots, ?_, ?_, fun opened job => ⟨?_, ?_, fun available => ?_⟩,
    fun index next taken job => take_submit_answer sound staff taken job,
    fun traffic overlapping => ⟨?_, fun before behind job underway => ?_⟩⟩
  · rw [sound.sized, exact]
    omega
  · rw [inFlight, sound.sized, exact]
    omega
  · by_cases none : pool.free = 0
    · rw [submit_of_none opened none]
      simp only [reduceCtorEq, false_iff]
      omega
    · rw [sound.submit_of_free staff opened none]
      simp only [true_iff]
      omega
  · by_cases none : pool.free = 0
    · rw [submit_of_none opened none]
      simp only [true_iff]
      omega
    · rw [sound.submit_of_free staff opened none]
      simp only [reduceCtorEq, false_iff]
      omega
  · apply sound.send staff opened
    rw [exact]
    omega
  · rw [← exact]
    exact (overlapping.guarded staff).sound.slots
  · exact (overlapping.guarded staff).send staff underway

/-- Two workers and three places to wait, with one job held and one queued. -/
theorem queued_and_held_bound_five :
    ∃ pool : Pool Nat, Reachable ⟨2, 3⟩ pool ∧ pool.held = [11] ∧ pool.queue = [12] ∧
      pool.free = 3 ∧ pool.inFlight = 2 := by
  have reachable : Reachable ⟨2, 3⟩ _ :=
    .step (.submit (.submit .start 11) 12) (.take 0 rfl)
  have bound := queued_and_held_bound rfl reachable
  exact ⟨_, reachable, rfl, rfl, rfl, bound.2.2.2.1⟩

end Admission.Pool
