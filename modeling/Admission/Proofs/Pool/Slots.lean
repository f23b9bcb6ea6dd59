import Admission.Proofs.Pool.Steps

/-! # The slots of a pool

A pool has as many permits as its workers and its queue have room for together.
Every permit is free, or is with a queued job, or with a job that a worker holds,
or with a submission that has its permit and has not reached the queue
(`Admission.Pool.Sound`, which counts the last kind as `midway`). Every operation
keeps this, so the queue is never full for a job that has a permit, and while the
pool is open there is a worker left to serve it.
-/

namespace Admission.Pool

namespace Config

/-- The workers are looked at first, and then the sum of the sizes, as one of numbers. -/
theorem validate_cases (config : Config) :
    (config.workers.toNat = 0 ∧
      config.validate = .error (.config "worker count must be at least 1")) ∨
    (0 < config.workers.toNat ∧ config.workers.toNat + config.queueSize.toNat ≤ maxPermits.toNat ∧
      config.validate = .ok ()) ∨
    (0 < config.workers.toNat ∧ maxPermits.toNat < config.workers.toNat + config.queueSize.toNat ∧
      config.validate = .error (.config oversized)) := by
  unfold validate
  by_cases none : config.workers = 0
  · rw [if_pos none]
    exact .inl ⟨congrArg UInt64.toNat none, rfl⟩
  · have staffed : 0 < config.workers.toNat :=
      Nat.pos_of_ne_zero fun zero => none (UInt64.toNat_inj.mp zero)
    rw [if_neg none]
    by_cases fits : config.workers.toNat + config.queueSize.toNat ≤ maxPermits.toNat
    · rw [if_pos fits]
      exact .inr (.inl ⟨staffed, fits, rfl⟩)
    · rw [if_neg fits]
      exact .inr (.inr ⟨staffed, Nat.lt_of_not_le fits, rfl⟩)

/-- A size is valid when there are workers, and no more places than there can be permits. -/
theorem validate_eq_ok_iff {config : Config} : config.validate = .ok () ↔
    0 < config.workers.toNat ∧
      config.workers.toNat + config.queueSize.toNat ≤ maxPermits.toNat := by
  rcases config.validate_cases with ⟨none, fault⟩ | ⟨staffed, fits, done⟩ | ⟨-, exceeded, fault⟩
  · rw [fault, none]
    exact iff_of_false nofun fun both => Nat.lt_irrefl 0 both.1
  · exact iff_of_true done ⟨staffed, fits⟩
  · rw [fault]
    exact iff_of_false nofun fun both => Nat.not_le_of_lt exceeded both.2

/-- A size that makes sense has a worker, and its capacity is the exact sum. -/
theorem validate_ok {config : Config} (valid : config.validate = .ok ()) :
    0 < config.workers.toNat ∧
      config.capacity.toNat = config.workers.toNat + config.queueSize.toNat := by
  obtain ⟨staffed, fits⟩ := validate_eq_ok_iff.mp valid
  have bounded : config.workers.toNat + config.queueSize.toNat < UInt64.size := by
    apply Nat.lt_of_le_of_lt fits
    decide
  refine ⟨staffed, ?_⟩
  rw [capacity, saturatingAdd, if_pos bounded, UInt64.toNat_add]
  exact Nat.mod_eq_of_lt bounded

end Config

variable {α : Type}

/-- The permits of a pool are accounted for, `midway` of them with submissions that
have not reached the queue; no worker leaves while the pool is open, or while
anything is queued. -/
structure Sound (config : Config) (midway : Nat) (pool : Pool α) : Prop where
  sized : pool.config = config
  slots : pool.free + pool.queue.length + pool.held.length + midway = config.capacity.toNat
  roster : pool.workers.length = config.workers.toNat
  staffed : pool.isOpen = true → .gone ∉ pool.workers
  emptied : .gone ∈ pool.workers → pool.queue = []

theorem start_sound (config : Config) : (Pool.start config : Pool α).Sound config 0 where
  sized := rfl
  slots := by
    have none : (List.replicate config.workers.toNat (Worker.idle : Worker α)).filterMap
        Worker.holds = [] := by
      apply List.filterMap_eq_nil_iff.mpr
      intro worker member
      rw [List.eq_of_mem_replicate member]
      rfl
    simp only [start, held, none, List.length_nil, Nat.add_zero]
  roster := List.length_replicate
  staffed := fun _ member => by cases List.eq_of_mem_replicate member
  emptied := fun _ => rfl

/-- A job that is accepted is queued behind the others and has a permit; one that is not
comes back as it was, and the pool is as it was. -/
theorem submit_cases (pool : Pool α) (job : α) :
    pool.submit job =
      (.accepted, { pool with free := pool.free - 1, queue := pool.queue ++ [job] }) ∨
    pool.submit job = (.full job, pool) ∨ pool.submit job = (.closed job, pool) := by
  unfold submit
  split
  next => exact .inr (.inr rfl)
  next =>
    split
    next => exact .inr (.inl rfl)
    next =>
      unfold send
      split
      next pool sent =>
        split at sent
        · cases sent
        · split at sent
          · cases sent
          · cases sent
            exact .inl rfl
      next => exact .inr (.inl rfl)
      next => exact .inr (.inr rfl)

/-- An accepted job takes a permit and is queued last. -/
theorem eq_of_accepted {pool next : Pool α} {job : α}
    (accepted : pool.submit job = (.accepted, next)) :
    next = { pool with free := pool.free - 1, queue := pool.queue ++ [job] } := by
  rcases pool.submit_cases job with answer | answer | answer
  · exact (Prod.mk.inj (accepted.symm.trans answer)).2
  · cases accepted.symm.trans answer
  · cases accepted.symm.trans answer

/-- An open pool without permits has no place for a job. -/
theorem submit_of_none {pool : Pool α} (opened : pool.isOpen = true) (none : pool.free = 0)
    (job : α) : pool.submit job = (.full job, pool) := by
  rw [submit, opened, Bool.not_true, if_neg Bool.false_ne_true, if_pos none]

theorem submit_of_shut {pool : Pool α} (shut : pool.isOpen = false) (job : α) :
    pool.submit job = (.closed job, pool) := by
  rw [submit, shut, Bool.not_false, if_pos rfl]

/-- The second half of a submission, for a job that has its permit. A job that the
queue does not take gives the permit back. -/
def deliver (pool : Pool α) (job : α) : Submission α × Pool α :=
  match pool.send job with
  | .sent next => (.accepted, next)
  | .noRoom => (.full job, { pool with free := pool.free + 1 })
  | .disconnected => (.closed job, { pool with free := pool.free + 1 })

/-- A submission with nothing in between is its two halves. -/
theorem submit_eq_halves (pool : Pool α) (job : α) :
    pool.submit job =
      if pool.isOpen = false then (.closed job, pool)
      else if pool.free = 0 then (.full job, pool)
      else deliver { pool with free := pool.free - 1 } job := by
  rcases pool with ⟨config, isOpen, free, queue, workers⟩
  cases isOpen with
  | false => rfl
  | true =>
      cases free with
      | zero => rfl
      | succ free =>
          simp only [submit, deliver, send, drained, room, Bool.not_true, Bool.true_eq_false,
            Bool.false_eq_true, Nat.add_one_ne_zero, Nat.add_sub_cancel, ↓reduceIte]
          by_cases alone : workers.all Worker.isGone = true
          · simp only [alone, ↓reduceIte]
          · by_cases crowded : config.capacity.toNat ≤ queue.length
            · simp only [alone, crowded, ↓reduceIte, Bool.false_eq_true]
            · simp only [alone, crowded, ↓reduceIte, Bool.false_eq_true, Nat.add_sub_cancel]

namespace Sound

variable {config : Config} {midway : Nat} {pool next : Pool α}

/-- A worker may change its state as long as the permits still add up; it may be
gone only when the pool is closed and nothing is queued. -/
theorem exchange (sound : pool.Sound config midway) {before behind : List (Worker α)}
    {old new : Worker α} (workers : pool.workers = before ++ old :: behind)
    {free : Nat} {queue : List α}
    (balanced : free + queue.length + new.holds.toList.length =
      pool.free + pool.queue.length + old.holds.toList.length)
    (kept : .gone ∈ pool.workers → queue = [])
    (leaving : new = .gone → pool.isOpen = false ∧ queue = []) :
    ({ pool with free, queue, workers := before ++ new :: behind } : Pool α).Sound
      config midway := by
  have gone : .gone ∈ before ++ new :: behind → new = .gone ∨ .gone ∈ pool.workers := by
    intro member
    rw [workers]
    exact (mem_replaced member).imp_left Eq.symm
  refine ⟨sound.sized, ?_, ?_, fun opened member => ?_, fun member => ?_⟩
  · have slots := sound.slots
    simp only [held, workers, filterMap_roster, List.length_append] at slots ⊢
    omega
  · rw [← sound.roster, workers]
    simp only [List.length_append, List.length_cons]
  · rcases gone member with leaves | present
    · exact Bool.false_ne_true ((leaving leaves).1.symm.trans opened)
    · exact sound.staffed opened present
  · rcases gone member with leaves | present
    · exact (leaving leaves).2
    · exact kept present

/-- An idle worker may have a job from the queue, or another in its place. -/
theorem begin (sound : pool.Sound config midway) {before behind : List (Worker α)}
    {job : α} {rest : List α} (workers : pool.workers = before ++ .idle :: behind)
    (queued : pool.queue = job :: rest) (other : α) :
    ({ pool with queue := rest, workers := before ++ .busy other :: behind } : Pool α).Sound
      config midway := by
  have nobody : .gone ∉ pool.workers := by
    intro gone
    rw [sound.emptied gone] at queued
    cases queued
  apply sound.exchange workers
  · simp only [queued, Worker.holds, Option.toList_some, Option.toList_none, List.length_cons,
      List.length_nil]
    omega
  · exact fun gone => (nobody gone).elim
  · exact fun leaves => by cases leaves

/-- A worker that is done may give its permit back. -/
theorem giveBack (sound : pool.Sound config midway) {before behind : List (Worker α)} {job : α}
    (workers : pool.workers = before ++ .spent job :: behind) :
    ({ pool with free := pool.free + 1, workers := before ++ .idle :: behind } : Pool α).Sound
      config midway := by
  apply sound.exchange workers
  · simp only [Worker.holds, Option.toList_some, Option.toList_none, List.length_cons,
      List.length_nil]
    omega
  · exact sound.emptied
  · exact fun leaves => by cases leaves

/-- What a worker does by itself leaves the permits accounted for. -/
theorem step (sound : pool.Sound config midway) (step : pool.Step next) :
    next.Sound config midway := by
  cases step with
  | take index taken =>
      obtain ⟨before, behind, job, rest, workers, queued, rfl⟩ := take_cases taken
      exact sound.begin workers queued job
  | finish index finished =>
      obtain ⟨before, behind, job, busy, workers, rfl⟩ := finish_cases finished
      exact sound.exchange workers rfl sound.emptied fun leaves => by cases leaves
  | release index released =>
      obtain ⟨before, behind, job, spent, workers, rfl⟩ := release_cases released
      exact sound.giveBack workers
  | leave index left =>
      obtain ⟨before, behind, workers, empty, shut, rfl⟩ := leave_cases left
      exact sound.exchange workers rfl sound.emptied fun _ => ⟨shut, empty⟩

theorem close (sound : pool.Sound config midway) : pool.close.Sound config midway where
  sized := sound.sized
  slots := sound.slots
  roster := sound.roster
  staffed := fun opened => by cases opened
  emptied := sound.emptied

/-- The queue of an open pool takes a job as long as there is room: somebody is left
to serve it. -/
theorem send (sound : pool.Sound config midway) (staff : 0 < config.workers.toNat)
    (opened : pool.isOpen = true) (room : pool.queue.length < config.capacity.toNat) (job : α) :
    pool.send job = .sent { pool with queue := pool.queue ++ [job] } := by
  have manned : pool.drained = false := by
    have roster := sound.roster
    have staffed := sound.staffed opened
    unfold drained
    cases workers : pool.workers with
    | nil =>
        rw [workers, List.length_nil] at roster
        omega
    | cons first others =>
        rw [workers, List.mem_cons, not_or] at staffed
        cases first with
        | gone => exact (staffed.1 rfl).elim
        | idle => rfl
        | busy _ => rfl
        | spent _ => rfl
  have roomy : ¬ pool.room ≤ pool.queue.length := by
    rw [Pool.room, sound.sized]
    exact Nat.not_le.mpr room
  rw [Pool.send, manned, if_neg Bool.false_ne_true, if_neg roomy]

/-- A job that reaches the queue takes the permit that its call had. -/
theorem enqueue (sound : pool.Sound config (midway + 1)) (opened : pool.isOpen = true) (job : α) :
    ({ pool with queue := pool.queue ++ [job] } : Pool α).Sound config midway where
  sized := sound.sized
  slots := by
    have slots := sound.slots
    simp only [held, List.length_append, List.length_cons, List.length_nil] at slots ⊢
    omega
  roster := sound.roster
  staffed := sound.staffed
  emptied := fun gone => (sound.staffed opened gone).elim

/-- A call that gets a permit takes it from the free ones. -/
theorem lend (sound : pool.Sound config midway) (available : pool.free ≠ 0) :
    ({ pool with free := pool.free - 1 } : Pool α).Sound config (midway + 1) where
  sized := sound.sized
  slots := by
    have slots := sound.slots
    simp only [held] at slots ⊢
    omega
  roster := sound.roster
  staffed := sound.staffed
  emptied := sound.emptied

/-- While a permit is free, an open pool takes a job in. -/
theorem submit_of_free (sound : pool.Sound config midway) (staff : 0 < config.workers.toNat)
    (opened : pool.isOpen = true) (available : pool.free ≠ 0) (job : α) :
    pool.submit job =
      (.accepted, { pool with free := pool.free - 1, queue := pool.queue ++ [job] }) := by
  have room : pool.queue.length < config.capacity.toNat := by
    have slots := sound.slots
    omega
  unfold Pool.submit
  rw [sound.send staff opened room job, opened, Bool.not_true, if_neg Bool.false_ne_true,
    if_neg available]

/-- An open pool refuses a job exactly when every place is taken, and a closed pool refuses
every job. A job that is refused leaves the pool as it was. -/
theorem submit_decided (sound : pool.Sound config 0) (staff : 0 < config.workers.toNat) (job : α) :
    (pool.isOpen = false ∧ pool.submit job = (.closed job, pool)) ∨
    (pool.isOpen = true ∧ pool.queue.length + pool.held.length = config.capacity.toNat ∧
      pool.submit job = (.full job, pool)) ∨
    (pool.isOpen = true ∧ pool.queue.length + pool.held.length ≠ config.capacity.toNat ∧
      pool.submit job =
        (.accepted, { pool with free := pool.free - 1, queue := pool.queue ++ [job] })) := by
  have slots := sound.slots
  by_cases opened : pool.isOpen = true
  · by_cases none : pool.free = 0
    · exact .inr (.inl ⟨opened, by omega, submit_of_none opened none job⟩)
    · exact .inr (.inr ⟨opened, by omega, sound.submit_of_free staff opened none job⟩)
  · have shut := eq_false_of_ne_true opened
    exact .inl ⟨shut, submit_of_shut shut job⟩

theorem submit (sound : pool.Sound config midway) (staff : 0 < config.workers.toNat) (job : α) :
    (pool.submit job).2.Sound config midway := by
  cases opened : pool.isOpen with
  | false =>
      rw [submit_of_shut opened]
      exact sound
  | true =>
      by_cases none : pool.free = 0
      · rw [submit_of_none opened none]
        exact sound
      · rw [sound.submit_of_free staff opened none]
        exact (sound.lend none).enqueue opened job

end Sound

/-- In every state that calls and workers lead to, the permits are accounted for. -/
theorem Reachable.sound {config : Config} {pool : Pool α} (staff : 0 < config.workers.toNat)
    (reachable : Reachable config pool) : pool.Sound config 0 := by
  induction reachable with
  | start => exact start_sound config
  | submit before job ih => exact ih.submit staff job
  | close before ih => exact ih.close
  | step before step ih => exact ih.step step

end Admission.Pool
