import Admission.Proofs.Pool.Slots

/-! # Calls that overlap

A call to submit is not one step. It holds the pool's lock for reading while it
looks whether the pool is open, asks for a permit, and offers its job to the queue;
other calls and the workers go on in between, and only closing, which needs the lock
for itself, has to wait. `Admission.Pool.Traffic` is a pool with the calls that are
under way, one call that closes it, and a log of what was answered and of what the
workers did; `Admission.Pool.Traffic.Step` is one step of any of them.

`Admission.Pool.submit_eq_halves` says that a call with nothing in between is the
operation `Admission.Pool.submit`. `Admission.Pool.Traffic.Guarded` is what every
step preserves: the permits are accounted for, the log and the pool tell the same
story, and the lock keeps answers of an open and of a closed pool apart.
-/

namespace Admission.Pool

variable {α : Type}

/-- A call to submit that is under way. -/
inductive Attempt (α : Type) where
  /-- It found the pool open, and has no permit yet. -/
  | looking (job : α)
  /-- It has a permit, and has not tried the queue yet. -/
  | permitted (job : α)
  deriving DecidableEq, Repr

namespace Attempt

@[simp] def job : Attempt α → α
  | looking job => job
  | permitted job => job

def hasPermit : Attempt α → Bool
  | looking _ => false
  | permitted _ => true

end Attempt

/-- What is logged. -/
inductive Event (α : Type) where
  | called (job : α)
  /-- The call for this job was answered. -/
  | answered (job : α) (answer : Submission α)
  /-- A worker took the job off the queue and gave it to the processor. -/
  | taken (job : α)
  /-- The processor was done with the job, or broke off. -/
  | ended (job : α) (broke : Bool)
  | released (job : α)
  | shut
  deriving DecidableEq, Repr

namespace Event

-- What an event adds to each of the extracts of a log.

@[simp] def called? : Event α → Option α
  | called job => some job
  | _ => none

@[simp] def accepted? : Event α → Option α
  | answered job .accepted => some job
  | _ => none

@[simp] def handedBack? : Event α → Option α
  | answered _ (.full job) => some job
  | answered _ (.closed job) => some job
  | _ => none

@[simp] def taken? : Event α → Option α
  | taken job => some job
  | _ => none

@[simp] def ended? : Event α → Option α
  | ended job _ => some job
  | _ => none

@[simp] def released? : Event α → Option α
  | released job => some job
  | _ => none

end Event

/-- What happened so far, the oldest first. -/
abbrev Log (α : Type) := List (Event α)

namespace Log

@[simp] def called (log : Log α) : List α :=
  log.filterMap Event.called?

/-- The jobs that were accepted, in this order. -/
@[simp] def accepted (log : Log α) : List α :=
  log.filterMap Event.accepted?

@[simp] def handedBack (log : Log α) : List α :=
  log.filterMap Event.handedBack?

/-- The jobs that were given to the processor, in this order. -/
@[simp] def taken (log : Log α) : List α :=
  log.filterMap Event.taken?

/-- The jobs that the processor was done with, or broke off. -/
@[simp] def ended (log : Log α) : List α :=
  log.filterMap Event.ended?

/-- The jobs that are done, with their permits given back. -/
@[simp] def done (log : Log α) : List α :=
  log.filterMap Event.released?

/-- Every extract goes through a log event by event. -/
@[simp] theorem extract_cons {β : Type} (event : Event α) (log : Log α)
    (extract : Event α → Option β) :
    (event :: log).filterMap extract = (extract event).toList ++ log.filterMap extract := by
  rw [List.filterMap_cons]
  cases extract event with
  | none => rfl
  | some shown => rfl

end Log

/-- The call that closes the pool. -/
inductive Closer where
  | absent
  | waiting
  | returned
  deriving DecidableEq, Repr

/-- A pool with the calls that are under way. -/
structure Traffic (α : Type) where
  pool : Pool α
  attempts : List (Attempt α) := []
  closer : Closer := .absent
  log : Log α := []

namespace Traffic

/-- How many submissions have a permit and have not reached the queue. -/
def midway (traffic : Traffic α) : Nat :=
  traffic.attempts.countP Attempt.hasPermit

def note (traffic : Traffic α) (event : Event α) : Traffic α :=
  { traffic with log := traffic.log ++ [event] }

/-- One step of a call, of a worker, or of closing. -/
inductive Step : Traffic α → Traffic α → Prop where
  | call {traffic : Traffic α} (job : α) (opened : traffic.pool.isOpen = true) :
      Step traffic
        (note { traffic with attempts := traffic.attempts ++ [.looking job] } (.called job))
  | turnAway {traffic : Traffic α} (job : α) (shut : traffic.pool.isOpen = false) :
      Step traffic ((traffic.note (.called job)).note (.answered job (.closed job)))
  | refuse {traffic : Traffic α} (before behind : List (Attempt α)) (job : α)
      (underway : traffic.attempts = before ++ Attempt.looking job :: behind)
      (none : traffic.pool.free = 0) :
      Step traffic
        (note { traffic with attempts := before ++ behind } (.answered job (.full job)))
  | permit {traffic : Traffic α} (before behind : List (Attempt α)) (job : α)
      (underway : traffic.attempts = before ++ Attempt.looking job :: behind)
      (available : traffic.pool.free ≠ 0) :
      Step traffic
        { traffic with
          pool := { traffic.pool with free := traffic.pool.free - 1 }
          attempts := before ++ .permitted job :: behind }
  /-- A call with a permit tries the queue. -/
  | deliver {traffic : Traffic α} (before behind : List (Attempt α)) (job : α)
      {answer : Submission α} {pool : Pool α}
      (underway : traffic.attempts = before ++ Attempt.permitted job :: behind)
      (delivered : traffic.pool.deliver job = (answer, pool)) :
      Step traffic
        (note { traffic with pool, attempts := before ++ behind } (.answered job answer))
  | take {traffic : Traffic α} (index : Nat) {pool : Pool α} {job : α}
      (oldest : traffic.pool.queue.head? = some job)
      (taken : traffic.pool.take index = some pool) :
      Step traffic (note { traffic with pool } (.taken job))
  /-- The processor is done with a job, or breaks off. -/
  | finish {traffic : Traffic α} (index : Nat) {pool : Pool α} {job : α} (broke : Bool)
      (busy : traffic.pool.workers[index]? = some (.busy job))
      (finished : traffic.pool.finish index = some pool) :
      Step traffic (note { traffic with pool } (.ended job broke))
  | release {traffic : Traffic α} (index : Nat) {pool : Pool α} {job : α}
      (spent : traffic.pool.workers[index]? = some (.spent job))
      (released : traffic.pool.release index = some pool) :
      Step traffic (note { traffic with pool } (.released job))
  | leave {traffic : Traffic α} (index : Nat) {pool : Pool α}
      (left : traffic.pool.leave index = some pool) :
      Step traffic { traffic with pool }
  /-- Closing has the lock for itself and stops admission. -/
  | shut {traffic : Traffic α} (alone : traffic.attempts = [])
      (absent : traffic.closer = .absent) :
      Step traffic (note { traffic with pool := traffic.pool.close, closer := .waiting } .shut)
  /-- The call that closes the pool returns once every worker is gone. -/
  | join {traffic : Traffic α} (waiting : traffic.closer = .waiting)
      (drained : traffic.pool.drained = true) :
      Step traffic { traffic with closer := .returned }

/-- What the steps of calls, workers and one closing lead to, in any order. -/
inductive Reachable (config : Config) : Traffic α → Prop where
  | start : Reachable config { pool := Pool.start config }
  | step {traffic next : Traffic α} (before : Reachable config traffic)
      (step : traffic.Step next) : Reachable config next

/-- The permits are accounted for, and the lock does its work: the pool is closed from
the moment when closing has the lock, no call is then under way, and the call that
closes has not returned before every worker was gone. -/
structure Guarded (config : Config) (traffic : Traffic α) : Prop where
  sound : traffic.pool.Sound config traffic.midway
  opened : traffic.pool.isOpen = true ↔ traffic.closer = .absent
  locked : traffic.pool.isOpen = false → traffic.attempts = []
  joined : traffic.closer = .returned → traffic.pool.drained = true

namespace Guarded

variable {config : Config} {traffic next : Traffic α}

/-- While a call is under way the pool is open. -/
theorem open_of_underway (guarded : Guarded config traffic) {before behind : List (Attempt α)}
    {attempt : Attempt α} (underway : traffic.attempts = before ++ attempt :: behind) :
    traffic.pool.isOpen = true := by
  apply eq_true_of_ne_false
  intro shut
  have none := guarded.locked shut
  rw [underway] at none
  exact List.append_ne_nil_of_right_ne_nil _ (List.cons_ne_nil _ _) none

/-- A call with a permit finds room in the queue, and a worker left. -/
theorem send (guarded : Guarded config traffic) (staff : 0 < config.workers.toNat)
    {before behind : List (Attempt α)} {job : α}
    (underway : traffic.attempts = before ++ .permitted job :: behind) :
    traffic.pool.send job = .sent { traffic.pool with queue := traffic.pool.queue ++ [job] } := by
  have sound := guarded.sound
  rw [midway, underway, List.countP_append, List.countP_cons_of_pos rfl, ← Nat.add_assoc] at sound
  have room : traffic.pool.queue.length < config.capacity.toNat := by
    have slots := sound.slots
    omega
  exact sound.send staff (guarded.open_of_underway underway) room job

/-- A call with a permit gets its job into the queue. -/
theorem deliver (guarded : Guarded config traffic) (staff : 0 < config.workers.toNat)
    {before behind : List (Attempt α)} {job : α}
    (underway : traffic.attempts = before ++ .permitted job :: behind) :
    traffic.pool.deliver job =
      (.accepted, { traffic.pool with queue := traffic.pool.queue ++ [job] }) := by
  rw [Pool.deliver, guarded.send staff underway]

/-- A step of a worker keeps the pool guarded. -/
theorem work (guarded : Guarded config traffic) {pool : Pool α}
    (step : traffic.pool.Step pool) (log : Log α) :
    Guarded config { traffic with pool, log } where
  sound := guarded.sound.step step
  opened := by
    rw [step.isOpen_eq]
    exact guarded.opened
  locked := by
    rw [step.isOpen_eq]
    exact guarded.locked
  joined := fun returned => (not_step_of_drained (guarded.joined returned) step).elim

/-- Every step keeps the pool guarded. -/
theorem step (guarded : Guarded config traffic) (staff : 0 < config.workers.toNat)
    (step : traffic.Step next) : Guarded config next := by
  cases step with
  | call job opened =>
      refine ⟨?_, guarded.opened, fun shut => ?_, guarded.joined⟩
      · have sound := guarded.sound
        rw [midway] at sound
        simpa only [midway, note, List.countP_append, List.countP_singleton,
          Attempt.hasPermit, Bool.false_eq_true, ↓reduceIte, Nat.add_zero] using sound
      · exact (Bool.false_ne_true (shut.symm.trans opened)).elim
  | turnAway job shut => exact ⟨guarded.sound, guarded.opened, guarded.locked, guarded.joined⟩
  | refuse before behind job underway none =>
      have opened := guarded.open_of_underway underway
      refine ⟨?_, guarded.opened, fun shut => ?_, guarded.joined⟩
      · have sound := guarded.sound
        rw [midway, underway] at sound
        simpa only [midway, note, List.countP_append, List.countP_cons, Attempt.hasPermit,
          Bool.false_eq_true, ↓reduceIte, Nat.add_zero] using sound
      · exact (Bool.false_ne_true (shut.symm.trans opened)).elim
  | permit before behind job underway available =>
      have opened := guarded.open_of_underway underway
      refine ⟨?_, guarded.opened, fun shut => ?_, fun returned => ?_⟩
      · have sound := guarded.sound.lend available
        rw [midway, underway] at sound
        simpa only [midway, List.countP_append, List.countP_cons, Attempt.hasPermit,
          Bool.false_eq_true, ↓reduceIte, Nat.add_zero, Nat.add_assoc] using sound
      · exact (Bool.false_ne_true (shut.symm.trans opened)).elim
      · cases (guarded.opened.mp opened).symm.trans returned
  | deliver before behind job underway delivered =>
      have opened := guarded.open_of_underway underway
      obtain ⟨rfl, rfl⟩ := Prod.mk.inj (delivered.symm.trans (guarded.deliver staff underway))
      refine ⟨?_, guarded.opened, fun shut => ?_, fun returned => ?_⟩
      · have sound := guarded.sound
        rw [midway, underway, List.countP_append, List.countP_cons_of_pos rfl,
          ← Nat.add_assoc] at sound
        have queued := sound.enqueue opened job
        simpa only [midway, note, List.countP_append] using queued
      · exact (Bool.false_ne_true (shut.symm.trans opened)).elim
      · cases (guarded.opened.mp opened).symm.trans returned
  | take index oldest taken => exact guarded.work (.take index taken) _
  | finish index broke busy finished => exact guarded.work (.finish index finished) _
  | release index spent released => exact guarded.work (.release index released) _
  | leave index left => exact guarded.work (.leave index left) _
  | shut alone absent =>
      -- The lock is what makes `alone` available: closing waits for the calls under way.
      refine ⟨guarded.sound.close, ?_, fun _ => alone, fun returned => ?_⟩
      · constructor
        · exact fun opened => by cases opened
        · exact fun absent => by cases absent
      · cases returned
  | join waiting drained =>
      refine ⟨guarded.sound, ?_, guarded.locked, fun _ => drained⟩
      constructor
      · intro opened
        cases (guarded.opened.mp opened).symm.trans waiting
      · exact fun absent => by cases absent

end Guarded

/-- Every state that overlapping calls lead to is guarded. -/
theorem Reachable.guarded {config : Config} {traffic : Traffic α}
    (staff : 0 < config.workers.toNat) (reachable : Reachable config traffic) :
    Guarded config traffic := by
  induction reachable with
  | start =>
      refine ⟨start_sound config, ⟨fun _ => rfl, fun _ => rfl⟩, fun _ => rfl, fun returned => ?_⟩
      cases returned
  | step before step ih => exact ih.step staff step

/-- The answers that a call for a job gets from an open pool, and from a closed one. -/
def Answer (isOpen : Bool) (job : α) (answer : Submission α) : Prop :=
  if isOpen then answer = .accepted ∨ answer = .full job else answer = .closed job

/-- A stretch of the log during which the pool was open, or was closed. -/
structure Stretch (isOpen : Bool) (log : Log α) : Prop where
  steady : .shut ∉ log
  answers : ∀ job answer, .answered job answer ∈ log → Answer isOpen job answer

namespace Stretch

variable {isOpen : Bool} {earlier later : Log α}

theorem empty : Stretch isOpen ([] : Log α) where
  steady := List.not_mem_nil
  answers := fun _ _ member => (List.not_mem_nil member).elim

theorem append (first : Stretch isOpen earlier) (second : Stretch isOpen later) :
    Stretch isOpen (earlier ++ later) where
  steady := fun member =>
    (List.mem_append.mp member).elim first.steady second.steady
  answers := fun job answer member =>
    (List.mem_append.mp member).elim (first.answers job answer) (second.answers job answer)

/-- An event that is no answer and no closing fits into any stretch. -/
theorem quiet {event : Event α} (steady : event ≠ .shut)
    (silent : ∀ job answer, event ≠ .answered job answer) : Stretch isOpen [event] where
  steady := fun member => steady (List.mem_singleton.mp member).symm
  answers := fun job answer member => (silent job answer (List.mem_singleton.mp member).symm).elim

theorem answered {job : α} {answer : Submission α} (fits : Answer isOpen job answer) :
    Stretch isOpen [.answered job answer] where
  steady := fun member => by cases List.mem_singleton.mp member
  answers := fun other reply member => by
    obtain ⟨rfl, rfl⟩ := Event.answered.inj (List.mem_singleton.mp member)
    exact fits

end Stretch

/-- A step either continues the stretch of the log that the pool is in, or is the end of
admission. -/
theorem Step.stretch {config : Config} {traffic next : Traffic α} (step : traffic.Step next)
    (guarded : Guarded config traffic) (staff : 0 < config.workers.toNat) :
    (next.pool.isOpen = traffic.pool.isOpen ∧
      ∃ events, next.log = traffic.log ++ events ∧ Stretch traffic.pool.isOpen events) ∨
    (traffic.pool.isOpen = true ∧ next.pool.isOpen = false ∧
      next.log = traffic.log ++ [.shut]) := by
  cases step with
  | call job opened =>
      exact .inl ⟨rfl, _, rfl, .quiet nofun nofun⟩
  | turnAway job shut =>
      refine .inl ⟨rfl, _, List.append_assoc .., ?_⟩
      rw [shut]
      exact .append (.quiet nofun nofun) (.answered rfl)
  | refuse before behind job underway none =>
      refine .inl ⟨rfl, _, rfl, ?_⟩
      rw [guarded.open_of_underway underway]
      exact .answered (.inr rfl)
  | permit before behind job underway available =>
      exact .inl ⟨rfl, [], (List.append_nil _).symm, .empty⟩
  | deliver before behind job underway delivered =>
      obtain ⟨rfl, rfl⟩ := Prod.mk.inj (delivered.symm.trans (guarded.deliver staff underway))
      refine .inl ⟨rfl, _, rfl, ?_⟩
      rw [guarded.open_of_underway underway]
      exact .answered (.inl rfl)
  | take index oldest taken =>
      exact .inl ⟨(Pool.Step.take index taken).isOpen_eq, _, rfl, .quiet nofun nofun⟩
  | finish index broke busy finished =>
      exact .inl ⟨(Pool.Step.finish index finished).isOpen_eq, _, rfl, .quiet nofun nofun⟩
  | release index spent released =>
      exact .inl ⟨(Pool.Step.release index released).isOpen_eq, _, rfl, .quiet nofun nofun⟩
  | leave index left =>
      exact .inl ⟨(Pool.Step.leave index left).isOpen_eq, [], (List.append_nil _).symm, .empty⟩
  | shut alone absent =>
      exact .inr ⟨guarded.opened.mpr absent, rfl, rfl⟩
  | join waiting drained =>
      exact .inl ⟨rfl, [], (List.append_nil _).symm, .empty⟩

/-- Answers of an open pool come before admission ends, and answers of a closed pool
after it. -/
theorem Reachable.stretches {config : Config} {traffic : Traffic α}
    (staff : 0 < config.workers.toNat) (reachable : Reachable config traffic) :
    (traffic.pool.isOpen = true → Stretch true traffic.log) ∧
    (traffic.pool.isOpen = false → ∃ before after,
      traffic.log = before ++ .shut :: after ∧ Stretch true before ∧ Stretch false after) := by
  induction reachable with
  | start => exact ⟨fun _ => .empty, fun shut => by cases shut⟩
  | @step traffic next before step ih =>
      rcases step.stretch (before.guarded staff) staff with
        ⟨same, events, log, stretch⟩ | ⟨opened, shut, log⟩
      · rw [same, log]
        constructor
        · intro opened
          rw [opened] at stretch
          exact (ih.1 opened).append stretch
        · intro shut
          rw [shut] at stretch
          obtain ⟨earlier, later, split, first, second⟩ := ih.2 shut
          refine ⟨earlier, later ++ events, ?_, first, second.append stretch⟩
          rw [split, List.append_assoc, List.cons_append]
      · constructor
        · intro opened
          cases opened.symm.trans shut
        · intro _
          exact ⟨traffic.log, [], log, ih.1 opened, .empty⟩

end Traffic

end Admission.Pool
