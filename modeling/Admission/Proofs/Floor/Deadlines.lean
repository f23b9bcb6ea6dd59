import Admission.Proofs.Floor.Punctual

/-! # A closed pool is drained in time

The limits of one job bound its processing (`Admission.serveTask_took_le`), whatever its peer
does. From there it is a matter of rounds. At rest every worker is busy while a job is
queued, so when a round begins as many jobs are under way as there are workers, and all of
these are over when it ends. `Admission.Floor.outlasting` counts the jobs that are not over
by a given instant; each round takes the number of workers off it
(`Admission.Floor.Clearing.cleared`). So a call that closes the pool returns after as many
rounds as the jobs in flight fill (`Admission.Floor.close_prompt`).
-/

namespace Admission.Floor

variable {floor next later start : Floor} {config : Pool.Config} {calls : List Call}
  {bound origin jobs instant : Nat}

/-- Jobs that do not wait at the gate and whose processing is bounded. -/
def paced (bound : Nat) : Regime where
  waits errand :=
    errand.live.task.Gateless ∧ (errand.live.task.run errand.live.conn).took ≤ bound
  works now errand := errand.live.EndsBy (now + bound)
  begun := by
    rintro errand now ⟨gateless, within⟩
    exact .enter gateless (Nat.add_le_add_left within now)
  goneOn := fun works event => works.event event
  letThrough := by
    intro errand now works waits
    cases waits.symm.trans works.not_atGate
  later := fun works forth => works.mono (Nat.add_le_add_right forth bound)

/-- Whether a job under way will not be over by an instant. -/
def outlasts (instant : Nat) (errand : Errand) : Bool :=
  decide (instant < errand.live.runOut.took)

/-- How many of the jobs in the pool will not be over by an instant: the queued ones, and
those under way that end later. -/
def outlasting (instant : Nat) (floor : Floor) : Nat :=
  floor.pool.queue.length + floor.pool.processing.countP (outlasts instant)

theorem outlasting_roster (instant : Nat) {before behind : List (Worker Errand)}
    {worker : Worker Errand} (workers : floor.pool.workers = before ++ worker :: behind) :
    floor.outlasting instant =
      floor.pool.queue.length + worker.processes.toList.countP (outlasts instant) +
        ((before ++ behind).filterMap Worker.processes).countP (outlasts instant) := by
  rw [outlasting, countP_processing (outlasts instant) workers, Nat.add_assoc]

/-- What happens on the floor makes no job last longer. -/
theorem Move.outlasting_le (move : floor.Move next) (paces : (paced bound).Governs floor)
    (instant : Nat) : next.outlasting instant ≤ floor.outlasting instant := by
  cases move with
  | begin workers queued =>
      have one (errand : Errand) : [errand].countP (outlasts instant) ≤ 1 :=
        List.countP_le_length
      rw [outlasting_roster instant workers, outlasting_roster instant rfl, queued]
      simp only [Worker.processes, Option.toList, List.length_cons, List.countP_nil]
      exact Nat.add_le_add_right (Nat.add_le_add_left (one _) _) _
  | @goOn before behind errand due after workers event reached =>
      have timely := (paces.busy workers).timely
      have same : outlasts instant (errand.goneOn after) = outlasts instant errand := by
        rw [outlasts, outlasts, Errand.goneOn, (Live.runOut_of_event timely event).2]
      rw [outlasting_roster instant workers, outlasting_roster instant rfl]
      simp only [Worker.processes, Option.toList, List.countP_singleton, same, Nat.le_refl]
  | pass workers waits granted => cases waits.symm.trans (paces.busy workers).not_atGate
  | finish workers finished =>
      rw [outlasting_roster instant workers, outlasting_roster instant rfl]
      simp only [Worker.processes, Option.toList, List.countP_nil, Nat.add_zero]
      exact Nat.add_le_add_right (Nat.le_add_right _ _) _
  | release workers =>
      rw [outlasting_roster instant workers, outlasting_roster instant rfl]
      exact Nat.le_refl _
  | leave workers empty shut =>
      rw [outlasting_roster instant workers, outlasting_roster instant rfl]
      exact Nat.le_refl _
  | join waiting drained => exact Nat.le_refl _

/-- No job under way ends before the next event. -/
theorem le_runOut_of_soon (paces : (paced bound).Governs floor) (quiet : floor.stride = none)
    (soon : ∀ due, floor.nextDue = some due → instant ≤ due) {errand : Errand}
    (busy : .busy errand ∈ floor.pool.workers) : instant ≤ errand.live.runOut.took := by
  obtain ⟨due, after, event, -, within⟩ := event_of_quiet quiet busy (paces.underway errand busy)
  obtain ⟨first, found, before⟩ := exists_nextDue busy event
  exact Nat.le_trans (Nat.le_trans (soon first found) before) within

/-- When every job under way lasts longer than until an instant, it counts with all jobs in
the pool; and the bound of a job later only the queued ones are left. -/
theorem outlasting_of_crowd (paces : (paced bound).Governs floor) (since : floor.now ≤ instant)
    (busy : ∀ errand, .busy errand ∈ floor.pool.workers → instant < errand.live.runOut.took) :
    floor.outlasting instant = floor.pool.queue.length + floor.pool.processing.length ∧
      floor.outlasting (instant + bound) = floor.pool.queue.length := by
  constructor
  · rw [outlasting, List.countP_eq_length.mpr]
    intro errand member
    exact decide_eq_true (busy errand (mem_processing_iff.mp member))
  · rw [outlasting, List.countP_eq_zero.mpr, Nat.add_zero]
    intro errand member
    have within := (paces.underway errand (mem_processing_iff.mp member)).within
    simp only [outlasts, decide_eq_true_eq, Nat.not_lt]
    omega

/-- The rounds that so many jobs fill. -/
def rounds (config : Pool.Config) (jobs : Nat) : Nat :=
  (jobs + config.workers.toNat - 1) / config.workers.toNat

/-- So many rounds have room for all jobs. -/
theorem le_rounds_mul (staff : 0 < config.workers.toNat) (jobs : Nat) :
    jobs ≤ rounds config jobs * config.workers.toNat := by
  have less := Nat.lt_mul_div_succ (jobs + config.workers.toNat - 1) staff
  rw [Nat.mul_succ, Nat.mul_comm] at less
  rw [rounds]
  omega

/-- A closed pool on its way to being drained, since an instant at which so many jobs were in
flight. A round that has begun is one after which there are fewer of them. -/
structure Clearing (config : Pool.Config) (bound origin jobs : Nat) (floor : Floor) : Prop where
  paces : (paced bound).Governs floor
  sound : floor.pool.Sound config 0
  shut : floor.pool.isOpen = false
  cleared : ∀ round, (∀ earlier < round, origin + earlier * bound < floor.now) →
    floor.outlasting (origin + round * bound) ≤ jobs - round * config.workers.toNat
  inTime : .draining ∈ floor.closings → floor.now ≤ origin + rounds config jobs * bound

namespace Clearing

/-- As long as no job under way ends before an instant, the rounds until that instant are
full ones. -/
theorem cleared_until (clearing : Clearing config bound origin jobs floor)
    (quiet : floor.stride = none)
    (busy : ∀ errand, .busy errand ∈ floor.pool.workers → instant ≤ errand.live.runOut.took)
    (round : Nat) (begun : ∀ earlier < round, origin + earlier * bound < instant) :
    floor.outlasting (origin + round * bound) ≤ jobs - round * config.workers.toNat := by
  induction round with
  | zero => exact clearing.cleared 0 nofun
  | succ round ih =>
      have before := ih fun earlier less => begun earlier (Nat.lt_succ_of_lt less)
      have last := begun round (Nat.lt_succ_self round)
      by_cases past : origin + round * bound < floor.now
      · apply clearing.cleared
        intro earlier less
        have sooner := Nat.mul_le_mul_right bound (Nat.le_of_lt_succ less)
        omega
      · -- The round begins now, with all workers busy or nothing queued.
        obtain ⟨crowd, queued⟩ := outlasting_of_crowd clearing.paces (Nat.le_of_not_lt past)
          fun errand member => Nat.lt_of_lt_of_le last (busy errand member)
        have behind : origin + (round + 1) * bound = origin + round * bound + bound := by
          rw [Nat.succ_mul, Nat.add_assoc]
        rw [behind, queued, Nat.succ_mul]
        by_cases empty : floor.pool.queue = []
        · rw [empty, List.length_nil]
          exact Nat.zero_le _
        · have staffed := staffed_of_quiet quiet clearing.sound empty
          omega

/-- At rest, as long as a call waits for the drain, an event is to come in time. -/
theorem soon (clearing : Clearing config bound origin jobs floor)
    (staff : 0 < config.workers.toNat) (quiet : floor.stride = none)
    (waiting : .draining ∈ floor.closings) :
    ∃ due, floor.nextDue = some due ∧ floor.now < due ∧
      due ≤ origin + rounds config jobs * bound := by
  obtain ⟨errand, busy⟩ : ∃ errand, .busy errand ∈ floor.pool.workers := by
    cases done : floor.pool.processing with
    | nil =>
        exact (returned_of_quiet quiet (drained_of_quiet quiet clearing.shut done) waiting).elim
    | cons errand others =>
        exact ⟨errand, mem_processing_iff.mp (by rw [done]; exact List.mem_cons_self)⟩
  obtain ⟨_, _, event, -, -⟩ :=
    event_of_quiet quiet busy (clearing.paces.underway errand busy)
  obtain ⟨due, first, -⟩ := exists_nextDue busy event
  obtain ⟨soonest, after, here, next⟩ := event_of_nextDue first
  refine ⟨due, first, lt_of_quiet quiet here next, ?_⟩
  apply Nat.le_of_not_lt
  intro late
  have lasting (errand : Errand) (busy : .busy errand ∈ floor.pool.workers) :
      due ≤ errand.live.runOut.took :=
    le_runOut_of_soon clearing.paces quiet
      (fun other same => Nat.le_of_eq (Option.some.inj (first.symm.trans same))) busy
  have none := clearing.cleared_until quiet lasting (rounds config jobs) (by
    intro earlier less
    have sooner := Nat.mul_le_mul_right bound (Nat.le_of_lt less)
    omega)
  have full := le_rounds_mul staff jobs
  have one : 0 < floor.pool.processing.countP (outlasts (origin + rounds config jobs * bound)) := by
    apply List.countP_pos_iff.mpr
    exact ⟨errand, mem_processing_iff.mpr busy,
      decide_eq_true (Nat.lt_of_lt_of_le late (lasting errand busy))⟩
  rw [outlasting] at none
  omega

theorem move (clearing : Clearing config bound origin jobs floor) (move : floor.Move next) :
    Clearing config bound origin jobs next where
  paces := clearing.paces.move move
  sound := move.sound clearing.sound
  shut := move.isOpen_eq.trans clearing.shut
  cleared := by
    intro round begun
    rw [move.now_eq] at begun
    exact Nat.le_trans (move.outlasting_le clearing.paces _) (clearing.cleared round begun)
  inTime := by
    intro waiting
    rw [move.now_eq]
    apply clearing.inTime
    rcases move.working_or_joining with ⟨-, same, -⟩ | ⟨-, still, -⟩
    · exact same ▸ waiting
    · exact still

theorem wait (clearing : Clearing config bound origin jobs floor)
    (staff : 0 < config.workers.toNat) (quiet : floor.stride = none)
    (forth : floor.now ≤ instant) (soon : ∀ due, floor.nextDue = some due → instant ≤ due) :
    Clearing config bound origin jobs (Timeline.moveTo instant floor) where
  paces := clearing.paces.wait forth
  sound := clearing.sound
  shut := clearing.shut
  cleared := by
    intro round begun
    have lasting (errand : Errand) (busy : .busy errand ∈ floor.pool.workers) :
        instant ≤ errand.live.runOut.took := le_runOut_of_soon clearing.paces quiet soon busy
    exact clearing.cleared_until quiet lasting round begun
  inTime := by
    intro waiting
    obtain ⟨due, found, -, within⟩ := clearing.soon staff quiet waiting
    exact Nat.le_trans (soon due found) within

/-- A closed pool takes no jobs in, so every run leads on towards the drain. -/
theorem run (clearing : Clearing config bound origin jobs floor)
    (staff : 0 < config.workers.toNat) (punctual : Punctual floor calls later) :
    Clearing config bound origin jobs later := by
  induction punctual with
  | start => exact clearing
  | move before move ih => exact ih.move move
  | wait before quiet forth soon ih => exact ih.wait staff quiet forth soon
  | submit before job conn ih =>
      simp only [Floor.submit, Pool.submit_of_shut ih.shut]
      exact ih
  | release before count ih =>
      exact ⟨⟨ih.paces.queued, ih.paces.underway⟩, ih.sound, ih.shut, ih.cleared, ih.inTime⟩
  | close before ih =>
      refine ⟨⟨ih.paces.queued, ih.paces.underway⟩, ih.sound.close, rfl, ih.cleared, ?_⟩
      simp only [Floor.close, ih.shut, Bool.false_eq_true, if_false, List.mem_append,
        List.mem_singleton, reduceCtorEq, or_false]
      exact ih.inTime

end Clearing

/-- A call that closes the pool finds the jobs in flight, and the first round begins. -/
theorem clearing_of_close (paces : (paced bound).Governs floor)
    (sound : floor.pool.Sound config 0) :
    Clearing config bound floor.now floor.inFlight floor.close where
  paces := ⟨paces.queued, paces.underway⟩
  sound := sound.close
  shut := rfl
  cleared := by
    intro round begun
    cases round with
    | succ round =>
        have first : floor.now + 0 * bound < floor.now := begun 0 (Nat.succ_pos round)
        omega
    | zero =>
        have slots := sound.slots
        have held := processing_le_held floor.pool
        have some : floor.pool.processing.countP (outlasts floor.now) ≤
            floor.pool.processing.length := List.countP_le_length
        have left : floor.close.outlasting (floor.now + 0 * bound) =
            floor.pool.queue.length + floor.pool.processing.countP (outlasts floor.now) := by
          rw [Nat.zero_mul, Nat.add_zero]
          rfl
        rw [left, inFlight, Pool.inFlight, sound.sized]
        omega
  inTime := fun _ => Nat.le_add_right _ _

/-- The calls that close the pool stay in their places. -/
theorem Punctual.closings_le (punctual : Punctual start calls floor) :
    start.closings.length ≤ floor.closings.length := by
  induction punctual with
  | start => exact Nat.le_refl _
  | move before move ih =>
      rcases move.working_or_joining with ⟨-, same, -⟩ | ⟨-, -, rfl⟩
      · rw [same]
        exact ih
      · rw [List.length_map]
        exact ih
  | wait before quiet forth soon ih => exact ih
  | submit before job conn ih => exact ih
  | release before count ih => exact ih
  | close before ih =>
      rw [Floor.close, List.length_append]
      exact Nat.le_trans ih (Nat.le_add_right _ _)

/-- A call that has not returned waits for the drain. -/
theorem draining_of_waiting {place : Nat} (called : place < floor.closings.length)
    (waiting : floor.closings[place]? ≠ some .returned) : .draining ∈ floor.closings := by
  have found := List.getElem?_eq_getElem called
  cases call : floor.closings[place] with
  | draining => exact call ▸ List.getElem_mem called
  | returned =>
      rw [call] at found
      exact (waiting found).elim

/-- As long as a call that closes the pool waits it is in time, and at rest it waits for an
event that comes in time. -/
theorem close_in_time (staff : 0 < config.workers.toNat) (paces : (paced bound).Governs floor)
    (sound : floor.pool.Sound config 0) (punctual : Punctual floor.close calls later)
    (waiting : later.closings[floor.closings.length]? ≠ some .returned) :
    later.now ≤ floor.now + rounds config floor.inFlight * bound ∧
      (later.stride = none → ∃ due, later.nextDue = some due ∧ later.now < due ∧
        due ≤ floor.now + rounds config floor.inFlight * bound) := by
  have clearing := (clearing_of_close paces sound).run staff punctual
  have called : floor.closings.length < later.closings.length := by
    have kept := punctual.closings_le
    rw [Floor.close, List.length_append] at kept
    exact kept
  have draining := draining_of_waiting called waiting
  exact ⟨clearing.inTime draining, fun quiet => clearing.soon staff quiet draining⟩

/-- Waiting for the call that closes the pool goes on until it returns. -/
theorem close_pursues (staff : 0 < config.workers.toNat) (paces : (paced bound).Governs floor)
    (sound : floor.pool.Sound config 0) :
    Timeline.Pursues (fun later : Floor => later.closings[floor.closings.length]? == some .returned)
      (fun later => Punctual floor.close [] later ∧
        later.now ≤ floor.now + rounds config floor.inFlight * bound) where
  strides := by
    rintro later next ⟨punctual, inTime⟩ strode
    have move := stride_move strode
    exact ⟨punctual.move move, Nat.le_trans (Nat.le_of_eq move.now_eq) inTime⟩
  moves := by
    rintro later due ⟨punctual, inTime⟩ quiet waits found
    obtain ⟨-, soon⟩ := close_in_time staff paces sound punctual (ne_of_beq_false waits)
    obtain ⟨first, same, forth, within⟩ := soon quiet
    obtain rfl := Option.some.inj (found.symm.trans same)
    refine ⟨punctual.wait quiet (Nat.le_of_lt forth) ?_, within⟩
    intro other next
    exact Nat.le_of_eq (Option.some.inj (found.symm.trans next))
  busy := by
    rintro later ⟨punctual, inTime⟩ quiet waits
    obtain ⟨-, soon⟩ := close_in_time staff paces sound punctual (ne_of_beq_false waits)
    obtain ⟨due, found, -, -⟩ := soon quiet
    exact ⟨due, found, restless_of_nextDue found⟩

/-- **Closing the pool is a matter of time.** The processing of a job takes no longer than
the limit of its read, the longer of the limits of its responses, and the limit of its
shutdown together, whatever its peer does. In whatever state a pool is closed: the call
returns, after at most so much time for every round that the jobs in flight fill. It is no
different when other calls are made meanwhile, and in whatever order the workers go on: as
long as the call has not returned this time is not over, and at rest an event is to come
within it. -/
theorem close_prompt {readLimit writeLimit : Nat} {broken : List Nat}
    (started : Floor.start config { handling := .serve readLimit writeLimit, broken } true =
      .ok start)
    (before : Punctual start calls floor) :
    let span := readLimit + max limits.apology writeLimit + limits.close
    let target := floor.now +
      (floor.inFlight + config.workers.toNat - 1) / config.workers.toNat * span
    let returned (later : Floor) : Bool :=
      later.closings[floor.closings.length]? == some .returned
    (∀ conn, ((serveTask readLimit writeLimit).run conn).took ≤ span) ∧
    (returned (Timeline.runUntil returned floor.close) = true ∧
      (Timeline.runUntil returned floor.close).now ≤ target) ∧
    (∀ others later, Punctual floor.close others later → returned later = false →
      later.now ≤ target ∧
      (later.stride = none →
        ∃ due, later.nextDue = some due ∧ later.now < due ∧ due ≤ target)) ∧
    limits.apology = 1000 ∧ limits.close = 500 := by
  intro span target returned
  obtain ⟨staff, winding⟩ := before.run.winding started
  obtain ⟨-, fresh⟩ := start_cases started
  have paces : (paced span).Governs floor := by
    apply before.governed
    · rw [fresh]
      exact .start ..
    · intro submitted member accepted number
      rw [fresh]
      simp only [paced, Errand.waiting, Processor.task]
      split
      · exact ⟨trivial, Nat.zero_le _⟩
      · exact ⟨serveTask_gateless readLimit writeLimit, serveTask_took_le ..⟩
  refine ⟨serveTask_took_le readLimit writeLimit, ?_, ?_, rfl, rfl⟩
  · obtain ⟨⟨-, inTime⟩, joined⟩ := (close_pursues staff paces winding.sound).runUntil ends
      ⟨.start, Nat.le_add_right _ _⟩
    exact ⟨joined, inTime⟩
  · intro others later punctual waits
    exact close_in_time staff paces winding.sound punctual (ne_of_beq_false waits)

/-- Three peers do nothing at all. Two of their jobs fill a round, and the time that the call
may take is what it takes. -/
theorem close_prompt_stalled :
    ∃ start floor calls last,
      Floor.start ⟨2, 3⟩ { handling := .serve 3000 500 } true = .ok start ∧
      Punctual start calls floor ∧ floor.inFlight = 3 ∧
      last = Timeline.runUntil
        (fun later : Floor => later.closings[floor.closings.length]? == some .returned)
        floor.close ∧
      last.closings = [.returned] ∧ last.now ≤ floor.now + 2 * 4500 ∧
      last.now = floor.now + 2 * 4500 := by
  have started : Floor.start ⟨2, 3⟩ { handling := .serve 3000 500 } true = .ok _ := rfl
  have fresh : Punctual { processor := { handling := .serve 3000 500 },
                          pool := Pool.start ⟨2, 3⟩ } [] _ := .start
  have first := fresh.submit { id := 1 } { writes := [.stall], closing := [.stall] }
  have second := first.submit { id := 2 } { writes := [.stall], closing := [.stall] }
  have third := second.submit { id := 3 } { writes := [.stall], closing := [.stall] }
  obtain ⟨-, ⟨-, inTime⟩, -, -, -⟩ := close_prompt started third
  exact ⟨_, _, _, _, started, third, by decide +kernel, rfl, by decide +kernel,
    Nat.le_trans inTime (by decide +kernel), by decide +kernel⟩

end Admission.Floor
