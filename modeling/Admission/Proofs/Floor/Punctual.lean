import Admission.Proofs.Floor.Rest
import Admission.Proofs.Floor.Runs

/-! # Runs in which time keeps to the events

In a run of the floor time may be anything. In a punctual run (`Admission.Floor.Punctual`)
it passes only when the floor is at rest, it never goes back, and it never passes the next
event. The order of the moves stays open, and so does what is asked for in between, and
when. The floor's own way to let time pass is of this kind
(`Admission.Floor.Punctual.elapse`).

A regime (`Admission.Floor.Regime`) is what a job keeps to, in the queue and then under way.
It governs the floor all along a punctual run if the jobs that are submitted keep to it
(`Admission.Floor.Punctual.governed`).
-/

namespace Admission.Floor

/-- What a floor may be asked for. -/
inductive Call where
  | submit (submitted : Submitted)
  | release (count : Nat)
  | close
  deriving DecidableEq, Repr

namespace Call

def submitted : Call → Option Submitted
  | submit submitted => some submitted
  | _ => none

/-- The permits that the call puts at the gate. -/
def permits : Call → Nat
  | release count => count
  | _ => 0

end Call

/-- The jobs that were submitted, whether or not they were taken in. -/
def handedIn (calls : List Call) : List Submitted :=
  calls.filterMap Call.submitted

/-- How many of the submitted jobs were taken in. -/
def takenIn (calls : List Call) : Nat :=
  (handedIn calls).countP Submitted.accepted

/-- How many permits were put at the gate. -/
def granted (calls : List Call) : Nat :=
  (calls.map Call.permits).sum

/-- A run in which time passes at rest only, and not past an event. -/
inductive Punctual (start : Floor) : List Call → Floor → Prop where
  | start : Punctual start [] start
  | move {calls : List Call} {floor next : Floor} (before : Punctual start calls floor)
      (move : floor.Move next) : Punctual start calls next
  | wait {calls : List Call} {floor : Floor} {instant : Nat}
      (before : Punctual start calls floor) (quiet : floor.stride = none)
      (forth : floor.now ≤ instant) (soon : ∀ due, floor.nextDue = some due → instant ≤ due) :
      Punctual start calls (Timeline.moveTo instant floor)
  | submit {calls : List Call} {floor : Floor} (before : Punctual start calls floor) (job : Job)
      (conn : Connection) :
      Punctual start
        (calls ++
          [.submit ⟨job, conn, (floor.submit (handedIn calls).length job conn).1.isAccepted⟩])
        (floor.submit (handedIn calls).length job conn).2
  | release {calls : List Call} {floor : Floor} (before : Punctual start calls floor)
      (count : Nat) : Punctual start (calls ++ [.release count]) (floor.release count)
  | close {calls : List Call} {floor : Floor} (before : Punctual start calls floor) :
      Punctual start (calls ++ [.close]) floor.close

/-- A job that is submitted is handed in behind the others. -/
theorem handedIn_submit (calls : List Call) (submitted : Submitted) :
    handedIn (calls ++ [.submit submitted]) = handedIn calls ++ [submitted] := by
  rw [handedIn, List.filterMap_append]
  rfl

theorem handedIn_other {call : Call} (other : call.submitted = none) (calls : List Call) :
    handedIn (calls ++ [call]) = handedIn calls := by
  have nothing : [call].filterMap Call.submitted = [] := by
    rw [List.filterMap_cons_none other, List.filterMap_nil]
  rw [handedIn, List.filterMap_append, nothing, List.append_nil, handedIn]

/-- One more call puts its permits at the gate. -/
theorem granted_concat (calls : List Call) (call : Call) :
    granted (calls ++ [call]) = granted calls + call.permits := by
  simp only [granted, List.map_append, List.map_cons, List.map_nil, List.sum_append,
    List.sum_cons, List.sum_nil, Nat.add_zero]

/-- The taken-in jobs are as many as there are intakes. -/
theorem intakes_length (submissions : List Submitted) :
    (intakes submissions).length = submissions.countP Submitted.accepted := by
  have numbered : submissions.zipIdx.map Prod.fst = submissions := List.zipIdx_map_fst 0 _
  rw [intakes, List.length_map, ← List.countP_eq_length_filter]
  nth_rewrite 2 [← numbered]
  rw [List.countP_map]
  rfl

/-- What a job keeps to, in the queue and, as time passes, under way. -/
structure Regime where
  waits : Errand → Prop
  works : (now : Nat) → Errand → Prop
  begun : ∀ {errand : Errand} (now : Nat), waits errand → works now (errand.begun now)
  goneOn : ∀ {errand : Errand} {now due : Nat} {after : Live Outcome}, works now errand →
    errand.live.prospect = .event due after → works now (errand.goneOn after)
  letThrough : ∀ {errand : Errand} {now : Nat}, works now errand → errand.live.atGate = true →
    works now (errand.goneOn (errand.live.letThrough now))
  later : ∀ {errand : Errand} {now instant : Nat}, works now errand → now ≤ instant →
    works instant errand

/-- Every job of the floor keeps to the regime. -/
structure Regime.Governs (regime : Regime) (floor : Floor) : Prop where
  queued : ∀ errand ∈ floor.pool.queue, regime.waits errand
  underway : ∀ errand, .busy errand ∈ floor.pool.workers → regime.works floor.now errand

namespace Regime.Governs

variable {regime : Regime} {floor next : Floor}

theorem start (regime : Regime) (processor : Processor) (size : Pool.Config) :
    regime.Governs { processor, pool := Pool.start size } where
  queued := nofun
  underway := fun errand busy => by cases List.eq_of_mem_replicate busy

/-- When one worker changes, all jobs under way keep to the regime if its new one does. -/
theorem replaced (governs : regime.Governs floor) {before behind : List (Worker Errand)}
    {old new : Worker Errand} (workers : floor.pool.workers = before ++ old :: behind)
    (fine : ∀ errand, new = .busy errand → regime.works floor.now errand) (errand : Errand)
    (busy : .busy errand ∈ before ++ new :: behind) : regime.works floor.now errand := by
  rcases mem_replaced busy with here | earlier
  · exact fine errand here.symm
  · rw [← workers] at earlier
    exact governs.underway errand earlier

theorem busy (governs : regime.Governs floor) {before behind : List (Worker Errand)}
    {errand : Errand} (workers : floor.pool.workers = before ++ .busy errand :: behind) :
    regime.works floor.now errand := by
  apply governs.underway
  rw [workers]
  exact List.mem_append_cons_self

/-- A move keeps all jobs to the regime. -/
theorem move (governs : regime.Governs floor) (move : floor.Move next) : regime.Governs next := by
  have queued := governs.queued
  cases move with
  | begin workers head =>
      rw [head] at queued
      refine ⟨fun errand member => queued errand (List.mem_cons_of_mem _ member),
        governs.replaced workers fun errand same => ?_⟩
      obtain rfl := Worker.busy.inj same
      exact regime.begun floor.now (queued _ List.mem_cons_self)
  | goOn workers event reached =>
      refine ⟨queued, governs.replaced workers fun errand same => ?_⟩
      obtain rfl := Worker.busy.inj same
      exact regime.goneOn (governs.busy workers) event
  | @pass before behind errand permits workers waits granted =>
      refine ⟨queued, governs.replaced workers fun other same => ?_⟩
      obtain rfl := Worker.busy.inj same
      exact regime.letThrough (governs.busy workers) waits
  | finish workers finished => exact ⟨queued, governs.replaced workers nofun⟩
  | release workers => exact ⟨queued, governs.replaced workers nofun⟩
  | leave workers empty shut => exact ⟨queued, governs.replaced workers nofun⟩
  | join waiting drained => exact ⟨queued, governs.underway⟩

/-- Time that passes keeps all jobs to the regime. -/
theorem wait (governs : regime.Governs floor) {instant : Nat} (forth : floor.now ≤ instant) :
    regime.Governs (Timeline.moveTo instant floor) where
  queued := governs.queued
  underway := fun errand busy => regime.later (governs.underway errand busy) forth

/-- A job that is taken in has to keep to the regime from the start. -/
theorem submit (governs : regime.Governs floor) {number : Nat} {job : Job} {conn : Connection}
    (fit : (floor.submit number job conn).1.isAccepted = true →
      regime.waits (.waiting number job (floor.processor.task job.id) conn)) :
    regime.Governs (floor.submit number job conn).2 := by
  rcases floor.submit_cases number job conn with ⟨pool, submitted, accepted, same⟩ | ⟨-, same⟩
  · rw [same]
    obtain rfl := Pool.eq_of_accepted submitted
    refine ⟨?_, governs.underway⟩
    intro errand member
    rcases List.mem_append.mp member with earlier | last
    · exact governs.queued errand earlier
    · obtain rfl := List.mem_singleton.mp last
      exact fit accepted
  · rw [same]
    exact governs

end Regime.Governs

theorem submit_processor (floor : Floor) (number : Nat) (job : Job) (conn : Connection) :
    (floor.submit number job conn).2.processor = floor.processor := rfl

theorem submit_isOpen (floor : Floor) (number : Nat) (job : Job) (conn : Connection) :
    (floor.submit number job conn).2.pool.isOpen = floor.pool.isOpen := by
  rcases floor.submit_cases number job conn with ⟨pool, submitted, -, same⟩ | ⟨-, same⟩
  · rw [same]
    obtain rfl := Pool.eq_of_accepted submitted
    rfl
  · rw [same]

/-- A submitted job is not under way yet. -/
theorem submit_processing (floor : Floor) (number : Nat) (job : Job) (conn : Connection) :
    (floor.submit number job conn).2.pool.processing = floor.pool.processing := by
  rcases floor.submit_cases number job conn with ⟨pool, submitted, -, same⟩ | ⟨-, same⟩
  · rw [same]
    obtain rfl := Pool.eq_of_accepted submitted
    rfl
  · rw [same]

theorem start_processing (config : Pool.Config) :
    (Pool.start config : Pool Errand).processing = [] := by
  apply List.filterMap_eq_nil_iff.mpr
  intro worker member
  rw [List.eq_of_mem_replicate member]
  rfl

/-- A move neither opens nor closes the pool. -/
theorem Move.isOpen_eq {floor next : Floor} (move : floor.Move next) :
    next.pool.isOpen = floor.pool.isOpen := by
  rcases move.working_or_joining with ⟨-, -, same⟩ | ⟨-, -, rfl⟩
  · exact same
  · rfl

namespace Punctual

variable {start floor : Floor} {calls : List Call}

/-- A punctual run is a run. -/
theorem run (punctual : Punctual start calls floor) : Run start (handedIn calls) floor := by
  induction punctual with
  | start => exact .start
  | move before move ih => exact ih.step (.move move)
  | @wait calls floor instant before quiet forth soon ih => exact ih.step (.wait instant)
  | submit before job conn ih =>
      rw [handedIn_submit]
      exact ih.submit job conn
  | release before count ih =>
      rw [handedIn_other rfl]
      exact ih.step (.release count)
  | close before ih =>
      rw [handedIn_other rfl]
      exact ih.step .close

/-- The processor is the same all along a run. -/
theorem processor_eq (punctual : Punctual start calls floor) :
    floor.processor = start.processor := by
  induction punctual with
  | start => rfl
  | move before move ih => exact move.processor_eq.trans ih
  | wait before quiet forth soon ih => exact ih
  | submit before job conn ih => exact (submit_processor ..).trans ih
  | release before count ih => exact ih
  | close before ih => exact ih

/-- The pool is open as long as no call closed it. -/
theorem isOpen_iff (punctual : Punctual start calls floor)
    (opened : start.pool.isOpen = true) : floor.pool.isOpen = true ↔ .close ∉ calls := by
  induction punctual with
  | start => simp only [opened, List.not_mem_nil, not_false_iff]
  | move before move ih => rw [move.isOpen_eq, ih]
  | wait before quiet forth soon ih => exact ih
  | submit before job conn ih =>
      rw [submit_isOpen, ih, List.mem_append, List.mem_singleton]
      simp only [reduceCtorEq, or_false]
  | @release calls floor before count ih =>
      rw [List.mem_append, List.mem_singleton]
      simp only [reduceCtorEq, or_false]
      exact ih
  | close before ih =>
      simp only [Floor.close, Pool.close, Bool.false_eq_true, List.mem_append, List.mem_singleton,
        or_true, not_true_eq_false]

/-- The jobs that were submitted keep to the regime, and so does what becomes of them. -/
theorem governed (punctual : Punctual start calls floor) {regime : Regime}
    (governs : regime.Governs start)
    (fit : ∀ submitted ∈ handedIn calls, submitted.accepted = true → ∀ number,
      regime.waits (.waiting number submitted.job (start.processor.task submitted.job.id)
        submitted.conn)) :
    regime.Governs floor := by
  induction punctual with
  | start => exact governs
  | move before move ih => exact (ih fit).move move
  | wait before quiet forth soon ih => exact (ih fit).wait forth
  | submit before job conn ih =>
      simp only [handedIn_submit, List.forall_mem_append, List.forall_mem_singleton] at fit
      obtain ⟨others, last⟩ := fit
      apply (ih others).submit
      rw [before.processor_eq]
      intro accepted
      exact last accepted _
  | release before count ih =>
      rw [handedIn_other rfl] at fit
      exact ⟨(ih fit).queued, (ih fit).underway⟩
  | close before ih =>
      rw [handedIn_other rfl] at fit
      exact ⟨(ih fit).queued, (ih fit).underway⟩

/-- A floor that comes to rest goes on punctually. -/
theorem settle (punctual : Punctual start calls floor) :
    Punctual start calls (Timeline.settle floor) :=
  Timeline.settleWithin_of_strides (fun before strode => before.move (stride_move strode)) _
    punctual

/-- The floor goes to an instant by way of its events, one by one. -/
theorem elapseWithin (punctual : Punctual start calls floor) {bound instant : Nat}
    (enough : (Timeline.settle floor).work < bound) (forth : floor.now ≤ instant) :
    Punctual start calls (Timeline.elapseWithin bound instant floor) := by
  induction bound generalizing floor with
  | zero => omega
  | succ bound ih =>
      have settled := punctual.settle
      have quiet : (Timeline.settle floor).stride = none := ends.settle_quiet floor
      have onward : (Timeline.settle floor).now ≤ instant := (now_settle floor).symm ▸ forth
      rw [Timeline.elapseWithin]
      split
      next none =>
        apply settled.wait quiet onward
        intro due some
        cases none.symm.trans some
      next due soon =>
        have first (other : Nat) (same : (Timeline.settle floor).nextDue = some other) :
            due = other := Option.some.inj (soon.symm.trans same)
        obtain ⟨errand, after, busy, event⟩ := event_of_nextDue soon
        split
        next reached =>
          have later := settled.wait quiet (Nat.le_of_lt (lt_of_quiet quiet busy event))
            fun other same => Nat.le_of_eq (first other same)
          -- The event leaves less work, so the bound covers what is left.
          have less := ends.work_settle_lt (restless_of_nextDue soon)
          rw [ends.moves] at less
          exact ih later (Nat.lt_of_lt_of_le less (Nat.le_of_lt_succ enough)) reached
        next early =>
          apply settled.wait quiet onward
          intro other same
          rw [← first other same]
          exact Nat.le_of_not_le early

/-- The way in which the floor lets time pass is punctual. -/
theorem elapse (punctual : Punctual start calls floor) {instant : Nat}
    (forth : floor.now ≤ instant) : Punctual start calls (Timeline.elapse floor instant) := by
  have fewer := ends.work_settleWithin_le floor.work floor
  exact (punctual.elapseWithin (Nat.lt_succ_of_le fewer) forth).settle

end Punctual

end Admission.Floor
