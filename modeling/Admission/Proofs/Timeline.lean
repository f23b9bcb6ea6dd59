import Admission.Timeline

/-! # What the loops of a timeline keep, and where they end

The loops of a timeline are made of strides and of moves to other instants. What these
two keep, the loops keep as well, however far they go (`Admission.Timeline.Keeps`).

Where every stride leaves less work (`Admission.Timeline.Ends`), the bounds of the loops
are never met: a settled state has no stride left, and a loop that waits for something
goes on until it holds, as long as some event is due before that
(`Admission.Timeline.Pursues`).
-/

namespace Admission.Timeline

variable {σ : Type} [Timeline σ]

/-- What every stride keeps holds at rest. -/
theorem settleWithin_of_strides {holds : σ → Prop}
    (strides : ∀ {state next : σ}, holds state → stride state = some next → holds next)
    (bound : Nat) {state : σ} (now : holds state) : holds (settleWithin bound state) := by
  induction bound generalizing state with
  | zero => exact now
  | succ bound ih =>
      rw [settleWithin]
      split
      next next strode => exact ih (strides now strode)
      next => exact now

/-- Neither a stride nor the passing of time puts an end to it. -/
structure Keeps (holds : σ → Prop) : Prop where
  strides : ∀ {state next : σ}, holds state → stride state = some next → holds next
  moves : ∀ {state : σ} (instant : Nat), holds state → holds (moveTo instant state)

namespace Keeps

variable {holds : σ → Prop} {state : σ}

theorem settle (keeps : Keeps holds) (now : holds state) : holds (settle state) :=
  settleWithin_of_strides keeps.strides _ now

/-- What is kept holds after some of the events until an instant. -/
theorem elapseWithin (keeps : Keeps holds) (bound instant : Nat) (now : holds state) :
    holds (elapseWithin bound instant state) := by
  induction bound generalizing state with
  | zero => exact keeps.moves instant (keeps.settle now)
  | succ bound ih =>
      have settled := keeps.settle now
      rw [Timeline.elapseWithin]
      split
      next => exact keeps.moves instant settled
      next due _ =>
        split
        next => exact ih (keeps.moves due settled)
        next => exact keeps.moves instant settled

theorem elapse (keeps : Keeps holds) (instant : Nat) (now : holds state) :
    holds (elapse state instant) :=
  keeps.settle (keeps.elapseWithin _ instant now)

theorem runWithin (keeps : Keeps holds) (until? : σ → Bool) (bound : Nat) (now : holds state) :
    holds (runWithin until? bound state) := by
  induction bound generalizing state with
  | zero => exact keeps.settle now
  | succ bound ih =>
      have settled := keeps.settle now
      rw [Timeline.runWithin]
      split
      next => exact settled
      next =>
        split
        next => exact settled
        next due _ => exact ih (keeps.moves due settled)

/-- What is kept holds when that is so. -/
theorem runUntil (keeps : Keeps holds) (until? : σ → Bool) (now : holds state) :
    holds (runUntil until? state) :=
  keeps.runWithin until? _ now

end Keeps

/-- Strides come to an end: each leaves less work, and time leaves as much. -/
structure Ends (σ : Type) [Timeline σ] : Prop where
  strides : ∀ {state next : σ}, stride state = some next → work next < work state
  moves : ∀ (instant : Nat) (state : σ), work (moveTo instant state) = work state

namespace Ends

variable {state : σ}

/-- Strides make no work. -/
theorem work_settleWithin_le (ends : Ends σ) (bound : Nat) (state : σ) :
    work (settleWithin bound state) ≤ work state := by
  induction bound generalizing state with
  | zero => exact Nat.le_refl _
  | succ bound ih =>
      rw [settleWithin]
      split
      next next strode =>
        have less := ends.strides strode
        have rest := ih next
        omega
      next => exact Nat.le_refl _

/-- With a bound that is no less than the work, no stride is left. -/
theorem settleWithin_quiet (ends : Ends σ) {bound : Nat} (enough : work state ≤ bound) :
    stride (settleWithin bound state) = none := by
  induction bound generalizing state with
  | zero =>
      rw [settleWithin]
      cases strode : stride state with
      | none => rfl
      | some next =>
          have less := ends.strides strode
          omega
  | succ bound ih =>
      rw [settleWithin]
      split
      next next strode =>
        have less := ends.strides strode
        exact ih (by omega)
      next quiet => exact quiet

/-- A settled state has nothing left to do at its instant. -/
theorem settle_quiet (ends : Ends σ) (state : σ) : stride (settle state) = none :=
  ends.settleWithin_quiet (Nat.le_refl _)

/-- Coming to rest leaves less work, unless the state was at rest. -/
theorem work_settle_lt (ends : Ends σ) (restless : stride state ≠ none) :
    work (settle state) < work state := by
  obtain ⟨next, strode⟩ := Option.ne_none_iff_exists'.mp restless
  have less := ends.strides strode
  have rest := ends.work_settleWithin_le (work state - 1) next
  have first : settle state = settleWithin (work state - 1) next := by
    rw [settle]
    obtain ⟨bound, enough⟩ : ∃ bound, work state = bound + 1 := ⟨work state - 1, by omega⟩
    rw [enough, settleWithin, strode, Nat.add_sub_cancel]
  rw [first]
  omega

end Ends

/-- Strides keep it, and so does time as long as something is still waited for; and then
an event is to come at which the state can do something. -/
structure Pursues (until? : σ → Bool) (holds : σ → Prop) : Prop where
  strides : ∀ {state next : σ}, holds state → stride state = some next → holds next
  moves : ∀ {state : σ} {due : Nat}, holds state → stride state = none →
    until? state = false → nextDue state = some due → holds (moveTo due state)
  busy : ∀ {state : σ}, holds state → stride state = none → until? state = false →
    ∃ due, nextDue state = some due ∧ stride (moveTo due state) ≠ none

namespace Pursues

variable {until? : σ → Bool} {holds : σ → Prop} {state : σ}

/-- The bound needs to cover the work that is left at this instant's end: every later
instant has a stride of its own. -/
theorem runWithin (pursues : Pursues until? holds) (ends : Ends σ) {bound : Nat}
    (enough : work (settle state) < bound) (now : holds state) :
    holds (runWithin until? bound state) ∧ until? (runWithin until? bound state) = true := by
  induction bound generalizing state with
  | zero => omega
  | succ bound ih =>
      have settled : holds (settle state) := settleWithin_of_strides pursues.strides _ now
      have quiet := ends.settle_quiet state
      rw [Timeline.runWithin]
      split
      next reached => exact ⟨settled, reached⟩
      next waiting =>
        have waits : until? (settle state) = false := eq_false_of_ne_true waiting
        obtain ⟨due, event, restless⟩ := pursues.busy settled quiet waits
        rw [event]
        have later := pursues.moves settled quiet waits event
        have less := ends.work_settle_lt restless
        rw [ends.moves] at less
        exact ih (by omega) later

/-- Waiting for something ends with it, and what is kept holds then. -/
theorem runUntil (pursues : Pursues until? holds) (ends : Ends σ) (now : holds state) :
    holds (runUntil until? state) ∧ until? (runUntil until? state) = true := by
  apply pursues.runWithin ends _ now
  have settled := ends.work_settleWithin_le (work state) state
  rw [settle]
  omega

end Pursues

end Admission.Timeline
