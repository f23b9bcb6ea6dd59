/-! # Time that moves from event to event

A timeline is a state with a clock. At an instant it may be able to stride: to do
something that takes no time. It knows when its next event is due. `settle` takes
every stride there is; `elapse` lets time pass, but never past an event; and
`runUntil` lets it pass until something holds.

The loops are bounded by `work`, which is to fall with every stride; with it they
end on their own.
-/

namespace Admission

/-- A state with a clock, whose activity at each instant comes to an end. -/
class Timeline (σ : Type) where
  now : σ → Nat
  moveTo : Nat → σ → σ
  /-- Something that can happen at this instant, if anything can. -/
  stride : σ → Option σ
  /-- When the next event is due, if one is to come. -/
  nextDue : σ → Option Nat
  /-- A bound on the strides that are still to come. -/
  work : σ → Nat

namespace Timeline

variable {σ : Type} [Timeline σ]

/-- Strides, as many as there are and at most `bound`. -/
def settleWithin : (bound : Nat) → σ → σ
  | 0, state => state
  | bound + 1, state =>
    match stride state with
    | some next => settleWithin bound next
    | none => state

/-- Everything that can happen at this instant. -/
def settle (state : σ) : σ :=
  settleWithin (work state) state

/-- Goes to an instant by way of at most `bound` events. -/
def elapseWithin : (bound : Nat) → (instant : Nat) → σ → σ
  | 0, instant, state => moveTo instant (settle state)
  | bound + 1, instant, state =>
    let state := settle state
    match nextDue state with
    | none => moveTo instant state
    | some due =>
      if due ≤ instant then elapseWithin bound instant (moveTo due state)
      else moveTo instant state

/-- Lets time pass until an instant; everything due by then happens. -/
def elapse (state : σ) (instant : Nat) : σ :=
  settle (elapseWithin (work state + 1) instant state)

/-- Goes from event to event, at most `bound` of them, until something holds. -/
def runWithin (holds : σ → Bool) : (bound : Nat) → σ → σ
  | 0, state => settle state
  | bound + 1, state =>
    let state := settle state
    if holds state then state
    else
      match nextDue state with
      | none => state
      | some due => runWithin holds bound (moveTo due state)

/-- Lets time pass until something holds, or for ever if it never does. -/
def runUntil (holds : σ → Bool) (state : σ) : σ :=
  runWithin holds (work state + 1) state

end Timeline

end Admission
