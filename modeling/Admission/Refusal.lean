import Admission.Response

/-! # Refusals

A connection that is not taken in is refused for one of three causes, and the
cause fixes both the label under which it is counted and the response its peer
receives.
-/

namespace Admission

/-- Why a connection was not taken in. -/
inductive Refusal where
  | rateLimited
  /-- All in-flight slots of the pool were taken. -/
  | queueFull
  | queueClosed
  deriving DecidableEq, Repr

namespace Refusal

def all : List Refusal := [rateLimited, queueFull, queueClosed]

/-- The label under which refusals of this cause are counted and logged. -/
def label : Refusal → String
  | rateLimited => "rate_limited"
  | queueFull => "busy"
  | queueClosed => "shutting_down"

/-- The response that tells the peer. -/
def response : Refusal → Response
  | rateLimited => .rateLimited
  | queueFull => .busy
  | queueClosed => .shuttingDown

/-- Different causes are counted under different labels. -/
theorem label_injective {first second : Refusal} (same : first.label = second.label) :
    first = second := by
  revert same
  cases first <;> cases second <;> decide

end Refusal

end Admission
