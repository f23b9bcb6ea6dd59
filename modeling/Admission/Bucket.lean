/-! # The token bucket

A bucket holds at most `maxTokens` tokens and gains `rate` of them per second,
continuously. A check first credits what has accrued since the check before it,
then spends a token if there is one. A clock counts in ticks, so a wait of one
token's time can come up a tick short: accrual within `tolerance` of a whole token
counts as a whole one.

The bucket is written once, over the arithmetic its tokens are counted in. The
server counts in binary64; `Rat` is the exact reading of the same bucket.
-/

namespace Admission

/-- Arithmetic that tokens can be counted in. -/
class Amount (α : Type) where
  ofNat : Nat → α
  add : α → α → α
  sub : α → α → α
  mul : α → α → α
  le : α → α → Bool
  /-- A span of nanoseconds, in seconds. -/
  seconds : Nat → α
  /-- One tick of the clock, in seconds. -/
  tick : α
  half : α

namespace Amount

variable {α : Type} [Amount α]

def least (a b : α) : α :=
  if le a b then a else b

def greatest (a b : α) : α :=
  if le b a then a else b

end Amount

def nanosPerSecond : Nat := 1000000000

/-- Binary64. Whole seconds and the nanoseconds below a second are converted
apart. -/
instance : Amount Float where
  ofNat n := n.toUInt64.toFloat
  add a b := a + b
  sub a b := a - b
  mul a b := a * b
  le a b := a ≤ b
  seconds nanos :=
    (nanos / nanosPerSecond).toUInt64.toFloat
      + (nanos % nanosPerSecond).toUInt64.toFloat / 1e9
  tick := 1e-9
  half := 0.5

/-- Exact arithmetic. -/
instance : Amount Rat where
  ofNat n := n
  add a b := a + b
  sub a b := a - b
  mul a b := a * b
  le a b := a ≤ b
  seconds nanos := (nanos : Rat) / nanosPerSecond
  tick := 1 / (nanosPerSecond : Rat)
  half := 1 / 2

/-- A token bucket. Instants are nanoseconds on the bucket's own clock. -/
structure Bucket (α : Type) where
  tokens : α
  /-- The instant up to which accrual has been credited. -/
  credited : Nat
  maxTokens : UInt32
  rate : UInt32
  deriving Repr

namespace Bucket

open Amount

variable {α : Type} [Amount α]

/-- A new bucket is full. -/
def full (maxTokens rate : UInt32) (now : Nat) : Bucket α :=
  { tokens := ofNat maxTokens.toNat, credited := now, maxTokens, rate }

/-- What may be missing from a whole token: one tick of accrual and one more tick
for rounding, but never more than half a token. -/
def tolerance (bucket : Bucket α) : α :=
  least (mul (add (ofNat bucket.rate.toNat) (ofNat 1)) tick) half

/-- The tokens at an instant: what was there and what has accrued since, up to the
limit. -/
def accrued (bucket : Bucket α) (now : Nat) : α :=
  least (add bucket.tokens (mul (seconds (now - bucket.credited)) (ofNat bucket.rate.toNat)))
    (ofNat bucket.maxTokens.toNat)

/-- The bucket with its accrual credited up to an instant. -/
def refill (bucket : Bucket α) (now : Nat) : Bucket α :=
  { bucket with tokens := bucket.accrued now, credited := now }

/-- Whether there is a token, or all of one but the tolerance. -/
def hasToken (bucket : Bucket α) : Bool :=
  le (sub (ofNat 1) bucket.tolerance) bucket.tokens

/-- The bucket with one token less, and never less than none. -/
def spend (bucket : Bucket α) : Bucket α :=
  { bucket with tokens := greatest (sub bucket.tokens (ofNat 1)) (ofNat 0) }

/-- Checks once at an instant: whether the request is allowed, and the bucket
then. -/
def check (bucket : Bucket α) (now : Nat) : Bool × Bucket α :=
  let refilled := bucket.refill now
  if refilled.hasToken then (true, refilled.spend) else (false, refilled)

/-- A check is allowed where the credited bucket has a token, and spends it. -/
theorem check_of_token {bucket : Bucket α} {now : Nat}
    (token : (bucket.refill now).hasToken = true) :
    bucket.check now = (true, (bucket.refill now).spend) := by
  simp only [check, token, if_true]

/-- A check is denied where the credited bucket is short of a token, and only credits. -/
theorem check_of_short {bucket : Bucket α} {now : Nat}
    (short : (bucket.refill now).hasToken = false) :
    bucket.check now = (false, bucket.refill now) := by
  simp only [check, short, Bool.false_eq_true, if_false]

/-- The limiter of a server. A limit of zero tokens means that there is none. -/
def limiter (maxTokens rate : UInt32) (now : Nat) : Option (Bucket α) :=
  if maxTokens = 0 then none else some (full maxTokens rate now)

/-- `count` checks, each `step` nanoseconds after the one before: the answers, the
bucket then, and the instant of the last check. -/
def checks (bucket : Bucket α) (now step : Nat) : (count : Nat) → List Bool × Bucket α × Nat
  | 0 => ([], bucket, now)
  | count + 1 =>
    let (allowed, next) := bucket.check (now + step)
    let (others, last, instant) := next.checks (now + step) step count
    (allowed :: others, last, instant)

end Bucket

/-- A clock that moves when it is told to, in nanoseconds since it was made. -/
structure ManualClock where
  now : Nat := 0
  deriving DecidableEq, Repr

namespace ManualClock

/-- The text of a clock that was moved further than an instant can be. -/
def overflow : String := "overflow when adding duration to instant"

/-- Moves the clock. Instants have signed words of 64 bits for their seconds; a
clock that would pass them stays where it is. -/
def advance (clock : ManualClock) (nanos : Nat) : Except String ManualClock :=
  if (clock.now + nanos) / nanosPerSecond < Nat.pow 2 63 then .ok { now := clock.now + nanos }
  else .error overflow

end ManualClock

end Admission
