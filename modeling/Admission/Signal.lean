/-! # The shutdown signal

One sender, and any number of tokens that see whether shutdown was requested. A
token can be waited on: the wait is over when shutdown has been requested or the
sender is gone.

A waiter first looks at the value, and only then sleeps until the value is written
again or the sender goes. `version` counts the writes, and a sleeping waiter
remembers the version it has seen.
-/

namespace Admission

/-- A wait in progress or over. -/
inductive Waiter where
  | fresh
  /-- It sleeps until a version other than this one. -/
  | asleep (seen : Nat)
  | done
  deriving DecidableEq, Repr

/-- The signal with its tokens and the waits on them. -/
structure Signal where
  raised : Bool := false
  /-- How often the value was written. -/
  version : Nat := 0
  hasSender : Bool := true
  /-- How many tokens there are; they are numbered from zero. -/
  tokens : Nat := 1
  /-- The waits that run by themselves, the oldest first. -/
  waiters : List Waiter := []
  deriving DecidableEq, Repr

namespace Signal

/-- A waiter that looks at the value: it is done, or sleeps. -/
def look (signal : Signal) : Waiter :=
  if signal.raised then .done
  else if !signal.hasSender then .done
  else .asleep signal.version

/-- What a waiter can do at once. -/
def poll (signal : Signal) : Waiter → Waiter
  | .done => .done
  | .fresh => signal.look
  | .asleep seen =>
    if signal.version ≠ seen then signal.look
    else if !signal.hasSender then .done
    else .asleep seen

def settle (signal : Signal) : Signal :=
  { signal with waiters := signal.waiters.map signal.poll }

/-- Another token of the sender; none without a sender. -/
def subscribe (signal : Signal) : Option (Nat × Signal) :=
  if signal.hasSender then some (signal.tokens, { signal with tokens := signal.tokens + 1 })
  else none

/-- A copy of a token. -/
def copyToken (signal : Signal) : Nat × Signal :=
  (signal.tokens, { signal with tokens := signal.tokens + 1 })

/-- What a token shows: whether shutdown was requested. The tokens share the value. -/
def isShutdown? (signal : Signal) (token : Nat) : Option Bool :=
  if token < signal.tokens then some signal.raised else none

/-- Requests shutdown, if there is a sender to do it. -/
def shutdown (signal : Signal) : Bool × Signal :=
  if signal.hasSender then
    (true, { signal with raised := true, version := signal.version + 1 })
  else (false, signal)

/-- Drops the sender, if there is one. The value stays. -/
def dropSender (signal : Signal) : Bool × Signal :=
  (signal.hasSender, { signal with hasSender := false })

/-- Whether a wait that begins now is over at once. -/
def waitReturns (signal : Signal) : Bool :=
  signal.poll .fresh == .done

/-- A wait that runs by itself. -/
def spawnWait (signal : Signal) : Signal :=
  { signal with waiters := signal.waiters ++ [.fresh] }

end Signal

end Admission
