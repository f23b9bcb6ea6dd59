import Admission.Pool
import Admission.Text.Characters

/-! # The settings of a server

Plain values, read once. `validate` reports the first of four conditions that
does not hold: the host, the workers, the timeouts, the size of the pool.
-/

namespace Admission.Server

/-- The settings of a server. Timeouts are in nanoseconds. -/
structure Config where
  host : String := "127.0.0.1"
  /-- Zero lets the system choose. -/
  port : UInt16 := 8080
  workers : UInt64 := 8
  queueSize : UInt64 := 64
  /-- Tokens gained per second. -/
  tokenRate : UInt32 := 100
  /-- The most tokens there can be; zero turns the limiter off. -/
  tokenLimit : UInt32 := 200
  readTimeout : Nat := 3000000000
  writeTimeout : Nat := 2000000000
  deriving DecidableEq, Repr

namespace Config

def address (config : Config) : String :=
  config.host ++ ":" ++ toString config.port.toNat

def pool (config : Config) : Pool.Config :=
  { workers := config.workers, queueSize := config.queueSize }

def isLimited (config : Config) : Bool :=
  config.tokenLimit != 0

def isBlankHost (host : String) : Bool :=
  (Text.trim host.toList).isEmpty

/-- The first condition that does not hold, as a fault. -/
def validate (config : Config) : Except ServerFault Unit :=
  if isBlankHost config.host then .error (.config "host must not be empty")
  else if config.workers = 0 then .error (.config "workers must be at least 1")
  else if config.readTimeout = 0 ∨ config.writeTimeout = 0 then
    .error (.config "read and write timeouts must be non-zero")
  else
    match config.pool.validate with
    | .ok () => .ok ()
    | .error (.config text) => .error (.config text)
    | .error fault => .error (.app fault)

/-- A span of nanoseconds in whole milliseconds; a begun one counts as whole. -/
def millis (nanos : Nat) : Nat :=
  (nanos + 999999) / 1000000

end Config

end Admission.Server
