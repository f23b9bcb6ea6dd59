import Admission.Daemon
import Admission.Text.Utf8

/-! # The program

Runs the daemon with the arguments, the environment and the files of this process.
Clients come from the standard input, one a line; the end of the input is the signal to
shut down. What the clients receive follows the log.
-/

namespace Admission.Main

open Daemon

/-- The variables that the daemon looks at. -/
def environment : IO (Keyed String) :=
  variableNames.filterMapM fun name => do
    return (← IO.getEnv name).map fun value => (name, value)

def contents? (name : String) : IO (Option String) := do
  try
    let octets ← IO.FS.readBinFile name
    return some (Text.decode octets.toList)
  catch _ => return none

/-- The files that the daemon may look at. -/
def files (path : String) : IO (Keyed String) :=
  (fileNames path).filterMapM fun name => do
    return (← contents? name).map fun text => (name, text)

/-- The clients on the lines of a stream. -/
partial def clients (input : IO.FS.Stream) : IO (List Client) := do
  let line ← input.getLine
  if line.isEmpty then return []
  return { bytes := line.utf8ByteSize } :: (← clients input)

/-- The machine as this process sees it, and the clients that come to it. -/
def surroundings (arguments : List String) : IO (Machine × List Client) := do
  let environment ← environment
  let machine : Machine := { network := { reachable := true }, environment }
  match Request.ofArguments arguments with
  | .ok (.run given) =>
    match pathOf given (environment.find? pathVariable) with
    | .ok path => return ({ machine with files := ← files path }, ← clients (← IO.getStdin))
    | .error _ => return (machine, [])
  | _ => return (machine, [])

end Admission.Main

def main (arguments : List String) : IO UInt32 := do
  let (machine, clients) ← Admission.Main.surroundings arguments
  let run := Admission.Daemon.run machine arguments clients
  IO.print run.output
  run.log.forM fun line => IO.println (line.written run.format)
  run.answers.forM IO.println
  IO.eprint run.complaint
  return run.code.toUInt32
