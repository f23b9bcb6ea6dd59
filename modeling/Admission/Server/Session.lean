import Admission.Network
import Admission.Server

/-! # Clients at a server

A session is a server that accepts connections, with its clients on the other side
of a network. Clients are numbered in the order in which they came through.
-/

namespace Admission

/-- What a client does after it is connected. -/
structure Client where
  /-- How many bytes it sends. -/
  bytes : Nat := 0
  /-- Whether it then ends its stream, or stays silent. -/
  ends : Bool := false
  deriving DecidableEq, Repr

namespace Client

/-- The connection that the server has with a client. -/
def connection (client : Client) : Connection :=
  let sent : Script ReadAct := if client.bytes = 0 then [] else [.act (.deliver client.bytes)]
  let ending : Script ReadAct := if client.ends then [.act (.deliver 0)] else []
  { reads := sent ++ ending }

end Client

namespace Server

variable {α : Type} [Amount α]

/-- Binds a server where other listeners may be in the way. -/
def bindOn (network : Network) (config : Config) (processor : Processor) (counting : Bool)
    (resolve : Resolver) : Except ServerFault (Server α) := do
  config.validate
  let _ ← (network.listen config.port).mapError (ServerFault.bind config.address)
  bind config processor counting resolve

def listens (server : Server α) : Bool :=
  server.hasListener || server.accepting

/-- What became of a connection that is done with. -/
def recordOf (server : Server α) (number : Nat) : Option Record :=
  let ended := server.floor.endings.find? fun ending => ending.number = number
  let refused := server.turnedAway.find? fun away => away.number = number
  (ended.map Ending.record).orElse fun _ => refused.map TurnedAway.record

def closesAreOver (server : Server α) : Bool :=
  server.closes.all (· == .returned)

end Server

/-- A server with its clients. -/
structure Session (α : Type) where
  network : Network
  server : Server α
  /-- The number that the server gave the connection of each client. -/
  numbers : List Nat := []

namespace Session

variable {α : Type} [Amount α]

/-- A session with a server whose accept loop runs. -/
def start (network : Network) (server : Server α) : Session α :=
  { network, server := Timeline.settle server.serve }

/-- A client connects, when an accept loop has time for it. -/
def connect (session : Session α) (client : Client) : Except IoFault (Session α) :=
  let ready (server : Server α) : Bool :=
    server.serves.contains .listening || !server.accepting
  let server := Timeline.runUntil ready session.server
  match session.network.connect server.accepting, server.arrive client.connection none with
  | .error fault, _ => .error fault
  | .ok (), none => .error { kind := .connectionRefused }
  | .ok (), some after =>
    .ok { session with
      server := Timeline.settle after
      numbers := session.numbers ++ [server.dispatched] }

/-- What a client receives until the end of its stream, and the session then. -/
def read (session : Session α) (client : Nat) : Option (String × Session α) :=
  session.numbers[client]?.map fun number =>
    let server :=
      Timeline.runUntil (fun server => (server.recordOf number).isSome) session.server
    (((server.recordOf number).map Record.text).getD "", { session with server })

def awaitInFlight (session : Session α) (count : Nat) : Session α :=
  { session with
    server := Timeline.runUntil (fun server => server.floor.inFlight == count) session.server }

def release (session : Session α) (count : Nat) : Session α :=
  let server := session.server
  { session with server := Timeline.settle { server with floor := server.floor.release count } }

/-- One more call that accepts connections, and how it ended, if it did. -/
def serveAgain (session : Session α) : Option ServeCall × Session α :=
  let server := Timeline.settle session.server.serve
  (server.serves.getLast?, { session with server })

/-- Tries to bind another server to an address where this one may be listening. -/
def bindAgain (session : Session α) (address : String) : Except ServerFault Unit :=
  if session.server.listens then .error (.bind address .addressTaken) else .ok ()

/-- Closes the server and waits until it is closed. -/
def close (session : Session α) : Session α :=
  { session with
    server := Timeline.runUntil Server.closesAreOver (Timeline.settle session.server.close) }

end Session

end Admission
