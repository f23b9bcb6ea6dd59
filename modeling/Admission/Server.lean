import Admission.Bucket
import Admission.Floor
import Admission.Metrics
import Admission.Server.Config

/-! # The server

A server decides about each connection that arrives: the limiter may deny it, the
pool may have no slot or be closed, and otherwise the pool takes it in. A refused
connection gets its response at once, under a short limit; a connection that is
taken in costs the dispatcher no time.

The server lives through three stages, with no way back: running, closing, closed.
`serve` owns the listener until shutdown is signalled; `close` signals it, waits
until no accept loop is left, closes the pool and waits for the drain. Calls of
both that are in progress are part of the state, so that every order of their
steps can be followed.
-/

namespace Admission

/-- The stages of a server's life. -/
inductive Lifecycle where
  | running
  | closing
  | closed
  deriving DecidableEq, Repr

/-- A call that accepts connections. -/
inductive ServeCall where
  /-- The accept loop owns the listener and waits for a connection. -/
  | listening
  /-- The accept loop waits until a refused connection has its response. -/
  | refusing (number : Nat)
  | returned
  /-- Another call owned the listener. -/
  | rejected
  /-- The call was cancelled. -/
  | cancelled
  deriving DecidableEq, Repr

namespace ServeCall

def isLoop : ServeCall → Bool
  | listening => true
  | refusing _ => true
  | _ => false

def isOver (call : ServeCall) : Bool :=
  !call.isLoop

end ServeCall

/-- A call that closes the server. -/
inductive CloseCall where
  /-- It waits until no accept loop owns the listener. -/
  | awaitingListener
  /-- It waits until the pool is drained. -/
  | draining
  | returned
  deriving DecidableEq, Repr

/-- A refused connection that is being answered. -/
structure Rejection where
  number : Nat
  cause : Refusal
  live : Live Bool

/-- A refused connection that is done with. -/
structure TurnedAway where
  number : Nat
  cause : Refusal
  record : Record
  deriving DecidableEq, Repr

/-- The server. The limiter's clock is apart from the clock of the floor. -/
structure Server (α : Type) where
  config : Server.Config
  /-- The host part of the address it is bound to. -/
  bound : IpAddress
  floor : Floor
  limiter : Option (Bucket α)
  clock : ManualClock := {}
  /-- Whether the metrics sink keeps what it is told. -/
  counting : Bool := true
  counts : Counts := {}
  dispatched : Nat := 0
  lifecycle : Lifecycle := .running
  /-- Whether the listener waits for an accept loop. -/
  hasListener : Bool := true
  /-- Whether an accept loop owns the listener. -/
  accepting : Bool := false
  /-- Whether shutdown was signalled. -/
  stopping : Bool := false
  serves : List ServeCall := []
  closes : List CloseCall := []
  rejections : List Rejection := []
  /-- Refused connections that are done with, the first one first. -/
  turnedAway : List TurnedAway := []

namespace Server

variable {α : Type} [Amount α]

/-- The address a listener is bound to: a literal host, with or without brackets, or
what a name stands for. -/
def bindAddress (resolve : Resolver) (config : Config) : Except IoFault IpAddress :=
  match SocketAddress.parse? config.address with
  | some address => .ok address.ip
  | none =>
    match IpAddress.parse? config.host with
    | some ip => .ok ip
    | none => resolve config.host

/-- Binds the listener, starts the pool and builds the limiter. -/
def bind (config : Config) (processor : Processor) (counting : Bool)
    (resolve : Resolver := .loopback) : Except ServerFault (Server α) := do
  config.validate
  let bound ← (bindAddress resolve config).mapError (ServerFault.bind config.address)
  let floor ← (Floor.start config.pool processor true).mapError .app
  return { config, bound, floor, counting,
           limiter := Bucket.limiter config.tokenLimit config.tokenRate 0 }

/-- The fault of a second call that wants to accept connections. -/
def alreadyAccepting : ServerFault :=
  .app (.internal "accept loop is already running")

def tell (server : Server α) (event : Counts → Counts) : Server α :=
  if server.counting then { server with counts := event server.counts } else server

inductive Decision where
  /-- The pool took it in, under this id. -/
  | accepted (id : Nat)
  /-- It is refused, and its response is under way. -/
  | refused (number : Nat) (cause : Refusal)
  deriving DecidableEq, Repr

def reject (server : Server α) (number : Nat) (cause : Refusal) (conn : Connection) :
    Decision × Server α :=
  let server := server.tell (·.refuse cause)
  let task := respondTask cause.response limits.reject
  let rejection := ⟨number, cause, Live.enter task conn server.floor.now⟩
  (.refused number cause, { server with rejections := server.rejections ++ [rejection] })

/-- Asks the limiter, if there is one, and spends a token if it allows. -/
def allowed (server : Server α) : Bool × Server α :=
  match server.limiter with
  | none => (true, server)
  | some bucket =>
    let (allowed, bucket) := bucket.check server.clock.now
    (allowed, { server with limiter := some bucket })

/-- Decides about a connection. The first connection has the id one and the number
zero. -/
def dispatch (server : Server α) (conn : Connection) (peer : Option SocketAddress) :
    Decision × Server α :=
  let number := server.dispatched
  let id := number + 1
  let server := { server with dispatched := id }
  let (isAllowed, server) := server.allowed
  if !isAllowed then server.reject number .rateLimited conn
  else
    let (answer, floor) := server.floor.submit number { id, peer } conn
    let server := { server with floor }
    match answer with
    | .accepted => (.accepted id, server.tell Counts.accept)
    | .full errand => server.reject number .queueFull errand.live.conn
    | .closed errand => server.reject number .queueClosed errand.live.conn

/-- A call that accepts connections. It takes the listener if there is one;
without one it is over, in peace when the server is closing. -/
def serve (server : Server α) : Server α :=
  if server.hasListener then
    { server with
      hasListener := false
      accepting := true
      serves := server.serves ++ [.listening] }
  else if server.lifecycle ≠ .running then
    { server with serves := server.serves ++ [.returned] }
  else { server with serves := server.serves ++ [.rejected] }

/-- Cancels every accept loop; the listener is gone then, and so is the connection
a loop was answering. -/
def cancelServes (server : Server α) : Server α :=
  let lost := server.serves.filterMap fun call =>
    match call with
    | .refusing number => some number
    | _ => none
  let (dropped, kept) := server.rejections.partition fun r => lost.contains r.number
  { server with
    serves := server.serves.map fun call => if call.isLoop then .cancelled else call
    accepting := if server.serves.any ServeCall.isLoop then false else server.accepting
    rejections := kept
    turnedAway := server.turnedAway
      ++ dropped.map fun r => ⟨r.number, r.cause, r.live.conn.dropped.record⟩ }

/-- A call that closes the server. The first one begins to close it; a later one is
over at once. -/
def close (server : Server α) : Server α :=
  if server.lifecycle = .running then
    { server with
      lifecycle := .closing
      stopping := true
      hasListener := false
      closes := server.closes ++ [.awaitingListener] }
  else { server with closes := server.closes ++ [.returned] }

def arrive (server : Server α) (conn : Connection) (peer : Option SocketAddress) :
    Option (Server α) :=
  match server.serves.findIdx? (· == .listening) with
  | none => none
  | some index =>
    let (decision, server) := server.dispatch conn peer
    match decision with
    | .accepted _ => some server
    | .refused number _ =>
      some { server with serves := server.serves.set index (.refusing number) }

/-- What a call that accepts connections can do at this instant: a loop that
listens ends when shutdown was signalled, and a loop whose refused connection is
done with listens again. -/
def serveStride (server : Server α) (index : Nat) : Option (Server α) :=
  match server.serves[index]? with
  | some .listening =>
    if server.stopping then
      some { server with accepting := false, serves := server.serves.set index .returned }
    else none
  | some (.refusing number) =>
    if server.rejections.any (·.number == number) then none
    else some { server with serves := server.serves.set index .listening }
  | _ => none

def closeStride (server : Server α) (index : Nat) : Option (Server α) :=
  match server.closes[index]? with
  | some .awaitingListener =>
    if server.accepting then none
    else
      some { server with
        floor := server.floor.close
        closes := server.closes.set index .draining }
  | some .draining =>
    if server.floor.closings.contains .draining then none
    else
      some { server with
        lifecycle := .closed
        closes := server.closes.set index .returned }
  | _ => none

/-- What a refused connection can do at this instant: its answer goes on, or is
over. -/
def rejectionStride (server : Server α) (index : Nat) : Option (Server α) :=
  match server.rejections[index]? with
  | none => none
  | some rejection =>
    match rejection.live.prospect with
    | .gate => none
    | .finished _ =>
      some { server with
        rejections := server.rejections.eraseIdx index
        turnedAway := server.turnedAway
          ++ [⟨rejection.number, rejection.cause, rejection.live.conn.record⟩] }
    | .event due after =>
      if due ≤ server.floor.now then
        some { server with
          rejections := server.rejections.set index { rejection with live := after } }
      else none

/-- The first of `count` indices from `index` on at which something can happen. -/
def firstStride (strideAt : Nat → Option (Server α)) : (count index : Nat) → Option (Server α)
  | 0, _ => none
  | count + 1, index =>
    match strideAt index with
    | some next => some next
    | none => firstStride strideAt count (index + 1)

def stride (server : Server α) : Option (Server α) :=
  (server.floor.stride.map fun floor => { server with floor }).orElse fun _ =>
    (firstStride server.rejectionStride server.rejections.length 0).orElse fun _ =>
      (firstStride server.serveStride server.serves.length 0).orElse fun _ =>
        firstStride server.closeStride server.closes.length 0

def nextDue (server : Server α) : Option Nat :=
  (server.floor.nextDue.toList ++ server.rejections.filterMap fun r => r.live.due).min?

def serveWork : ServeCall → Nat
  | .listening => 1
  | .refusing _ => 2
  | _ => 0

def closeWork : CloseCall → Nat
  | .awaitingListener => 3
  | .draining => 1
  | .returned => 0

def work (server : Server α) : Nat :=
  server.floor.work + (server.rejections.map fun r => r.live.work + 1).foldr (· + ·) 0
    + (server.serves.map serveWork).foldr (· + ·) 0 + (server.closes.map closeWork).foldr (· + ·) 0

instance : Timeline (Server α) where
  now server := server.floor.now
  moveTo instant server := { server with floor := { server.floor with now := instant } }
  stride := stride
  nextDue := nextDue
  work := work

/-- Dispatches a connection and waits until the dispatcher is free again. -/
def dispatchThrough (server : Server α) (conn : Connection) (peer : Option SocketAddress) :
    Decision × Server α :=
  match server.dispatch conn peer with
  | (.accepted id, server) => (.accepted id, server)
  | (.refused number cause, server) =>
    (.refused number cause,
      Timeline.runUntil (fun s => !s.rejections.any (·.number == number)) server)

end Server

end Admission
