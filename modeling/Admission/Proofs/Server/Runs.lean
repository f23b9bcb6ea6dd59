import Admission.Server
import Admission.Proofs.Floor.Moves
import Admission.Proofs.Timeline

/-! # Runs of a server

A run of a server is any sequence of connections that are dispatched, directly or by an
accept loop, and of steps in between: moves of its floor, the answers to refused
connections, the calls that accept connections and those that close the server, and time.
Nothing is said about their order (`Admission.Server.Step`, `Admission.Server.Run`).

The orders in which the server itself does things are among them: a run may settle,
let time pass, or wait for something (`Admission.Server.Run.settle`,
`Admission.Server.Run.elapse`, `Admission.Server.Run.runUntil`), and a dispatch that waits
until the dispatcher is free again is a run (`Admission.Server.Run.dispatchThrough`).
-/

namespace Admission.Server

variable {α : Type}

/-- Valid settings have a pool of a size that makes sense. -/
theorem Config.pool_validate {config : Config} (valid : config.validate = .ok ()) :
    config.pool.validate = .ok () := by
  unfold validate at valid
  split at valid
  next => cases valid
  next =>
    split at valid
    next => cases valid
    next =>
      split at valid
      next => cases valid
      next =>
        split at valid
        next done => exact done
        next => cases valid
        next => cases valid

/-- What one of several calls can do is what it can do at its place. -/
theorem exists_of_firstStride {strideAt : Nat → Option (Server α)} {count index : Nat}
    {next : Server α} (strode : firstStride strideAt count index = some next) :
    ∃ place, strideAt place = some next := by
  induction count generalizing index with
  | zero => cases strode
  | succ count ih =>
      rw [firstStride] at strode
      split at strode
      next first => exact ⟨index, first.trans strode⟩
      next => exact ih strode

/-- Something that happens to a server between two connections. -/
inductive Step (server : Server α) : Server α → Prop where
  | floor {floor : Floor} (move : server.floor.Move floor) : Step server { server with floor }
  /-- The answer to a refused connection goes on, or is over. -/
  | answer (index : Nat) {next : Server α} (strode : server.rejectionStride index = some next) :
      Step server next
  | accept (index : Nat) {next : Server α} (strode : server.serveStride index = some next) :
      Step server next
  | wind (index : Nat) {next : Server α} (strode : server.closeStride index = some next) :
      Step server next
  /-- Time passes. -/
  | wait (instant : Nat) : Step server (Timeline.moveTo instant server)
  /-- Time passes for the limiter. -/
  | tick (clock : ManualClock) : Step server { server with clock }
  | serve : Step server server.serve
  | close : Step server server.close

/-- What a server does at an instant is done by the floor, by an answer, by a call that
accepts connections, or by one that closes the server. -/
theorem stride_cases {server next : Server α} (strode : server.stride = some next) :
    (∃ floor, server.floor.Move floor ∧ next = { server with floor }) ∨
    (∃ index, server.rejectionStride index = some next) ∨
    (∃ index, server.serveStride index = some next) ∨
    (∃ index, server.closeStride index = some next) := by
  simp only [stride, Option.orElse_eq_or, Option.or_eq_some_iff] at strode
  rcases strode with floor | ⟨-, answer | ⟨-, accept | ⟨-, wind⟩⟩⟩
  · obtain ⟨after, strode, rfl⟩ := Option.map_eq_some_iff.mp floor
    exact .inl ⟨after, Floor.stride_move strode, rfl⟩
  · exact .inr (.inl (exists_of_firstStride answer))
  · exact .inr (.inr (.inl (exists_of_firstStride accept)))
  · exact .inr (.inr (.inr (exists_of_firstStride wind)))

/-- What a server does at an instant is made of steps. -/
theorem stride_step {server next : Server α} (strode : server.stride = some next) :
    server.Step next := by
  rcases stride_cases strode with ⟨floor, move, rfl⟩ | ⟨index, answer⟩ | ⟨index, accept⟩ |
    ⟨index, wind⟩
  · exact .floor move
  · exact .answer index answer
  · exact .accept index accept
  · exact .wind index wind

variable [Amount α]

/-- A server that is bound has valid settings, a new pool, a limiter that is full if there
is one, and nothing else. -/
theorem bind_cases {config : Config} {processor : Processor} {counting : Bool} {resolve : Resolver}
    {start : Server α} (bound : bind config processor counting resolve = .ok start) :
    config.validate = .ok () ∧ ∃ address,
      start = { config, bound := address, floor := { processor, pool := Pool.start config.pool },
                counting, limiter := Bucket.limiter config.tokenLimit config.tokenRate 0 } := by
  unfold bind at bound
  cases valid : config.validate with
  | error fault =>
      rw [valid] at bound
      cases bound
  | ok checked =>
      rw [valid] at bound
      cases address : (bindAddress resolve config).mapError (ServerFault.bind config.address) with
      | error fault =>
          rw [address] at bound
          cases bound
      | ok host =>
          rw [address, Floor.start, Config.pool_validate valid] at bound
          exact ⟨rfl, host, (Except.ok.inj bound).symm⟩

/-- A connection that was dispatched, as it came, and what was decided about it. -/
structure Dispatched where
  conn : Connection
  decision : Decision
  deriving DecidableEq, Repr

/-- A run that leads from one state of a server to another, with the connections that
were dispatched on the way. Connections come fresh; what their peers do is up to them. -/
inductive Run (start : Server α) : List Dispatched → Server α → Prop where
  | start : Run start [] start
  | step {dispatches : List Dispatched} {server next : Server α}
      (before : Run start dispatches server) (step : server.Step next) :
      Run start dispatches next
  | dispatch {dispatches : List Dispatched} {server : Server α}
      (before : Run start dispatches server) (conn : Connection) (peer : Option SocketAddress)
      (fresh : conn.record = {}) :
      Run start (dispatches ++ [⟨conn, (server.dispatch conn peer).1⟩])
        (server.dispatch conn peer).2
  /-- An accept loop dispatches a connection. -/
  | arrive {dispatches : List Dispatched} {server next : Server α}
      (before : Run start dispatches server) (conn : Connection) (peer : Option SocketAddress)
      (fresh : conn.record = {}) (arrived : server.arrive conn peer = some next) :
      Run start (dispatches ++ [⟨conn, (server.dispatch conn peer).1⟩]) next

variable {start server next : Server α} {dispatches : List Dispatched}

/-- A connection that arrives is dispatched; the accept loop may then have to answer
it. -/
theorem arrive_cases {conn : Connection} {peer : Option SocketAddress}
    (arrived : server.arrive conn peer = some next) :
    ∃ serves, next = { (server.dispatch conn peer).2 with serves } := by
  unfold arrive at arrived
  split at arrived
  next => cases arrived
  next =>
    generalize server.dispatch conn peer = dispatched at arrived
    obtain ⟨decision, after⟩ := dispatched
    cases decision with
    | accepted id => exact ⟨after.serves, (Option.some.inj arrived).symm⟩
    | refused number cause => exact ⟨_, (Option.some.inj arrived).symm⟩

namespace Run

/-- A run goes on with whatever the server does, and with time. -/
theorem keeps (start : Server α) (dispatches : List Dispatched) :
    Timeline.Keeps (Run start dispatches) where
  strides := fun run strode => run.step (stride_step strode)
  moves := fun instant run => run.step (.wait instant)

theorem settle (run : Run start dispatches server) :
    Run start dispatches (Timeline.settle server) :=
  (keeps start dispatches).settle run

theorem elapse (run : Run start dispatches server) (instant : Nat) :
    Run start dispatches (Timeline.elapse server instant) :=
  (keeps start dispatches).elapse instant run

/-- A server that goes on until something holds is on the same run. -/
theorem runUntil (run : Run start dispatches server) (holds : Server α → Bool) :
    Run start dispatches (Timeline.runUntil holds server) :=
  (keeps start dispatches).runUntil holds run

/-- A connection that is dispatched while nobody else asks the server for anything. -/
theorem dispatchThrough (run : Run start dispatches server) (conn : Connection)
    (peer : Option SocketAddress) (fresh : conn.record = {}) :
    Run start (dispatches ++ [⟨conn, (server.dispatchThrough conn peer).1⟩])
      (server.dispatchThrough conn peer).2 := by
  have dispatched := run.dispatch conn peer fresh
  unfold Server.dispatchThrough
  split
  next id after decided =>
    rw [decided] at dispatched
    exact dispatched
  next number cause after decided =>
    rw [decided] at dispatched
    exact dispatched.runUntil fun state => !state.rejections.any (·.number == number)

end Run

end Admission.Server
