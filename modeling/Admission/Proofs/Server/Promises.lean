import Admission.Proofs.Floor.Forecast
import Admission.Proofs.Server.Runs

/-! # What a dispatch promises

A dispatch fixes what will become of the connection: the run of the processor's task if
the pool took it in, and of the task that answers it if it was refused
(`Admission.Server.Dispatched.promise`). From then on the connection is in one place,
with that promise, until it is done with (`Admission.Server.promises`). No step of the
server breaks a promise, makes one, or makes one twice
(`Admission.Server.Run.promised`).
-/

namespace Admission.Server

/-- The record of a connection that is done with. -/
def Dispatched.promise (processor : Processor) (dispatched : Dispatched) : Record :=
  match dispatched.decision with
  | .accepted id => ((processor.task id).run dispatched.conn).conn.record
  | .refused _ cause =>
    ((respondTask cause.response limits.reject).run dispatched.conn).conn.record

variable {α : Type}

/-- The number of a job, and what its connection will be when it is over. -/
def jobPromise (forecast : Forecast) : Nat × Record :=
  (forecast.number, forecast.record)

def answerPromise (rejection : Rejection) : Nat × Record :=
  (rejection.number, rejection.live.runOut.conn.record)

def awayPromise (away : TurnedAway) : Nat × Record :=
  (away.number, away.record)

/-- The promises that are out, and those that were kept. -/
def promises (server : Server α) : List (Nat × Record) :=
  server.floor.forecasts.map jobPromise
    ++ (server.rejections.map answerPromise ++ server.turnedAway.map awayPromise)

/-- The answer to the refused connection at a place goes on, or is over. -/
theorem rejectionStride_cases {server next : Server α} {index : Nat}
    (strode : server.rejectionStride index = some next) :
    ∃ before rejection behind, server.rejections[index]? = some rejection ∧
      server.rejections = before ++ rejection :: behind ∧
      ((∃ due after, rejection.live.prospect = .event due after ∧ due ≤ server.floor.now ∧
        next = { server with rejections := before ++ { rejection with live := after } :: behind }) ∨
      (∃ result, rejection.live.prospect = .finished result ∧
        next = { server with
          rejections := before ++ behind
          turnedAway := server.turnedAway
            ++ [⟨rejection.number, rejection.cause, rejection.live.conn.record⟩] })) := by
  unfold rejectionStride at strode
  split at strode
  next => cases strode
  next rejection found =>
    obtain ⟨before, behind, rejections, replaced, erased⟩ := exists_split found
    refine ⟨before, rejection, behind, found, rejections, ?_⟩
    split at strode
    next => cases strode
    next result finished =>
      rw [erased] at strode
      exact .inr ⟨result, finished, (Option.some.inj strode).symm⟩
    next due after event =>
      split at strode
      next reached =>
        rw [replaced] at strode
        exact .inl ⟨due, after, event, reached, (Option.some.inj strode).symm⟩
      next => cases strode

/-- What a call that accepts connections can do: it ends when shutdown was signalled, or
listens again when it has no refused connection left. -/
theorem serveStride_inv {server next : Server α} {index : Nat}
    (strode : server.serveStride index = some next) :
    (server.serves[index]? = some .listening ∧ server.stopping = true ∧
      next = { server with accepting := false, serves := server.serves.set index .returned }) ∨
    (∃ number, server.serves[index]? = some (.refusing number) ∧
      next = { server with serves := server.serves.set index .listening }) := by
  unfold serveStride at strode
  split at strode
  next listening =>
    split at strode
    next stopping => exact .inl ⟨listening, stopping, (Option.some.inj strode).symm⟩
    next => cases strode
  next number refusing =>
    split at strode
    next => cases strode
    next => exact .inr ⟨number, refusing, (Option.some.inj strode).symm⟩
  next => cases strode

/-- An accept loop changes itself and the flag only. -/
theorem serveStride_cases {server next : Server α} {index : Nat}
    (strode : server.serveStride index = some next) :
    ∃ accepting serves, next = { server with accepting, serves } := by
  rcases serveStride_inv strode with ⟨-, -, rfl⟩ | ⟨number, -, rfl⟩
  · exact ⟨_, _, rfl⟩
  · exact ⟨server.accepting, _, rfl⟩

/-- The calls that close the server stop admission, or take note that it is closed. -/
theorem closeStride_cases {server next : Server α} {index : Nat}
    (strode : server.closeStride index = some next) :
    (server.closes[index]? = some .awaitingListener ∧ server.accepting = false ∧
      next = { server with
        floor := server.floor.close
        closes := server.closes.set index .draining }) ∨
    (server.closes[index]? = some .draining ∧ .draining ∉ server.floor.closings ∧
      next = { server with
        lifecycle := .closed
        closes := server.closes.set index .returned }) := by
  unfold closeStride at strode
  split at strode
  next awaiting =>
    split at strode
    next => cases strode
    next released =>
      exact .inl ⟨awaiting, eq_false_of_ne_true released, (Option.some.inj strode).symm⟩
  next draining =>
    split at strode
    next => cases strode
    next past =>
      refine .inr ⟨draining, fun member => past (List.contains_iff_mem.mpr member), ?_⟩
      exact (Option.some.inj strode).symm
  next => cases strode

/-- A call that accepts connections changes the listener, the flag and the calls only. -/
theorem serve_cases (server : Server α) :
    ∃ hasListener accepting serves,
      server.serve = { server with hasListener, accepting, serves } := by
  unfold serve
  split
  next => exact ⟨_, _, _, rfl⟩
  next =>
    split
    next => exact ⟨server.hasListener, server.accepting, _, rfl⟩
    next => exact ⟨server.hasListener, server.accepting, _, rfl⟩

theorem tell_cases (server : Server α) (event : Counts → Counts) :
    ∃ counts, server.tell event = { server with counts } := by
  unfold tell
  split
  next => exact ⟨_, rfl⟩
  next => exact ⟨server.counts, rfl⟩

/-- A refusal is counted and its answer begins. -/
theorem reject_cases (server : Server α) (number : Nat) (cause : Refusal) (conn : Connection) :
    ∃ counts, server.reject number cause conn =
      (.refused number cause,
        { server with
          counts
          rejections := server.rejections
            ++ [⟨number, cause,
              Live.enter (respondTask cause.response limits.reject) conn server.floor.now⟩] }) := by
  obtain ⟨counts, told⟩ := server.tell_cases (·.refuse cause)
  refine ⟨counts, ?_⟩
  rw [reject, told]

/-- What a server has promised to the connections that were dispatched. -/
structure Promised (processor : Processor) (dispatches : List Dispatched) (server : Server α) :
    Prop where
  handled : server.floor.processor = processor
  counted : server.dispatched = dispatches.length
  timely : server.floor.Timely
  answering : ∀ rejection ∈ server.rejections,
    rejection.live.Timely ∧ rejection.live.runOut.result.isSome = true
  promised : server.promises.Perm
    (dispatches.mapIdx fun number dispatched => (number, dispatched.promise processor))

namespace Promised

variable {processor : Processor} {dispatches : List Dispatched} {server next : Server α}

/-- What happens to a server breaks no promise. -/
theorem step (promised : Promised processor dispatches server) (step : server.Step next) :
    Promised processor dispatches next := by
  obtain ⟨same, counted, timely, answering, promises⟩ := promised
  cases step with
  | floor move =>
      refine ⟨move.processor_eq.trans same, counted, move.timely timely, answering, ?_⟩
      exact (((move.forecasts timely).map _).append_right _).trans promises
  | answer index strode =>
      obtain ⟨before, rejection, behind, -, rejections, ⟨due, after, event, -, rfl⟩ |
        ⟨result, finished, rfl⟩⟩ := rejectionStride_cases strode
      · have here : rejection ∈ server.rejections := by
          rw [rejections]
          exact List.mem_append_cons_self
        obtain ⟨inTime, complete⟩ := answering rejection here
        obtain ⟨laterInTime, unchanged⟩ := Live.runOut_of_event inTime event
        refine ⟨same, counted, timely, fun other member => ?_, ?_⟩
        · rcases mem_replaced member with rfl | kept
          · exact ⟨laterInTime, unchanged ▸ complete⟩
          · rw [← rejections] at kept
            exact answering other kept
        · have promise : answerPromise { rejection with live := after } =
              answerPromise rejection := by
            rw [answerPromise, answerPromise, unchanged]
          simpa only [Server.promises, rejections, List.map_append, List.map_cons, promise]
            using promises
      · have here : rejection ∈ server.rejections := by
          rw [rejections]
          exact List.mem_append_cons_self
        obtain ⟨inTime, complete⟩ := answering rejection here
        obtain ⟨result, conn⟩ := Live.runOut_of_finished inTime finished
        rw [result] at complete
        rw [if_pos complete] at conn
        refine ⟨same, counted, timely, fun other member => ?_, ?_⟩
        · apply answering other
          rw [rejections]
          exact List.mem_append.mpr ((List.mem_append.mp member).imp_right
            (List.mem_cons_of_mem _))
        · have promise : awayPromise
              ⟨rejection.number, rejection.cause, rejection.live.conn.record⟩ =
              answerPromise rejection := by
            rw [awayPromise, answerPromise, conn]
          simp only [Server.promises, rejections, List.map_append, List.map_cons,
            List.map_nil, promise, List.append_assoc, List.cons_append] at promises ⊢
          refine List.Perm.trans ?_ promises
          have last := perm_last (before.map answerPromise)
            (behind.map answerPromise ++ server.turnedAway.map awayPromise)
            (answerPromise rejection)
          rw [List.append_assoc] at last
          exact last.symm.append_left _
  | accept index strode =>
      obtain ⟨accepting, serves, rfl⟩ := serveStride_cases strode
      exact ⟨same, counted, timely, answering, promises⟩
  | wind index strode =>
      rcases closeStride_cases strode with ⟨-, -, rfl⟩ | ⟨-, -, rfl⟩
      · exact ⟨same, counted, timely, answering, promises⟩
      · exact ⟨same, counted, timely, answering, promises⟩
  | wait instant => exact ⟨same, counted, timely, answering, promises⟩
  | tick clock => exact ⟨same, counted, timely, answering, promises⟩
  | serve =>
      obtain ⟨hasListener, accepting, serves, after⟩ := server.serve_cases
      rw [after]
      exact ⟨same, counted, timely, answering, promises⟩
  | close =>
      unfold Server.close
      split
      next => exact ⟨same, counted, timely, answering, promises⟩
      next => exact ⟨same, counted, timely, answering, promises⟩

end Promised

variable [Amount α]

theorem allowed_cases (server : Server α) :
    ∃ isAllowed limiter, server.allowed = (isAllowed, { server with limiter }) := by
  unfold allowed
  split
  next => exact ⟨_, server.limiter, rfl⟩
  next => exact ⟨_, _, rfl⟩

/-- The pool takes a connection in, or it is refused and its answer begins. Nothing else
happens to the floor and to the other connections. -/
theorem dispatch_cases (server : Server α) (conn : Connection) (peer : Option SocketAddress) :
    (∃ limiter counts pool,
      server.floor.pool.submit
          (.waiting server.dispatched { id := server.dispatched + 1, peer }
            (server.floor.processor.task (server.dispatched + 1)) conn) = (.accepted, pool) ∧
      server.dispatch conn peer =
        (.accepted (server.dispatched + 1),
          { server with
            limiter, counts
            dispatched := server.dispatched + 1
            floor := { server.floor with pool } })) ∨
    (∃ limiter counts cause,
      server.dispatch conn peer =
        (.refused server.dispatched cause,
          { server with
            limiter, counts
            dispatched := server.dispatched + 1
            rejections := server.rejections ++ [{
              number := server.dispatched
              cause
              live := .enter (respondTask cause.response limits.reject) conn
                server.floor.now }] })) := by
  obtain ⟨isAllowed, limiter, asked⟩ :=
    ({ server with dispatched := server.dispatched + 1 } : Server α).allowed_cases
  unfold dispatch
  simp only [asked]
  -- Whatever the cause, a refusal has the same shape.
  have refuse (cause : Refusal) := reject_cases
    ({ server with limiter, dispatched := server.dispatched + 1 } : Server α)
    server.dispatched cause conn
  cases isAllowed with
  | false =>
      obtain ⟨counts, refused⟩ := refuse .rateLimited
      exact .inr ⟨limiter, counts, .rateLimited, refused⟩
  | true =>
      rcases server.floor.pool.submit_cases
          (.waiting server.dispatched { id := server.dispatched + 1, peer }
            (server.floor.processor.task (server.dispatched + 1)) conn) with
        submitted | submitted | submitted
      · obtain ⟨counts, told⟩ := tell_cases
          ({ server with
            limiter
            dispatched := server.dispatched + 1
            floor := { server.floor with pool := (server.floor.pool.submit _).2 } } : Server α)
          Counts.accept
        refine .inl ⟨limiter, counts, _, submitted, ?_⟩
        rw [submitted] at told
        simp only [Floor.submit, submitted]
        exact congrArg (Prod.mk (Decision.accepted (server.dispatched + 1))) told
      · obtain ⟨counts, refused⟩ := refuse .queueFull
        refine .inr ⟨limiter, counts, .queueFull, ?_⟩
        simp only [Floor.submit, submitted]
        exact refused
      · obtain ⟨counts, refused⟩ := refuse .queueClosed
        refine .inr ⟨limiter, counts, .queueClosed, ?_⟩
        simp only [Floor.submit, submitted]
        exact refused

namespace Promised

variable {processor : Processor} {dispatches : List Dispatched} {server : Server α}

/-- A dispatch makes one promise. -/
theorem dispatch (promised : Promised processor dispatches server) (conn : Connection)
    (peer : Option SocketAddress) :
    Promised processor (dispatches ++ [⟨conn, (server.dispatch conn peer).1⟩])
      (server.dispatch conn peer).2 := by
  obtain ⟨same, counted, timely, answering, promises⟩ := promised
  rcases server.dispatch_cases conn peer with
    ⟨limiter, counts, pool, submitted, decided⟩ | ⟨limiter, counts, cause, decided⟩
  · rw [decided]
    have taken := Pool.eq_of_accepted submitted
    subst taken
    refine ⟨same, ?_, timely, answering, ?_⟩
    · rw [List.length_append, counted]
      rfl
    · rw [List.mapIdx_concat, ← counted]
      refine List.Perm.trans ?_ (promises.append_right _)
      have queued := (server.floor.forecasts_queue (server.floor.pool.free - 1)
        (.waiting server.dispatched { id := server.dispatched + 1, peer }
          (server.floor.processor.task (server.dispatched + 1)) conn)).map jobPromise
      refine (queued.append_right _).trans ?_
      rw [List.map_append, List.append_assoc, Server.promises, List.append_assoc, ← same]
      exact perm_last ..
  · rw [decided]
    refine ⟨same, ?_, timely, fun rejection member => ?_, ?_⟩
    · rw [List.length_append, counted]
      rfl
    · rcases List.mem_append.mp member with underway | begun
      · exact answering rejection underway
      · obtain rfl := List.mem_singleton.mp begun
        exact ⟨Live.enter_timely .., by rw [Live.enter_runOut]; rfl⟩
    · rw [List.mapIdx_concat, ← counted]
      refine List.Perm.trans ?_ (promises.append_right _)
      simp only [Server.promises, List.map_append, List.map_cons, List.map_nil,
        List.append_assoc, List.cons_append, List.nil_append, answerPromise, Live.enter_runOut]
      apply List.Perm.append_left
      apply List.Perm.append_left
      exact perm_last [] _ _

theorem start {config : Config} {counting : Bool} {resolve : Resolver} {start : Server α}
    (bound : bind config processor counting resolve = .ok start) : Promised processor [] start := by
  obtain ⟨-, host, rfl⟩ := bind_cases bound
  have nobody (errand : Errand) :
      .busy errand ∉ (Pool.start config.pool : Pool Errand).workers := by
    intro busy
    cases List.eq_of_mem_replicate busy
  have idle : (Pool.start config.pool : Pool Errand).workers.filterMap Worker.processes = [] := by
    apply List.filterMap_eq_nil_iff.mpr
    intro worker member
    rw [List.eq_of_mem_replicate member]
    rfl
  refine ⟨rfl, rfl, fun errand busy => (nobody errand busy).elim, nofun, ?_⟩
  simp only [promises, Floor.forecasts, Floor.underway, idle]
  exact .refl _

end Promised

/-- What a run has promised. -/
theorem Run.promised {config : Config} {processor : Processor} {counting : Bool}
    {resolve : Resolver} {start server : Server α} {dispatches : List Dispatched}
    (bound : bind config processor counting resolve = .ok start)
    (run : Run start dispatches server) :
    Promised processor dispatches server := by
  induction run with
  | start => exact .start bound
  | step before step ih => exact ih.step step
  | dispatch before conn peer fresh ih => exact ih.dispatch conn peer
  | arrive before conn peer fresh arrived ih =>
      obtain ⟨serves, rfl⟩ := arrive_cases arrived
      obtain ⟨handled, counted, timely, answering, promised⟩ := ih.dispatch conn peer
      exact ⟨handled, counted, timely, answering, promised⟩

end Admission.Server
