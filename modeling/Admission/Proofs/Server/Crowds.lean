import Admission.Proofs.Server.Answers
import Admission.Proofs.Server.Courses

/-! # Dispatches that cut across each other

A call that dispatches a connection goes on in steps of its own: it takes a number, asks the
limiter, submits the job to the pool, has the decision counted, and waits for the answer if
the connection is refused. A crowd is a server with all the calls that were made, each as
far as it has come (`Admission.Server.Crowd`), and in a crowd the steps of the calls and of
the server come in any order (`Admission.Server.Crowd.Step`).

A dispatch that nothing cuts across is the four first steps in a row
(`Admission.Server.Crowd.Run.dispatch`), so every run of a server is one of a crowd
(`Admission.Server.Crowd.exists_of_run`).
-/

namespace Admission.Server

/-- How far a call that dispatches a connection has come. -/
inductive Progress where
  | numbered
  /-- The limiter, if there is one, let it pass. -/
  | allowed
  /-- The pool took the connection in; that is not counted yet. -/
  | taken
  /-- The connection is refused; that is not counted yet. -/
  | refused (cause : Refusal)
  | answering (cause : Refusal)
  | returned (result : Except Refusal Nat)
  deriving DecidableEq

/-- A call that dispatches a connection. -/
structure DispatchCall where
  number : Nat
  conn : Connection
  peer : Option SocketAddress
  progress : Progress := .numbered

namespace DispatchCall

def id (call : DispatchCall) : Nat :=
  call.number + 1

def job (call : DispatchCall) : Job :=
  { id := call.id, peer := call.peer }

end DispatchCall

/-- How far a call has come with the answer of the pool. -/
def Progress.ofSubmission {β : Type} : Submission β → Progress
  | .accepted => .taken
  | .full _ => .refused .queueFull
  | .closed _ => .refused .queueClosed

/-- How far a call has come when its dispatch was made in one go. -/
def Progress.ofDecision : Decision → Progress
  | .accepted id => .returned (.ok id)
  | .refused _ cause => .answering cause

theorem Wound.submit {α : Type} {size : Pool.Config} {server : Server α}
    (wound : Wound size server) (staff : 0 < size.workers.toNat) (number : Nat) (job : Job)
    (conn : Connection) :
    Wound size { server with floor := (server.floor.submit number job conn).2 } := by
  obtain ⟨sound, stage⟩ := wound
  have after := sound.submit staff (.waiting number job (server.floor.processor.task job.id) conn)
  rcases server.floor.submit_cases number job conn with ⟨pool, submitted, -, same⟩ | ⟨-, same⟩
  · rw [submitted] at after
    rw [same]
    obtain rfl := Pool.eq_of_accepted submitted
    exact ⟨after, stage⟩
  · rw [same]
    exact ⟨sound, stage⟩

/-- A server with the calls that dispatch connections, the first one first. -/
structure Crowd (α : Type) where
  server : Server α
  calls : List DispatchCall := []

namespace Crowd

variable {α : Type}

/-- One of the calls has come further, and the server with it. -/
def advance (crowd : Crowd α) (server : Server α) (index : Nat) (call : DispatchCall)
    (progress : Progress) : Crowd α :=
  ⟨server, crowd.calls.set index { call with progress }⟩

variable [Amount α]

/-- One thing that happens in a crowd. -/
inductive Step (crowd : Crowd α) : Crowd α → Prop where
  | server {next : Server α} (step : crowd.server.Step next) :
      Step crowd { crowd with server := next }
  | permit (count : Nat) :
      Step crowd { crowd with
        server := { crowd.server with floor := crowd.server.floor.release count } }
  | enter (conn : Connection) (peer : Option SocketAddress) :
      Step crowd
        ⟨{ crowd.server with dispatched := crowd.server.dispatched + 1 },
          crowd.calls ++ [⟨crowd.server.dispatched, conn, peer, .numbered⟩]⟩
  | ask {index : Nat} {call : DispatchCall} (found : crowd.calls[index]? = some call)
      (numbered : call.progress = .numbered) :
      Step crowd (crowd.advance crowd.server.allowed.2 index call
        (if crowd.server.allowed.1 then .allowed else .refused .rateLimited))
  | submit {index : Nat} {call : DispatchCall} (found : crowd.calls[index]? = some call)
      (allowed : call.progress = .allowed) :
      Step crowd (crowd.advance
        { crowd.server with
          floor := (crowd.server.floor.submit call.number call.job call.conn).2 }
        index call
        (.ofSubmission (crowd.server.floor.submit call.number call.job call.conn).1))
  | count {index : Nat} {call : DispatchCall} (found : crowd.calls[index]? = some call)
      (taken : call.progress = .taken) :
      Step crowd (crowd.advance (crowd.server.tell Counts.accept) index call
        (.returned (.ok call.id)))
  | reject {index : Nat} {call : DispatchCall} {cause : Refusal}
      (found : crowd.calls[index]? = some call) (refused : call.progress = .refused cause) :
      Step crowd (crowd.advance (crowd.server.reject call.number cause call.conn).2 index call
        (.answering cause))
  | finish {index : Nat} {call : DispatchCall} {cause : Refusal}
      (found : crowd.calls[index]? = some call) (answering : call.progress = .answering cause)
      (gone : crowd.server.isAnswering call.number = false) :
      Step crowd (crowd.advance crowd.server index call (.returned (.error cause)))
  /-- An accept loop has a refused connection to answer. -/
  | occupy {index : Nat} (number : Nat)
      (listening : crowd.server.serves[index]? = some .listening) :
      Step crowd { crowd with
        server := { crowd.server with serves := crowd.server.serves.set index (.refusing number) } }

/-- A crowd that comes about from another one. -/
inductive Run (start : Crowd α) : Crowd α → Prop where
  | start : Run start start
  | step {crowd next : Crowd α} (before : Run start crowd) (step : crowd.Step next) :
      Run start next

variable {start crowd : Crowd α}

omit [Amount α] in
/-- The call that came last goes on, and the others stay as they are. -/
theorem advance_last (calls : List DispatchCall) (call : DispatchCall) (before after : Server α)
    (progress : Progress) :
    (⟨before, calls ++ [call]⟩ : Crowd α).advance after calls.length call progress =
      ⟨after, calls ++ [{ call with progress }]⟩ := by
  simp [advance]

namespace Run

/-- A crowd goes on with whatever the server does, and with time. -/
theorem elapse {server : Server α} {calls : List DispatchCall} (run : Run start ⟨server, calls⟩)
    (instant : Nat) : Run start ⟨Timeline.elapse server instant, calls⟩ := by
  have keeps : Timeline.Keeps fun server => Run start ⟨server, calls⟩ :=
    { strides := fun before strode => before.step (.server (stride_step strode))
      moves := fun instant before => before.step (.server (.wait instant)) }
  exact keeps.elapse instant run

/-- The last call is refused. -/
theorem refuse {server : Server α} {calls : List DispatchCall} {number : Nat}
    {conn : Connection} {peer : Option SocketAddress} {cause : Refusal}
    (run : Run start ⟨server, calls ++ [⟨number, conn, peer, .refused cause⟩]⟩) :
    Run start
      ⟨(server.reject number cause conn).2, calls ++ [⟨number, conn, peer, .answering cause⟩]⟩ := by
  have refused := run.step (.reject (List.getElem?_concat_length ..) rfl)
  rwa [advance_last] at refused

/-- The last call, let pass by the limiter, submits its job. -/
theorem submit {server : Server α} {calls : List DispatchCall} {number : Nat}
    {conn : Connection} {peer : Option SocketAddress}
    (run : Run start ⟨server, calls ++ [⟨number, conn, peer, .allowed⟩]⟩) :
    Run start
      ⟨{ server with floor := (server.floor.submit number { id := number + 1, peer } conn).2 },
        calls ++ [⟨number, conn, peer,
          .ofSubmission (server.floor.submit number { id := number + 1, peer } conn).1⟩]⟩ := by
  have submitted := run.step (.submit (List.getElem?_concat_length ..) rfl)
  rwa [advance_last] at submitted

/-- A dispatch that nothing cuts across. -/
theorem dispatch (run : Run start crowd) (conn : Connection) (peer : Option SocketAddress) :
    Run start
      ⟨(crowd.server.dispatch conn peer).2,
        crowd.calls ++ [⟨crowd.server.dispatched, conn, peer,
          .ofDecision (crowd.server.dispatch conn peer).1⟩]⟩ := by
  have entered := run.step (.enter conn peer)
  have asked := entered.step (.ask (List.getElem?_concat_length ..) rfl)
  rw [advance_last] at asked
  unfold Server.dispatch
  simp only at asked ⊢
  generalize Server.allowed { crowd.server with dispatched := crowd.server.dispatched + 1 } =
    allowed at asked ⊢
  obtain ⟨isAllowed, server⟩ := allowed
  cases isAllowed with
  | false => exact refuse asked
  | true =>
      have submitted := submit asked
      simp only [Bool.not_true, Bool.false_eq_true, if_false]
      rcases server.floor.pool.submit_cases
          (.waiting crowd.server.dispatched { id := crowd.server.dispatched + 1, peer }
            (server.floor.processor.task (crowd.server.dispatched + 1)) conn) with
        answer | answer | answer
      · simp only [Floor.submit, answer] at submitted ⊢
        have counted := submitted.step (.count (List.getElem?_concat_length ..) rfl)
        rwa [advance_last] at counted
      · simp only [Floor.submit, answer] at submitted ⊢
        exact refuse submitted
      · simp only [Floor.submit, answer] at submitted ⊢
        exact refuse submitted

theorem wound {config : Config} {processor : Processor} {counting : Bool}
    {resolve : Resolver} {start : Server α}
    (bound : bind config processor counting resolve = .ok start) (run : Run ⟨start, []⟩ crowd) :
    0 < config.pool.workers.toNat ∧ Wound config.pool crowd.server := by
  obtain ⟨staff, fresh⟩ := Server.Run.wound bound .start
  refine ⟨staff, ?_⟩
  induction run with
  | start => exact fresh
  | @step crowd next before step ih =>
      cases step with
      | server step => exact ih.step step
      | permit count => exact ⟨ih.sound, ih.stage⟩
      | occupy number listening => exact ⟨ih.sound, ih.stage⟩
      | enter conn peer => exact ⟨ih.sound, ih.stage⟩
      | ask found progress =>
          obtain ⟨isAllowed, limiter, asked⟩ := crowd.server.allowed_cases
          rw [asked]
          exact ⟨ih.sound, ih.stage⟩
      | @submit index call found progress =>
          exact ih.submit staff call.number call.job call.conn
      | count found progress =>
          obtain ⟨counts, told⟩ := crowd.server.tell_cases Counts.accept
          rw [told]
          exact ⟨ih.sound, ih.stage⟩
      | @reject index call cause found progress =>
          obtain ⟨counts, refused⟩ := crowd.server.reject_cases call.number cause call.conn
          rw [refused]
          exact ⟨ih.sound, ih.stage⟩
      | finish found progress gone => exact ⟨ih.sound, ih.stage⟩

end Run

/-- A run of a server is one of a crowd. Each of its dispatches was made in one go. -/
theorem exists_of_run {start server : Server α} {dispatches : List Dispatched}
    (run : Server.Run start dispatches server) :
    ∃ calls, Run ⟨start, []⟩ ⟨server, calls⟩ ∧
      calls.map DispatchCall.progress =
        dispatches.map fun dispatched => .ofDecision dispatched.decision := by
  induction run with
  | start => exact ⟨[], .start, rfl⟩
  | step before step ih =>
      obtain ⟨calls, run, decided⟩ := ih
      exact ⟨calls, run.step (.server step), decided⟩
  | dispatch before conn peer fresh ih =>
      obtain ⟨calls, run, decided⟩ := ih
      refine ⟨_, run.dispatch conn peer, ?_⟩
      rw [List.map_append, List.map_append, decided]
      rfl
  | @arrive dispatches server next before conn peer fresh arrived ih =>
      obtain ⟨calls, run, decided⟩ := ih
      have dispatched := run.dispatch conn peer
      obtain ⟨index, listening, rfl | ⟨number, rfl⟩⟩ := arrive_inv arrived
      · refine ⟨_, dispatched, ?_⟩
        rw [List.map_append, List.map_append, decided]
        rfl
      · obtain ⟨serves, -⟩ := server.dispatch_frame conn peer
        rw [← serves] at listening
        refine ⟨_, dispatched.step (.occupy number listening), ?_⟩
        rw [List.map_append, List.map_append, decided]
        rfl

end Crowd

end Admission.Server
