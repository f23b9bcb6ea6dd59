import Admission.Proofs.Floor.Runs
import Admission.Proofs.Server.Lifecycle

/-! # Everything that can happen to a server

A course of a server is a run in which nothing is left out
(`Admission.Server.Course`): besides the steps of `Admission.Server.Step` and the
connections that are dispatched, the calls that accept connections may be cancelled or fail,
and permits may come to the gate. Each turn leaves its deeds in a log: whether a call that
began to accept connections took the listener, and what was decided about a connection.

What turns preserve holds all along a course: closing stays in order
(`Admission.Server.Course.wound`), the numbers of refused connections are past ones
(`Admission.Server.Course.numbered`), and the jobs on the floor are those that the log has
as taken in (`Admission.Server.Course.kept`).
-/

namespace Admission.Server

/-- What the log keeps of a call from outside. -/
inductive Deed where
  /-- A call that accepts connections began, with the listener or without. -/
  | served (took : Bool)
  | dispatched (conn : Connection) (peer : Option SocketAddress) (decision : Decision)
  deriving DecidableEq, Repr

namespace Deed

/-- What a call that accepts connections found. -/
def took : Deed → Option Bool
  | served took => some took
  | dispatched .. => none

/-- The job of a connection that was taken in. -/
def intake : Deed → Option Intake
  | dispatched conn peer (.accepted id) => some ⟨id - 1, { id, peer }, conn⟩
  | dispatched _ _ (.refused ..) => none
  | served _ => none

/-- The id under which a connection was taken in. -/
def admitted : Deed → Option Nat
  | dispatched _ _ (.accepted id) => some id
  | dispatched _ _ (.refused ..) => none
  | served _ => none

/-- The job of a deed has the id under which its connection was taken in. -/
theorem intake_id (deed : Deed) :
    deed.intake.map (fun intake => intake.job.id) = deed.admitted := by
  cases deed with
  | served took => rfl
  | dispatched conn peer decision => cases decision <;> rfl

end Deed

/-- An item of a list that one was added to is an earlier one, or the last. -/
theorem getElem?_concat_cases {β : Type} {items : List β} {last item : β} {place : Nat}
    (found : (items ++ [last])[place]? = some item) :
    items[place]? = some item ∨ place = items.length ∧ item = last := by
  by_cases inside : place < items.length
  · rw [List.getElem?_append_left inside] at found
    exact .inl found
  · rw [List.getElem?_append_right (Nat.le_of_not_lt inside)] at found
    obtain ⟨first, same⟩ := List.getElem?_eq_some_iff.mp found
    rw [List.length_singleton] at first
    refine .inr ⟨by omega, ?_⟩
    rw [← same, List.getElem_singleton]

variable {α : Type} {start server next : Server α} {log deeds : List Deed}

/-- The numbers of the refused connections that are being answered are past ones. -/
def Numbered (server : Server α) : Prop :=
  ∀ rejection ∈ server.rejections, rejection.number < server.dispatched

/-- A step is part of an answer to a refused connection; or it leaves the connections that
were refused as they are, and the counts, and the floor makes a step at most. -/
theorem Step.shape (step : server.Step next) :
    (∃ index, server.rejectionStride index = some next) ∨
      ∃ floor clock lifecycle hasListener accepting stopping serves closes,
        (floor = server.floor ∨ server.floor.Step floor) ∧
        next = { server with
          floor, clock, lifecycle, hasListener, accepting, stopping, serves, closes } := by
  cases step with
  | floor move => exact .inr ⟨_, _, _, _, _, _, _, _, .inr (.move move), rfl⟩
  | answer index strode => exact .inl ⟨index, strode⟩
  | accept index strode =>
      obtain ⟨accepting, serves, rfl⟩ := serveStride_cases strode
      exact .inr ⟨_, _, _, _, _, _, _, _, .inl rfl, rfl⟩
  | wind index strode =>
      rcases closeStride_cases strode with ⟨-, -, rfl⟩ | ⟨-, -, rfl⟩
      · exact .inr ⟨_, _, _, _, _, _, _, _, .inr .close, rfl⟩
      · exact .inr ⟨_, _, _, _, _, _, _, _, .inl rfl, rfl⟩
  | wait instant => exact .inr ⟨_, _, _, _, _, _, _, _, .inr (.wait instant), rfl⟩
  | tick clock => exact .inr ⟨_, _, _, _, _, _, _, _, .inl rfl, rfl⟩
  | serve =>
      obtain ⟨hasListener, accepting, serves, after⟩ := server.serve_cases
      exact .inr ⟨_, _, _, _, _, _, _, _, .inl rfl, after⟩
  | close =>
      unfold Server.close
      split
      next => exact .inr ⟨_, _, _, _, _, _, _, _, .inl rfl, rfl⟩
      next => exact .inr ⟨_, _, _, _, _, _, _, _, .inl rfl, rfl⟩

/-- An answer that goes on, or is over, leaves the others as they are. -/
theorem answer_cases {index : Nat} (strode : server.rejectionStride index = some next) :
    next.floor = server.floor ∧ ∃ rejection ∈ server.rejections,
      (∀ other ∈ server.rejections, other = rejection ∨ other ∈ next.rejections) ∧
      ((∃ due after, rejection.live.prospect = .event due after ∧ due ≤ server.floor.now ∧
        next.turnedAway = server.turnedAway ∧
        { rejection with live := after } ∈ next.rejections ∧
        ∀ other ∈ next.rejections,
          other = { rejection with live := after } ∨ other ∈ server.rejections) ∨
      (∃ result, rejection.live.prospect = .finished result ∧
        next.turnedAway = server.turnedAway
          ++ [⟨rejection.number, rejection.cause, rejection.live.conn.record⟩] ∧
        ∀ other ∈ next.rejections, other ∈ server.rejections)) := by
  obtain ⟨before, rejection, behind, -, rejections, ⟨due, after, event, reached, rfl⟩ |
    ⟨result, finished, rfl⟩⟩ := rejectionStride_cases strode
  · refine ⟨rfl, rejection, ?_, ?_, .inl ⟨due, after, event, reached, rfl, ?_, ?_⟩⟩
    · rw [rejections]
      exact List.mem_append_cons_self
    · intro other member
      rw [rejections] at member
      exact mem_replaced member
    · exact List.mem_append_cons_self
    · intro other member
      rw [rejections]
      exact mem_replaced member
  · refine ⟨rfl, rejection, ?_, ?_, .inr ⟨result, finished, rfl, ?_⟩⟩
    · rw [rejections]
      exact List.mem_append_cons_self
    · intro other member
      -- The answer that is over goes to the front of the cases.
      rw [rejections, List.mem_append, List.mem_cons] at member
      rw [List.mem_append]
      exact or_left_comm.mp member
    · intro other member
      rw [rejections]
      exact List.mem_append.mpr ((List.mem_append.mp member).imp_right (List.mem_cons_of_mem _))

/-- What a step leaves as it is. -/
theorem Step.frame (step : server.Step next) :
    next.counting = server.counting ∧ next.dispatched = server.dispatched ∧
      next.counts = server.counts := by
  rcases step.shape with ⟨index, strode⟩ | ⟨_, _, _, _, _, _, _, _, -, rfl⟩
  · obtain ⟨before, rejection, behind, -, -, ⟨due, after, -, -, rfl⟩ | ⟨result, -, rfl⟩⟩ :=
      rejectionStride_cases strode
    · exact ⟨rfl, rfl, rfl⟩
    · exact ⟨rfl, rfl, rfl⟩
  · exact ⟨rfl, rfl, rfl⟩

/-- A step keeps the numbers past ones. -/
theorem Numbered.step (numbered : server.Numbered) (step : server.Step next) : next.Numbered := by
  obtain ⟨-, dispatched, -⟩ := step.frame
  intro other member
  rw [dispatched]
  rcases step.shape with ⟨index, strode⟩ | ⟨_, _, _, _, _, _, _, _, -, rfl⟩
  · obtain ⟨-, rejection, here, -, ⟨due, after, -, -, -, -, places⟩ | ⟨result, -, -, places⟩⟩ :=
      answer_cases strode
    · rcases places other member with rfl | earlier
      · exact numbered rejection here
      · exact numbered other earlier
    · exact numbered other (places other member)
  · exact numbered other member

/-- The jobs on the floor are those that the log has as taken in. -/
def Kept (processor : Processor) (log : List Deed) (server : Server α) : Prop :=
  server.floor.Faithful processor (log.filterMap Deed.intake)

/-- What a step leaves of the floor. -/
theorem Step.floor_step (step : server.Step next) :
    next.floor = server.floor ∨ server.floor.Step next.floor := by
  rcases step.shape with ⟨index, strode⟩ | ⟨_, _, _, _, _, _, _, _, moved, rfl⟩
  · obtain ⟨same, -⟩ := answer_cases strode
    exact .inl same
  · exact moved

/-- A step keeps the jobs those of the log. -/
theorem Kept.step {processor : Processor} (kept : Kept processor log server)
    (step : server.Step next) : Kept processor log next := by
  rcases step.floor_step with same | moved
  · rw [Kept, same]
    exact kept
  · exact Floor.Faithful.step kept moved

/-- What a server does at an instant begins no call. -/
theorem stride_calls (strode : server.stride = some next) :
    next.serves.length = server.serves.length := by
  rcases stride_cases strode with ⟨floor, move, rfl⟩ | answer | accept | wind
  · rfl
  · obtain ⟨index, strode⟩ := answer
    obtain ⟨before, rejection, behind, -, -, ⟨due, after, -, -, rfl⟩ | ⟨result, -, rfl⟩⟩ :=
      rejectionStride_cases strode
    · rfl
    · rfl
  · obtain ⟨index, strode⟩ := accept
    rcases serveStride_inv strode with ⟨-, -, rfl⟩ | ⟨number, -, rfl⟩
    · exact List.length_set
    · exact List.length_set
  · obtain ⟨index, strode⟩ := wind
    rcases closeStride_cases strode with ⟨-, -, rfl⟩ | ⟨-, -, rfl⟩
    · rfl
    · rfl

/-- The calls that are cancelled, and the refused connections that are lost with them. -/
theorem cancelServes_cases [Amount α] (server : Server α) :
    ∃ rejections turnedAway, (∀ rejection ∈ rejections, rejection ∈ server.rejections) ∧
      server.cancelServes = { server with
        serves := server.serves.map fun call => if call.isLoop then .cancelled else call
        accepting := if server.serves.any ServeCall.isLoop then false else server.accepting
        rejections, turnedAway } := by
  unfold cancelServes
  simp only [List.partition_eq_filter_filter]
  exact ⟨_, _, fun rejection kept => (List.mem_filter.mp kept).1, rfl⟩

variable [Amount α]

/-- One thing that happens to a server. -/
inductive Turn (server : Server α) : List Deed → Server α → Prop where
  /-- A step in which no call begins to accept connections. -/
  | step {next : Server α} (step : server.Step next)
      (calls : next.serves.length = server.serves.length) : Turn server [] next
  | serve : Turn server [.served server.hasListener] server.serve
  /-- The call that accepts connections is cancelled, wherever it is. -/
  | cancel : Turn server [] server.cancelServes
  /-- Accepting a connection fails, and the call is over. -/
  | fail {index : Nat} (listening : server.serves[index]? = some .listening) :
      Turn server []
        { server with accepting := false, serves := server.serves.set index .returned }
  | permit (count : Nat) : Turn server [] { server with floor := server.floor.release count }
  | dispatch (conn : Connection) (peer : Option SocketAddress) :
      Turn server [.dispatched conn peer (server.dispatch conn peer).1]
        (server.dispatch conn peer).2
  | arrive {next : Server α} (conn : Connection) (peer : Option SocketAddress)
      (arrived : server.arrive conn peer = some next) :
      Turn server [.dispatched conn peer (server.dispatch conn peer).1] next

/-- A sequence of turns that leads from one state of a server to another, with its log. -/
inductive Course (start : Server α) : List Deed → Server α → Prop where
  | start : Course start [] start
  | turn {log deeds : List Deed} {server next : Server α} (before : Course start log server)
      (turn : server.Turn deeds next) : Course start (log ++ deeds) next

/-- Two courses, one after the other, are one. -/
theorem Course.trans {later : List Deed} {last : Server α} (course : Course start log server)
    (further : Course server later last) : Course start (log ++ later) last := by
  induction further with
  | start =>
      rw [List.append_nil]
      exact course
  | turn before turn ih =>
      rw [← List.append_assoc]
      exact ih.turn turn

/-- What a dispatch leaves as it is. -/
theorem dispatch_frame (server : Server α) (conn : Connection) (peer : Option SocketAddress) :
    (server.dispatch conn peer).2.serves = server.serves ∧
      (server.dispatch conn peer).2.accepting = server.accepting ∧
      (server.dispatch conn peer).2.hasListener = server.hasListener ∧
      (server.dispatch conn peer).2.lifecycle = server.lifecycle ∧
      (server.dispatch conn peer).2.floor.pool.isOpen = server.floor.pool.isOpen ∧
      (server.dispatch conn peer).2.floor.now = server.floor.now := by
  rcases server.dispatch_cases conn peer with
    ⟨limiter, counts, pool, submitted, decided⟩ | ⟨limiter, counts, cause, decided⟩
  · rw [decided]
    obtain rfl := Pool.eq_of_accepted submitted
    exact ⟨rfl, rfl, rfl, rfl, rfl, rfl⟩
  · rw [decided]
    exact ⟨rfl, rfl, rfl, rfl, rfl, rfl⟩

/-- The loop that dispatches a connection listens, and may then have to answer it. -/
theorem arrive_inv {conn : Connection} {peer : Option SocketAddress}
    (arrived : server.arrive conn peer = some next) :
    ∃ index, server.serves[index]? = some .listening ∧
      (next = (server.dispatch conn peer).2 ∨
        ∃ number, next = { (server.dispatch conn peer).2 with
          serves := (server.dispatch conn peer).2.serves.set index (.refusing number) }) := by
  unfold arrive at arrived
  split at arrived
  next => cases arrived
  next index found =>
    obtain ⟨inside, listening, -⟩ := List.findIdx?_eq_some_iff_getElem.mp found
    refine ⟨index, List.getElem?_eq_some_iff.mpr ⟨inside, beq_iff_eq.mp listening⟩, ?_⟩
    generalize server.dispatch conn peer = dispatched at arrived ⊢
    obtain ⟨decision, after⟩ := dispatched
    cases decision with
    | accepted id => exact .inl (Option.some.inj arrived).symm
    | refused number cause => exact .inr ⟨number, (Option.some.inj arrived).symm⟩

namespace Wound

variable {size : Pool.Config}

/-- Whatever happens to a server keeps its closing in order. -/
theorem turn (wound : Wound size server) (staff : 0 < size.workers.toNat)
    (turn : server.Turn deeds next) : Wound size next := by
  cases turn with
  | step step calls => exact wound.step step
  | serve => exact wound.step .serve
  | cancel =>
      obtain ⟨rejections, turnedAway, -, cancelled⟩ := server.cancelServes_cases
      rw [cancelled]
      exact ⟨wound.sound, wound.stage⟩
  | fail listening => exact ⟨wound.sound, wound.stage⟩
  | permit count => exact ⟨wound.sound, wound.stage⟩
  | dispatch conn peer => exact wound.dispatch staff conn peer
  | arrive conn peer arrived =>
      obtain ⟨serves, rfl⟩ := arrive_cases arrived
      obtain ⟨sound, stage⟩ := wound.dispatch staff conn peer
      exact ⟨sound, stage⟩

end Wound

namespace Numbered

theorem dispatch (numbered : server.Numbered) (conn : Connection) (peer : Option SocketAddress) :
    (server.dispatch conn peer).2.Numbered := by
  have past (rejection : Rejection) (underway : rejection ∈ server.rejections) :
      rejection.number < server.dispatched + 1 := Nat.lt_succ_of_lt (numbered rejection underway)
  rcases server.dispatch_cases conn peer with
    ⟨limiter, counts, pool, -, decided⟩ | ⟨limiter, counts, cause, decided⟩
  · rw [decided]
    exact past
  · rw [decided]
    intro rejection member
    rcases List.mem_append.mp member with underway | begun
    · exact past rejection underway
    · obtain rfl := List.mem_singleton.mp begun
      exact Nat.lt_succ_self _

theorem turn (numbered : server.Numbered) (turn : server.Turn deeds next) : next.Numbered := by
  cases turn with
  | step step calls => exact numbered.step step
  | serve => exact numbered.step .serve
  | cancel =>
      obtain ⟨rejections, turnedAway, kept, cancelled⟩ := server.cancelServes_cases
      rw [cancelled]
      intro rejection member
      exact numbered rejection (kept rejection member)
  | fail listening => exact numbered
  | permit count => exact numbered
  | dispatch conn peer => exact numbered.dispatch conn peer
  | arrive conn peer arrived =>
      obtain ⟨serves, rfl⟩ := arrive_cases arrived
      exact numbered.dispatch conn peer

end Numbered

namespace Kept

variable {processor : Processor}

theorem dispatch (kept : Kept processor log server) (conn : Connection)
    (peer : Option SocketAddress) :
    Kept processor (log ++ [.dispatched conn peer (server.dispatch conn peer).1])
      (server.dispatch conn peer).2 := by
  unfold Kept
  rw [List.filterMap_append]
  rcases server.dispatch_cases conn peer with
    ⟨limiter, counts, pool, submitted, decided⟩ | ⟨limiter, counts, cause, decided⟩
  · rw [decided]
    exact Floor.Faithful.accept kept submitted
  · rw [decided]
    simp only [List.filterMap_cons, List.filterMap_nil, Deed.intake, List.append_nil]
    exact kept

theorem turn (kept : Kept processor log server) (turn : server.Turn deeds next) :
    Kept processor (log ++ deeds) next := by
  cases turn with
  | step step calls =>
      rw [List.append_nil]
      exact kept.step step
  | serve =>
      have same := kept.step .serve
      rw [Kept, List.filterMap_append]
      exact (List.append_nil _).symm ▸ same
  | cancel =>
      obtain ⟨rejections, turnedAway, -, cancelled⟩ := server.cancelServes_cases
      rw [cancelled, List.append_nil]
      exact ⟨kept.handled, kept.timely, kept.foreseen⟩
  | fail listening =>
      rw [List.append_nil]
      exact ⟨kept.handled, kept.timely, kept.foreseen⟩
  | permit count =>
      rw [List.append_nil]
      exact ⟨kept.handled, kept.timely, kept.foreseen⟩
  | dispatch conn peer => exact kept.dispatch conn peer
  | arrive conn peer arrived =>
      have decided := kept.dispatch conn peer
      obtain ⟨serves, rfl⟩ := arrive_cases arrived
      exact ⟨decided.handled, decided.timely, decided.foreseen⟩

end Kept

namespace Course

variable {config : Config} {processor : Processor} {counting : Bool} {resolve : Resolver}

/-- A course goes on with whatever the server does, and with time. -/
theorem elapse (course : Course start log server) (instant : Nat) :
    Course start log (Timeline.elapse server instant) := by
  have step {state next : Server α} (before : Course start log state) (step : state.Step next)
      (calls : next.serves.length = state.serves.length) : Course start log next := by
    have turned := before.turn (.step step calls)
    rwa [List.append_nil] at turned
  have keeps : Timeline.Keeps (Course start log) :=
    { strides := fun before strode => step before (stride_step strode) (stride_calls strode)
      moves := fun instant before => step before (.wait instant) rfl }
  exact keeps.elapse instant course

/-- All along a course the closing is in order. -/
theorem wound (bound : bind config processor counting resolve = .ok start)
    (course : Course start log server) :
    0 < config.pool.workers.toNat ∧ Wound config.pool server := by
  obtain ⟨staff, fresh⟩ := Run.wound bound .start
  refine ⟨staff, ?_⟩
  induction course with
  | start => exact fresh
  | turn before turn ih => exact ih.turn staff turn

theorem numbered (bound : bind config processor counting resolve = .ok start)
    (course : Course start log server) : server.Numbered := by
  obtain ⟨-, host, rfl⟩ := bind_cases bound
  induction course with
  | start => exact nofun
  | turn before turn ih => exact ih.turn turn

/-- All along a course the jobs on the floor are those of the log. -/
theorem kept (bound : bind config processor counting resolve = .ok start)
    (course : Course start log server) : Kept processor log server := by
  obtain ⟨-, host, rfl⟩ := bind_cases bound
  induction course with
  | start => exact Floor.Faithful.start processor config.pool
  | turn before turn ih => exact ih.turn turn

end Course

end Admission.Server
