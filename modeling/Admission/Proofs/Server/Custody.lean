import Admission.Proofs.Server.Answers
import Admission.Proofs.Server.Courses

/-! # Who owns the listener

At most one call ever takes the listener, and it is the only one that may be an accept loop
(`Admission.Server.Owned`). The flag that a loop owns the listener is up exactly as long as
it does, and as long as it is up the pool is open (`Admission.Server.Custody`). So the
lifecycle goes one way only, and a server that is closed stays so, with no loop, no job and
no admission (`Admission.Server.lifecycle_safe`).
-/

namespace Admission.Server

/-- The calls that accept connections, with what each found when it began, and the flag
that a loop owns the listener. -/
structure Owned (took : List Bool) (serves : List ServeCall) (accepting : Bool) : Prop where
  recorded : took.length = serves.length
  once : ∀ first second : Nat, took[first]? = some true → took[second]? = some true →
    first = second
  owner : ∀ (index : Nat) (call : ServeCall), serves[index]? = some call →
    call.isLoop = true → took[index]? = some true
  flagged : accepting = true ↔ ∃ call ∈ serves, call.isLoop = true

namespace Owned

variable {took : List Bool} {serves : List ServeCall} {accepting : Bool} {index : Nat}
  {call other : ServeCall}

/-- A call that takes a listener which nobody took is the only loop. -/
theorem begin (owned : Owned took serves accepting) (untaken : true ∉ took) :
    Owned (took ++ [true]) (serves ++ [.listening]) true := by
  obtain ⟨recorded, once, owner, flagged⟩ := owned
  have last {place : Nat} (found : (took ++ [true])[place]? = some true) :
      place = took.length := by
    rcases getElem?_concat_cases found with earlier | ⟨last, -⟩
    · exact (untaken (List.mem_of_getElem? earlier)).elim
    · exact last
  refine ⟨?_, ?_, ?_, ?_⟩
  · rw [List.length_append, List.length_append, recorded]
    rfl
  · intro first second foundFirst foundSecond
    rw [last foundFirst, last foundSecond]
  · intro place call found loop
    rcases getElem?_concat_cases found with earlier | ⟨rfl, -⟩
    · exact (untaken (List.mem_of_getElem? (owner place call earlier loop))).elim
    · rw [← recorded, List.getElem?_concat_length]
  · exact ⟨fun _ => ⟨.listening, List.mem_append_right _ (List.mem_singleton_self _), rfl⟩,
      fun _ => rfl⟩

/-- A call that finds no listener is over at once, and changes nothing for a loop. -/
theorem refuse (owned : Owned took serves accepting) (idle : call.isLoop = false) :
    Owned (took ++ [false]) (serves ++ [call]) accepting := by
  obtain ⟨recorded, once, owner, flagged⟩ := owned
  have earlier {place : Nat} (found : (took ++ [false])[place]? = some true) :
      took[place]? = some true := by
    rcases getElem?_concat_cases found with earlier | ⟨-, differ⟩
    · exact earlier
    · cases differ
  refine ⟨?_, ?_, ?_, ?_⟩
  · rw [List.length_append, List.length_append, recorded]
    rfl
  · intro first second foundFirst foundSecond
    exact once first second (earlier foundFirst) (earlier foundSecond)
  · intro place busy found loop
    rcases getElem?_concat_cases found with before | ⟨-, rfl⟩
    · have taken := owner place busy before loop
      obtain ⟨inside, -⟩ := List.getElem?_eq_some_iff.mp taken
      rw [List.getElem?_append_left inside, taken]
    · cases idle.symm.trans loop
  · rw [flagged]
    constructor
    · rintro ⟨busy, member, loop⟩
      exact ⟨busy, List.mem_append_left _ member, loop⟩
    · rintro ⟨busy, member, loop⟩
      rcases List.mem_append.mp member with before | last
      · exact ⟨busy, before, loop⟩
      · rw [List.mem_singleton.mp last] at loop
        cases idle.symm.trans loop

/-- A loop goes on as a loop, or is over; it was the only one. -/
theorem exchange (owned : Owned took serves accepting) (found : serves[index]? = some call)
    (loop : call.isLoop = true) : Owned took (serves.set index other) other.isLoop := by
  obtain ⟨recorded, once, owner, -⟩ := owned
  obtain ⟨inside, -⟩ := List.getElem?_eq_some_iff.mp found
  have taken := owner index call found loop
  -- Another loop would be another call that took the listener.
  have only {place : Nat} {busy : ServeCall} (shown : (serves.set index other)[place]? = some busy)
      (goes : busy.isLoop = true) : place = index ∧ busy = other := by
    by_cases same : place = index
    · rw [same, List.getElem?_set_self inside] at shown
      exact ⟨same, (Option.some.inj shown).symm⟩
    · rw [List.getElem?_set_ne (Ne.symm same)] at shown
      exact (same (once place index (owner place busy shown goes) taken)).elim
  refine ⟨?_, once, ?_, ?_⟩
  · rw [List.length_set]
    exact recorded
  · intro place busy shown goes
    rw [(only shown goes).1]
    exact taken
  · constructor
    · intro goes
      exact ⟨other, List.mem_set inside other, goes⟩
    · rintro ⟨busy, member, goes⟩
      obtain ⟨place, shown⟩ := List.mem_iff_getElem?.mp member
      rw [← (only shown goes).2]
      exact goes

/-- When the loops are cancelled nobody owns the listener. -/
theorem cancel (owned : Owned took serves accepting) :
    Owned took (serves.map fun call => if call.isLoop then .cancelled else call)
      (if serves.any ServeCall.isLoop then false else accepting) := by
  obtain ⟨recorded, once, owner, flagged⟩ := owned
  have none {busy : ServeCall}
      (member : busy ∈ serves.map fun call => if call.isLoop then .cancelled else call) :
      busy.isLoop = false := by
    obtain ⟨call, -, rfl⟩ := List.mem_map.mp member
    split
    next => rfl
    next idle => exact eq_false_of_ne_true idle
  refine ⟨?_, once, ?_, ?_⟩
  · rw [List.length_map]
    exact recorded
  · intro place busy shown goes
    cases (none (List.mem_of_getElem? shown)).symm.trans goes
  · constructor
    · intro up
      split at up
      next => cases up
      next still =>
        obtain ⟨call, member, loop⟩ := flagged.mp up
        exact (still (List.any_eq_true.mpr ⟨call, member, loop⟩)).elim
    · rintro ⟨busy, member, goes⟩
      cases (none member).symm.trans goes

end Owned

variable {α : Type} {start server next : Server α} {took : List Bool}

/-- A listener that waits was never taken, and it waits only while the server runs; a loop
that owns it keeps the pool open. -/
structure Custody (took : List Bool) (server : Server α) : Prop where
  owned : Owned took server.serves server.accepting
  untaken : server.hasListener = true → true ∉ took
  released : server.lifecycle ≠ .running → server.hasListener = false
  staffed : server.accepting = true → server.floor.pool.isOpen = true

namespace Stage

variable {lifecycle : Lifecycle} {closes : List CloseCall} {isOpen drained : Bool}
  {closings : List Closing}

theorem open_of_running (stage : Stage .running closes isOpen closings drained) :
    isOpen = true := by
  cases stage with
  | running => rfl

/-- A closed server has a closed pool, and it is drained. -/
theorem of_closed (stage : Stage .closed closes isOpen closings drained) :
    isOpen = false ∧ drained = true := by
  cases stage with
  | closed past => exact ⟨rfl, rfl⟩

/-- When the first call to close has returned the server is closed. -/
theorem closed_of_returned (stage : Stage lifecycle closes isOpen closings drained)
    (returned : closes.head? = some .returned) : lifecycle = .closed := by
  cases stage with
  | running => cases returned
  | awaiting past => cases returned
  | draining past => cases returned
  | drained past => cases returned
  | closed past => rfl

/-- While a call to close waits for the drain the server is closing. -/
theorem closing_of_draining {index : Nat} (stage : Stage lifecycle closes isOpen closings drained)
    (draining : closes[index]? = some .draining) : lifecycle = .closing := by
  cases stage with
  | running => cases draining
  | awaiting past => rfl
  | draining past => rfl
  | drained past => rfl
  | closed past => cases (first_of_busy past draining nofun).2

end Stage

theorem serve_calls (server : Server α) :
    server.serve.serves.length ≠ server.serves.length := by
  intro calls
  unfold Server.serve at calls
  split at calls
  next => simp at calls
  next => split at calls <;> simp at calls

namespace Custody

variable {size : Pool.Config}

/-- A call that begins to accept connections. -/
theorem serve (custody : Custody took server) (wound : Wound size server) :
    Custody (took ++ [server.hasListener]) server.serve := by
  obtain ⟨owned, untaken, released, staffed⟩ := custody
  unfold Server.serve
  cases listener : server.hasListener with
  | true =>
      -- A listener that waits is one of a running server, whose pool is open.
      have running : server.lifecycle = .running := by
        by_contra gone
        cases listener.symm.trans (released gone)
      have isOpen : server.floor.pool.isOpen = true := by
        have stage := wound.stage
        rw [running] at stage
        exact stage.open_of_running
      exact ⟨owned.begin (untaken listener), nofun, fun _ => rfl, fun _ => isOpen⟩
  | false =>
      have refused (call : ServeCall) (idle : call.isLoop = false) :
          Custody (took ++ [false])
            { server with hasListener := false, serves := server.serves ++ [call] } :=
        ⟨owned.refuse idle, nofun, fun _ => rfl, staffed⟩
      rw [if_neg Bool.false_ne_true]
      split
      next => exact refused .returned rfl
      next => exact refused .rejected rfl

/-- A step in which no such call begins keeps the custody of the listener. -/
theorem step (custody : Custody took server) (wound : Wound size server)
    (step : server.Step next) (calls : next.serves.length = server.serves.length) :
    Custody took next := by
  obtain ⟨owned, untaken, released, staffed⟩ := custody
  cases step with
  | floor move =>
      refine ⟨owned, untaken, released, ?_⟩
      rcases move.working_or_joining with ⟨-, -, isOpen⟩ | ⟨-, -, rfl⟩
      · rw [isOpen]
        exact staffed
      · exact staffed
  | answer index strode =>
      obtain ⟨before, rejection, behind, -, -, ⟨due, after, -, -, rfl⟩ | ⟨result, -, rfl⟩⟩ :=
        rejectionStride_cases strode
      · exact ⟨owned, untaken, released, staffed⟩
      · exact ⟨owned, untaken, released, staffed⟩
  | accept index strode =>
      rcases serveStride_inv strode with ⟨listening, -, rfl⟩ | ⟨number, refusing, rfl⟩
      · exact ⟨owned.exchange listening rfl, untaken, released, nofun⟩
      · have up : server.accepting = true :=
          owned.flagged.mpr ⟨_, List.mem_of_getElem? refusing, rfl⟩
        refine ⟨?_, untaken, released, staffed⟩
        rw [up]
        exact owned.exchange refusing rfl
  | wind index strode =>
      rcases closeStride_cases strode with ⟨-, idle, rfl⟩ | ⟨draining, -, rfl⟩
      · refine ⟨owned, untaken, released, ?_⟩
        intro up
        cases idle.symm.trans up
      · refine ⟨owned, untaken, ?_, staffed⟩
        intro closed
        apply released
        rw [wound.stage.closing_of_draining draining]
        nofun
  | wait instant => exact ⟨owned, untaken, released, staffed⟩
  | tick clock => exact ⟨owned, untaken, released, staffed⟩
  | serve =>
      -- A call that begins is one more call.
      exact (server.serve_calls calls).elim
  | close =>
      unfold Server.close
      split
      next => exact ⟨owned, nofun, fun _ => rfl, staffed⟩
      next => exact ⟨owned, untaken, released, staffed⟩

end Custody

/-- The lifecycle goes from running to closing and from closing to closed, or stays. -/
inductive Onward : Lifecycle → Lifecycle → Prop where
  | stay (lifecycle : Lifecycle) : Onward lifecycle lifecycle
  | close : Onward .running .closing
  | finish : Onward .closing .closed

/-- From closed the lifecycle goes nowhere. -/
theorem Onward.of_closed {later : Lifecycle} (onward : Onward .closed later) :
    later = .closed := by
  cases onward with
  | stay => rfl

/-- A step takes the lifecycle onward, if anywhere. -/
theorem Step.onward {size : Pool.Config} (wound : Wound size server) (step : server.Step next) :
    Onward server.lifecycle next.lifecycle := by
  cases step with
  | floor move => exact .stay _
  | answer index strode =>
      obtain ⟨before, rejection, behind, -, -, ⟨due, after, -, -, rfl⟩ | ⟨result, -, rfl⟩⟩ :=
        rejectionStride_cases strode
      · exact .stay _
      · exact .stay _
  | accept index strode =>
      obtain ⟨accepting, serves, rfl⟩ := serveStride_cases strode
      exact .stay _
  | wind index strode =>
      rcases closeStride_cases strode with ⟨-, -, rfl⟩ | ⟨draining, -, rfl⟩
      · exact .stay _
      · rw [wound.stage.closing_of_draining draining]
        exact .finish
  | wait instant => exact .stay _
  | tick clock => exact .stay _
  | serve =>
      obtain ⟨hasListener, accepting, serves, after⟩ := server.serve_cases
      rw [after]
      exact .stay _
  | close =>
      unfold Server.close
      split
      next running =>
        rw [running]
        exact .close
      next => exact .stay _

variable [Amount α]

namespace Custody

variable {size : Pool.Config} {deeds : List Deed}

theorem dispatch (custody : Custody took server) (conn : Connection)
    (peer : Option SocketAddress) : Custody took (server.dispatch conn peer).2 := by
  obtain ⟨serves, accepting, hasListener, lifecycle, isOpen, -⟩ :=
    server.dispatch_frame conn peer
  obtain ⟨owned, untaken, released, staffed⟩ := custody
  rw [← serves, ← accepting] at owned
  rw [← hasListener] at untaken released
  rw [← lifecycle] at released
  rw [← accepting, ← isOpen] at staffed
  exact ⟨owned, untaken, released, staffed⟩

theorem turn (custody : Custody took server) (wound : Wound size server)
    (turn : server.Turn deeds next) : Custody (took ++ deeds.filterMap Deed.took) next := by
  cases turn with
  | step step calls =>
      rw [List.filterMap_nil, List.append_nil]
      exact custody.step wound step calls
  | serve => exact custody.serve wound
  | cancel =>
      rw [List.filterMap_nil, List.append_nil]
      obtain ⟨owned, untaken, released, staffed⟩ := custody
      obtain ⟨rejections, turnedAway, -, cancelled⟩ := server.cancelServes_cases
      rw [cancelled]
      refine ⟨owned.cancel, untaken, released, ?_⟩
      intro up
      apply staffed
      simp only at up
      split at up
      next => cases up
      next => exact up
  | fail listening =>
      rw [List.filterMap_nil, List.append_nil]
      obtain ⟨owned, untaken, released, -⟩ := custody
      exact ⟨owned.exchange listening rfl, untaken, released, nofun⟩
  | permit count =>
      rw [List.filterMap_nil, List.append_nil]
      exact ⟨custody.owned, custody.untaken, custody.released, custody.staffed⟩
  | dispatch conn peer =>
      rw [List.filterMap_cons, Deed.took, List.filterMap_nil, List.append_nil]
      exact custody.dispatch conn peer
  | arrive conn peer arrived =>
      rw [List.filterMap_cons, Deed.took, List.filterMap_nil, List.append_nil]
      obtain ⟨serves, accepting, -⟩ := server.dispatch_frame conn peer
      have dispatched := custody.dispatch conn peer
      obtain ⟨index, listening, rfl | ⟨number, rfl⟩⟩ := arrive_inv arrived
      · exact dispatched
      · obtain ⟨owned, untaken, released, staffed⟩ := dispatched
        have up : (server.dispatch conn peer).2.accepting = true := by
          rw [accepting]
          exact custody.owned.flagged.mpr ⟨_, List.mem_of_getElem? listening, rfl⟩
        rw [← serves] at listening
        refine ⟨?_, untaken, released, staffed⟩
        rw [up]
        exact owned.exchange listening rfl

end Custody

theorem Turn.onward {size : Pool.Config} {deeds : List Deed} (wound : Wound size server)
    (turn : server.Turn deeds next) : Onward server.lifecycle next.lifecycle := by
  have dispatched (conn : Connection) (peer : Option SocketAddress) :
      Onward server.lifecycle (server.dispatch conn peer).2.lifecycle := by
    obtain ⟨-, -, -, same, -⟩ := server.dispatch_frame conn peer
    rw [same]
    exact .stay _
  cases turn with
  | step step calls => exact step.onward wound
  | serve => exact Step.serve.onward wound
  | cancel =>
      obtain ⟨rejections, turnedAway, -, cancelled⟩ := server.cancelServes_cases
      rw [cancelled]
      exact .stay _
  | fail listening => exact .stay _
  | permit count => exact .stay _
  | dispatch conn peer => exact dispatched conn peer
  | arrive conn peer arrived =>
      obtain ⟨serves, rfl⟩ := arrive_cases arrived
      exact dispatched conn peer

variable {config : Config} {processor : Processor} {counting : Bool} {resolve : Resolver}
  {log : List Deed}

/-- All along a course the listener is in custody. -/
theorem Course.custody (bound : bind config processor counting resolve = .ok start)
    (course : Course start log server) : Custody (log.filterMap Deed.took) server := by
  have fresh : Custody [] start := by
    obtain ⟨-, host, rfl⟩ := bind_cases bound
    refine ⟨⟨rfl, nofun, nofun, ?_⟩, nofun, fun stopped => (stopped rfl).elim, nofun⟩
    exact ⟨nofun, nofun⟩
  induction course with
  | start => exact fresh
  | turn before turn ih =>
      rw [List.filterMap_append]
      exact ih.turn (before.wound bound).2 turn

/-- A server in which nothing is left: no loop, no listener, no job. Every job that was
taken in is over. -/
structure ShutDown (log : List Deed) (server : Server α) : Prop where
  closed : server.lifecycle = .closed
  loops : ∀ call ∈ server.serves, call.isOver = true
  released : server.hasListener = false ∧ server.accepting = false
  shut : server.floor.pool.isOpen = false
  empty : server.floor.pool.queue = [] ∧ server.floor.pool.held = []
  ended : (server.floor.endings.map Ending.id).Perm (log.filterMap Deed.admitted)

/-- A server that is closed has nothing left. -/
theorem Course.shutDown (bound : bind config processor counting resolve = .ok start)
    (course : Course start log server) (closed : server.lifecycle = .closed) :
    ShutDown log server := by
  obtain ⟨staff, wound⟩ := course.wound bound
  have custody := course.custody bound
  have stage := wound.stage
  rw [closed] at stage
  obtain ⟨shut, drained⟩ := stage.of_closed
  have idle : server.accepting = false := by
    apply eq_false_of_ne_true
    intro up
    cases shut.symm.trans (custody.staffed up)
  obtain ⟨queue, held, done, -⟩ := wound.sound.of_drained staff drained
  refine ⟨closed, ?_, ⟨custody.released ?_, idle⟩, shut, ⟨queue, held⟩, ?_⟩
  · intro call member
    rw [ServeCall.isOver, Bool.not_eq_eq_eq_not]
    apply eq_false_of_ne_true
    intro loop
    cases idle.symm.trans (custody.owned.flagged.mpr ⟨call, member, loop⟩)
  · rw [closed]
    nofun
  · have ended := ((course.kept bound).endings_perm queue done).map Forecast.id
    have ids (deed : Deed) :
        (deed.intake.map (Intake.alone processor)).map Forecast.id = deed.admitted := by
      rw [← deed.intake_id, Option.map_map]
      rfl
    simp only [List.map_map, List.map_filterMap, ids] at ended
    exact ended

/-- A closed server stays closed. -/
theorem Course.closed_stays (bound : bind config processor counting resolve = .ok start)
    (course : Course start log server) (closed : server.lifecycle = .closed)
    {more : List Deed} {later : Server α} (further : Course server more later) :
    later.lifecycle = .closed := by
  induction further with
  | start => exact closed
  | turn before turn ih =>
      have onward := turn.onward ((course.trans before).wound bound).2
      rw [ih] at onward
      exact onward.of_closed

/-- A closed server takes nothing in. -/
theorem dispatch_of_shut (shut : server.floor.pool.isOpen = false) (conn : Connection)
    (peer : Option SocketAddress) (id : Nat) : (server.dispatch conn peer).1 ≠ .accepted id := by
  intro taken
  rcases server.dispatch_cases conn peer with
    ⟨limiter, counts, pool, submitted, -⟩ | ⟨limiter, counts, cause, decided⟩
  · rw [Pool.submit_of_shut shut] at submitted
    cases submitted
  · rw [decided] at taken
    cases taken

/-- **The life of a server goes one way.** In whatever order the calls that accept
connections, close the server and dispatch connections go on, and whenever one that accepts
is cancelled or fails: the lifecycle goes from running to closing to closed only. At most one
call ever takes the listener, an accept loop is that call, and the flag that a loop owns the
listener is up exactly while one does; a call that finds no listener leaves it alone. The
pool is open as long as a loop runs. Once the server is closed, now and ever after, no loop
runs, the listener is released, the pool is closed with nothing queued or held, every
connection that was taken in is over, and none is taken in any more. The first call to close
returns only then, and one that finds the server not running changes nothing. -/
theorem lifecycle_safe (bound : bind config processor counting resolve = .ok start)
    (course : Course start log server) :
    (∀ deeds next, server.Turn deeds next → Onward server.lifecycle next.lifecycle) ∧
    (∀ first second : Nat, (log.filterMap Deed.took)[first]? = some true →
      (log.filterMap Deed.took)[second]? = some true → first = second) ∧
    (∀ (index : Nat) (call : ServeCall), server.serves[index]? = some call →
      call.isLoop = true → (log.filterMap Deed.took)[index]? = some true) ∧
    (server.accepting = true ↔ ∃ call ∈ server.serves, call.isLoop = true) ∧
    (server.hasListener = false → server.serve.accepting = server.accepting) ∧
    (server.accepting = true → server.floor.pool.isOpen = true) ∧
    (server.lifecycle = .closed → ∀ more later, Course server more later →
      ShutDown (log ++ more) later ∧
        ∀ conn peer id, (later.dispatch conn peer).1 ≠ .accepted id) ∧
    (server.closes.head? = some .returned → server.lifecycle = .closed) ∧
    (server.lifecycle ≠ .running →
      server.close = { server with closes := server.closes ++ [.returned] }) := by
  obtain ⟨-, wound⟩ := course.wound bound
  obtain ⟨owned, untaken, released, staffed⟩ := course.custody bound
  refine ⟨fun deeds next turn => turn.onward wound, owned.once, owned.owner, owned.flagged, ?_,
    staffed, ?_, wound.stage.closed_of_returned, fun stopped => if_neg stopped⟩
  · intro listener
    unfold serve
    rw [listener, if_neg Bool.false_ne_true]
    split
    next => rfl
    next => rfl
  · intro closed more later further
    have stays := course.closed_stays bound closed further
    have shutDown := (course.trans further).shutDown bound stays
    exact ⟨shutDown, dispatch_of_shut shutDown.shut⟩

/-- A loop takes a connection in, a second call finds no listener, and the server is closed
while the job is under way. -/
theorem lifecycle_safe_two :
    ∃ (server : Server Rat) (log : List Deed),
      Course fewSlotsServer log server ∧ server.lifecycle = .closed ∧
      server.serves = [.returned, .rejected] ∧ log.filterMap Deed.took = [true, false] ∧
      log.filterMap Deed.admitted = [1] ∧
      (server.floor.endings.map Ending.id).Perm (log.filterMap Deed.admitted) ∧
      (server.dispatch {} none).1 ≠ .accepted 2 := by
  have fresh : Course fewSlotsServer [] fewSlotsServer := .start
  have serving := (fresh.turn .serve).turn .serve
  have arrived := serving.turn (.arrive {} none (Option.some_get (by decide +kernel)).symm)
  have closing := arrived.turn (.step .close (by decide +kernel))
  have closed := closing.elapse 5000
  have bound : bind fewSlots { handling := .serve 1000 1000 } true = .ok fewSlotsServer := rfl
  obtain ⟨-, -, -, -, -, -, ended, -, -⟩ := lifecycle_safe bound closed
  obtain ⟨shutDown, refused⟩ := ended (by decide +kernel) _ _ .start
  exact ⟨_, _, closed, shutDown.closed, by decide +kernel, by decide +kernel, by decide +kernel,
    shutDown.ended, refused {} none 2⟩

end Admission.Server
