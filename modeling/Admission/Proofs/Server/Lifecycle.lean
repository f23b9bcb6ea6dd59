import Admission.Proofs.Pool.Drain
import Admission.Proofs.Server.Promises

/-! # The stages of a server's life

The calls that close a server, its lifecycle, and its pool go through their stages
together (`Admission.Server.Stage`): only the first call to close does anything; it stops
admission when no accept loop is left, and it returns when the pool is drained. So when
it has returned, no job is queued and none is under way
(`Admission.Server.Wound.of_returned`).
-/

namespace Admission.Server

/-- The stages of closing: the lifecycle, the calls that close the server, whether the
pool is open, the calls that wait for its drain, and whether it is drained. -/
inductive Stage : Lifecycle → List CloseCall → Bool → List Closing → Bool → Prop where
  | running {drained : Bool} : Stage .running [] true [] drained
  | awaiting {others : List CloseCall} {drained : Bool} (past : ∀ call ∈ others, call = .returned) :
      Stage .closing (.awaitingListener :: others) true [] drained
  | draining {others : List CloseCall} {drained : Bool} (past : ∀ call ∈ others, call = .returned) :
      Stage .closing (.draining :: others) false [.draining] drained
  | drained {others : List CloseCall} (past : ∀ call ∈ others, call = .returned) :
      Stage .closing (.draining :: others) false [.returned] true
  | closed {others : List CloseCall} (past : ∀ call ∈ others, call = .returned) :
      Stage .closed (.returned :: others) false [.returned] true

variable {α : Type}

/-- A server whose closing is in order, over a pool whose permits are accounted for. -/
structure Wound (size : Pool.Config) (server : Server α) : Prop where
  sound : server.floor.pool.Sound size 0
  stage : Stage server.lifecycle server.closes server.floor.pool.isOpen server.floor.closings
    server.floor.pool.drained

namespace Stage

variable {lifecycle : Lifecycle} {closes : List CloseCall} {isOpen drained : Bool}
  {closings : List Closing}

/-- Only the first call to close is ever in progress. -/
theorem first_of_busy {first call : CloseCall} {others : List CloseCall} {index : Nat}
    (past : ∀ call ∈ others, call = .returned) (found : (first :: others)[index]? = some call)
    (busy : call ≠ .returned) : index = 0 ∧ call = first := by
  cases index with
  | zero => exact ⟨rfl, (Option.some.inj found).symm⟩
  | succ index => exact (busy (past call (List.mem_of_getElem? found))).elim

/-- The call that waits for the listener shuts the pool and goes on to wait for the drain. -/
theorem of_awaiting {index : Nat} (stage : Stage lifecycle closes isOpen closings drained)
    (awaiting : closes[index]? = some .awaitingListener) :
    isOpen = true ∧ closings = [] ∧
      Stage lifecycle (closes.set index .draining) false [.draining] drained := by
  cases stage with
  | running => cases awaiting
  | awaiting past =>
      obtain ⟨rfl, -⟩ := first_of_busy past awaiting nofun
      exact ⟨rfl, rfl, .draining past⟩
  | draining past => cases (first_of_busy past awaiting nofun).2
  | drained past => cases (first_of_busy past awaiting nofun).2
  | closed past => cases (first_of_busy past awaiting nofun).2

/-- The call that waits for the drain returns when the wait in the pool is over. -/
theorem of_draining {index : Nat} (stage : Stage lifecycle closes isOpen closings drained)
    (draining : closes[index]? = some .draining) (past : .draining ∉ closings) :
    Stage .closed (closes.set index .returned) isOpen closings drained := by
  cases stage with
  | running => cases draining
  | awaiting others => cases (first_of_busy others draining nofun).2
  | draining others => exact (past List.mem_cons_self).elim
  | drained others =>
      obtain ⟨rfl, -⟩ := first_of_busy others draining nofun
      exact .closed others
  | closed others => cases (first_of_busy others draining nofun).2

theorem of_join (stage : Stage lifecycle closes isOpen closings drained)
    (waiting : .draining ∈ closings) (empty : drained = true) :
    Stage lifecycle closes isOpen (closings.map fun _ => .returned) drained := by
  subst empty
  cases stage with
  | running => cases waiting
  | awaiting past => cases waiting
  | draining past => exact .drained past
  | drained past => cases List.mem_singleton.mp waiting
  | closed past => cases List.mem_singleton.mp waiting

/-- While the pool works, whether it is drained later makes no difference. -/
theorem of_working (stage : Stage lifecycle closes isOpen closings drained)
    (busy : drained = false) (later : Bool) : Stage lifecycle closes isOpen closings later := by
  subst busy
  cases stage with
  | running => exact .running
  | awaiting past => exact .awaiting past
  | draining past => exact .draining past

/-- When the first call to close has returned, the pool is drained. -/
theorem of_returned (stage : Stage lifecycle closes isOpen closings drained)
    (returned : closes.head? = some .returned) : drained = true := by
  cases stage with
  | running => cases returned
  | awaiting past => cases returned
  | draining past => cases returned
  | drained past => cases returned
  | closed past => rfl

/-- The first call to close begins the closing, and any other returns at once. -/
theorem of_close (stage : Stage lifecycle closes isOpen closings drained) :
    if lifecycle = .running then
      Stage .closing (closes ++ [.awaitingListener]) isOpen closings drained
    else Stage lifecycle (closes ++ [.returned]) isOpen closings drained := by
  have more {others : List CloseCall} (past : ∀ call ∈ others, call = .returned) :
      ∀ call ∈ others ++ [.returned], call = .returned := by
    intro call member
    rcases List.mem_append.mp member with earlier | last
    · exact past call earlier
    · exact List.mem_singleton.mp last
  cases stage with
  | running => exact .awaiting nofun
  | awaiting past => exact .awaiting (more past)
  | draining past => exact .draining (more past)
  | drained past => exact .drained (more past)
  | closed past => exact .closed (more past)

end Stage

namespace Wound

variable {size : Pool.Config} {server next : Server α}

/-- What happens to a server keeps its closing in order. -/
theorem step (wound : Wound size server) (step : server.Step next) : Wound size next := by
  obtain ⟨sound, stage⟩ := wound
  cases step with
  | floor move =>
      refine ⟨move.sound sound, ?_⟩
      rcases move.working_or_joining with ⟨busy, closings, isOpen⟩ | ⟨drained, waiting, rfl⟩
      · simp only [closings, isOpen]
        exact stage.of_working busy _
      · exact stage.of_join waiting drained
  | answer index strode =>
      obtain ⟨before, rejection, behind, -, -, ⟨due, after, -, -, rfl⟩ | ⟨result, -, rfl⟩⟩ :=
        rejectionStride_cases strode
      · exact ⟨sound, stage⟩
      · exact ⟨sound, stage⟩
  | accept index strode =>
      obtain ⟨accepting, serves, rfl⟩ := serveStride_cases strode
      exact ⟨sound, stage⟩
  | wind index strode =>
      rcases closeStride_cases strode with ⟨awaiting, -, rfl⟩ | ⟨draining, past, rfl⟩
      · obtain ⟨isOpen, closings, later⟩ := stage.of_awaiting awaiting
        refine ⟨sound.close, ?_⟩
        simp only [Floor.close, isOpen, closings]
        exact later
      · exact ⟨sound, stage.of_draining draining past⟩
  | wait instant => exact ⟨sound, stage⟩
  | tick clock => exact ⟨sound, stage⟩
  | serve =>
      obtain ⟨hasListener, accepting, serves, after⟩ := server.serve_cases
      rw [after]
      exact ⟨sound, stage⟩
  | close =>
      have later := stage.of_close
      unfold Server.close
      split
      next running =>
        rw [if_pos running] at later
        exact ⟨sound, later⟩
      next running =>
        rw [if_neg running] at later
        exact ⟨sound, later⟩

theorem dispatch [Amount α] (wound : Wound size server) (staff : 0 < size.workers.toNat)
    (conn : Connection) (peer : Option SocketAddress) :
    Wound size (server.dispatch conn peer).2 := by
  obtain ⟨sound, stage⟩ := wound
  rcases server.dispatch_cases conn peer with
    ⟨limiter, counts, pool, submitted, decided⟩ | ⟨limiter, counts, cause, decided⟩
  · have after := sound.submit staff
      (.waiting server.dispatched { id := server.dispatched + 1, peer }
        (server.floor.processor.task (server.dispatched + 1)) conn)
    rw [submitted] at after
    rw [decided]
    refine ⟨after, ?_⟩
    obtain rfl := Pool.eq_of_accepted submitted
    exact stage
  · rw [decided]
    exact ⟨sound, stage⟩

/-- When the call that closes the server has returned, no job is left in its pool. -/
theorem of_returned (wound : Wound size server) (staff : 0 < size.workers.toNat)
    (returned : server.closes.head? = some .returned) :
    server.floor.pool.queue = [] ∧ ∀ worker ∈ server.floor.pool.workers, worker = .gone := by
  have drained := wound.stage.of_returned returned
  exact ⟨(wound.sound.of_drained staff drained).1, Pool.drained_iff.mp drained⟩

end Wound

/-- The closing of a server is in order all along a run. -/
theorem Run.wound [Amount α] {config : Config} {processor : Processor} {counting : Bool}
    {resolve : Resolver} {start server : Server α} {dispatches : List Dispatched}
    (bound : bind config processor counting resolve = .ok start)
    (run : Run start dispatches server) :
    0 < config.pool.workers.toNat ∧ Wound config.pool server := by
  obtain ⟨valid, host, rfl⟩ := bind_cases bound
  obtain ⟨staff, -⟩ := Pool.Config.validate_ok (Config.pool_validate valid)
  refine ⟨staff, ?_⟩
  induction run with
  | start => exact ⟨Pool.start_sound config.pool, .running⟩
  | step before step ih => exact ih.step step
  | dispatch before conn peer fresh ih => exact ih.dispatch staff conn peer
  | arrive before conn peer fresh arrived ih =>
      obtain ⟨serves, rfl⟩ := arrive_cases arrived
      obtain ⟨sound, stage⟩ := ih.dispatch staff conn peer
      exact ⟨sound, stage⟩

end Admission.Server
