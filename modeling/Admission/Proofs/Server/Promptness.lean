import Admission.Proofs.Server.Answers
import Admission.Proofs.Server.Courses
import Admission.Proofs.Server.Work

/-! # The dispatcher is not held up

The pool never holds a dispatch up: a connection that is taken in costs no time. A
connection that is refused holds the dispatcher up until it has its response, and no longer
than the two limits of that. What it gets and how long it takes is the run of its answer
alone (`Admission.Refusal.alone`), whatever else the server has to do
(`Admission.Server.dispatch_prompt`).
-/

namespace Admission

/-- What becomes of a refused connection when nothing else goes on. -/
def Refusal.alone (cause : Refusal) (conn : Connection) : Run Bool :=
  (respondTask cause.response limits.reject).run conn

namespace Server

variable {α : Type} {start server next : Server α} {number : Nat} {cause : Refusal}
  {target : Admission.Run Bool}

/-- The answer to a refused connection is on its way to a certain end, or there. -/
structure Answering (number : Nat) (cause : Refusal) (target : Admission.Run Bool)
    (server : Server α) : Prop where
  past : number < server.dispatched
  steady : ∀ rejection ∈ server.rejections, rejection.number = number →
    rejection.cause = cause ∧ rejection.live.Timely ∧ rejection.live.task.Gateless ∧
      rejection.live.runOut = target
  present : (∃ rejection ∈ server.rejections, rejection.number = number) ∨
    ⟨number, cause, target.conn.record⟩ ∈ server.turnedAway

/-- The dispatcher is busy with a connection exactly when it is among the refused ones. -/
theorem isAnswering_iff :
    server.isAnswering number = true ↔
      ∃ rejection ∈ server.rejections, rejection.number = number := by
  simp only [isAnswering, List.any_eq_true, beq_iff_eq]

namespace Answering

/-- An answer goes on, or is over, as it is bound to. -/
theorem answer (answering : Answering number cause target server)
    (complete : target.result.isSome = true) {index : Nat}
    (strode : server.rejectionStride index = some next) : Answering number cause target next := by
  obtain ⟨past, steady, present⟩ := answering
  obtain ⟨-, dispatched, -⟩ := (Step.answer index strode).frame
  obtain ⟨-, rejection, here, others, ⟨due, after, event, -, away, onward, places⟩ |
    ⟨result, finished, away, places⟩⟩ := answer_cases strode
  · refine ⟨dispatched ▸ past, ?_, ?_⟩
    · intro other member same
      rcases places other member with rfl | earlier
      · obtain ⟨asked, timely, gateless, runOut⟩ := steady rejection here same
        obtain ⟨later, unchanged⟩ := Live.runOut_of_event timely event
        exact ⟨asked, later, Live.gateless_of_event gateless timely event, unchanged.trans runOut⟩
      · exact steady other earlier same
    · rw [away]
      rcases present with ⟨other, member, same⟩ | done
      · rcases others other member with rfl | kept
        · exact .inl ⟨_, onward, same⟩
        · exact .inl ⟨other, kept, same⟩
      · exact .inr done
  · refine ⟨dispatched ▸ past, fun other member => steady other (places other member), ?_⟩
    rw [away]
    rcases present with ⟨other, member, same⟩ | done
    · rcases others other member with rfl | kept
      · obtain ⟨rfl, timely, -, runOut⟩ := steady other here same
        obtain ⟨ended, conn⟩ := Live.runOut_of_finished timely finished
        rw [runOut] at ended conn
        rw [← ended, if_pos complete] at conn
        rw [conn, ← same]
        exact .inr (List.mem_append_right _ (List.mem_singleton_self _))
      · exact .inl ⟨other, kept, same⟩
    · exact .inr (List.mem_append_left _ done)

/-- A step brings the answer no further than to its certain end. -/
theorem step (answering : Answering number cause target server)
    (complete : target.result.isSome = true) (step : server.Step next) :
    Answering number cause target next := by
  rcases step.shape with ⟨index, strode⟩ | ⟨_, _, _, _, _, _, _, _, -, rfl⟩
  · exact answering.answer complete strode
  · exact ⟨answering.past, answering.steady, answering.present⟩

/-- An answer that is no longer under way ended as was certain. -/
theorem of_gone (answering : Answering number cause target server)
    (gone : server.isAnswering number = false) :
    ⟨number, cause, target.conn.record⟩ ∈ server.turnedAway := by
  apply answering.present.resolve_left
  intro underway
  cases gone.symm.trans (isAnswering_iff.mpr underway)

/-- At rest, the answer is over, or it goes on later and before its end. -/
theorem of_quiet (answering : Answering number cause target server) (quiet : server.stride = none)
    {rejection : Rejection} (underway : rejection ∈ server.rejections)
    (same : rejection.number = number) :
    ∃ due after, rejection.live.prospect = .event due after ∧ server.floor.now < due ∧
      due ≤ target.took := by
  obtain ⟨-, timely, gateless, runOut⟩ := answering.steady rejection underway same
  obtain ⟨unfinished, later⟩ := rest_of_quiet quiet underway
  rcases Live.prospect_of_gateless gateless timely with ⟨result, gone⟩ | ⟨due, after, event, -⟩
  · exact (unfinished result gone).elim
  · have within := Live.due_le_runOut timely event
    rw [runOut] at within
    exact ⟨due, after, event, later due after event, within⟩

end Answering

/-- The dispatcher waits for an answer that goes on in time, or it was over just now. -/
structure Awaiting (number : Nat) (cause : Refusal) (target : Admission.Run Bool)
    (server : Server α) : Prop where
  answering : Answering number cause target server
  underway : ∀ rejection ∈ server.rejections, rejection.number = number →
    rejection.live.clock ≤ server.floor.now ∧ server.floor.now ≤ target.took
  gone : (∀ rejection ∈ server.rejections, rejection.number ≠ number) →
    server.floor.now = target.took

namespace Awaiting

/-- The answers that go on keep the dispatcher waiting in time. -/
theorem answer (awaiting : Awaiting number cause target server)
    (complete : target.result.isSome = true) {index : Nat}
    (strode : server.rejectionStride index = some next) : Awaiting number cause target next := by
  have later := awaiting.answering.answer complete strode
  obtain ⟨answering, underway, gone⟩ := awaiting
  obtain ⟨floor, rejection, here, others, ⟨due, after, event, reached, -, onward, places⟩ |
    ⟨result, finished, -, places⟩⟩ := answer_cases strode
  · rw [← floor] at underway gone reached
    refine ⟨later, ?_, ?_⟩
    · intro other member same
      rcases places other member with rfl | earlier
      · obtain ⟨-, timely, -, -⟩ := answering.steady rejection here same
        obtain ⟨clock, -⟩ := Live.clock_of_event timely event
        exact ⟨Nat.le_trans (Nat.le_of_eq clock) reached, (underway rejection here same).2⟩
      · exact underway other earlier same
    · intro none
      apply gone
      intro other member same
      rcases others other member with rfl | kept
      · exact none _ onward same
      · exact none other kept same
  · rw [← floor] at underway gone
    refine ⟨later, fun other member => underway other (places other member), ?_⟩
    intro none
    by_cases same : rejection.number = number
    · -- The answer is over at its own end, which is the present instant.
      obtain ⟨-, timely, -, runOut⟩ := answering.steady rejection here same
      have ended := Live.took_of_finished timely finished
      obtain ⟨past, within⟩ := underway rejection here same
      rw [runOut] at ended
      exact Nat.le_antisymm within (Nat.le_trans (Nat.le_of_eq ended) past)
    · apply gone
      intro other member numbered
      rcases others other member with rfl | kept
      · exact same numbered
      · exact none other kept numbered

theorem stride (awaiting : Awaiting number cause target server)
    (complete : target.result.isSome = true) (strode : server.stride = some next) :
    Awaiting number cause target next := by
  have now := now_of_stride strode
  have later := awaiting.answering.step complete (stride_step strode)
  rcases (stride_step strode).shape with ⟨index, strode⟩ | ⟨_, _, _, _, _, _, _, _, -, rfl⟩
  · exact awaiting.answer complete strode
  · obtain ⟨-, underway, gone⟩ := awaiting
    rw [← now] at underway gone
    exact ⟨later, underway, gone⟩

/-- As long as the dispatcher waits, an event of the answer is to come. -/
theorem pursues [Amount α] (complete : target.result.isSome = true) :
    Timeline.Pursues (fun server : Server α => !server.isAnswering number)
      (Awaiting number cause target) where
  strides := fun awaiting strode => awaiting.stride complete strode
  moves := by
    intro server due awaiting quiet waiting soon
    obtain ⟨later, -⟩ := restless_of_nextDue soon
    obtain ⟨rejection, member, same⟩ := isAnswering_iff.mp (by simpa using waiting)
    obtain ⟨instant, after, event, -, within⟩ := awaiting.answering.of_quiet quiet member same
    -- The clock goes forward, and not past the end of the answer.
    obtain ⟨first, found, before⟩ := exists_nextDue member event
    obtain rfl := Option.some.inj (soon.symm.trans found)
    have next := later quiet
    refine ⟨awaiting.answering.step complete (.wait due), ?_, ?_⟩
    · intro other underway numbered
      obtain ⟨past, -⟩ := awaiting.underway other underway numbered
      exact ⟨Nat.le_trans past (Nat.le_of_lt next), Nat.le_trans before within⟩
    · intro none
      exact (none rejection member same).elim
  busy := by
    intro server awaiting quiet waiting
    obtain ⟨rejection, member, same⟩ := isAnswering_iff.mp (by simpa using waiting)
    obtain ⟨instant, after, event, -, -⟩ := awaiting.answering.of_quiet quiet member same
    obtain ⟨due, soon, -⟩ := exists_nextDue member event
    obtain ⟨-, restless⟩ := restless_of_nextDue soon
    exact ⟨due, soon, restless⟩

end Awaiting

variable [Amount α]

namespace Answering

theorem dispatch (answering : Answering number cause target server) (conn : Connection)
    (peer : Option SocketAddress) :
    Answering number cause target (server.dispatch conn peer).2 := by
  obtain ⟨past, steady, present⟩ := answering
  have before := Nat.lt_succ_of_lt past
  rcases server.dispatch_cases conn peer with
    ⟨limiter, counts, pool, -, decided⟩ | ⟨limiter, counts, other, decided⟩
  · rw [decided]
    exact ⟨before, steady, present⟩
  · rw [decided]
    refine ⟨before, ?_, ?_⟩
    · intro rejection member same
      rcases List.mem_append.mp member with earlier | last
      · exact steady rejection earlier same
      · obtain rfl := List.mem_singleton.mp last
        exact (Nat.ne_of_gt past same).elim
    · rcases present with ⟨rejection, member, same⟩ | done
      · exact .inl ⟨rejection, List.mem_append_left _ member, same⟩
      · exact .inr done

/-- Whatever else a server is asked for, an answer ends as it is bound to. -/
theorem run (answering : Answering number cause target start)
    (complete : target.result.isSome = true) {dispatches : List Dispatched}
    (run : Run start dispatches server) : Answering number cause target server := by
  induction run with
  | start => exact answering
  | step before step ih => exact ih.step complete step
  | dispatch before conn peer fresh ih => exact ih.dispatch conn peer
  | arrive before conn peer fresh arrived ih =>
      obtain ⟨serves, rfl⟩ := arrive_cases arrived
      obtain ⟨past, steady, present⟩ := ih.dispatch conn peer
      exact ⟨past, steady, present⟩

end Answering

/-- A connection that is refused is answered from then on. -/
theorem awaiting_of_refused (numbered : server.Numbered) {conn : Connection}
    {peer : Option SocketAddress}
    (refused : (server.dispatch conn peer).1 = .refused number cause) :
    Awaiting number cause ((cause.alone conn).after server.floor.now)
      (server.dispatch conn peer).2 := by
  rcases server.dispatch_cases conn peer with
    ⟨limiter, counts, pool, -, decided⟩ | ⟨limiter, counts, other, decided⟩
  · rw [decided] at refused
    cases refused
  · rw [decided] at refused ⊢
    obtain ⟨rfl, rfl⟩ := Decision.refused.inj refused
    -- The connection is the only one of its number.
    have only {rejection : Rejection}
        (member : rejection ∈ server.rejections ++ [⟨server.dispatched, other,
          .enter (respondTask other.response limits.reject) conn server.floor.now⟩])
        (same : rejection.number = server.dispatched) :
        rejection = ⟨server.dispatched, other,
          .enter (respondTask other.response limits.reject) conn server.floor.now⟩ := by
      rcases List.mem_append.mp member with earlier | last
      · exact (Nat.ne_of_lt (numbered rejection earlier) same).elim
      · exact List.mem_singleton.mp last
    refine ⟨⟨Nat.lt_succ_self _, ?_, ?_⟩, ?_, ?_⟩
    · intro rejection member same
      obtain rfl := only member same
      obtain ⟨task, -, -⟩ :=
        Live.enter_task (respondTask other.response limits.reject) conn server.floor.now
      refine ⟨rfl, Live.enter_timely .., ?_, Live.enter_runOut ..⟩
      rw [task]
      exact respondTask_gateless _ _
    · exact .inl ⟨_, List.mem_append_right _ (List.mem_singleton_self _), rfl⟩
    · intro rejection member same
      obtain rfl := only member same
      exact ⟨Nat.le_refl _, Nat.le_add_right _ _⟩
    · intro none
      exact (none _ (List.mem_append_right _ (List.mem_singleton_self _)) rfl).elim

/-- **The dispatcher is not held up.** Whatever state a server has come to, and whatever the
peer of a connection does: if the pool takes the connection in, the dispatch takes no time.
If it is refused, the dispatcher is free again after the time that its answer alone takes,
which is at most the limit of the response and that of the shutdown, and the record of the
connection, with the bytes that its peer took, is the one that its answer alone leaves; both
depend on the connection and the cause only. It is no different when other calls are made
meanwhile: at rest, as soon as that time has passed, the connection is done with. -/
theorem dispatch_prompt {config : Config} {processor : Processor} {counting : Bool}
    {resolve : Resolver} {log : List Deed}
    (bound : bind config processor counting resolve = .ok start)
    (course : Course start log server) (conn : Connection) (peer : Option SocketAddress) :
    (∀ id, (server.dispatchThrough conn peer).1 = .accepted id →
      (server.dispatchThrough conn peer).2.floor.now = server.floor.now) ∧
    (∀ number cause, (server.dispatchThrough conn peer).1 = .refused number cause →
      let alone := cause.alone conn
      alone.took ≤ limits.reject + limits.close ∧
      ((server.dispatchThrough conn peer).2.isAnswering number = false ∧
        (server.dispatchThrough conn peer).2.floor.now = server.floor.now + alone.took ∧
        ⟨number, cause, alone.conn.record⟩ ∈ (server.dispatchThrough conn peer).2.turnedAway) ∧
      (∀ dispatches later, Run (server.dispatch conn peer).2 dispatches later →
        later.stride = none → server.floor.now + alone.took ≤ later.floor.now →
        later.isAnswering number = false ∧
          ⟨number, cause, alone.conn.record⟩ ∈ later.turnedAway)) ∧
    limits.reject = 250 ∧ limits.close = 500 := by
  have numbered := course.numbered bound
  obtain ⟨-, -, -, -, -, same⟩ := server.dispatch_frame conn peer
  have awaiting {number : Nat} {cause : Refusal}
      (refused : (server.dispatch conn peer).1 = .refused number cause) :
      Awaiting number cause ((cause.alone conn).after server.floor.now)
        (server.dispatch conn peer).2 := awaiting_of_refused numbered refused
  unfold dispatchThrough
  generalize server.dispatch conn peer = dispatched at same awaiting
  obtain ⟨decision, after⟩ := dispatched
  cases decision with
  | accepted id => exact ⟨fun _ _ => same, nofun, rfl, rfl⟩
  | refused number cause =>
      refine ⟨nofun, ?_, rfl, rfl⟩
      intro _ _ refused
      obtain ⟨rfl, rfl⟩ := Decision.refused.inj refused
      have begun := awaiting rfl
      have complete : ((cause.alone conn).after server.floor.now).result.isSome = true := rfl
      refine ⟨respondTask_took_le cause.response limits.reject conn, ?_, ?_⟩
      · obtain ⟨reached, free⟩ := (Awaiting.pursues complete).runUntil ends begun
        have gone := Bool.not_eq_eq_eq_not.mp free
        refine ⟨gone, ?_, reached.answering.of_gone gone⟩
        apply reached.gone
        intro rejection member numbered
        cases gone.symm.trans (isAnswering_iff.mpr ⟨rejection, member, numbered⟩)
      · intro dispatches later run quiet passed
        have answering := begun.answering.run complete run
        have gone : later.isAnswering number = false := by
          apply eq_false_of_ne_true
          intro underway
          obtain ⟨rejection, member, numbered⟩ := isAnswering_iff.mp underway
          obtain ⟨due, after, -, soon, within⟩ := answering.of_quiet quiet member numbered
          have ended : due ≤ server.floor.now + (cause.alone conn).took := within
          omega
        exact ⟨gone, answering.of_gone gone⟩

/-- The only worker has a silent job and the queue is full; the peer of the third connection
takes nothing and does not close. It holds the dispatcher up as long as any may. -/
theorem dispatch_prompt_stalled :
    ∃ (server : Server Rat) (log : List Deed) (record : Record),
      Course fewSlotsServer log server ∧ server.floor.pool.free = 0 ∧
      (server.dispatchThrough { writes := [.stall], closing := [.stall] } none).1 =
        .refused 2 .queueFull ∧
      (server.dispatchThrough { writes := [.stall], closing := [.stall] } none).2.floor.now =
        server.floor.now + 750 ∧
      ⟨2, .queueFull, record⟩ ∈
        (server.dispatchThrough { writes := [.stall], closing := [.stall] } none).2.turnedAway ∧
      record.written = [] ∧ record.drops = 1 := by
  have fresh : Course fewSlotsServer [] fewSlotsServer := .start
  have saturated := (fresh.turn (.dispatch {} none)).turn (.dispatch {} none)
  have bound : bind fewSlots { handling := .serve 1000 1000 } true = .ok fewSlotsServer := rfl
  obtain ⟨-, prompt, -⟩ := dispatch_prompt bound saturated
    { writes := [.stall], closing := [.stall] } none
  obtain ⟨-, ⟨-, instant, away⟩, -⟩ := prompt 2 .queueFull (by decide +kernel)
  exact ⟨_, _, _, saturated, by decide +kernel, by decide +kernel,
    instant.trans (by decide +kernel), away, by decide +kernel, by decide +kernel⟩

end Server

end Admission
