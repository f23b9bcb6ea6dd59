import Admission.Proofs.Floor.Work
import Admission.Proofs.Server.Promises

/-! # What a server still has to do

Whatever a server does at an instant leaves it less to do
(`Admission.Server.work_lt_of_stride`), so it comes to rest at each instant
(`Admission.Server.ends`). At rest no answer to a refused connection has an event due or is
over (`Admission.Server.rest_of_quiet`). The next event of all is no later than that of any
answer (`Admission.Server.exists_nextDue`), and the server is not at rest when it is due
(`Admission.Server.restless_of_nextDue`).
-/

namespace Admission.Server

variable {α : Type} {server next : Server α}

/-- The work of a server is that of its floor, of its answers and of its calls. -/
theorem work_eq (server : Server α) :
    server.work =
      server.floor.work + (server.rejections.map fun rejection => rejection.live.work + 1).sum
        + (server.serves.map serveWork).sum + (server.closes.map closeWork).sum := rfl

/-- One of several calls gets on, and the others have as much to do as before. -/
theorem sum_set {β : Type} (load : β → Nat) {calls : List β} {index : Nat} {call : β}
    (found : calls[index]? = some call) (later : β) :
    ((calls.set index later).map load).sum + load call =
      (calls.map load).sum + load later := by
  obtain ⟨before, behind, rfl, replaced, -⟩ := exists_split found
  rw [replaced]
  simp only [List.map_append, List.map_cons, List.sum_append, List.sum_cons]
  omega

/-- An answer that goes on leaves less work. -/
theorem work_lt_of_answer {index : Nat} (strode : server.rejectionStride index = some next) :
    next.work < server.work := by
  obtain ⟨before, rejection, behind, -, rejections,
    ⟨due, after, event, -, rfl⟩ | ⟨result, -, rfl⟩⟩ := rejectionStride_cases strode
  · have less := Live.work_lt_of_event event
    simp only [work_eq, rejections, List.map_append, List.map_cons, List.sum_append,
      List.sum_cons]
    omega
  · simp only [work_eq, rejections, List.map_append, List.map_cons, List.sum_append,
      List.sum_cons]
    omega

theorem work_lt_of_accept {index : Nat} (strode : server.serveStride index = some next) :
    next.work < server.work := by
  rcases serveStride_inv strode with ⟨listening, -, rfl⟩ | ⟨number, refusing, rfl⟩
  · have less := sum_set serveWork listening .returned
    simp only [serveWork] at less
    simp only [work_eq]
    omega
  · have less := sum_set serveWork refusing .listening
    simp only [serveWork] at less
    simp only [work_eq]
    omega

theorem work_lt_of_wind {index : Nat} (strode : server.closeStride index = some next) :
    next.work < server.work := by
  rcases closeStride_cases strode with ⟨awaiting, -, rfl⟩ | ⟨draining, -, rfl⟩
  · have less := sum_set closeWork awaiting .draining
    have more := server.floor.close_work_le
    simp only [closeWork] at less
    simp only [work_eq]
    omega
  · have less := sum_set closeWork draining .returned
    simp only [closeWork] at less
    simp only [work_eq]
    omega

/-- **Whatever happens at an instant leaves less to do.** -/
theorem work_lt_of_stride (strode : server.stride = some next) : next.work < server.work := by
  rcases stride_cases strode with ⟨floor, move, rfl⟩ | answer | accept | wind
  · have less := move.work_lt
    simp only [work_eq]
    omega
  · obtain ⟨index, strode⟩ := answer
    exact work_lt_of_answer strode
  · obtain ⟨index, strode⟩ := accept
    exact work_lt_of_accept strode
  · obtain ⟨index, strode⟩ := wind
    exact work_lt_of_wind strode

/-- A server comes to rest at every instant. -/
theorem ends [Amount α] : Timeline.Ends (Server α) where
  strides := work_lt_of_stride
  moves := fun _ _ => rfl

/-- Each of several calls is asked for something to do. -/
theorem strideAt_of_quiet {strideAt : Nat → Option (Server α)} {count index place : Nat}
    (quiet : firstStride strideAt count index = none) (since : index ≤ place)
    (below : place < index + count) : strideAt place = none := by
  induction count generalizing index with
  | zero => omega
  | succ count ih =>
      rw [firstStride] at quiet
      split at quiet
      next => cases quiet
      next still =>
        by_cases first : place = index
        · rw [first]
          exact still
        · exact ih quiet (by omega) (by omega)

/-- At rest, an answer is not over, and the next event of it is not due. -/
theorem rest_of_quiet {rejection : Rejection} (quiet : server.stride = none)
    (underway : rejection ∈ server.rejections) :
    (∀ result, rejection.live.prospect ≠ .finished result) ∧
      ∀ due after, rejection.live.prospect = .event due after → server.floor.now < due := by
  obtain ⟨index, inside, found⟩ := List.mem_iff_getElem.mp underway
  have place := List.getElem?_eq_some_iff.mpr ⟨inside, found⟩
  have still : server.rejectionStride index = none := by
    simp only [stride, Option.orElse_eq_or, Option.or_eq_none_iff] at quiet
    exact strideAt_of_quiet quiet.2.1 (Nat.zero_le _) (by omega)
  unfold rejectionStride at still
  rw [place] at still
  constructor
  · intro result finished
    simp only [finished] at still
    cases still
  · intro due after event
    apply Nat.lt_of_not_le
    intro reached
    simp only [event, if_pos reached] at still
    cases still

/-- The next event of all is no later than the next of an answer. -/
theorem exists_nextDue {rejection : Rejection} {due : Nat} {after : Live Bool}
    (underway : rejection ∈ server.rejections)
    (event : rejection.live.prospect = .event due after) :
    ∃ soon, server.nextDue = some soon ∧ soon ≤ due := by
  have among : due ∈ server.floor.nextDue.toList ++
      server.rejections.filterMap fun rejection => rejection.live.due :=
    List.mem_append_right _ (List.mem_filterMap.mpr
      ⟨rejection, underway, Live.due_eq_some_iff.mpr ⟨after, event⟩⟩)
  cases first : server.nextDue with
  | none =>
      rw [List.min?_eq_none_iff.mp first] at among
      cases among
  | some soon => exact ⟨soon, rfl, (List.min?_eq_some_iff.mp first).2 due among⟩

/-- At rest, the next event of all is still to come; when it is due, the server is not at
rest. -/
theorem restless_of_nextDue [Amount α] {due : Nat} (soon : server.nextDue = some due) :
    (server.stride = none → server.floor.now < due) ∧
      (Timeline.moveTo due server).stride ≠ none := by
  obtain ⟨member, -⟩ := List.min?_eq_some_iff.mp soon
  -- At whatever instant the server is at rest, the event is a later one.
  have later (instant : Nat) (quiet : (Timeline.moveTo instant server).stride = none) :
      instant < due := by
    rcases List.mem_append.mp member with floor | answer
    · obtain ⟨errand, after, busy, event⟩ := Floor.event_of_nextDue (Option.mem_toList.mp floor)
      simp only [stride, Option.orElse_eq_or, Option.or_eq_none_iff, Option.map_eq_none_iff]
        at quiet
      exact Floor.lt_of_quiet quiet.1 busy event
    · obtain ⟨rejection, underway, shown⟩ := List.mem_filterMap.mp answer
      obtain ⟨after, event⟩ := Live.due_eq_some_iff.mp shown
      exact (rest_of_quiet quiet underway).2 due after event
  exact ⟨later server.floor.now, fun quiet => Nat.lt_irrefl due (later due quiet)⟩

/-- A stride takes no time. -/
theorem now_of_stride (strode : server.stride = some next) :
    next.floor.now = server.floor.now := by
  rcases stride_cases strode with ⟨floor, move, rfl⟩ | answer | accept | wind
  · exact move.now_eq
  · obtain ⟨index, strode⟩ := answer
    obtain ⟨before, rejection, behind, -, -, ⟨due, after, -, -, rfl⟩ | ⟨result, -, rfl⟩⟩ :=
      rejectionStride_cases strode
    · rfl
    · rfl
  · obtain ⟨index, strode⟩ := accept
    obtain ⟨accepting, serves, rfl⟩ := serveStride_cases strode
    rfl
  · obtain ⟨index, strode⟩ := wind
    rcases closeStride_cases strode with ⟨-, -, rfl⟩ | ⟨-, -, rfl⟩
    · rfl
    · rfl

end Admission.Server
