import Admission.Proofs.Server.Crowds

/-! # The accounts of a server

Three records are kept of the connections that are dispatched: the numbers that the calls
take, what the sink is told, and the jobs that the pool took in. Calls that cut across each
other update them at different points, yet all three agree with how far each call has come
(`Admission.Server.Accounted`), and no step of any of them, or of the server, changes that
(`Admission.Server.Accounted.step`). When no call is midway, the counts are those of the
results that the calls returned (`Admission.Server.dispatches_accounted`).
-/

namespace Admission

namespace Floor

/-- The jobs that were taken in, by number and id: those queued, under way, and over. -/
def jobs (floor : Floor) : List (Nat × Nat) :=
  floor.pool.queue.map (fun errand => (errand.number, errand.job.id))
    ++ (floor.pool.processing.map (fun errand => (errand.number, errand.job.id))
      ++ floor.endings.map fun ending => (ending.number, ending.id))

/-- The jobs on a faithful floor are those that were taken in. -/
theorem Faithful.jobs {processor : Processor} {intakes : List Intake} {floor : Floor}
    (faithful : Faithful processor intakes floor) :
    floor.jobs.Perm (intakes.map fun intake => (intake.number, intake.job.id)) := by
  have named := faithful.foreseen.map fun forecast => (forecast.number, forecast.id)
  simp only [forecasts, underway, List.map_append, List.map_map] at named
  exact named

theorem Faithful.perm {processor : Processor} {intakes others : List Intake} {floor : Floor}
    (faithful : Faithful processor intakes floor) (same : intakes.Perm others) :
    Faithful processor others floor :=
  ⟨faithful.handled, faithful.timely, faithful.foreseen.trans (same.map _)⟩

end Floor

namespace Server

namespace DispatchCall

/-- The job of a call whose connection the pool took in. -/
def intake (call : DispatchCall) : Option Intake :=
  match call.progress with
  | .taken => some ⟨call.number, call.job, call.conn⟩
  | .returned (.ok _) => some ⟨call.number, call.job, call.conn⟩
  | _ => none

/-- What the sink was told because of a call: that a connection was taken in, or why it was
refused. -/
def told (call : DispatchCall) : Option (Option Refusal) :=
  match call.progress with
  | .answering cause => some (some cause)
  | .returned (.ok _) => some none
  | .returned (.error cause) => some (some cause)
  | _ => none

/-- What the call returned, if it did. -/
def result (call : DispatchCall) : Option (Except Refusal Nat) :=
  match call.progress with
  | .returned result => some result
  | _ => none

/-- A call that has a result has returned it. -/
theorem progress_of_result {call : DispatchCall} {answer : Except Refusal Nat}
    (answered : call.result = some answer) : call.progress = .returned answer := by
  unfold result at answered
  split at answered
  next other progress =>
    obtain rfl := Option.some.inj answered
    exact progress
  next => cases answered

/-- The number and the id of a connection that the pool took in. A call that has returned
answered the id. -/
def admitted (call : DispatchCall) : Option (Nat × Nat) :=
  match call.progress with
  | .taken => some (call.number, call.id)
  | .returned (.ok id) => some (call.number, id)
  | _ => none

/-- Whether the pool took the connection in and that is not counted yet. -/
def isUncounted (call : DispatchCall) : Bool :=
  call.progress = .taken

end DispatchCall

theorem length_eq_counts (told : List (Option Refusal)) :
    told.length = told.count none + (told.count (some .rateLimited)
      + told.count (some .queueFull) + told.count (some .queueClosed)) := by
  induction told with
  | nil => rfl
  | cons event told ih =>
      rcases event with _ | cause
      · simp
        omega
      · cases cause <;> simp <;> omega

/-- The counts are those of what the sink was told. -/
structure Tallied (told : List (Option Refusal)) (counts : Counts) : Prop where
  accepted : counts.accepted = told.count none
  refused : ∀ cause, counts.refused cause = told.count (some cause)

namespace Tallied

variable {told others : List (Option Refusal)} {counts : Counts}

theorem perm (tallied : Tallied told counts) (same : told.Perm others) :
    Tallied others counts where
  accepted := tallied.accepted.trans (same.count_eq none)
  refused := fun cause => (tallied.refused cause).trans (same.count_eq (some cause))

theorem accept (tallied : Tallied told counts) : Tallied (told ++ [none]) counts.accept := by
  refine ⟨?_, ?_⟩
  · rw [List.count_append, ← tallied.accepted]
    rfl
  · intro cause
    rw [List.count_append, ← tallied.refused cause]
    cases cause <;> rfl

theorem refuse (tallied : Tallied told counts) (cause : Refusal) :
    Tallied (told ++ [some cause]) (counts.refuse cause) := by
  refine ⟨?_, ?_⟩
  · rw [List.count_append, ← tallied.accepted]
    cases cause <;> rfl
  · intro other
    rw [List.count_append, ← tallied.refused other]
    cases cause <;> cases other <;> rfl

/-- The counts add up to all that was told. -/
theorem total (tallied : Tallied told counts) :
    counts.accepted + counts.totalRefused = told.length := by
  calc counts.accepted + counts.totalRefused
      = counts.accepted + (counts.refused .rateLimited + counts.refused .queueFull
          + counts.refused .queueClosed) := rfl
    _ = told.length := by
        rw [tallied.accepted, tallied.refused, tallied.refused, tallied.refused]
        exact (length_eq_counts told).symm

end Tallied

/-- One of several items changes, and is mapped to what it was mapped to. -/
theorem filterMap_set_of_eq {β γ : Type} {f : β → Option γ} {items : List β} {index : Nat}
    {item other : β} (found : items[index]? = some item) (same : f other = f item) :
    (items.set index other).filterMap f = items.filterMap f := by
  obtain ⟨before, behind, rfl, replaced, -⟩ := exists_split found
  rw [replaced]
  simp only [List.filterMap_append, List.filterMap_cons, same]

/-- One of several items changes, and is mapped to something for the first time. -/
theorem filterMap_set_of_none {β γ : Type} {f : β → Option γ} {items : List β} {index : Nat}
    {item other : β} {news : γ} (found : items[index]? = some item) (before : f item = none)
    (now : f other = some news) :
    (items.filterMap f ++ [news]).Perm ((items.set index other).filterMap f) := by
  obtain ⟨earlier, behind, rfl, replaced, -⟩ := exists_split found
  rw [replaced]
  simp only [List.filterMap_append, List.filterMap_cons, before, now, List.append_assoc]
  exact (perm_last _ _ _).symm

/-- When every call has returned, the sink was told their results. -/
theorem told_of_returned {calls : List DispatchCall}
    (returned : ∀ call ∈ calls, call.result ≠ none) :
    calls.filterMap DispatchCall.told =
      (calls.filterMap DispatchCall.result).map fun result =>
        match result with
        | .ok _ => none
        | .error cause => some cause := by
  rw [List.map_filterMap]
  apply List.filterMap_congr
  intro call member
  obtain ⟨answer, answered⟩ := Option.ne_none_iff_exists'.mp (returned call member)
  have progress := DispatchCall.progress_of_result answered
  rw [DispatchCall.told, answered, progress]
  cases answer with
  | ok id => rfl
  | error cause => rfl

/-- A call whose job was accepted has its connection taken in. -/
theorem Progress.ofSubmission_of_accepted {β : Type} {answer : Submission β}
    (accepted : answer.isAccepted = true) : ofSubmission answer = .taken := by
  cases answer with
  | accepted => rfl
  | full job => cases accepted
  | closed job => cases accepted

/-- A call whose job came back is refused. -/
theorem Progress.ofSubmission_of_refused {β : Type} {answer : Submission β}
    (refused : answer.isAccepted = false) : ∃ cause, ofSubmission answer = .refused cause := by
  cases answer with
  | accepted => cases refused
  | full job => exact ⟨.queueFull, rfl⟩
  | closed job => exact ⟨.queueClosed, rfl⟩

variable {α : Type} {server : Server α}

theorem tell_of_counting (counting : server.counting = true) (event : Counts → Counts) :
    server.tell event = { server with counts := event server.counts } :=
  if_pos counting

/-- A server that counts notes the refusal, and the answer begins. -/
theorem reject_of_counting (counting : server.counting = true) (number : Nat) (cause : Refusal)
    (conn : Connection) :
    (server.reject number cause conn).2 =
      { server with
        counts := server.counts.refuse cause
        rejections := server.rejections ++ [⟨number, cause,
          Live.enter (respondTask cause.response limits.reject) conn server.floor.now⟩] } := by
  rw [reject, tell_of_counting counting]

/-- The numbers of the calls, the jobs of the pool and the counts agree with the calls. -/
structure Accounted (processor : Processor) (crowd : Crowd α) : Prop where
  counting : crowd.server.counting = true
  entered : crowd.server.dispatched = crowd.calls.length
  numbered : ∀ (index : Nat) (call : DispatchCall), crowd.calls[index]? = some call →
    call.number = index
  named : ∀ call ∈ crowd.calls, ∀ id, call.progress = .returned (.ok id) → id = call.id
  kept : crowd.server.floor.Faithful processor (crowd.calls.filterMap DispatchCall.intake)
  tallied : Tallied (crowd.calls.filterMap DispatchCall.told) crowd.server.counts

namespace Accounted

variable {processor : Processor} {crowd next : Crowd α}

/-- A call that goes on keeps its number. -/
theorem advance (accounted : Accounted processor crowd) {server : Server α} {index : Nat}
    {call : DispatchCall} {progress : Progress} (found : crowd.calls[index]? = some call)
    (frame : server.counting = crowd.server.counting ∧
      server.dispatched = crowd.server.dispatched)
    (named : ∀ id, progress = .returned (.ok id) → id = call.id)
    (kept : server.floor.Faithful processor
      ((crowd.calls.set index { call with progress }).filterMap DispatchCall.intake))
    (tallied : Tallied
      ((crowd.calls.set index { call with progress }).filterMap DispatchCall.told)
      server.counts) :
    Accounted processor (crowd.advance server index call progress) := by
  obtain ⟨counting, entered⟩ := frame
  refine ⟨counting.trans accounted.counting, ?_, ?_, ?_, kept, tallied⟩
  · exact (entered.trans accounted.entered).trans List.length_set.symm
  · intro place other shown
    by_cases same : place = index
    · obtain ⟨inside, -⟩ := List.getElem?_eq_some_iff.mp found
      rw [Crowd.advance, same, List.getElem?_set_self inside] at shown
      obtain rfl := Option.some.inj shown
      rw [same]
      exact accounted.numbered index call found
    · rw [Crowd.advance, List.getElem?_set_ne (Ne.symm same)] at shown
      exact accounted.numbered place other shown
  · intro other member id returned
    rcases List.mem_or_eq_of_mem_set member with earlier | rfl
    · exact accounted.named other earlier id returned
    · exact named id returned

/-- A call that goes on without a word to the sink, the pool or its caller. -/
theorem silent (accounted : Accounted processor crowd) {server : Server α} {index : Nat}
    {call : DispatchCall} {progress : Progress} (found : crowd.calls[index]? = some call)
    (frame : server.counting = crowd.server.counting ∧
      server.dispatched = crowd.server.dispatched)
    (floor : server.floor = crowd.server.floor) (counts : server.counts = crowd.server.counts)
    (unanswered : ∀ id, progress ≠ .returned (.ok id))
    (intake : { call with progress }.intake = call.intake)
    (told : { call with progress }.told = call.told) :
    Accounted processor (crowd.advance server index call progress) := by
  refine accounted.advance found frame ?_ ?_ ?_
  · intro id answered
    exact (unanswered id answered).elim
  · rw [floor, filterMap_set_of_eq found intake]
    exact accounted.kept
  · rw [counts, filterMap_set_of_eq found told]
    exact accounted.tallied

variable [Amount α]

/-- Every step, of a call or of the server, keeps the records in agreement. -/
theorem step (accounted : Accounted processor crowd) (step : crowd.Step next) :
    Accounted processor next := by
  have same := accounted
  obtain ⟨counting, entered, numbered, named, kept, tallied⟩ := accounted
  cases step with
  | server step =>
      obtain ⟨counts, dispatched, tally⟩ := step.frame
      refine ⟨counts.trans counting, dispatched.trans entered, numbered, named, ?_, ?_⟩
      · rcases step.floor_step with same | moved
        · rw [same]
          exact kept
        · exact Floor.Faithful.step kept moved
      · rw [tally]
        exact tallied
  | permit count =>
      exact ⟨counting, entered, numbered, named, Floor.Faithful.step kept (.release count), tallied⟩
  | occupy number listening => exact ⟨counting, entered, numbered, named, kept, tallied⟩
  | enter conn peer =>
      refine ⟨counting, ?_, ?_, ?_, ?_, ?_⟩
      · simp only [entered, List.length_append, List.length_singleton]
      · intro index call found
        rcases getElem?_concat_cases found with earlier | ⟨last, rfl⟩
        · exact numbered index call earlier
        · exact entered.trans last.symm
      · intro call member id returned
        rcases List.mem_append.mp member with earlier | last
        · exact named call earlier id returned
        · obtain rfl := List.mem_singleton.mp last
          cases returned
      · rw [List.filterMap_append]
        exact (List.append_nil _).symm ▸ kept
      · rw [List.filterMap_append]
        exact (List.append_nil _).symm ▸ tallied
  | @ask index call found progress =>
      obtain ⟨isAllowed, limiter, asked⟩ := crowd.server.allowed_cases
      rw [asked]
      have before : call.intake = none ∧ call.told = none := by
        simp [DispatchCall.intake, DispatchCall.told, progress]
      cases isAllowed with
      | true => exact same.silent found ⟨rfl, rfl⟩ rfl rfl nofun before.1.symm before.2.symm
      | false => exact same.silent found ⟨rfl, rfl⟩ rfl rfl nofun before.1.symm before.2.symm
  | @submit index call found progress =>
      have before : call.intake = none ∧ call.told = none := by
        simp [DispatchCall.intake, DispatchCall.told, progress]
      rcases crowd.server.floor.submit_cases call.number call.job call.conn with
        ⟨pool, submitted, accepted, after⟩ | ⟨refused, after⟩
      · rw [after, Progress.ofSubmission_of_accepted accepted]
        refine same.advance found ⟨?_, ?_⟩ nofun ?_ ?_
        · rfl
        · rfl
        · exact (kept.accept submitted).perm (filterMap_set_of_none found before.1 rfl)
        · rw [filterMap_set_of_eq found before.2.symm]
          exact tallied
      · obtain ⟨cause, progress⟩ := Progress.ofSubmission_of_refused refused
        rw [after, progress]
        exact same.silent found ⟨rfl, rfl⟩ rfl rfl nofun before.1.symm before.2.symm
  | @count index call found progress =>
      -- The job is a known one, and the sink is told of it only now.
      rw [tell_of_counting counting]
      refine same.advance found ⟨?_, ?_⟩ ?_ ?_ ?_
      · rfl
      · rfl
      · rintro id ⟨⟩
        rfl
      · rw [filterMap_set_of_eq found]
        · exact kept
        · rw [DispatchCall.intake, DispatchCall.intake, progress]
          rfl
      · apply tallied.accept.perm
        exact filterMap_set_of_none found (by rw [DispatchCall.told, progress]) rfl
  | @reject index call cause found progress =>
      rw [reject_of_counting counting]
      refine same.advance found ⟨?_, ?_⟩ nofun ?_ ?_
      · rfl
      · rfl
      · rw [filterMap_set_of_eq found]
        · exact kept
        · rw [DispatchCall.intake, DispatchCall.intake, progress]
      · apply (tallied.refuse cause).perm
        exact filterMap_set_of_none found (by rw [DispatchCall.told, progress]) rfl
  | @finish index call cause found progress gone =>
      have before : call.intake = none ∧ call.told = some (some cause) := by
        simp [DispatchCall.intake, DispatchCall.told, progress]
      exact same.silent found ⟨rfl, rfl⟩ rfl rfl nofun before.1.symm before.2.symm

omit [Amount α]

/-- Every job that was taken in is counted, or its call has yet to have it counted. -/
theorem intakes_length (accounted : Accounted processor crowd) :
    (crowd.calls.filterMap DispatchCall.intake).length =
      crowd.server.counts.accepted + crowd.calls.countP DispatchCall.isUncounted := by
  rw [accounted.tallied.accepted, List.count_filterMap, List.length_filterMap_eq_countP]
  induction crowd.calls with
  | nil => rfl
  | cons call calls ih =>
      have one : (if call.intake.isSome then 1 else 0) =
          (if call.told == some none then 1 else 0) + if call.isUncounted then 1 else 0 := by
        obtain ⟨number, conn, peer, progress⟩ := call
        rcases progress with _ | _ | _ | cause | cause | ⟨cause | id⟩ <;> rfl
      simp only [List.countP_cons, ih]
      omega

/-- The jobs on the floor are those of the calls whose connection was taken in. -/
theorem jobs_perm (accounted : Accounted processor crowd) :
    crowd.server.floor.jobs.Perm (crowd.calls.filterMap DispatchCall.admitted) := by
  have same : crowd.calls.filterMap DispatchCall.admitted =
      (crowd.calls.filterMap DispatchCall.intake).map fun intake =>
        (intake.number, intake.job.id) := by
    rw [List.map_filterMap]
    apply List.filterMap_congr
    intro call member
    have named := accounted.named call member
    obtain ⟨number, conn, peer, progress⟩ := call
    rcases progress with _ | _ | _ | cause | cause | ⟨cause | id⟩
    · rfl
    · rfl
    · rfl
    · rfl
    · rfl
    · rfl
    · rw [DispatchCall.admitted, named id rfl]
      rfl
  rw [same]
  exact accounted.kept.jobs

/-- When no call is midway, the counts are those of the results. -/
theorem of_returned (accounted : Accounted processor crowd)
    (returned : ∀ call ∈ crowd.calls, call.result ≠ none) :
    let counts := crowd.server.counts
    let results := crowd.calls.filterMap DispatchCall.result
    counts.accepted = results.countP Except.isOk ∧
    counts.accepted = crowd.server.floor.jobs.length ∧
    (∀ cause, counts.refused cause = results.count (.error cause)) ∧
    counts.accepted + counts.totalRefused = crowd.calls.length := by
  have told := told_of_returned returned
  have uncounted : crowd.calls.countP DispatchCall.isUncounted = 0 := by
    rw [List.countP_eq_zero]
    intro call member midway
    have progress : call.progress = .taken := of_decide_eq_true midway
    apply returned call member
    rw [DispatchCall.result, progress]
  have jobs := accounted.kept.jobs.length_eq
  rw [List.length_map, accounted.intakes_length, uncounted, Nat.add_zero] at jobs
  have results : (crowd.calls.filterMap DispatchCall.result).length = crowd.calls.length := by
    rw [List.length_filterMap_eq_countP, List.countP_eq_length]
    intro call member
    exact Option.isSome_iff_ne_none.mpr (returned call member)
  obtain ⟨accepted, refused⟩ := accounted.tallied
  have total := accounted.tallied.total
  rw [told] at accepted refused total
  refine ⟨?_, jobs.symm, ?_, ?_⟩
  · rw [accepted, List.count, List.countP_map]
    apply List.countP_congr
    intro result _
    cases result <;> simp [Except.isOk, Except.toBool]
  · intro cause
    rw [refused cause, List.count, List.count, List.countP_map]
    apply List.countP_congr
    intro result _
    cases result <;> simp
  · rw [total, List.length_map, results]

end Accounted

variable [Amount α] {config : Config} {processor : Processor} {resolve : Resolver}
  {start server : Server α} {crowd : Crowd α}

namespace Crowd.Run

/-- All along a run of a crowd the records agree. -/
theorem accounted (bound : bind config processor true resolve = .ok start)
    (run : Crowd.Run ⟨start, []⟩ crowd) : Accounted processor crowd := by
  have fresh : Accounted processor ⟨start, []⟩ := by
    obtain ⟨-, host, rfl⟩ := bind_cases bound
    exact ⟨rfl, rfl, nofun, nofun, .start processor config.pool, ⟨rfl, fun cause => by
      cases cause <;> rfl⟩⟩
  induction run with
  | start => exact fresh
  | step before step ih => exact ih.step step

/-- When the server has been closed, every job that was taken in was processed. -/
theorem processed (bound : bind config processor true resolve = .ok start)
    (run : Crowd.Run ⟨start, []⟩ crowd) (whole : processor.broken = [])
    (returned : crowd.server.closes.head? = some .returned) :
    (crowd.server.floor.endings.countP fun ending => ending.outcome.isSome) =
      crowd.server.counts.accepted + crowd.calls.countP DispatchCall.isUncounted := by
  have accounted := run.accounted bound
  obtain ⟨staff, wound⟩ := run.wound bound
  obtain ⟨queue, -, done, -⟩ := wound.sound.of_drained staff (wound.stage.of_returned returned)
  have ended := (accounted.kept.endings_perm queue done).length_eq
  rw [List.length_map, List.length_map] at ended
  rw [← accounted.intakes_length, ← ended, List.countP_eq_length]
  intro ending past
  obtain ⟨intake, -, same⟩ := accounted.kept.exists_intake past
  have outcome : ending.outcome = ((processor.task intake.job.id).run intake.conn).result :=
    congrArg Forecast.outcome same
  rw [outcome]
  exact Processor.task_result (by rw [whole]; exact List.not_mem_nil) intake.conn

end Crowd.Run

/-- **The accounts agree.** However the calls that dispatch connections cut across each
other, the jobs, time, and the calls that close the server: the calls have the ids from one
on, in the order in which they began, and the jobs that the pool took in have the ids that
the calls answer. When no call is midway, the count of connections taken in is that of the
calls that returned an id and that of the jobs, the count of each cause is that of the calls
that returned it, and the counts add up to the calls. When the server has been closed and no
processing broke off, each job was processed: as many as were counted, and those whose call
is between the answer of the pool and the count. A dispatch that nothing cuts across is
never there. -/
theorem dispatches_accounted (bound : bind config processor true resolve = .ok start)
    (run : Crowd.Run ⟨start, []⟩ crowd) :
    let counts := crowd.server.counts
    let results := crowd.calls.filterMap DispatchCall.result
    crowd.server.dispatched = crowd.calls.length ∧
    (∀ (index : Nat) (call : DispatchCall), crowd.calls[index]? = some call →
      call.id = index + 1 ∧ ∀ id, call.result = some (.ok id) → id = call.id) ∧
    crowd.server.floor.jobs.Perm (crowd.calls.filterMap DispatchCall.admitted) ∧
    ((∀ call ∈ crowd.calls, call.result ≠ none) →
      counts.accepted = results.countP Except.isOk ∧
      counts.accepted = crowd.server.floor.jobs.length ∧
      (∀ cause, counts.refused cause = results.count (.error cause)) ∧
      counts.accepted + counts.totalRefused = crowd.calls.length) ∧
    (crowd.server.closes.head? = some .returned → processor.broken = [] →
      (crowd.server.floor.endings.countP fun ending => ending.outcome.isSome) =
        counts.accepted + crowd.calls.countP DispatchCall.isUncounted) ∧
    (∀ dispatches server, Run start dispatches server →
      server.closes.head? = some .returned → processor.broken = [] →
      (server.floor.endings.countP fun ending => ending.outcome.isSome) =
        server.counts.accepted) := by
  have accounted := run.accounted bound
  refine ⟨accounted.entered, ?_, accounted.jobs_perm, accounted.of_returned,
    fun returned whole => run.processed bound whole returned, ?_⟩
  · intro index call found
    have number := accounted.numbered index call found
    refine ⟨by rw [DispatchCall.id, number], ?_⟩
    intro id answered
    have progress := DispatchCall.progress_of_result answered
    exact accounted.named call (List.mem_of_getElem? found) id progress
  · intro dispatches server atOnce returned whole
    obtain ⟨calls, run, decided⟩ := Crowd.exists_of_run atOnce
    have uncounted : calls.countP DispatchCall.isUncounted = 0 := by
      rw [List.countP_eq_zero]
      intro call member midway
      have progress : call.progress = .taken := of_decide_eq_true midway
      have among : call.progress ∈ calls.map DispatchCall.progress := List.mem_map_of_mem member
      rw [decided, progress] at among
      obtain ⟨⟨conn, decision⟩, -, same⟩ := List.mem_map.mp among
      cases decision <;> cases same
    have processed := run.processed bound whole returned
    rwa [uncounted, Nat.add_zero] at processed

/-- A call that is past the limiter is overtaken by a whole dispatch, and then by the call
that closes the server. -/
theorem dispatches_accounted_two :
    ∃ crowd : Crowd Rat, Crowd.Run ⟨fewSlotsServer, []⟩ crowd ∧
      crowd.calls.map DispatchCall.result = [some (.error .queueClosed), some (.ok 2)] ∧
      crowd.server.closes.head? = some .returned ∧
      crowd.server.counts.accepted = 1 ∧ crowd.server.counts.refused .queueClosed = 1 ∧
      crowd.server.floor.jobs.Perm [(1, 2)] ∧
      (crowd.server.floor.endings.countP fun ending => ending.outcome.isSome) = 1 := by
  have fresh : Crowd.Run ⟨fewSlotsServer, []⟩ _ := .start
  have asked := (fresh.step (.enter {} none)).step (@Crowd.Step.ask _ _ _ 0 _ rfl rfl)
  have overtaken := asked.dispatch {} none
  have closing := (overtaken.step (.server .close)).elapse 0
  have refused := (closing.step (@Crowd.Step.submit _ _ _ 0 _ rfl (by decide +kernel))).step
    (@Crowd.Step.reject _ _ _ 0 _ .queueClosed rfl (by decide +kernel))
  have closed := (refused.elapse 5000).step
    (@Crowd.Step.finish _ _ _ 0 _ .queueClosed rfl (by decide +kernel) (by decide +kernel))
  have bound : bind fewSlots { handling := .serve 1000 1000 } true = .ok fewSlotsServer := rfl
  obtain ⟨-, -, jobs, ended, processed, -⟩ := dispatches_accounted bound closed
  obtain ⟨accepted, -, counted, -⟩ := ended (by decide +kernel)
  refine ⟨_, closed, by decide +kernel, by decide +kernel, accepted.trans (by decide +kernel),
    (counted .queueClosed).trans (by decide +kernel), ?_, ?_⟩
  · exact jobs.trans (.of_eq (by decide +kernel))
  · exact (processed (by decide +kernel) rfl).trans (by decide +kernel)

end Server

end Admission
