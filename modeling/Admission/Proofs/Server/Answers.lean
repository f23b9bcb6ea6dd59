import Mathlib.Data.List.Forall2
import Admission.Proofs.Server.Lifecycle
import Admission.Proofs.Task.Responses
import Admission.Server.Session

/-! # One response and one close

Every connection that a server dispatches is in one place at any time: queued, with a
worker, being refused, or done with (`Admission.Server.records`). Its record is always on
the way to the one that its dispatch promised, so its peer never has bytes of two
responses. When the server has been closed nothing is queued or with a worker, and every
connection whose dispatch has returned has what was promised
(`Admission.Server.one_response_one_close`).
-/

namespace Admission.Server

variable {α : Type}

/-- The number of a connection with its record at present. -/
def jobRecord (errand : Errand) : Nat × Record :=
  (errand.number, errand.live.conn.record)

def endingRecord (ending : Ending) : Nat × Record :=
  (ending.number, ending.record)

def answerRecord (rejection : Rejection) : Nat × Record :=
  (rejection.number, rejection.live.conn.record)

/-- The records of all connections that were dispatched, as they are at present. -/
def records (server : Server α) : List (Nat × Record) :=
  (server.floor.pool.queue.map jobRecord
      ++ (server.floor.pool.processing.map jobRecord ++ server.floor.endings.map endingRecord))
    ++ (server.rejections.map answerRecord ++ server.turnedAway.map awayPromise)

/-- Whether the dispatcher is still busy with a connection that it refused. -/
def isAnswering (server : Server α) (number : Nat) : Bool :=
  server.rejections.any fun rejection => rejection.number == number

/-- A connection with its record, and what it will be. -/
def Heading (present promise : Nat × Record) : Prop :=
  present.1 = promise.1 ∧ present.2.UpTo promise.2

theorem heading_map {β : Type} (items : List β) {present promise : β → Nat × Record}
    (heading : ∀ item, Heading (present item) (promise item)) :
    List.Forall₂ Heading (items.map present) (items.map promise) := by
  rw [List.forall₂_map_left_iff, List.forall₂_map_right_iff, List.forall₂_same]
  exact fun item _ => heading item

theorem heading_refl (present : Nat × Record) : Heading present present :=
  ⟨rfl, .refl _⟩

/-- Every record is on its way to what was promised. -/
theorem records_heading (server : Server α) :
    List.Forall₂ Heading server.records server.promises := by
  have queued (errand : Errand) : Heading (jobRecord errand) (jobPromise errand.ahead) :=
    ⟨rfl, Task.run_upTo ..⟩
  have underway (errand : Errand) : Heading (jobRecord errand) (jobPromise errand.underway) :=
    ⟨rfl, errand.live.upTo_runOut⟩
  have answering (rejection : Rejection) :
      Heading (answerRecord rejection) (answerPromise rejection) :=
    ⟨rfl, rejection.live.upTo_runOut⟩
  simp only [records, promises, Floor.forecasts, Floor.underway, List.map_append, List.map_map]
  refine List.rel_append (List.rel_append ?_ (List.rel_append ?_ ?_)) (List.rel_append ?_ ?_)
  · exact heading_map _ queued
  · exact heading_map _ underway
  · exact heading_map _ fun ending => heading_refl _
  · exact heading_map _ answering
  · exact heading_map _ fun away => heading_refl _

/-- Every record is on the way to some promise. -/
theorem exists_heading {records promises : List (Nat × Record)}
    (all : List.Forall₂ Heading records promises) {present : Nat × Record}
    (member : present ∈ records) : ∃ promise ∈ promises, Heading present promise := by
  induction all with
  | nil => cases member
  | cons heading all ih =>
      rcases List.mem_cons.mp member with rfl | later
      · exact ⟨_, List.mem_cons_self, heading⟩
      · obtain ⟨promise, out, heading⟩ := ih later
        exact ⟨promise, List.mem_cons_of_mem _ out, heading⟩

/-- The one response that a connection is to get. Of a connection that was taken in, its
own read decides. -/
def Dispatched.response (dispatched : Dispatched) (readLimit : Nat) : Response :=
  match dispatched.decision with
  | .accepted _ => dispatched.conn.response readLimit
  | .refused _ cause => cause.response

/-- The milliseconds in which its peer has to take it. -/
def Dispatched.limit (dispatched : Dispatched) (readLimit writeLimit : Nat) : Nat :=
  match dispatched.decision with
  | .accepted _ => dispatched.conn.responseLimit readLimit writeLimit
  | .refused _ _ => limits.reject

/-- What is promised to a connection is the one response that it is to get. -/
theorem Dispatched.promise_answered (dispatched : Dispatched) (readLimit writeLimit : Nat) :
    dispatched.conn.Answered (dispatched.response readLimit)
      (dispatched.limit readLimit writeLimit)
      (dispatched.promise { handling := .serve readLimit writeLimit }) := by
  obtain ⟨conn, decision⟩ := dispatched
  cases decision with
  | accepted id => exact serveTask_answered readLimit writeLimit conn
  | refused number cause => exact respondTask_answered cause.response limits.reject conn

/-- The records of the connections that are done with. -/
def finished (server : Server α) : List (Nat × Record) :=
  server.floor.endings.map endingRecord ++ server.turnedAway.map awayPromise

namespace Promised

variable {processor : Processor} {dispatches : List Dispatched} {server : Server α}
  {number : Nat} {record : Record} {dispatched : Dispatched}

/-- The promise of a number is that of the dispatch with this number. -/
theorem promise_of_mem (promised : Promised processor dispatches server)
    (out : (number, record) ∈ server.promises) :
    ∃ dispatched, dispatches[number]? = some dispatched ∧
      record = dispatched.promise processor := by
  obtain ⟨place, inside, same⟩ := List.mem_mapIdx.mp (promised.promised.mem_iff.mp out)
  obtain ⟨rfl, rfl⟩ := Prod.mk.inj same
  exact ⟨dispatches[place], List.getElem?_eq_getElem inside, rfl⟩

/-- Every connection that was dispatched is in one place. -/
theorem numbers (promised : Promised processor dispatches server) :
    (server.records.map Prod.fst).Perm (List.range dispatches.length) := by
  have present : server.records.map Prod.fst = server.promises.map Prod.fst := by
    rw [← List.forall₂_eq_eq_eq, List.forall₂_map_left_iff, List.forall₂_map_right_iff]
    exact server.records_heading.imp fun _ _ heading => heading.1
  have whole : (dispatches.mapIdx fun number dispatched =>
      (number, dispatched.promise processor)).map Prod.fst = List.range dispatches.length := by
    apply List.ext_getElem
    · simp only [List.length_map, List.length_mapIdx, List.length_range]
    · intro place _ _
      simp only [List.getElem_map, List.getElem_mapIdx, List.getElem_range]
  rw [present, ← whole]
  exact promised.promised.map Prod.fst

/-- A connection whose record is at hand has the promise of its number. -/
theorem upTo_promise (promised : Promised processor dispatches server)
    (present : (number, record) ∈ server.records) :
    ∃ dispatched, dispatches[number]? = some dispatched ∧
      record.UpTo (dispatched.promise processor) := by
  obtain ⟨⟨number, promise⟩, out, rfl, heading⟩ := exists_heading server.records_heading present
  obtain ⟨dispatched, found, rfl⟩ := promised.promise_of_mem out
  exact ⟨dispatched, found, heading⟩

/-- A connection that is done with has its promise kept. -/
theorem kept (promised : Promised processor dispatches server)
    (found : dispatches[number]? = some dispatched)
    (past : (number, record) ∈ server.finished) : record = dispatched.promise processor := by
  have out : (number, record) ∈ server.promises := by
    rcases List.mem_append.mp past with ended | away
    · obtain ⟨ending, member, same⟩ := List.mem_map.mp ended
      have forecast : ending.forecast ∈ server.floor.forecasts :=
        List.mem_append_right _ (List.mem_append_right _ (List.mem_map_of_mem member))
      exact List.mem_append_left _ (List.mem_map.mpr ⟨ending.forecast, forecast, same⟩)
    · exact List.mem_append_right _ (List.mem_append_right _ away)
  obtain ⟨other, same, rfl⟩ := promised.promise_of_mem out
  obtain rfl := Option.some.inj (same.symm.trans found)
  rfl

/-- The record of a connection that is done with is the promised one. -/
theorem recordOf (promised : Promised processor dispatches server)
    (found : dispatches[number]? = some dispatched)
    (past : (number, record) ∈ server.finished) :
    server.recordOf number = some (dispatched.promise processor) := by
  have ofEnding {ending : Ending} (member : ending ∈ server.floor.endings)
      (same : ending.number = number) : ending.record = dispatched.promise processor := by
    subst same
    exact promised.kept found (List.mem_append_left _ (List.mem_map_of_mem member))
  have ofAway {away : TurnedAway} (member : away ∈ server.turnedAway)
      (same : away.number = number) : away.record = dispatched.promise processor := by
    subst same
    exact promised.kept found (List.mem_append_right _ (List.mem_map_of_mem member))
  unfold Server.recordOf
  cases ended : server.floor.endings.find? fun ending => ending.number = number with
  | some ending =>
      have numbered : ending.number = number := by simpa using List.find?_some ended
      have same := ofEnding (List.mem_of_find?_eq_some ended) numbered
      simp only [Option.map_some, Option.orElse_some, same]
  | none =>
      cases refused : server.turnedAway.find? fun away => away.number = number with
      | some away =>
          have numbered : away.number = number := by simpa using List.find?_some refused
          have same := ofAway (List.mem_of_find?_eq_some refused) numbered
          simp only [Option.map_none, Option.map_some, Option.orElse_none, same]
      | none =>
          rcases List.mem_append.mp past with past | past
          · obtain ⟨ending, member, same⟩ := List.mem_map.mp past
            have different := List.find?_eq_none.mp ended ending member
            exact (different (decide_eq_true (Prod.mk.inj same).1)).elim
          · obtain ⟨away, member, same⟩ := List.mem_map.mp past
            have different := List.find?_eq_none.mp refused away member
            exact (different (decide_eq_true (Prod.mk.inj same).1)).elim

end Promised

/-- Once the server has been closed, a connection is done with or its dispatcher is still
busy with it. -/
theorem Wound.finished_of_returned {size : Pool.Config} {server : Server α}
    (wound : Wound size server) (staff : 0 < size.workers.toNat)
    (returned : server.closes.head? = some .returned) {number : Nat} {record : Record}
    (present : (number, record) ∈ server.records) (free : server.isAnswering number = false) :
    (number, record) ∈ server.finished := by
  obtain ⟨queue, gone⟩ := wound.of_returned staff returned
  rcases List.mem_append.mp present with admitted | refused
  · rcases List.mem_append.mp admitted with queued | taken
    · rw [queue] at queued
      cases queued
    · rcases List.mem_append.mp taken with underway | ended
      · obtain ⟨errand, member, -⟩ := List.mem_map.mp underway
        obtain ⟨worker, staffed, shown⟩ := List.mem_filterMap.mp member
        rw [gone worker staffed] at shown
        cases shown
      · exact List.mem_append_left _ ended
  · rcases List.mem_append.mp refused with answering | away
    · obtain ⟨rejection, member, same⟩ := List.mem_map.mp answering
      have busy : server.isAnswering number = true :=
        List.any_eq_true.mpr ⟨rejection, member, beq_iff_eq.mpr (Prod.mk.inj same).1⟩
      cases busy.symm.trans free
    · exact List.mem_append_right _ away

variable [Amount α]

theorem Run.fresh {start server : Server α} {dispatches : List Dispatched}
    (run : Run start dispatches server) :
    ∀ dispatched ∈ dispatches, dispatched.conn.record = ({} : Record) := by
  have more {earlier : List Dispatched} {conn : Connection} {decision : Decision}
      (before : ∀ dispatched ∈ earlier, dispatched.conn.record = ({} : Record))
      (fresh : conn.record = {}) :
      ∀ dispatched ∈ earlier ++ [⟨conn, decision⟩], dispatched.conn.record = ({} : Record) := by
    intro dispatched member
    rcases List.mem_append.mp member with earlier | last
    · exact before dispatched earlier
    · rw [List.mem_singleton.mp last]
      exact fresh
  induction run with
  | start => exact nofun
  | step before step ih => exact ih
  | dispatch before conn peer fresh ih => exact more ih fresh
  | arrive before conn peer fresh arrived ih => exact more ih fresh

/-- **One response and one close for each connection.** Along any run of a server that
serves each connection with one response, every connection that was dispatched is in
exactly one place. Its peer has a prefix of the one response that its dispatch and its
own read fixed, it was shut down at most once and dropped at most once. When the call
that closes the server has returned, every connection that the dispatcher is done with
was dropped exactly once, and its peer has the whole response exactly when its script
takes all the bytes within the limit of that response. -/
theorem one_response_one_close {config : Config} {readLimit writeLimit : Nat} {counting : Bool}
    {resolve : Resolver} {start server : Server α} {dispatches : List Dispatched}
    (bound : bind config { handling := .serve readLimit writeLimit } counting resolve = .ok start)
    (run : Run start dispatches server) :
    (server.records.map Prod.fst).Perm (List.range dispatches.length) ∧
    ∀ number dispatched, dispatches[number]? = some dispatched →
      ∃ record, (number, record) ∈ server.records ∧
        record.written <+: (dispatched.response readLimit).bytes ∧
        record.shutdowns ≤ 1 ∧ record.drops ≤ 1 ∧
        (server.closes.head? = some .returned → server.isAnswering number = false →
          server.recordOf number = some record ∧ record.drops = 1 ∧
          (record.written = (dispatched.response readLimit).bytes ↔
            dispatched.conn.writes.TakesWithin (dispatched.response readLimit).bytes.length
              (dispatched.limit readLimit writeLimit))) := by
  have promised := run.promised bound
  obtain ⟨staff, wound⟩ := run.wound bound
  refine ⟨promised.numbers, fun number dispatched found => ?_⟩
  have inside : number ∈ List.range dispatches.length := by
    rw [List.mem_range]
    exact (List.getElem?_eq_some_iff.mp found).1
  obtain ⟨⟨number, record⟩, present, rfl⟩ :=
    List.mem_map.mp (promised.numbers.mem_iff.mpr inside)
  obtain ⟨other, same, upTo⟩ := promised.upTo_promise present
  obtain rfl := Option.some.inj (same.symm.trans found)
  obtain ⟨⟨taken, initial, written, complete⟩, shutdowns, drops⟩ :=
    other.promise_answered readLimit writeLimit
  have fresh := run.fresh other (List.mem_of_getElem? found)
  -- A fresh record makes the bounds of `Answered` bounds from zero.
  rw [fresh] at written shutdowns drops
  rw [List.nil_append] at written
  refine ⟨record, present, ?_, Nat.le_trans upTo.shutdowns shutdowns,
    Nat.le_trans upTo.drops (Nat.le_of_eq drops), ?_⟩
  · rw [← written] at initial
    exact upTo.written.trans initial
  · intro returned free
    have past := wound.finished_of_returned staff returned present free
    have kept := promised.kept found past
    have shown := promised.recordOf found past
    rw [← kept] at shown written drops
    exact ⟨shown, drops, by rw [written]; exact complete⟩

/-- Settings for one worker, one place to wait, and four tokens that do not come back. -/
def fewSlots : Config := { workers := 1, queueSize := 1, tokenRate := 0, tokenLimit := 4 }

def fewSlotsServer : Server Rat :=
  { config := fewSlots
    bound := .v4 127 0 0 1
    floor := { processor := { handling := .serve 1000 1000 }, pool := Pool.start fewSlots.pool }
    limiter := Bucket.limiter 4 0 0 }

/-- One connection is served and one stays silent; one finds the pool full, one finds it
closed, and one finds no token. The silent peer takes only a part of its response. -/
theorem one_response_one_close_five :
    ∃ (server : Server Rat) (dispatches : List Dispatched),
      Run fewSlotsServer dispatches server ∧ server.closes.head? = some .returned ∧
      dispatches.map (·.response 1000) =
        [.ok, .requestTimeout, .busy, .shuttingDown, .rateLimited] ∧
      (∃ record, server.recordOf 0 = some record ∧ record.drops = 1 ∧
        record.written = Response.ok.bytes) ∧
      (∃ record, server.recordOf 1 = some record ∧ record.drops = 1 ∧
        record.written ≠ Response.requestTimeout.bytes) ∧
      (List.range 5).map (fun number => (server.recordOf number).map Record.text) =
        [some "HTTP/1.1 200 OK\r\nConnection: close\r\nContent-Length: 13\r\n\r\nHello world !",
          some "HTT",
          some ("HTTP/1.1 503 Service Unavailable\r\nConnection: close\r\n"
            ++ "Content-Length: 28\r\n\r\nServer busy, try again later"),
          some ("HTTP/1.1 503 Service Unavailable\r\nConnection: close\r\n"
            ++ "Content-Length: 20\r\n\r\nServer shutting down"),
          some ("HTTP/1.1 429 Too Many Requests\r\nConnection: close\r\n"
            ++ "Content-Length: 19\r\n\r\nRate limit exceeded")] := by
  have one : Run fewSlotsServer [] fewSlotsServer := .start
  have served := one.dispatchThrough { reads := [.wait 5, .act (.deliver 10)] } none rfl
  have silent := served.dispatchThrough { writes := [.act (.accept 3), .stall] } none rfl
  have busy := silent.dispatchThrough {} none rfl
  have closed := (busy.step .close).elapse 5000
  have late := closed.dispatchThrough {} none rfl
  have limited := late.dispatchThrough {} none rfl
  have bound : bind fewSlots { handling := .serve 1000 1000 } true = .ok fewSlotsServer := rfl
  obtain ⟨-, answered⟩ := one_response_one_close bound limited
  obtain ⟨first, -, -, -, -, whole⟩ := answered 0 _ rfl
  obtain ⟨second, -, -, -, -, part⟩ := answered 1 _ rfl
  obtain ⟨firstRecord, firstDrops, firstWritten⟩ := whole (by decide +kernel) (by decide +kernel)
  obtain ⟨secondRecord, secondDrops, secondWritten⟩ := part (by decide +kernel) (by decide +kernel)
  refine ⟨_, _, limited, by decide +kernel, by decide +kernel, ⟨first, firstRecord, firstDrops, ?_⟩,
    ⟨second, secondRecord, secondDrops, ?_⟩, by decide +kernel⟩
  · have taken := firstWritten.mpr (by decide +kernel)
    exact taken.trans (congrArg Response.bytes (by decide +kernel))
  · intro same
    have taken := secondWritten.mp (same.trans (congrArg Response.bytes (by decide +kernel)))
    exact absurd taken (by decide +kernel)

end Admission.Server
