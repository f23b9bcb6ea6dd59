import Admission.Proofs.Bucket.Exact
import Admission.Proofs.Server.Crowds
import Admission.Proofs.Server.Custody

/-! # What a dispatch decides

Three parts of a server have a say in what becomes of a connection, one after the other: the
limiter may have no token, the pool may be closed, and all its places may be taken. Only if
none of these holds is the connection taken in (`Admission.Server.dispatch_decided`). What the
limiter has is said without it: the tokens of the last check and what has come since then, up
to the limit (`Admission.Bucket.stock`). It spends a token on every connection it lets pass,
whatever the pool says then; a connection that is refused leaves the floor as it was; and no
connection but the one that is dispatched is touched, now or while it gets its answer.

The states in question are all that anything leads to, parts of dispatches that cut across
each other included (`Admission.Server.Reached`). What holds in all of them is that the
closing of the server is in order and that the limiter is the one of the settings
(`Admission.Server.Governed`).
-/

namespace Admission

namespace Bucket

open Amount

variable {α : Type}

/-- What a bucket was made for. -/
def settings (bucket : Bucket α) : UInt32 × UInt32 :=
  (bucket.maxTokens, bucket.rate)

variable [Amount α]

/-- The tokens that there are to be at an instant: those of the last check and the rate for every
second since then, up to the limit. -/
def stock (bucket : Bucket α) (now : Nat) : α :=
  least (add bucket.tokens (mul (seconds (now - bucket.credited)) (ofNat bucket.rate.toNat)))
    (ofNat bucket.maxTokens.toNat)

/-- What a check asks for: a whole token but for what comes in one tick and one tick more, and at
least half a token. -/
def price (bucket : Bucket α) : α :=
  sub (ofNat 1) (least (mul (add (ofNat bucket.rate.toNat) (ofNat 1)) tick) half)

/-- With its accrual credited, a bucket has a token exactly when its stock comes up to the price. -/
theorem hasToken_refill (bucket : Bucket α) (now : Nat) :
    (bucket.refill now).hasToken = le bucket.price (bucket.stock now) :=
  rfl

/-- A check that is denied leaves the stock. -/
theorem refill_eq (bucket : Bucket α) (now : Nat) :
    bucket.refill now = { bucket with tokens := bucket.stock now, credited := now } :=
  rfl

/-- A check that is allowed takes a token off the stock, or what there is of it. -/
theorem spend_refill (bucket : Bucket α) (now : Nat) :
    (bucket.refill now).spend =
      { bucket with
        tokens := greatest (sub (bucket.stock now) (ofNat 1)) (ofNat 0)
        credited := now } :=
  rfl

end Bucket

namespace Server

open Amount

variable {α : Type}

/-- Everything about the connections but one. -/
structure Others where
  queued : List Errand
  workers : List (Worker Errand)
  endings : List Ending
  rejections : List Rejection
  turnedAway : List TurnedAway

/-- What a server has of the connections but that of a number. -/
def others (server : Server α) (number : Nat) : Others where
  queued := server.floor.pool.queue.filter (·.number != number)
  workers := server.floor.pool.workers
  endings := server.floor.endings
  rejections := server.rejections.filter (·.number != number)
  turnedAway := server.turnedAway.filter (·.number != number)

/-- The answer to a refused connection goes on without any other. -/
theorem others_of_answer {server next : Server α} {index : Nat}
    (strode : server.rejectionStride index = some next) :
    ∃ rejection, server.rejections[index]? = some rejection ∧ next.floor = server.floor ∧
      next.limiter = server.limiter ∧
      next.others rejection.number = server.others rejection.number := by
  obtain ⟨before, rejection, behind, found, rejections, ⟨due, after, -, -, rfl⟩ |
    ⟨result, -, rfl⟩⟩ := rejectionStride_cases strode
  · refine ⟨rejection, found, rfl, rfl, ?_⟩
    simp only [others, rejections, List.filter_append, List.filter_cons, bne_self_eq_false,
      Bool.false_eq_true, if_false]
  · refine ⟨rejection, found, rfl, rfl, ?_⟩
    simp only [others, rejections, List.filter_append, List.filter_cons, bne_self_eq_false,
      Bool.false_eq_true, if_false, List.filter_nil, List.append_nil]

variable [Amount α]

/-- There is a limiter, and with all that has accrued until now its stock does not come up to the
price of a check. -/
def Denies (server : Server α) : Prop :=
  ∃ bucket, server.limiter = some bucket ∧ le bucket.price (bucket.stock server.clock.now) = false

/-- In exact arithmetic: a limiter denies when the lesser of its limit and of its tokens with what
the time since the last check gained is below one, by more than the slack. -/
theorem denies_iff_exact {server : Server Rat} :
    server.Denies ↔ ∃ bucket, server.limiter = some bucket ∧
      min (bucket.tokens + Bucket.gained bucket.rate (server.clock.now - bucket.credited))
        (bucket.maxTokens.toNat : Rat) < 1 - Bucket.slack bucket.rate := by
  refine exists_congr fun bucket => and_congr_right fun _ => ?_
  rw [← not_le, ← Bool.not_eq_true, le_iff, Bucket.stock, Bucket.price, least_eq, least_eq]
  rfl

/-- The limiter with all that has accrued until now, and nothing spent. -/
def unspent (server : Server α) : Option (Bucket α) :=
  server.limiter.map fun bucket =>
    { bucket with tokens := bucket.stock server.clock.now, credited := server.clock.now }

/-- The limiter with all that has accrued until now and a token less, but never less than none. -/
def spent (server : Server α) : Option (Bucket α) :=
  server.limiter.map fun bucket =>
    { bucket with
      tokens := greatest (sub (bucket.stock server.clock.now) (ofNat 1)) (ofNat 0)
      credited := server.clock.now }

/-- A limiter whose stock falls short denies, and keeps the stock. -/
theorem allowed_of_denies {server : Server α} (denies : server.Denies) :
    server.allowed = (false, { server with limiter := server.unspent }) := by
  obtain ⟨bucket, limiter, short⟩ := denies
  rw [← Bucket.hasToken_refill] at short
  simp only [allowed, unspent, limiter, Bucket.check_of_short short, Option.map_some,
    ← Bucket.refill_eq]

/-- A limiter whose stock suffices allows and spends, and without one all is allowed. -/
theorem allowed_of_passes {server : Server α} (passes : ¬ server.Denies) :
    server.allowed = (true, { server with limiter := server.spent }) := by
  rcases server with ⟨config, bound, floor, limiter, clock⟩
  cases limiter with
  | none => rfl
  | some bucket =>
      have token : (bucket.refill clock.now).hasToken = true := by
        by_contra short
        rw [Bucket.hasToken_refill] at short
        exact passes ⟨bucket, rfl, eq_false_of_ne_true short⟩
      simp only [allowed, spent, Bucket.check_of_token token, Option.map_some,
        ← Bucket.spend_refill]

/-- What the limiter answers to a connection, and what is left of it. -/
theorem allowed_decided (server : Server α) :
    (server.Denies ∧ server.allowed = (false, { server with limiter := server.unspent })) ∨
    (¬ server.Denies ∧ server.allowed = (true, { server with limiter := server.spent })) := by
  by_cases denies : server.Denies
  · exact .inl ⟨denies, allowed_of_denies denies⟩
  · exact .inr ⟨denies, allowed_of_passes denies⟩

/-- Every place of the pool is taken, by a queued job or by one that a worker has. -/
def Crowded (size : Pool.Config) (server : Server α) : Prop :=
  server.floor.pool.queue.length + server.floor.pool.held.length = size.capacity.toNat

/-- The errand of the next connection, if it is taken in. -/
def nextErrand (server : Server α) (conn : Connection) (peer : Option SocketAddress) : Errand :=
  .waiting server.dispatched { id := server.dispatched + 1, peer }
    (server.floor.processor.task (server.dispatched + 1)) conn

/-- The server when its next connection was refused. -/
def afterRefusal (server : Server α) (limiter : Option (Bucket α)) (cause : Refusal)
    (conn : Connection) : Server α :=
  { server with
    limiter
    dispatched := server.dispatched + 1
    counts := if server.counting then server.counts.refuse cause else server.counts
    rejections := server.rejections ++ [{
      number := server.dispatched
      cause
      live := .enter (respondTask cause.response limits.reject) conn server.floor.now }] }

/-- The server when the pool took its next connection in. -/
def afterIntake (server : Server α) (limiter : Option (Bucket α)) (conn : Connection)
    (peer : Option SocketAddress) : Server α :=
  { server with
    limiter
    dispatched := server.dispatched + 1
    counts := if server.counting then server.counts.accept else server.counts
    floor := { server.floor with
      pool := { server.floor.pool with
        free := server.floor.pool.free - 1
        queue := server.floor.pool.queue ++ [server.nextErrand conn peer] } } }

omit [Amount α] in
/-- A refusal touches no other connection. -/
theorem others_of_refusal (server : Server α) (limiter : Option (Bucket α)) (cause : Refusal)
    (conn : Connection) :
    (server.afterRefusal limiter cause conn).others server.dispatched =
      server.others server.dispatched := by
  simp only [others, afterRefusal, List.filter_append, List.filter_cons, bne_self_eq_false,
    Bool.false_eq_true, if_false, List.filter_nil, List.append_nil]

omit [Amount α] in
theorem others_of_intake (server : Server α) (limiter : Option (Bucket α)) (conn : Connection)
    (peer : Option SocketAddress) :
    (server.afterIntake limiter conn peer).others server.dispatched =
      server.others server.dispatched := by
  simp only [others, afterIntake, nextErrand, Errand.waiting, List.filter_append,
    List.filter_cons, bne_self_eq_false, Bool.false_eq_true, if_false, List.filter_nil,
    List.append_nil]

omit [Amount α] in
/-- A server that does not count keeps its counts. -/
theorem tell_eq (server : Server α) (event : Counts → Counts) :
    server.tell event =
      { server with counts := if server.counting then event server.counts else server.counts } := by
  unfold tell
  split
  next => rfl
  next => rfl

/-- A dispatch asks the limiter, then the pool; nothing else is changed by either. -/
theorem Wound.dispatch_decided_cases {size : Pool.Config} {server : Server α}
    (wound : Wound size server) (staff : 0 < size.workers.toNat) (conn : Connection)
    (peer : Option SocketAddress) :
    (server.Denies ∧ server.dispatch conn peer =
      (.refused server.dispatched .rateLimited,
        server.afterRefusal server.unspent .rateLimited conn)) ∨
    (¬ server.Denies ∧
      ((server.floor.pool.isOpen = false ∧ server.dispatch conn peer =
        (.refused server.dispatched .queueClosed,
          server.afterRefusal server.spent .queueClosed conn)) ∨
      (server.floor.pool.isOpen = true ∧ server.Crowded size ∧ server.dispatch conn peer =
        (.refused server.dispatched .queueFull,
          server.afterRefusal server.spent .queueFull conn)) ∨
      (server.floor.pool.isOpen = true ∧ ¬ server.Crowded size ∧ server.dispatch conn peer =
        (.accepted (server.dispatched + 1), server.afterIntake server.spent conn peer)))) := by
  rcases Server.allowed_decided { server with dispatched := server.dispatched + 1 } with
    ⟨denies, asked⟩ | ⟨passes, asked⟩
  · refine .inl ⟨denies, ?_⟩
    simp only [Server.dispatch, asked, reject, tell_eq]
    rfl
  · refine .inr ⟨passes, ?_⟩
    rcases wound.sound.submit_decided staff (server.nextErrand conn peer) with
      ⟨shut, submitted⟩ | ⟨opened, crowded, submitted⟩ | ⟨opened, roomy, submitted⟩
    · refine .inl ⟨shut, ?_⟩
      rw [nextErrand] at submitted
      simp only [Server.dispatch, asked, Floor.submit, submitted, reject, tell_eq]
      rfl
    · refine .inr (.inl ⟨opened, crowded, ?_⟩)
      rw [nextErrand] at submitted
      simp only [Server.dispatch, asked, Floor.submit, submitted, reject, tell_eq]
      rfl
    · refine .inr (.inr ⟨opened, roomy, ?_⟩)
      rw [nextErrand] at submitted
      simp only [Server.dispatch, asked, Floor.submit, submitted, tell_eq]
      rfl

/-- Which of the four decisions a dispatch makes. -/
theorem Wound.decision_iff {size : Pool.Config} {server : Server α}
    (wound : Wound size server) (staff : 0 < size.workers.toNat) (conn : Connection)
    (peer : Option SocketAddress) :
    let number := server.dispatched
    let isOpen := server.floor.pool.isOpen
    let decision := (server.dispatch conn peer).1
    (decision = .refused number .rateLimited ↔ server.Denies) ∧
    (decision = .refused number .queueClosed ↔ ¬ server.Denies ∧ isOpen = false) ∧
    (decision = .refused number .queueFull ↔
      ¬ server.Denies ∧ isOpen = true ∧ server.Crowded size) ∧
    (decision = .accepted (number + 1) ↔
      ¬ server.Denies ∧ isOpen = true ∧ ¬ server.Crowded size) := by
  rcases wound.dispatch_decided_cases staff conn peer with
    ⟨denies, decided⟩ | ⟨passes, ⟨shut, decided⟩ | ⟨opened, crowded, decided⟩ |
      ⟨opened, roomy, decided⟩⟩
  · simp [decided, denies]
  · simp [decided, passes, shut]
  · simp [decided, passes, opened, crowded]
  · simp [decided, passes, opened, roomy]

/-- What each of the four decisions leaves. -/
theorem Wound.dispatch_leaves {size : Pool.Config} {server : Server α}
    (wound : Wound size server) (staff : 0 < size.workers.toNat) (conn : Connection)
    (peer : Option SocketAddress) :
    let decision := (server.dispatch conn peer).1
    let next := (server.dispatch conn peer).2
    (server.Denies → next = server.afterRefusal server.unspent .rateLimited conn) ∧
    (∀ cause, ¬ server.Denies → decision = .refused server.dispatched cause →
      next = server.afterRefusal server.spent cause conn) ∧
    (decision = .accepted (server.dispatched + 1) →
      next = server.afterIntake server.spent conn peer) := by
  rcases wound.dispatch_decided_cases staff conn peer with
    ⟨denies, decided⟩ | ⟨passes, ⟨shut, decided⟩ | ⟨opened, crowded, decided⟩ |
      ⟨opened, roomy, decided⟩⟩
  · simp [decided, denies]
  · simp [decided, passes]
  · simp [decided, passes]
  · simp [decided, passes]

/-- A connection that is refused leaves the floor as it was, and none changes another. -/
theorem Wound.dispatch_apart {size : Pool.Config} {server : Server α}
    (wound : Wound size server) (staff : 0 < size.workers.toNat) (conn : Connection)
    (peer : Option SocketAddress) :
    ((server.dispatch conn peer).1 ≠ .accepted (server.dispatched + 1) →
      (server.dispatch conn peer).2.floor = server.floor) ∧
    (server.dispatch conn peer).2.others server.dispatched =
      server.others server.dispatched := by
  rcases wound.dispatch_decided_cases staff conn peer with
    ⟨-, decided⟩ | ⟨-, ⟨-, decided⟩ | ⟨-, -, decided⟩ | ⟨-, -, decided⟩⟩
  · rw [decided]
    exact ⟨fun _ => rfl, others_of_refusal ..⟩
  · rw [decided]
    exact ⟨fun _ => rfl, others_of_refusal ..⟩
  · rw [decided]
    exact ⟨fun _ => rfl, others_of_refusal ..⟩
  · rw [decided]
    exact ⟨fun other => (other rfl).elim, others_of_intake ..⟩

omit [Amount α] in
/-- How far a call gets that submits its job, and what a job that is refused leaves. -/
theorem Wound.submission_iff {size : Pool.Config} {server : Server α}
    (wound : Wound size server) (staff : 0 < size.workers.toNat) (number : Nat) (job : Job)
    (conn : Connection) :
    let isOpen := server.floor.pool.isOpen
    let submitted := server.floor.submit number job conn
    let progress := Progress.ofSubmission submitted.1
    (progress = .refused .queueClosed ↔ isOpen = false) ∧
    (progress = .refused .queueFull ↔ isOpen = true ∧ server.Crowded size) ∧
    (progress = .taken ↔ isOpen = true ∧ ¬ server.Crowded size) ∧
    (progress ≠ .taken → submitted.2 = server.floor) := by
  rcases wound.sound.submit_decided staff
      (.waiting number job (server.floor.processor.task job.id) conn) with
    ⟨shut, submitted⟩ | ⟨opened, crowded, submitted⟩ | ⟨opened, roomy, submitted⟩
  · simp [Floor.submit, submitted, Progress.ofSubmission, shut]
  · simp [Floor.submit, submitted, Progress.ofSubmission, opened, Server.Crowded, crowded]
  · simp [Floor.submit, submitted, Progress.ofSubmission, opened, Server.Crowded, roomy]

/-- One change of a server: whatever happens to it, and any part of a dispatch that is cut
across by others. -/
inductive Change (server : Server α) : Server α → Prop where
  | step {next : Server α} (step : server.Step next) : Change server next
  | turn {deeds : List Deed} {next : Server α} (turn : server.Turn deeds next) :
      Change server next
  | number : Change server { server with dispatched := server.dispatched + 1 }
  | ask : Change server server.allowed.2
  | submit (number : Nat) (job : Job) (conn : Connection) :
      Change server { server with floor := (server.floor.submit number job conn).2 }
  | count : Change server (server.tell Counts.accept)
  | reject (number : Nat) (cause : Refusal) (conn : Connection) :
      Change server (server.reject number cause conn).2
  | occupy {index : Nat} (number : Nat) (listening : server.serves[index]? = some .listening) :
      Change server { server with serves := server.serves.set index (.refusing number) }

/-- A state of a server that comes about from another one. -/
inductive Reached (start : Server α) : Server α → Prop where
  | start : Reached start start
  | change {server next : Server α} (before : Reached start server)
      (change : server.Change next) : Reached start next

variable {start server next : Server α} {log deeds : List Deed}

theorem Course.reached (course : Course start log server) : Reached start server := by
  induction course with
  | start => exact .start
  | turn before turn ih => exact ih.change (.turn turn)

theorem Crowd.Run.reached {crowd : Crowd α} (run : Crowd.Run ⟨start, []⟩ crowd) :
    Reached start crowd.server := by
  induction run with
  | start => exact .start
  | step before step ih =>
      cases step with
      | server step => exact ih.change (.step step)
      | permit count => exact ih.change (.turn (.permit count))
      | enter conn peer => exact ih.change .number
      | ask found numbered => exact ih.change .ask
      | submit found allowed => exact ih.change (.submit _ _ _)
      | count found taken => exact ih.change .count
      | reject found refused => exact ih.change (.reject _ _ _)
      | finish found answering gone => exact ih
      | occupy number listening => exact ih.change (.occupy number listening)

omit [Amount α] in
/-- No step of a server changes its limiter. -/
theorem Step.limiter (step : server.Step next) : next.limiter = server.limiter := by
  rcases step.shape with ⟨index, strode⟩ | ⟨_, _, _, _, _, _, _, _, -, rfl⟩
  · obtain ⟨rejection, -, -, same, -⟩ := others_of_answer strode
    exact same
  · rfl

theorem unspent_settings (server : Server α) :
    server.unspent.map Bucket.settings = server.limiter.map Bucket.settings := by
  rw [unspent, Option.map_map]
  rfl

theorem spent_settings (server : Server α) :
    server.spent.map Bucket.settings = server.limiter.map Bucket.settings := by
  rw [spent, Option.map_map]
  rfl

/-- A server whose closing is in order and whose limiter is that of its settings. -/
structure Governed (config : Config) (server : Server α) : Prop where
  wound : Wound config.pool server
  limited : server.limiter.map Bucket.settings =
    if config.tokenLimit = 0 then none else some (config.tokenLimit, config.tokenRate)

namespace Governed

variable {config : Config}

/-- A new server is governed by its settings, and has workers. -/
theorem of_bind {processor : Processor} {counting : Bool} {resolve : Resolver}
    (bound : bind config processor counting resolve = .ok start) :
    0 < config.pool.workers.toNat ∧ Governed config start := by
  obtain ⟨staff, wound⟩ := Run.wound bound .start
  refine ⟨staff, wound, ?_⟩
  obtain ⟨-, host, rfl⟩ := bind_cases bound
  unfold Bucket.limiter
  split
  next => rfl
  next => rfl

theorem dispatch (governed : Governed config server) (staff : 0 < config.pool.workers.toNat)
    (conn : Connection) (peer : Option SocketAddress) :
    Governed config (server.dispatch conn peer).2 := by
  refine ⟨governed.wound.dispatch staff conn peer, ?_⟩
  rcases governed.wound.dispatch_decided_cases staff conn peer with
    ⟨-, decided⟩ | ⟨-, ⟨-, decided⟩ | ⟨-, -, decided⟩ | ⟨-, -, decided⟩⟩
  · rw [decided]
    exact server.unspent_settings.trans governed.limited
  · rw [decided]
    exact server.spent_settings.trans governed.limited
  · rw [decided]
    exact server.spent_settings.trans governed.limited
  · rw [decided]
    exact server.spent_settings.trans governed.limited

theorem turn (governed : Governed config server) (staff : 0 < config.pool.workers.toNat)
    (turn : server.Turn deeds next) : Governed config next := by
  refine ⟨governed.wound.turn staff turn, ?_⟩
  cases turn with
  | step step calls =>
      rw [step.limiter]
      exact governed.limited
  | serve =>
      rw [Step.serve.limiter]
      exact governed.limited
  | cancel =>
      obtain ⟨rejections, turnedAway, -, cancelled⟩ := server.cancelServes_cases
      rw [cancelled]
      exact governed.limited
  | fail listening => exact governed.limited
  | permit count => exact governed.limited
  | dispatch conn peer => exact (governed.dispatch staff conn peer).limited
  | arrive conn peer arrived =>
      have dispatched := governed.dispatch staff conn peer
      obtain ⟨serves, rfl⟩ := arrive_cases arrived
      exact dispatched.limited

/-- Every change keeps a server governed. -/
theorem change (governed : Governed config server) (staff : 0 < config.pool.workers.toNat)
    (change : server.Change next) : Governed config next := by
  obtain ⟨wound, limited⟩ := governed
  cases change with
  | step step => exact ⟨wound.step step, step.limiter ▸ limited⟩
  | turn turn => exact Governed.turn ⟨wound, limited⟩ staff turn
  | number => exact ⟨⟨wound.sound, wound.stage⟩, limited⟩
  | ask =>
      rcases server.allowed_decided with ⟨-, asked⟩ | ⟨-, asked⟩
      · rw [asked]
        exact ⟨⟨wound.sound, wound.stage⟩, server.unspent_settings.trans limited⟩
      · rw [asked]
        exact ⟨⟨wound.sound, wound.stage⟩, server.spent_settings.trans limited⟩
  | submit number job conn => exact ⟨wound.submit staff number job conn, limited⟩
  | count =>
      rw [tell_eq]
      exact ⟨⟨wound.sound, wound.stage⟩, limited⟩
  | reject number cause conn =>
      obtain ⟨counts, refused⟩ := server.reject_cases number cause conn
      rw [refused]
      exact ⟨⟨wound.sound, wound.stage⟩, limited⟩
  | occupy number listening => exact ⟨⟨wound.sound, wound.stage⟩, limited⟩

/-- Without a limit the limiter denies nobody. -/
theorem not_denies (governed : Governed config server) (unlimited : config.tokenLimit = 0) :
    ¬ server.Denies := by
  rintro ⟨bucket, limiter, -⟩
  have limited := governed.limited
  rw [limiter, if_pos unlimited] at limited
  cases limited

/-- Without a limit no dispatch is refused for want of a token. -/
theorem not_limited (governed : Governed config server) (staff : 0 < config.pool.workers.toNat)
    (unlimited : config.tokenLimit = 0) (conn : Connection) (peer : Option SocketAddress)
    (number : Nat) : (server.dispatch conn peer).1 ≠ .refused number .rateLimited := by
  rcases governed.wound.dispatch_decided_cases staff conn peer with
    ⟨denies, -⟩ | ⟨-, ⟨-, decided⟩ | ⟨-, -, decided⟩ | ⟨-, -, decided⟩⟩
  · exact (governed.not_denies unlimited denies).elim
  · rw [decided]
    nofun
  · rw [decided]
    nofun
  · rw [decided]
    nofun

end Governed

variable {config : Config} {processor : Processor} {counting : Bool} {resolve : Resolver}

/-- Whatever a server comes to, its closing is in order and its limiter is that of its
settings. -/
theorem Reached.governed (bound : bind config processor counting resolve = .ok start)
    (reached : Reached start server) :
    0 < config.pool.workers.toNat ∧ Governed config server := by
  obtain ⟨staff, fresh⟩ := Governed.of_bind bound
  refine ⟨staff, ?_⟩
  induction reached with
  | start => exact fresh
  | change before change ih => exact ih.change staff change

/-- Without a limit no log has a connection that was refused for want of a token. -/
theorem Course.not_limited (bound : bind config processor counting resolve = .ok start)
    (course : Course start log server) (unlimited : config.tokenLimit = 0) (conn : Connection)
    (peer : Option SocketAddress) (number : Nat) :
    .dispatched conn peer (.refused number .rateLimited) ∉ log := by
  induction course with
  | start => exact List.not_mem_nil
  | @turn log deeds server next before turn ih =>
      obtain ⟨staff, governed⟩ := before.reached.governed bound
      rw [List.mem_append, not_or]
      refine ⟨ih, ?_⟩
      intro member
      cases turn with
      | step step calls => cases member
      | serve => cases List.mem_singleton.mp member
      | cancel => cases member
      | fail listening => cases member
      | permit count => cases member
      | dispatch conn peer =>
          obtain ⟨rfl, rfl, refused⟩ := Deed.dispatched.inj (List.mem_singleton.mp member)
          exact governed.not_limited staff unlimited _ _ number refused.symm
      | arrive conn peer arrived =>
          obtain ⟨rfl, rfl, refused⟩ := Deed.dispatched.inj (List.mem_singleton.mp member)
          exact governed.not_limited staff unlimited _ _ number refused.symm

/-- Why a call is refused, if it is. -/
def Progress.cause : Progress → Option Refusal
  | .refused cause => some cause
  | .answering cause => some cause
  | .returned (.error cause) => some cause
  | _ => none

omit [Amount α] in
/-- A call that goes on brings no cause into the crowd but its own. -/
theorem Crowd.cause_of_advance {crowd : Crowd α} {after : Server α} {index : Nat}
    {call : DispatchCall} {progress : Progress} {cause : Refusal}
    (before : ∀ other ∈ crowd.calls, other.progress.cause ≠ some cause)
    (different : progress.cause ≠ some cause) :
    ∀ other ∈ (crowd.advance after index call progress).calls,
      other.progress.cause ≠ some cause := by
  intro other member
  rcases List.mem_or_eq_of_mem_set member with earlier | rfl
  · exact before other earlier
  · exact different

/-- Without a limit no call of a crowd is refused for want of a token. -/
theorem Crowd.Run.not_limited {crowd : Crowd α}
    (bound : bind config processor counting resolve = .ok start) (run : Crowd.Run ⟨start, []⟩ crowd)
    (unlimited : config.tokenLimit = 0) :
    ∀ call ∈ crowd.calls, call.progress.cause ≠ some .rateLimited := by
  induction run with
  | start => exact nofun
  | @step crowd next before step ih =>
      obtain ⟨staff, governed⟩ := before.reached.governed bound
      cases step with
      | server step => exact ih
      | permit count => exact ih
      | occupy number listening => exact ih
      | enter conn peer =>
          intro call member
          rcases List.mem_append.mp member with earlier | last
          · exact ih call earlier
          · obtain rfl := List.mem_singleton.mp last
            nofun
      | ask found numbered =>
          rw [allowed_of_passes (governed.not_denies unlimited)]
          exact cause_of_advance ih nofun
      | @submit index call found allowed =>
          apply cause_of_advance ih
          cases (crowd.server.floor.submit call.number call.job call.conn).1 with
          | accepted => nofun
          | full errand => nofun
          | closed errand => nofun
      | count found taken => exact cause_of_advance ih nofun
      | @reject index call cause found refused =>
          have other := ih call (List.mem_of_getElem? found)
          rw [refused] at other
          exact cause_of_advance ih other
      | @finish index call cause found answering gone =>
          have other := ih call (List.mem_of_getElem? found)
          rw [answering] at other
          exact cause_of_advance ih other

/-- **What a dispatch decides, and what it leaves alone.** Whatever state a server has come
to, its limiter is there exactly if its settings limit the tokens. A connection is refused
for want of a token exactly when the tokens of the last check, with what the rate has brought
since then and up to the limit, fall short of the price of a check; otherwise because the
pool is closed, exactly when it is; otherwise because the pool is full, exactly when the
queued and the held jobs take every place; and otherwise it is taken in. The limiter spends a
token unless that is what is wanting, whatever the pool says then. A connection that is
refused leaves the floor as it was, with its permits, its queue and its jobs; one that is
taken in is queued behind the others and has a permit. All else that changes is the number,
the count and the answer of the connection; the others are not touched, nor are they while
its answer goes on. What calls that cut across each other ask and submit is decided in the
same way, each by the state it meets. Without a limit, no connection is ever refused for want
of a token. -/
theorem dispatch_decided (bound : bind config processor counting resolve = .ok start)
    (reached : Reached start server) (conn : Connection) (peer : Option SocketAddress) :
    let number := server.dispatched
    let pool := server.floor.pool
    let decision := (server.dispatch conn peer).1
    let next := (server.dispatch conn peer).2
    let limited := config.tokenLimit ≠ 0 ∧ server.Denies
    let crowded := pool.queue.length + pool.held.length =
      config.workers.toNat + config.queueSize.toNat
    (server.limiter.map Bucket.settings =
      if config.tokenLimit = 0 then none else some (config.tokenLimit, config.tokenRate)) ∧
    ((decision = .refused number .rateLimited ↔ limited) ∧
      (decision = .refused number .queueClosed ↔ ¬ limited ∧ pool.isOpen = false) ∧
      (decision = .refused number .queueFull ↔ ¬ limited ∧ pool.isOpen = true ∧ crowded) ∧
      (decision = .accepted (number + 1) ↔ ¬ limited ∧ pool.isOpen = true ∧ ¬ crowded)) ∧
    ((limited → next = server.afterRefusal server.unspent .rateLimited conn) ∧
      (∀ cause, ¬ limited → decision = .refused number cause →
        next = server.afterRefusal server.spent cause conn) ∧
      (decision = .accepted (number + 1) → next = server.afterIntake server.spent conn peer)) ∧
    (decision ≠ .accepted (number + 1) → next.floor = server.floor) ∧
    (next.others number = server.others number ∧
      ∀ (later after : Server α) (index : Nat), later.rejectionStride index = some after →
        ∃ rejection, later.rejections[index]? = some rejection ∧ after.floor = later.floor ∧
          after.limiter = later.limiter ∧
          after.others rejection.number = later.others rejection.number) ∧
    ((server.allowed.1 = false ↔ limited) ∧
      ∀ other job,
        let submitted := server.floor.submit other job conn
        let progress := Progress.ofSubmission submitted.1
        (progress = .refused .queueClosed ↔ pool.isOpen = false) ∧
        (progress = .refused .queueFull ↔ pool.isOpen = true ∧ crowded) ∧
        (progress = .taken ↔ pool.isOpen = true ∧ ¬ crowded) ∧
        (progress ≠ .taken → submitted.2 = server.floor)) ∧
    (config.tokenLimit = 0 →
      (∀ log, Course start log server → ∀ conn peer number,
        .dispatched conn peer (.refused number .rateLimited) ∉ log) ∧
      ∀ calls, Crowd.Run ⟨start, []⟩ ⟨server, calls⟩ →
        ∀ call ∈ calls, call.progress.cause ≠ some .rateLimited) := by
  obtain ⟨staff, governed⟩ := reached.governed bound
  have whole : config.pool.capacity.toNat = config.workers.toNat + config.queueSize.toNat := by
    obtain ⟨valid, -⟩ := bind_cases bound
    exact (Pool.Config.validate_ok (Config.pool_validate valid)).2
  intro number pool decision next limited crowded
  have limits : limited ↔ server.Denies := by
    constructor
    · exact fun limited => limited.2
    · exact fun denies => ⟨fun unlimited => governed.not_denies unlimited denies, denies⟩
  have crowds : crowded ↔ server.Crowded config.pool := by
    rw [Server.Crowded, whole]
  rw [limits, crowds]
  obtain ⟨unchanged, apart⟩ := governed.wound.dispatch_apart staff conn peer
  refine ⟨governed.limited, governed.wound.decision_iff staff conn peer,
    governed.wound.dispatch_leaves staff conn peer, unchanged,
    ⟨apart, fun later after index strode => others_of_answer strode⟩, ⟨?_, ?_⟩, ?_⟩
  · rcases server.allowed_decided with ⟨denies, asked⟩ | ⟨passes, asked⟩
    · simp [asked, denies]
    · simp [asked, passes]
  · intro other job
    exact governed.wound.submission_iff staff other job conn
  · intro unlimited
    exact ⟨fun log course => course.not_limited bound unlimited,
      fun calls run => run.not_limited bound unlimited⟩

/-- Settings for three connections in the pool, with two tokens of which one comes back each
second. -/
def dripping : Config := { workers := 1, queueSize := 2, tokenRate := 1, tokenLimit := 2 }

def drippingServer : Server Rat :=
  { config := dripping
    bound := .v4 127 0 0 1
    floor := { processor := { handling := .serve 1000 1000 }, pool := Pool.start dripping.pool }
    limiter := Bucket.limiter 2 1 0 }

/-- Two connections take the two tokens, and the third one finds none. A second later there is one
more, for the fourth connection, which takes the last place of the pool. Two and a half seconds
later there are two tokens and no more: one is spent on a connection for which there is no place,
and one on a connection that finds the pool closed. -/
theorem dispatch_decided_dripping :
    ∃ dry dripped full closed : Server Rat,
      (Reached drippingServer dry ∧ dry.clock.now = 0 ∧ dry.Denies ∧
        (dry.dispatch {} none).2 = dry.afterRefusal dry.unspent .rateLimited {}) ∧
      (Reached drippingServer dripped ∧ dripped.clock.now = 1000000000 ∧
        dripped.limiter.map Bucket.tokens = some 0 ∧ ¬ dripped.Denies ∧
        (dripped.dispatch {} none).1 = .accepted 4 ∧
        (dripped.dispatch {} none).2 = dripped.afterIntake dripped.spent {} none ∧
        dripped.spent.map Bucket.tokens = some 0) ∧
      (Reached drippingServer full ∧ full.clock.now = 3500000000 ∧
        full.floor.pool.queue.length + full.floor.pool.held.length = 3 ∧ ¬ full.Denies ∧
        (full.dispatch {} none).2 = full.afterRefusal full.spent .queueFull {} ∧
        full.spent.map Bucket.tokens = some 1) ∧
      (Reached drippingServer closed ∧ closed.floor.pool.isOpen = false ∧ ¬ closed.Denies ∧
        (closed.dispatch {} none).2 = closed.afterRefusal closed.spent .queueClosed {} ∧
        closed.spent.map Bucket.tokens = some 0) := by
  have bound : bind dripping { handling := .serve 1000 1000 } true = .ok drippingServer := rfl
  have fresh : Reached drippingServer drippingServer := .start
  have dry := (fresh.change (.turn (.dispatch {} none))).change (.turn (.dispatch {} none))
  have denied := dry.change (.turn (.dispatch {} none))
  have dripped := denied.change (.step (.tick ⟨1000000000⟩))
  have taken := dripped.change (.turn (.dispatch {} none))
  have full := taken.change (.step (.tick ⟨3500000000⟩))
  have closing := (full.change (.turn (.dispatch {} none))).change (.step .close)
  have closed := closing.change
    (.step (.wind 0 (Option.some_get (by decide +kernel)).symm))
  obtain ⟨-, ⟨isDry, -⟩, ⟨whenDry, -⟩, -⟩ := dispatch_decided bound dry {} none
  obtain ⟨-, ⟨-, -, -, isTaken⟩, ⟨-, -, whenTaken⟩, -⟩ := dispatch_decided bound dripped {} none
  obtain ⟨-, ⟨-, -, isFull, -⟩, ⟨-, whenFull, -⟩, -⟩ := dispatch_decided bound full {} none
  obtain ⟨-, ⟨-, isClosed, -⟩, ⟨-, whenClosed, -⟩, -⟩ := dispatch_decided bound closed {} none
  have short := isDry.mp (by decide +kernel)
  obtain ⟨fourth, -, -⟩ := isTaken.mp (by decide +kernel)
  obtain ⟨passes, -, crowded⟩ := isFull.mp (by decide +kernel)
  obtain ⟨granted, shut⟩ := isClosed.mp (by decide +kernel)
  refine ⟨_, _, _, _, ⟨dry, by decide +kernel, short.2, whenDry short⟩,
    ⟨dripped, rfl, by decide +kernel, ?_, by decide +kernel, whenTaken (by decide +kernel), ?_⟩,
    ⟨full, rfl, crowded, ?_, whenFull .queueFull passes ?_, ?_⟩,
    ⟨closed, shut, ?_, whenClosed .queueClosed granted ?_, ?_⟩⟩
  · exact fun denies => fourth ⟨by decide, denies⟩
  · decide +kernel
  · exact fun denies => passes ⟨by decide, denies⟩
  · decide +kernel
  · decide +kernel
  · exact fun denies => granted ⟨by decide, denies⟩
  · decide +kernel
  · decide +kernel

end Server

end Admission
