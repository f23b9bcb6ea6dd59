import Admission.Signal

/-! # Shutdown is seen

Tokens are made, copied and looked at, waits begin, shutdown is requested and the sender goes, in
any order, and the waits take their turns in between, one read at a time
(`Admission.Signal.Step`). A wait that fell asleep on the version it had read has read the value of
that version (`Admission.Signal.Fits`), so a request between its two reads is not missed: the
version has moved on when it checks. That invariant decides every wait that can go on no further
(`Admission.Signal.Fits.done_iff`), and three turns bring a wait there, which together are what
`Admission.Signal.poll` does at once (`Admission.Signal.poll_eq`).
-/

namespace Admission.Signal

/-- One turn of a wait. It reads the value together with its version, or it checks whether that
version is still the last one and the sender is still there. A wait that sleeps is woken when a
value is written and when the sender goes. A wait that is given up gets no more turns. -/
def turn (signal : Signal) : Waiter → Waiter
  | .done => .done
  | .fresh => if signal.raised then .done else .asleep signal.version
  | .asleep seen =>
    if signal.version ≠ seen then .fresh
    else if !signal.hasSender then .done
    else .asleep seen

/-- What can be done, with the answers. Waits and tokens are numbered in the order in which they
come. -/
inductive Move where
  | subscribe (number : Nat)
  | copy (token number : Nat)
  | look (token : Nat) (answer : Bool)
  | wait (token : Nat)
  | turn (wait : Nat)
  | shutdown
  | dropSender
  deriving DecidableEq, Repr

namespace Move

/-- The token that is made. -/
def made? : Move → Option Nat
  | subscribe number => some number
  | copy _ number => some number
  | _ => none

def beginsWait : Move → Bool
  | wait _ => true
  | _ => false

def isTurn : Move → Bool
  | turn _ => true
  | _ => false

end Move

/-- One move. Only tokens that were made can be used, and what the sender does it does while it is
there. -/
inductive Step : Signal → Move → Signal → Prop where
  | subscribe {signal next : Signal} {number : Nat}
      (made : signal.subscribe = some (number, next)) : Step signal (.subscribe number) next
  | copy {signal : Signal} {token : Nat} (held : token < signal.tokens) :
      Step signal (.copy token signal.copyToken.1) signal.copyToken.2
  | look {signal : Signal} {token : Nat} {answer : Bool}
      (shown : signal.isShutdown? token = some answer) : Step signal (.look token answer) signal
  | wait {signal : Signal} {token : Nat} (held : token < signal.tokens) :
      Step signal (.wait token) signal.spawnWait
  | turn {signal : Signal} {index : Nat} {waiter : Waiter}
      (found : signal.waiters[index]? = some waiter) :
      Step signal (.turn index)
        { signal with waiters := signal.waiters.set index (signal.turn waiter) }
  | shutdown {signal : Signal} (sender : signal.hasSender = true) :
      Step signal .shutdown signal.shutdown.2
  | dropSender {signal : Signal} (sender : signal.hasSender = true) :
      Step signal .dropSender signal.dropSender.2

/-- The moves so far, the oldest first, and where they lead from a new signal. -/
inductive Run : List Move → Signal → Prop where
  | start : Run [] {}
  | step {moves : List Move} {signal next : Signal} {move : Move} (run : Run moves signal)
      (step : Step signal move next) : Run (moves ++ [move]) next

/-- Whether a wait can go on no further. -/
def AtRest (signal : Signal) (waiter : Waiter) : Prop :=
  signal.turn waiter = waiter

def IsSettled (signal : Signal) : Prop :=
  ∀ waiter ∈ signal.waiters, signal.AtRest waiter

/-- Whether a wait can be where it is. The value of the version that a sleeper has read was not
raised, and a wait is over for one of two causes. -/
def Fits (signal : Signal) : Waiter → Prop
  | .fresh => True
  | .asleep seen => seen ≤ signal.version ∧ (seen = signal.version → signal.raised = false)
  | .done => signal.raised = true ∨ signal.hasSender = false

variable {signal next : Signal} {waiter : Waiter} {move : Move} {moves : List Move}

/-- A wait that reads the value is over, or asleep on the version that it read. -/
theorem turn_fresh (signal : Signal) :
    (signal.raised = true ∧ signal.turn .fresh = .done) ∨
      (signal.raised = false ∧ signal.turn .fresh = .asleep signal.version) := by
  rw [turn]
  cases signal.raised with
  | true => exact .inl ⟨rfl, rfl⟩
  | false => exact .inr ⟨rfl, rfl⟩

/-- A wait that checks its version reads again when that is no longer the last one, is over when
the sender is gone, and sleeps on otherwise. -/
theorem turn_asleep (signal : Signal) (seen : Nat) :
    (signal.version ≠ seen ∧ signal.turn (.asleep seen) = .fresh) ∨
      (signal.version = seen ∧ signal.hasSender = false ∧ signal.turn (.asleep seen) = .done) ∨
      (signal.version = seen ∧ signal.hasSender = true ∧
        signal.turn (.asleep seen) = .asleep seen) := by
  rw [turn]
  by_cases last : signal.version = seen
  · rw [if_neg (not_not_intro last)]
    cases sender : signal.hasSender with
    | false => exact .inr (.inl ⟨last, rfl, rfl⟩)
    | true => exact .inr (.inr ⟨last, rfl, rfl⟩)
  · exact .inl ⟨last, if_pos last⟩

/-- What a wait does at once is three of its turns. -/
theorem poll_eq (signal : Signal) (waiter : Waiter) :
    signal.poll waiter = signal.turn (signal.turn (signal.turn waiter)) := by
  cases waiter <;> grind [poll, look, turn]

/-- A wait that was polled can go on no further by itself. -/
theorem atRest_poll (signal : Signal) (waiter : Waiter) : signal.AtRest (signal.poll waiter) := by
  cases waiter <;> grind [poll, look, turn, AtRest]

namespace Fits

/-- A turn keeps a wait where it can be. -/
theorem turn (fits : signal.Fits waiter) : signal.Fits (signal.turn waiter) := by
  cases waiter with
  | fresh =>
      rcases turn_fresh signal with ⟨raised, turned⟩ | ⟨quiet, turned⟩
      · rw [turned]
        exact .inl raised
      · rw [turned]
        exact ⟨Nat.le_refl _, fun _ => quiet⟩
  | asleep seen =>
      rcases turn_asleep signal seen with ⟨-, turned⟩ | ⟨-, gone, turned⟩ | ⟨-, -, turned⟩
      · rw [turned]
        trivial
      · rw [turned]
        exact .inr gone
      · rwa [turned]
  | done => exact fits

/-- **A wait at rest is over exactly when there is a cause.** -/
theorem done_iff (fits : signal.Fits waiter) (rest : signal.AtRest waiter) :
    waiter = .done ↔ signal.raised = true ∨ signal.hasSender = false := by
  cases waiter with
  | fresh =>
      rcases turn_fresh signal with ⟨-, turned⟩ | ⟨-, turned⟩
      · cases turned.symm.trans rest
      · cases turned.symm.trans rest
  | asleep seen =>
      refine iff_of_false nofun ?_
      rcases turn_asleep signal seen with ⟨-, turned⟩ | ⟨-, -, turned⟩ | ⟨last, sender, -⟩
      · cases turned.symm.trans rest
      · cases turned.symm.trans rest
      · rw [fits.2 last.symm, sender]
        decide
  | done => exact iff_of_true rfl fits

/-- A request writes another version, which no sleeper has read. -/
theorem shutdown (fits : signal.Fits waiter) (sender : signal.hasSender = true) :
    signal.shutdown.2.Fits waiter := by
  rw [Signal.shutdown, if_pos sender]
  cases waiter with
  | fresh => trivial
  | asleep seen =>
      refine ⟨Nat.le_succ_of_le fits.1, fun last => ?_⟩
      exact absurd fits.1 (last ▸ Nat.not_succ_le_self signal.version)
  | done => exact .inl rfl

theorem dropSender (fits : signal.Fits waiter) : signal.dropSender.2.Fits waiter := by
  cases waiter with
  | fresh => trivial
  | asleep seen => exact fits
  | done => exact .inr rfl

end Fits

/-- What a move changes: only a request raises the signal, only dropping the sender takes it away,
and neither is ever taken back; tokens get the next numbers, and waits are put behind the others. -/
structure Changed (signal : Signal) (move : Move) (next : Signal) : Prop where
  raised : next.raised = true ↔ signal.raised = true ∨ move = .shutdown
  sender : next.hasSender = false ↔ signal.hasSender = false ∨ move = .dropSender
  tokens : List.range next.tokens = List.range signal.tokens ++ move.made?.toList
  waits : next.waiters.length = signal.waiters.length + if move.beginsWait then 1 else 0

namespace Step

variable (step : Step signal move next)

include step

/-- A move changes what it is to change, and nothing else. -/
theorem changed : Changed signal move next := by
  cases step with
  | subscribe made =>
      obtain ⟨-, made⟩ := Option.ite_none_right_eq_some.mp made
      cases made
      constructor <;> simp [Move.made?, Move.beginsWait, List.range_succ]
  | shutdown sender =>
      constructor <;> simp [Signal.shutdown, sender, Move.made?, Move.beginsWait]
  | _ =>
      constructor <;>
        simp [copyToken, spawnWait, Signal.dropSender, Move.made?, Move.beginsWait, List.range_succ]

theorem fits (fits : ∀ waiter ∈ signal.waiters, signal.Fits waiter) :
    ∀ waiter ∈ next.waiters, next.Fits waiter := by
  intro waiter member
  cases step with
  | subscribe made =>
      obtain ⟨-, made⟩ := Option.ite_none_right_eq_some.mp made
      cases made
      exact fits waiter member
  | copy held => exact fits waiter member
  | look shown => exact fits waiter member
  | wait held =>
      rcases List.mem_append.mp member with old | new
      · exact fits waiter old
      · rw [List.mem_singleton.mp new]
        trivial
  | @turn index turning found =>
      rcases List.mem_or_eq_of_mem_set member with old | rfl
      · exact fits waiter old
      · exact (fits turning (List.mem_of_getElem? found)).turn
  | shutdown sender =>
      have old : waiter ∈ signal.waiters := by rwa [Signal.shutdown, if_pos sender] at member
      exact (fits waiter old).shutdown sender
  | dropSender sender => exact (fits waiter member).dropSender

end Step

/-- The signal is where the moves have brought it. -/
structure Told (moves : List Move) (signal : Signal) : Prop where
  raised : signal.raised = true ↔ .shutdown ∈ moves
  sender : signal.hasSender = false ↔ .dropSender ∈ moves
  tokens : List.range signal.tokens = 0 :: moves.filterMap Move.made?
  waits : signal.waiters.length = moves.countP Move.beginsWait
  looks : ∀ before token answer behind, moves = before ++ .look token answer :: behind →
    (answer = true ↔ .shutdown ∈ before)
  fits : ∀ waiter ∈ signal.waiters, signal.Fits waiter

/-- Every look shows whether there was a request before it. -/
theorem Told.answered (told : Told moves signal) {token : Nat} {answer : Bool}
    (step : Step signal (.look token answer) next) : answer = true ↔ .shutdown ∈ moves := by
  cases step with
  | look shown =>
      obtain ⟨-, same⟩ := Option.ite_none_right_eq_some.mp shown
      rw [← Option.some.inj same, told.raised]

theorem Told.step (told : Told moves signal) (step : Step signal move next) :
    Told (moves ++ [move]) next := by
  have changed := step.changed
  refine ⟨?_, ?_, ?_, ?_, ?_, step.fits told.fits⟩
  · rw [changed.raised, told.raised, List.mem_append, List.mem_singleton, eq_comm (a := move)]
  · rw [changed.sender, told.sender, List.mem_append, List.mem_singleton, eq_comm (a := move)]
  · have made : [move].filterMap Move.made? = move.made?.toList := by
      rw [List.filterMap_cons]
      cases move.made? <;> rfl
    rw [changed.tokens, told.tokens, List.filterMap_append, made, List.cons_append]
  · rw [changed.waits, told.waits, List.countP_append, List.countP_singleton]
  · intro before token answer behind split
    rcases List.eq_nil_or_concat behind with rfl | ⟨front, last, rfl⟩
    · obtain ⟨rfl, same⟩ := List.append_inj' split rfl
      obtain rfl := List.singleton_inj.mp same
      exact told.answered step
    · rw [List.concat_eq_append, ← List.cons_append, ← List.append_assoc] at split
      exact told.looks before token answer front (List.append_inj' split rfl).1

/-- A run brings the signal where its moves tell. -/
theorem Run.told (run : Run moves signal) : Told moves signal := by
  induction run with
  | start =>
      refine ⟨by decide, by decide, rfl, rfl, ?_, nofun⟩
      intro before token answer behind split
      cases (List.append_eq_nil_iff.mp split.symm).2
  | step run step ih => exact ih.step step

/-- A wait may take its turn, and it counts as a move. -/
theorem Run.turn {before behind : List Waiter}
    (run : Run moves { signal with waiters := before ++ waiter :: behind }) :
    Run (moves ++ [.turn before.length])
      { signal with waiters := before ++ signal.turn waiter :: behind } := by
  have found : (before ++ waiter :: behind)[before.length]? = some waiter := by
    rw [List.getElem?_append_right (Nat.le_refl _), Nat.sub_self]
    rfl
  have turned := run.step (.turn found)
  rwa [List.set_append_right _ _ (Nat.le_refl _), Nat.sub_self, List.set_cons_zero] at turned

/-- Turns alone bring every wait to where it can go on no further, one wait after the other. -/
theorem Run.exists_turns {turns : List Move} {before behind : List Waiter}
    (only : ∀ move ∈ turns, move.isTurn = true)
    (run : Run (moves ++ turns) { signal with waiters := before ++ behind }) :
    ∃ turns, (∀ move ∈ turns, move.isTurn = true) ∧
      Run (moves ++ turns) { signal with waiters := before ++ behind.map signal.poll } := by
  induction behind generalizing before turns with
  | nil => exact ⟨turns, only, run⟩
  | cons waiter behind ih =>
      let again := Move.turn before.length
      have more : ∀ move ∈ turns ++ [again, again, again], move.isTurn = true := by
        refine List.forall_mem_append.mpr ⟨only, ?_⟩
        simp [again, Move.isTurn]
      have polled := run.turn.turn.turn
      rw [← poll_eq, List.append_cons before] at polled
      have shape : moves ++ turns ++ [again] ++ [again] ++ [again] =
          moves ++ (turns ++ [again, again, again]) := by simp
      obtain ⟨turns, only, settled⟩ := ih more (shape ▸ polled)
      rw [List.append_assoc] at settled
      exact ⟨turns, only, settled⟩

/-- Turns of the waits bring every run to a settled signal. -/
theorem Run.exists_settled (run : Run moves signal) :
    ∃ turns, (∀ move ∈ turns, move.isTurn = true) ∧ Run (moves ++ turns) signal.settle := by
  have none : ∀ move ∈ ([] : List Move), move.isTurn = true := nofun
  have whole : Run (moves ++ []) { signal with waiters := [] ++ signal.waiters } := by
    rwa [List.append_nil]
  exact whole.exists_turns none

theorem isSettled_settle (signal : Signal) : signal.settle.IsSettled := by
  intro waiter member
  obtain ⟨before, -, rfl⟩ := List.mem_map.mp member
  exact signal.atRest_poll before

/-- **Requests are seen, and stay seen.** After any moves: the tokens are numbered from zero in the
order in which they were made, and each of them, however and whenever it was made, shows exactly
whether shutdown was requested; so did every look at one on the way. Each wait that was begun, on
whichever token, before or after, is over only when shutdown was requested or the sender was
dropped, and when it can go on no further it is over exactly then; so is a wait that begins now,
at once. Turns of the waits alone settle them all. -/
theorem shutdown_seen (run : Run moves signal) :
    (List.range signal.tokens = 0 :: moves.filterMap Move.made? ∧
      (∀ token < signal.tokens, signal.isShutdown? token = some (decide (.shutdown ∈ moves))) ∧
      ∀ before token answer behind, moves = before ++ .look token answer :: behind →
        (answer = true ↔ .shutdown ∈ before)) ∧
    (signal.waiters.length = moves.countP Move.beginsWait ∧
      (∀ waiter ∈ signal.waiters, waiter = .done → .shutdown ∈ moves ∨ .dropSender ∈ moves) ∧
      (∀ waiter ∈ signal.waiters, signal.AtRest waiter →
        (waiter = .done ↔ .shutdown ∈ moves ∨ .dropSender ∈ moves)) ∧
      (signal.waitReturns = true ↔ .shutdown ∈ moves ∨ .dropSender ∈ moves)) ∧
    signal.settle.IsSettled ∧
      ∃ turns, (∀ move ∈ turns, move.isTurn = true) ∧ Run (moves ++ turns) signal.settle := by
  have told := run.told
  have cause : signal.raised = true ∨ signal.hasSender = false ↔
      Move.shutdown ∈ moves ∨ Move.dropSender ∈ moves := or_congr told.raised told.sender
  refine ⟨⟨told.tokens, fun token held => ?_, told.looks⟩, ⟨told.waits, ?_, ?_, ?_⟩,
    signal.isSettled_settle, run.exists_settled⟩
  · rw [isShutdown?, if_pos held, Option.some_inj, Bool.eq_iff_iff, told.raised, decide_eq_true_iff]
  · rintro waiter member rfl
    exact cause.mp (told.fits _ member)
  · intro waiter member rest
    rw [← cause]
    exact (told.fits waiter member).done_iff rest
  · have fresh : signal.Fits .fresh := trivial
    have polled : signal.Fits (signal.poll .fresh) := poll_eq signal .fresh ▸ fresh.turn.turn.turn
    rw [waitReturns, beq_iff_eq, ← cause]
    exact polled.done_iff (signal.atRest_poll .fresh)

/-- A wait has read the value before the request and checks its version after it, the sender goes,
and a copy that is made then shows the request. -/
theorem shutdown_seen_late :
    ∃ signal, Run [.wait 0, .turn 0, .shutdown, .dropSender, .copy 0 1, .look 1 true, .turn 0,
        .turn 0] signal ∧
      signal.isShutdown? 1 = some true ∧ signal.waiters = [.done] ∧ signal.AtRest .done ∧
      signal.waitReturns = true := by
  have begun : Run [.wait 0, .turn 0] _ := (Run.start.step (.wait (by decide))).step (.turn rfl)
  have gone : Run [.wait 0, .turn 0, .shutdown, .dropSender] _ :=
    (begun.step (.shutdown rfl)).step (.dropSender rfl)
  have shown : Run [.wait 0, .turn 0, .shutdown, .dropSender, .copy 0 1, .look 1 true] _ :=
    (gone.step (@Step.copy _ 0 (by decide))).step (@Step.look _ 1 true rfl)
  have woken : Run [.wait 0, .turn 0, .shutdown, .dropSender, .copy 0 1, .look 1 true, .turn 0,
      .turn 0] _ := (shown.step (.turn rfl)).step (.turn rfl)
  obtain ⟨⟨-, tokens, -⟩, ⟨-, -, -, returns⟩, -⟩ := shutdown_seen woken
  exact ⟨_, woken, tokens 1 (by decide), rfl, rfl, returns.mpr (by decide)⟩

end Admission.Signal
