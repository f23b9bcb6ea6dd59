import Admission.Proofs.Bucket.Exact

/-! # Runs of a bucket

A bucket reads a clock that never goes back. In a run the clock moves on and the bucket is
checked, in any order and any number of times (`Admission.Bucket.Meter.after`,
`Admission.Bucket.Meter.answers`).

Over any stretch of a run, what is admitted is paid for by what was in the bucket and what
accrues. A check that is allowed costs a token less the slack: a token that was not whole is
given in full, but then nothing is left in the bucket. So the tokens and the costs together
never grow by more than what accrues (`Admission.Bucket.tokens_and_cost_le`,
`Admission.Bucket.Meter.Running.cost_le`), and at the first check of a stretch there are at
most as many tokens as the bucket holds (`Admission.Bucket.Meter.admissions_bounded`).
-/

namespace Admission.Bucket

/-- A bucket with the instant that its clock shows. -/
structure Meter (α : Type) where
  bucket : Bucket α
  now : Nat

/-- What is done with a bucket and its clock. -/
inductive Act where
  | advance (nanos : Nat)
  | check
  deriving DecidableEq, Repr

/-- A check that was made, and its answer. -/
structure Checked where
  instant : Nat
  allowed : Bool
  deriving DecidableEq, Repr

/-- One more check counts as an admission if it was allowed. -/
theorem Checked.countP_cons (checked : Checked) (others : List Checked) :
    (checked :: others).countP Checked.allowed =
      checked.allowed.toNat + others.countP Checked.allowed := by
  rw [List.countP_cons, Nat.add_comm]
  cases checked.allowed <;> rfl

namespace Meter

variable {α : Type} [Amount α]

def fresh (maxTokens rate : UInt32) (start : Nat) : Meter α :=
  ⟨full maxTokens rate start, start⟩

/-- What a check answers now. -/
def answer (meter : Meter α) : Checked :=
  ⟨meter.now, (meter.bucket.check meter.now).1⟩

def next (meter : Meter α) : Act → Meter α
  | .advance nanos => { meter with now := meter.now + nanos }
  | .check => { meter with bucket := (meter.bucket.check meter.now).2 }

def after (meter : Meter α) (acts : List Act) : Meter α :=
  acts.foldl next meter

/-- The checks of a run, the first one first. -/
def answers : Meter α → List Act → List Checked
  | _, [] => []
  | meter, .advance nanos :: acts => (meter.next (.advance nanos)).answers acts
  | meter, .check :: acts => meter.answer :: (meter.next .check).answers acts

/-- No check of a run is earlier than the run. -/
theorem now_le_instant (meter : Meter α) (acts : List Act) :
    ∀ checked ∈ meter.answers acts, meter.now ≤ checked.instant := by
  induction acts generalizing meter with
  | nil => exact nofun
  | cons act acts ih =>
      intro checked member
      cases act with
      | advance nanos =>
          have later := ih (meter.next (.advance nanos)) checked member
          exact Nat.le_trans (Nat.le_add_right _ _) later
      | check =>
          rcases List.mem_cons.mp member with rfl | others
          · exact Nat.le_refl _
          · exact ih (meter.next .check) checked others

/-- The clock never goes back between checks. -/
theorem answers_ordered (meter : Meter α) (acts : List Act) :
    (meter.answers acts).Pairwise fun first second => first.instant ≤ second.instant := by
  induction acts generalizing meter with
  | nil => exact .nil
  | cons act acts ih =>
      cases act with
      | advance nanos => exact ih _
      | check => exact .cons ((meter.next .check).now_le_instant acts) (ih _)

end Meter

/-- What a number of admissions cost, in tokens. -/
def cost (rate : UInt32) (admissions : Nat) : Rat :=
  admissions * (1 - slack rate)

theorem cost_zero (rate : UInt32) : cost rate 0 = 0 := by
  rw [cost, Nat.cast_zero, zero_mul]

theorem cost_add (rate : UInt32) (first second : Nat) :
    cost rate (first + second) = cost rate first + cost rate second := by
  rw [cost, Nat.cast_add, add_mul]
  rfl

/-- A check leaves at least its cost less than there was. -/
theorem tokens_and_cost_le (bucket : Bucket Rat) (now : Nat) :
    (bucket.check now).2.tokens + cost bucket.rate (bucket.check now).1.toNat ≤
      bucket.accrued now := by
  rcases bucket.check_cases now with ⟨enough, checked⟩ | ⟨-, checked⟩
  · have positive := slack_pos bucket.rate
    have left : max (bucket.accrued now - 1) 0 ≤ bucket.accrued now - (1 - slack bucket.rate) := by
      apply max_le
      · linarith
      · linarith
    rw [checked, spend_tokens, cost, Bool.toNat_true, Nat.cast_one, one_mul]
    exact le_sub_iff_add_le.mp left
  · rw [checked, Bool.toNat_false, cost_zero, add_zero]
    exact le_refl _

namespace Meter

variable {maxTokens rate : UInt32} {meter : Meter Rat}

/-- A bucket of given settings, in bounds, and not ahead of its clock. -/
structure Running (maxTokens rate : UInt32) (meter : Meter Rat) : Prop where
  maxTokens_eq : meter.bucket.maxTokens = maxTokens
  rate_eq : meter.bucket.rate = rate
  within : meter.bucket.Within
  past : meter.bucket.credited ≤ meter.now

/-- A new bucket is in bounds and has its settings. -/
theorem fresh_running (maxTokens rate : UInt32) (start : Nat) :
    (fresh maxTokens rate start).Running maxTokens rate :=
  ⟨rfl, rfl, full_within maxTokens rate start, Nat.le_refl start⟩

namespace Running

theorem next (running : meter.Running maxTokens rate) (act : Act) :
    (meter.next act).Running maxTokens rate := by
  obtain ⟨maxTokens_eq, rate_eq, within, past⟩ := running
  cases act with
  | advance nanos =>
      exact ⟨maxTokens_eq, rate_eq, within, Nat.le_trans past (Nat.le_add_right _ _)⟩
  | check =>
      obtain ⟨credited, sameMax, sameRate⟩ := meter.bucket.check_frame meter.now
      exact ⟨sameMax.trans maxTokens_eq, sameRate.trans rate_eq, within.check meter.now,
        Nat.le_of_eq credited⟩

/-- A whole run keeps the settings and the bounds. -/
theorem after (running : meter.Running maxTokens rate) (acts : List Act) :
    (meter.after acts).Running maxTokens rate := by
  induction acts generalizing meter with
  | nil => exact running
  | cons act acts ih => exact ih (running.next act)

/-- What accrues until a check, and from then on, is what accrues in all. -/
theorem accrued_add_gained_le (running : meter.Running maxTokens rate) {horizon : Nat}
    (ahead : meter.now ≤ horizon) :
    meter.bucket.accrued meter.now + gained rate (horizon - meter.now) ≤
      meter.bucket.tokens + gained rate (horizon - meter.bucket.credited) := by
  have past := running.past
  have whole : horizon - meter.bucket.credited =
      (meter.now - meter.bucket.credited) + (horizon - meter.now) := by omega
  have uncapped : meter.bucket.accrued meter.now ≤
      meter.bucket.tokens + gained rate (meter.now - meter.bucket.credited) := by
    rw [accrued_eq, running.rate_eq]
    exact min_le_left _ _
  rw [whole, gained_add, ← add_assoc]
  exact add_le_add_left uncapped _

/-- A check and those behind it cost at most what is there at its instant and what accrues
from then on, if those behind it cost no more than what it leaves. -/
theorem cost_cons_le (running : meter.Running maxTokens rate) {others : List Checked}
    {horizon : Nat}
    (cheap : cost rate (others.countP Checked.allowed) ≤
      (meter.next .check).bucket.tokens
        + gained rate (horizon - (meter.next .check).bucket.credited)) :
    cost rate ((meter.answer :: others).countP Checked.allowed) ≤
      meter.bucket.accrued meter.now + gained rate (horizon - meter.now) := by
  obtain ⟨credited, -, -⟩ := meter.bucket.check_frame meter.now
  have charged := tokens_and_cost_le meter.bucket meter.now
  simp only [Meter.next, credited] at cheap
  rw [running.rate_eq] at charged
  rw [Checked.countP_cons, cost_add, answer]
  linarith

/-- From any state on, the admissions up to an instant cost at most what there is and what
accrues until then. -/
theorem cost_le (running : meter.Running maxTokens rate) {acts : List Act}
    {window behind : List Checked} (seen : meter.answers acts = window ++ behind)
    {horizon : Nat} (soon : ∀ checked ∈ window, checked.instant ≤ horizon)
    (ahead : meter.bucket.credited ≤ horizon) :
    cost rate (window.countP Checked.allowed) ≤
      meter.bucket.tokens + gained rate (horizon - meter.bucket.credited) := by
  induction acts generalizing meter window with
  | nil =>
      obtain ⟨rfl, -⟩ := List.append_eq_nil_iff.mp seen.symm
      rw [List.countP_nil, cost_zero]
      exact add_nonneg running.within.nonneg (gained_nonneg _ _)
  | cons act acts ih =>
      cases act with
      | advance nanos => exact ih (running.next (.advance nanos)) seen soon ahead
      | check =>
          cases window with
          | nil =>
              rw [List.countP_nil, cost_zero]
              exact add_nonneg running.within.nonneg (gained_nonneg _ _)
          | cons checked others =>
              obtain ⟨rfl, rest⟩ := List.cons.inj seen
              have reached : meter.now ≤ horizon := soon _ List.mem_cons_self
              obtain ⟨credited, -, -⟩ := meter.bucket.check_frame meter.now
              have cheap := ih (running.next .check) rest
                (fun checked member => soon checked (List.mem_cons_of_mem _ member))
                (Nat.le_trans (Nat.le_of_eq credited) reached)
              exact (running.cost_cons_le cheap).trans (running.accrued_add_gained_le reached)

/-- At the first check of a stretch there are no more tokens than the bucket holds. -/
theorem cost_window_le (running : meter.Running maxTokens rate) {acts : List Act}
    {before others behind : List Checked} {first : Checked}
    (seen : meter.answers acts = before ++ (first :: others ++ behind)) {horizon : Nat}
    (soon : ∀ checked ∈ first :: others, checked.instant ≤ horizon) :
    cost rate ((first :: others).countP Checked.allowed) ≤
      maxTokens.toNat + gained rate (horizon - first.instant) := by
  induction acts generalizing meter before with
  | nil =>
      obtain ⟨-, absurd⟩ := List.append_eq_nil_iff.mp seen.symm
      cases absurd
  | cons act acts ih =>
      cases act with
      | advance nanos => exact ih (running.next (.advance nanos)) seen
      | check =>
          cases before with
          | cons checked before => exact ih (running.next .check) (List.cons.inj seen).2
          | nil =>
              obtain ⟨rfl, rest⟩ := List.cons.inj seen
              have reached : meter.now ≤ horizon := soon _ List.mem_cons_self
              obtain ⟨credited, -, -⟩ := meter.bucket.check_frame meter.now
              have cheap := (running.next .check).cost_le rest
                (fun checked member => soon checked (List.mem_cons_of_mem _ member))
                (Nat.le_trans (Nat.le_of_eq credited) reached)
              have capped := meter.bucket.accrued_le meter.now
              rw [running.maxTokens_eq] at capped
              exact (running.cost_cons_le cheap).trans (add_le_add_left capped _)

end Running

/-- The last check of a stretch is the latest one. -/
theorem instant_le_last {window : List Checked} {last : Checked}
    (ordered : window.Pairwise fun first second => first.instant ≤ second.instant)
    (lasts : window.getLast? = some last) :
    ∀ checked ∈ window, checked.instant ≤ last.instant := by
  obtain ⟨front, rfl⟩ := List.getLast?_eq_some_iff.mp lasts
  obtain ⟨-, -, before⟩ := List.pairwise_append.mp ordered
  intro checked member
  rcases List.mem_append.mp member with earlier | here
  · exact before checked earlier last (List.mem_singleton_self _)
  · obtain rfl := List.mem_singleton.mp here
    exact Nat.le_refl _

/-- **The bound on the rate.** Whatever is done with a bucket, at every state its tokens are
between none and the most there can be; and over any stretch of its checks, those that are
allowed, each less the slack, are at most as many as the bucket holds and as accrue from the
first check of the stretch to the last. -/
theorem admissions_bounded (maxTokens rate : UInt32) (start : Nat) (acts : List Act) :
    let meter : Meter Rat := .fresh maxTokens rate start
    let tolerance : Rat := min ((rate.toNat + 1) * (1 / 10 ^ 9)) (1 / 2)
    (0 ≤ (meter.after acts).bucket.tokens ∧
      (meter.after acts).bucket.tokens ≤ maxTokens.toNat) ∧
    ∀ window first last, window <:+: meter.answers acts →
      window.head? = some first → window.getLast? = some last →
      (window.countP Checked.allowed : Rat) * (1 - tolerance) ≤
        maxTokens.toNat + rate.toNat * (((last.instant : Rat) - first.instant) / 10 ^ 9) := by
  intro meter tolerance
  have running := (fresh_running maxTokens rate start).after acts
  refine ⟨⟨running.within.nonneg, running.maxTokens_eq ▸ running.within.bounded⟩, ?_⟩
  rintro window first last ⟨before, behind, seen⟩ heads lasts
  obtain ⟨others, rfl⟩ := List.head?_eq_some_iff.mp heads
  have ordered : (first :: others).Pairwise fun first second => first.instant ≤ second.instant :=
    (meter.answers_ordered acts).sublist (List.IsInfix.sublist ⟨before, behind, seen⟩)
  have latest := instant_le_last ordered lasts
  rw [List.append_assoc] at seen
  have paid := (fresh_running maxTokens rate start).cost_window_le seen.symm latest
  rw [cost, gained, Nat.cast_sub (latest first List.mem_cons_self), mul_comm _ (rate.toNat : Rat)]
    at paid
  exact paid

/-- A token at most, and more than half of one each nanosecond: every check is allowed, and
those of three nanoseconds are more than was there and accrued, but not when each is less the
slack. -/
theorem admissions_bounded_four :
    ∃ window first last,
      window <:+: (Meter.fresh 1 600000000 0 : Meter Rat).answers
        [.check, .advance 1, .check, .advance 1, .check, .advance 1, .check] ∧
      window.head? = some first ∧ window.getLast? = some last ∧
      window.countP Checked.allowed = 4 ∧ first.instant = 0 ∧ last.instant = 3 ∧
      (4 : Rat) * (1 - min ((600000000 + 1) * (1 / 10 ^ 9)) (1 / 2)) ≤
        1 + 600000000 * ((3 - 0) / 10 ^ 9) := by
  have counted : ((Meter.fresh 1 600000000 0 : Meter Rat).answers
      [.check, .advance 1, .check, .advance 1, .check, .advance 1, .check]).countP
        Checked.allowed = 4 := by decide +kernel
  have bounded := (admissions_bounded 1 600000000 0
    [.check, .advance 1, .check, .advance 1, .check, .advance 1, .check]).2 _ ⟨0, true⟩
    ⟨3, true⟩ (List.infix_refl _) (by decide +kernel) (by decide +kernel)
  have tokens : (1 : UInt32).toNat = 1 := rfl
  have rate : (600000000 : UInt32).toNat = 600000000 := rfl
  simp only [counted, tokens, rate, Nat.cast_ofNat, Nat.cast_one, Nat.cast_zero] at bounded
  exact ⟨_, ⟨0, true⟩, ⟨3, true⟩, List.infix_refl _, by decide +kernel, by decide +kernel,
    counted, rfl, rfl, bounded⟩

end Meter

end Admission.Bucket
