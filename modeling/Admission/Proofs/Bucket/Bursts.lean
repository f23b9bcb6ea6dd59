import Mathlib.Data.Rat.Floor
import Admission.Proofs.Bucket.Runs

/-! # Bursts

Checks at one instant are a burst: nothing accrues between them. A burst is given the whole
tokens that are there, where a token is whole if at most the slack is missing
(`Admission.Bucket.spendable`), and nothing after them (`Admission.Bucket.Within.checks_eq`).
An allowed check leaves one spendable token less, also where it spends a token that was not
whole (`Admission.Bucket.Within.spendable_spend`), so the first answers are the allowed ones.

A bucket that has just denied a check and then waits for the time of one token, rounded down to
nanoseconds, has exactly one spendable token (`Admission.Bucket.Meter.one_after_denial`).
-/

namespace Admission.Bucket

/-- The whole tokens at an instant, those included that are whole but for the slack. -/
def spendable (bucket : Bucket Rat) (now : Nat) : Nat :=
  ⌊bucket.accrued now + slack bucket.rate⌋₊

variable {bucket : Bucket Rat}

/-- A bucket whose tokens fall short of one by more than the slack has none to spend. -/
theorem spendable_eq_zero {now : Nat} (short : bucket.accrued now < 1 - slack bucket.rate) :
    bucket.spendable now = 0 := by
  rw [spendable, Nat.floor_eq_zero]
  linarith

theorem spendable_eq_one {now : Nat} (enough : 1 - slack bucket.rate ≤ bucket.accrued now)
    (single : bucket.accrued now < 2 - slack bucket.rate) : bucket.spendable now = 1 := by
  have positive : (0 : Rat) ≤ bucket.accrued now + slack bucket.rate := by linarith
  rw [spendable, Nat.floor_eq_iff positive, Nat.cast_one]
  constructor
  · linarith
  · linarith

/-- A new bucket can spend all its tokens. -/
theorem spendable_full (maxTokens rate : UInt32) (now : Nat) :
    (full maxTokens rate now : Bucket Rat).spendable now = maxTokens.toNat := by
  have positive := slack_pos rate
  have small := slack_le_half rate
  have there : (full maxTokens rate now : Bucket Rat).accrued now = maxTokens.toNat :=
    (full_within maxTokens rate now).accrued_credited
  have sameRate : (full maxTokens rate now : Bucket Rat).rate = rate := rfl
  have fraction : ⌊slack rate⌋₊ = 0 := by
    rw [Nat.floor_eq_zero]
    linarith
  rw [spendable, there, sameRate, add_comm, Nat.floor_add_natCast positive.le, fraction, zero_add]

/-- A denied check leaves less than a token. -/
theorem tokens_lt_of_denied {now : Nat} (denied : (bucket.check now).1 = false) :
    (bucket.check now).2.tokens < 1 - slack bucket.rate := by
  rcases bucket.check_cases now with ⟨-, checked⟩ | ⟨short, checked⟩
  · rw [checked] at denied
    cases denied
  · rw [checked]
    exact short

namespace Within

/-- Spending takes one spendable token, whether it was whole or not. -/
theorem spendable_spend (within : bucket.Within) {now : Nat}
    (enough : 1 - slack bucket.rate ≤ bucket.accrued now) :
    bucket.spendable now = (bucket.refill now).spend.spendable now + 1 := by
  have positive := slack_pos bucket.rate
  have small := slack_le_half bucket.rate
  have left : (bucket.refill now).spend.accrued now = max (bucket.accrued now - 1) 0 :=
    ((within.refill now).spend.accrued_credited).trans (spend_tokens _)
  have sameRate : (bucket.refill now).spend.rate = bucket.rate := rfl
  by_cases whole : 1 ≤ bucket.accrued now
  · have kept : max (bucket.accrued now - 1) 0 = bucket.accrued now - 1 :=
      max_eq_left (sub_nonneg.mpr whole)
    have shifted : bucket.accrued now + slack bucket.rate =
        bucket.accrued now - 1 + slack bucket.rate + 1 := by ring
    have nonneg : 0 ≤ bucket.accrued now - 1 + slack bucket.rate := by linarith
    rw [spendable, spendable, left, sameRate, kept, shifted, Nat.floor_add_one nonneg]
  · -- The clamp gives away what was missing; the slack that is left is no second token.
    have emptied : max (bucket.accrued now - 1) 0 = 0 := by
      apply max_eq_right
      linarith
    have none_left : (bucket.refill now).spend.spendable now = 0 := by
      apply spendable_eq_zero
      rw [left, sameRate, emptied]
      linarith
    rw [none_left, spendable_eq_one enough]
    linarith

/-- A burst is given the spendable tokens, and then nothing. -/
theorem checks_eq (within : bucket.Within) (now count : Nat) :
    (bucket.checks now 0 count).1 =
      List.replicate (min count (bucket.spendable now)) true ++
        List.replicate (count - bucket.spendable now) false := by
  induction count generalizing bucket with
  | zero => simp [checks]
  | succ count ih =>
      have checked : (bucket.checks now 0 (count + 1)).1 =
        (bucket.check now).1 :: ((bucket.check now).2.checks now 0 count).1 := rfl
      rw [checked, ih (within.check now)]
      rcases bucket.check_cases now with ⟨enough, allowed⟩ | ⟨short, denied⟩
      · rw [allowed, within.spendable_spend enough, Nat.succ_min_succ, Nat.succ_sub_succ,
          List.replicate_succ, List.cons_append]
      · have still : (bucket.refill now).accrued now = bucket.accrued now :=
          (within.refill now).accrued_credited
        have none_left : (bucket.refill now).spendable now = 0 := by
          apply spendable_eq_zero
          rw [still]
          exact short
        rw [denied, none_left, spendable_eq_zero short, Nat.min_zero, Nat.min_zero, Nat.sub_zero,
          Nat.sub_zero, List.replicate_succ]
        rfl

end Within

/-- The time of one token, rounded down to nanoseconds. -/
def interval (rate : UInt32) : Nat :=
  10 ^ 9 / rate.toNat

theorem gained_interval (rate : UInt32) :
    gained rate (interval rate) = ((interval rate * rate.toNat : Nat) : Rat) / 10 ^ 9 := by
  rw [gained, Nat.cast_mul, div_mul_eq_mul_div]

theorem gained_interval_le (rate : UInt32) : gained rate (interval rate) ≤ 1 := by
  have whole : interval rate * rate.toNat ≤ 10 ^ 9 := Nat.div_mul_le_self _ _
  have cast : ((interval rate * rate.toNat : Nat) : Rat) ≤ 10 ^ 9 := by exact_mod_cast whole
  rw [gained_interval, div_le_one (by norm_num)]
  exact cast

/-- What rounding the time of a token down costs is within the slack, at every rate that has
such a time. -/
theorem le_gained_interval {rate : UInt32} (gains : 1 ≤ rate.toNat) (timed : rate.toNat ≤ 10 ^ 9) :
    1 - slack rate ≤ gained rate (interval rate) := by
  have below : 10 ^ 9 < interval rate * rate.toNat + rate.toNat := by
    rw [← Nat.succ_mul, Nat.mul_comm]
    exact Nat.lt_mul_div_succ _ gains
  have atLeast : rate.toNat ≤ interval rate * rate.toNat :=
    Nat.le_mul_of_pos_left _ (Nat.div_pos timed gains)
  have belowCast : (10 ^ 9 : Rat) < (interval rate * rate.toNat : Nat) + rate.toNat := by
    exact_mod_cast below
  have atLeastCast : (rate.toNat : Rat) ≤ (interval rate * rate.toNat : Nat) := by
    exact_mod_cast atLeast
  rw [gained_interval, sub_le_comm]
  apply le_min
  · linarith
  · linarith

/-- In the time of one token a bucket that has less than a token comes to have exactly one. -/
theorem Within.spendable_interval (within : bucket.Within) (holds : 1 ≤ bucket.maxTokens.toNat)
    (gains : 1 ≤ bucket.rate.toNat) (timed : bucket.rate.toNat ≤ 10 ^ 9)
    (short : bucket.tokens < 1 - slack bucket.rate) :
    bucket.spendable (bucket.credited + interval bucket.rate) = 1 := by
  have there : bucket.accrued (bucket.credited + interval bucket.rate) =
      min (bucket.tokens + gained bucket.rate (interval bucket.rate)) bucket.maxTokens.toNat := by
    rw [accrued_eq, Nat.add_sub_cancel_left]
  apply spendable_eq_one
  · have positive := slack_pos bucket.rate
    have nonneg := within.nonneg
    have gain := le_gained_interval gains timed
    have holdsCast : (1 : Rat) ≤ bucket.maxTokens.toNat := by exact_mod_cast holds
    rw [there]
    apply le_min
    · linarith
    · linarith
  · have gain := gained_interval_le bucket.rate
    rw [there]
    apply min_lt_of_left_lt
    linarith

namespace Meter

/-- What has accrued is credited up to the last check, or else to the start. -/
theorem credited_after (meter : Meter Rat) (acts : List Act) :
    (meter.after acts).bucket.credited =
      (meter.answers acts).getLast?.elim meter.bucket.credited Checked.instant := by
  induction acts generalizing meter with
  | nil => rfl
  | cons act acts ih =>
      cases act with
      | advance nanos => exact ih (meter.next (.advance nanos))
      | check =>
          have later := ih (meter.next .check)
          obtain ⟨credited, -, -⟩ := meter.bucket.check_frame meter.now
          have behind : (meter.answers (.check :: acts)).getLast? =
              some (((meter.next .check).answers acts).getLast?.getD meter.answer) :=
            List.getLast?_cons
          rw [behind]
          cases lasts : ((meter.next .check).answers acts).getLast? with
          | none =>
              rw [lasts] at later
              exact later.trans credited
          | some last =>
              rw [lasts] at later
              exact later

/-- **The burst law.** At any time after the last check of a run, checks made at one instant are
first allowed and then denied, and as many are allowed as there are whole tokens, the slack
counted in. A new bucket allows as many as it holds. -/
theorem burst_allowed (maxTokens rate : UInt32) (start : Nat) (acts : List Act)
    (elapsed count : Nat) :
    let meter : Meter Rat := .fresh maxTokens rate start
    let bucket := (meter.after acts).bucket
    let tolerance : Rat := min ((rate.toNat + 1) * (1 / 10 ^ 9)) (1 / 2)
    let admitted := min count
      ⌊min (maxTokens.toNat : Rat) (bucket.tokens + elapsed / 10 ^ 9 * rate.toNat) + tolerance⌋₊
    bucket.credited = (meter.answers acts).getLast?.elim start Checked.instant ∧
    (bucket.checks (bucket.credited + elapsed) 0 count).1 =
      List.replicate admitted true ++ List.replicate (count - admitted) false ∧
    (meter.bucket.checks start 0 count).1 =
      List.replicate (min count maxTokens.toNat) true ++
        List.replicate (count - maxTokens.toNat) false := by
  intro meter bucket tolerance admitted
  have running := (fresh_running maxTokens rate start).after acts
  refine ⟨meter.credited_after acts, ?_, ?_⟩
  · have whole : bucket.spendable (bucket.credited + elapsed) =
        ⌊min (maxTokens.toNat : Rat) (bucket.tokens + elapsed / 10 ^ 9 * rate.toNat)
          + tolerance⌋₊ := by
      rw [spendable, accrued_eq, Nat.add_sub_cancel_left, running.rate_eq, running.maxTokens_eq,
        min_comm]
      rfl
    have denied : count - admitted = count - bucket.spendable (bucket.credited + elapsed) := by
      rw [whole]
      omega
    rw [denied, running.within.checks_eq, whole]
  · have burst := (full_within maxTokens rate start).checks_eq start count
    rw [spendable_full] at burst
    exact burst

/-- **One token after its time.** When a check has just been denied, then after the time of one
token, rounded down, the next check is allowed and those behind it at that instant are
denied. -/
theorem one_after_denial (maxTokens rate : UInt32) (start : Nat) (acts : List Act) (count : Nat)
    (holds : 1 ≤ maxTokens.toNat) (gains : 1 ≤ rate.toNat) (timed : rate.toNat ≤ 10 ^ 9)
    (denied : ((fresh maxTokens rate start : Meter Rat).after acts).answer.allowed = false) :
    let meter := ((fresh maxTokens rate start : Meter Rat).after acts).next .check
    (meter.bucket.checks (meter.now + 10 ^ 9 / rate.toNat) 0 (count + 1)).1 =
      true :: List.replicate count false := by
  intro meter
  have before := (fresh_running maxTokens rate start).after acts
  have running : meter.Running maxTokens rate := before.next .check
  have credited : meter.bucket.credited = meter.now := (check_frame _ _).1
  have short : meter.bucket.tokens < 1 - slack meter.bucket.rate := by
    rw [running.rate_eq, ← before.rate_eq]
    exact tokens_lt_of_denied denied
  have single := running.within.spendable_interval (running.maxTokens_eq ▸ holds)
    (running.rate_eq ▸ gains) (running.rate_eq ▸ timed) short
  have burst := running.within.checks_eq (meter.now + interval rate) (count + 1)
  rw [credited, running.rate_eq] at single
  rw [single, Nat.min_eq_right (Nat.le_add_left 1 count)] at burst
  exact burst

/-- Two tokens at most and three a second: a check is denied when all but a little of a token has
accrued, and the time of one more brings the bucket close to two. -/
theorem one_after_denial_three_per_second :
    ((fresh 2 3 0 : Meter Rat).after
        [.check, .check, .advance 333333331]).answer.allowed = false ∧
      ((((fresh 2 3 0 : Meter Rat).after [.check, .check, .advance 333333331]).next
          .check).bucket.checks (333333331 + 333333333) 0 3).1 = [true, false, false] := by
  have denied : ((fresh 2 3 0 : Meter Rat).after
      [.check, .check, .advance 333333331]).answer.allowed = false := by decide +kernel
  exact ⟨denied, one_after_denial 2 3 0 [.check, .check, .advance 333333331] 2 (by decide)
    (by decide) (by decide) denied⟩

end Meter

end Admission.Bucket
