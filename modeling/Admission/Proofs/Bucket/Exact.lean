import Mathlib.Algebra.Order.Field.Rat
import Mathlib.Data.Rat.Cast.Order
import Mathlib.Tactic.Linarith
import Mathlib.Tactic.Positivity
import Admission.Bucket

/-! # A bucket in exact arithmetic

Read exactly, what a bucket does is told by a few equations: what accrues in a span of time
(`Admission.Bucket.gained`), what may be missing from a whole token
(`Admission.Bucket.slack`), and what refilling, checking and spending make of the tokens.
Every operation keeps the tokens between none and the most there can be
(`Admission.Bucket.Within`).
-/

namespace Admission

namespace Amount

/-- The order of the exact amounts is that of the rationals. -/
theorem le_iff {a b : Rat} : le a b = true ↔ a ≤ b :=
  decide_eq_true_iff

/-- The lesser of two exact amounts is their minimum. -/
theorem least_eq (a b : Rat) : least a b = min a b := by
  unfold least
  by_cases smaller : a ≤ b
  · rw [if_pos (le_iff.mpr smaller), min_eq_left smaller]
  · rw [if_neg (mt le_iff.mp smaller), min_eq_right (le_of_not_ge smaller)]

theorem greatest_eq (a b : Rat) : greatest a b = max a b := by
  unfold greatest
  by_cases smaller : b ≤ a
  · rw [if_pos (le_iff.mpr smaller), max_eq_left smaller]
  · rw [if_neg (mt le_iff.mp smaller), max_eq_right (le_of_not_ge smaller)]

end Amount

namespace Bucket

/-- What may be missing from a whole token, in tokens. -/
def slack (rate : UInt32) : Rat :=
  min ((rate.toNat + 1) * (1 / 10 ^ 9)) (1 / 2)

/-- What accrues in a span of nanoseconds. -/
def gained (rate : UInt32) (nanos : Nat) : Rat :=
  nanos / 10 ^ 9 * rate.toNat

/-- There is always some slack. -/
theorem slack_pos (rate : UInt32) : 0 < slack rate := by
  apply lt_min
  · positivity
  · norm_num

theorem slack_le_half (rate : UInt32) : slack rate ≤ 1 / 2 :=
  min_le_right _ _

/-- Time takes no tokens away. -/
theorem gained_nonneg (rate : UInt32) (nanos : Nat) : 0 ≤ gained rate nanos := by
  unfold gained
  positivity

@[simp]
theorem gained_zero (rate : UInt32) : gained rate 0 = 0 := by
  simp [gained]

/-- What accrues in two spans is what accrues in both together. -/
theorem gained_add (rate : UInt32) (first second : Nat) :
    gained rate (first + second) = gained rate first + gained rate second := by
  rw [gained, Nat.cast_add, add_div, add_mul]
  rfl

variable {bucket : Bucket Rat} {now : Nat}

/-- The tolerance of a check is the slack of the rate. -/
theorem tolerance_eq (bucket : Bucket Rat) : bucket.tolerance = slack bucket.rate := by
  rw [tolerance, Amount.least_eq]
  rfl

/-- At an instant there are the tokens of the last check and what was gained since, up to the
limit. -/
theorem accrued_eq (bucket : Bucket Rat) (now : Nat) :
    bucket.accrued now =
      min (bucket.tokens + gained bucket.rate (now - bucket.credited)) bucket.maxTokens.toNat := by
  rw [accrued, Amount.least_eq]
  rfl

/-- A bucket has a token exactly when its tokens are a whole one but for the slack. -/
theorem hasToken_iff : bucket.hasToken = true ↔ 1 - slack bucket.rate ≤ bucket.tokens := by
  rw [hasToken, Amount.le_iff, tolerance_eq]
  rfl

/-- Credited, a bucket has a token exactly when what has accrued is a whole one but for the
slack. -/
theorem refill_hasToken_iff :
    (bucket.refill now).hasToken = true ↔ 1 - slack bucket.rate ≤ bucket.accrued now :=
  hasToken_iff

/-- Spending takes one token, or what there is of it. -/
theorem spend_tokens (bucket : Bucket Rat) : bucket.spend.tokens = max (bucket.tokens - 1) 0 := by
  rw [spend, Amount.greatest_eq]
  rfl

/-- A check is allowed exactly when what has accrued is a whole token but for the slack. -/
theorem check_cases (bucket : Bucket Rat) (now : Nat) :
    (1 - slack bucket.rate ≤ bucket.accrued now ∧
      bucket.check now = (true, (bucket.refill now).spend)) ∨
    (bucket.accrued now < 1 - slack bucket.rate ∧
      bucket.check now = (false, bucket.refill now)) := by
  by_cases token : (bucket.refill now).hasToken = true
  · exact .inl ⟨refill_hasToken_iff.mp token, check_of_token token⟩
  · have short : bucket.accrued now < 1 - slack bucket.rate :=
      lt_of_not_ge fun enough => token (refill_hasToken_iff.mpr enough)
    exact .inr ⟨short, check_of_short (eq_false_of_ne_true token)⟩

/-- A check credits what has accrued up to its instant, and changes nothing else but the
tokens. -/
theorem check_frame (bucket : Bucket Rat) (now : Nat) :
    (bucket.check now).2.credited = now ∧ (bucket.check now).2.maxTokens = bucket.maxTokens ∧
      (bucket.check now).2.rate = bucket.rate := by
  rcases bucket.check_cases now with ⟨-, checked⟩ | ⟨-, checked⟩
  · rw [checked]
    exact ⟨rfl, rfl, rfl⟩
  · rw [checked]
    exact ⟨rfl, rfl, rfl⟩

/-- The tokens are between none and the most there can be. -/
structure Within (bucket : Bucket Rat) : Prop where
  nonneg : 0 ≤ bucket.tokens
  bounded : bucket.tokens ≤ bucket.maxTokens.toNat

theorem accrued_le (bucket : Bucket Rat) (now : Nat) :
    bucket.accrued now ≤ bucket.maxTokens.toNat := by
  rw [accrued_eq]
  exact min_le_right _ _

/-- A new bucket is in bounds. -/
theorem full_within (maxTokens rate : UInt32) (now : Nat) :
    (full maxTokens rate now : Bucket Rat).Within where
  nonneg := Nat.cast_nonneg _
  bounded := le_refl _

namespace Within

/-- There are never fewer tokens than none. -/
theorem accrued_nonneg (within : bucket.Within) (now : Nat) : 0 ≤ bucket.accrued now := by
  rw [accrued_eq]
  exact le_min (add_nonneg within.nonneg (gained_nonneg _ _)) (Nat.cast_nonneg _)

/-- Nothing accrues at the instant of the last check. -/
theorem accrued_credited (within : bucket.Within) :
    bucket.accrued bucket.credited = bucket.tokens := by
  rw [accrued_eq, Nat.sub_self, gained_zero, add_zero]
  exact min_eq_left within.bounded

/-- Crediting keeps a bucket in bounds. -/
theorem refill (within : bucket.Within) (now : Nat) : (bucket.refill now).Within where
  nonneg := within.accrued_nonneg now
  bounded := bucket.accrued_le now

theorem spend (within : bucket.Within) : bucket.spend.Within where
  nonneg := by
    rw [spend_tokens]
    exact le_max_right _ _
  bounded := by
    rw [spend_tokens]
    apply max_le
    · have bounded : bucket.tokens ≤ bucket.spend.maxTokens.toNat := within.bounded
      linarith
    · exact Nat.cast_nonneg _

/-- A check keeps a bucket in bounds, whatever it answers. -/
theorem check (within : bucket.Within) (now : Nat) : (bucket.check now).2.Within := by
  rcases bucket.check_cases now with ⟨-, checked⟩ | ⟨-, checked⟩
  · rw [checked]
    exact (within.refill now).spend
  · rw [checked]
    exact within.refill now

end Within

end Bucket

end Admission
