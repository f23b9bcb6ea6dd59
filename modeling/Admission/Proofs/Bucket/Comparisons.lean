import Admission.Proofs.Bucket.Runs

/-! # Two runs side by side

Two buckets that are checked at the same times are compared by what keeps their runs together.

A bucket that holds more and gains faster can still deny a check that the other one allows: it
may have spent the token already. What it is short of then is what it was ahead by. With the
checks that it has allowed more than the other one counted in, it never has less
(`Admission.Bucket.Meter.Ahead`), so at no time has it allowed fewer
(`Admission.Bucket.Meter.admissions_mono`).

A denied check credits what has accrued and spends nothing, so a bucket that made it and one that
did not will have the same tokens at every later instant (`Admission.Bucket.Meter.Alike`), and the
next check brings them together. Denied checks can be left out of a run
(`Admission.Bucket.Meter.denied_checks_free`).
-/

namespace Admission.Bucket

section Settings

variable {slow fast : UInt32}

theorem slack_mono (slower : slow.toNat ≤ fast.toNat) : slack slow ≤ slack fast := by
  have cast : (slow.toNat : Rat) ≤ fast.toNat := by exact_mod_cast slower
  apply min_le_min_right
  linarith

theorem gained_mono (slower : slow.toNat ≤ fast.toNat) (nanos : Nat) :
    gained slow nanos ≤ gained fast nanos := by
  have cast : (slow.toNat : Rat) ≤ fast.toNat := by exact_mod_cast slower
  exact mul_le_mul_of_nonneg_left cast (by positivity)

end Settings

/-- An allowed check spends a token, or what there is of one; a denied one spends nothing. -/
theorem check_tokens (bucket : Bucket Rat) (now : Nat) :
    ((bucket.check now).1 = true ∧ 1 - slack bucket.rate ≤ bucket.accrued now ∧
      (bucket.check now).2.tokens = max (bucket.accrued now - 1) 0) ∨
    ((bucket.check now).1 = false ∧ bucket.accrued now < 1 - slack bucket.rate ∧
      (bucket.check now).2.tokens = bucket.accrued now) := by
  rcases bucket.check_cases now with ⟨enough, checked⟩ | ⟨short, checked⟩
  · rw [checked]
    exact .inl ⟨rfl, enough, spend_tokens _⟩
  · rw [checked]
    exact .inr ⟨rfl, short, rfl⟩

/-- Crediting what has accrued changes nothing of what will have accrued later. -/
theorem accrued_refill {bucket : Bucket Rat} {now later : Nat} (past : bucket.credited ≤ now)
    (onward : now ≤ later) : (bucket.refill now).accrued later = bucket.accrued later := by
  have credited : (bucket.refill now).accrued later =
      min (bucket.accrued now + gained bucket.rate (later - now)) bucket.maxTokens.toNat :=
    accrued_eq _ _
  have whole : later - bucket.credited = (now - bucket.credited) + (later - now) := by omega
  have more : (bucket.maxTokens.toNat : Rat) ≤
      bucket.maxTokens.toNat + gained bucket.rate (later - now) :=
    le_add_of_nonneg_right (gained_nonneg _ _)
  rw [credited, accrued_eq, accrued_eq, ← min_add_add_right, min_assoc, min_eq_right more, whole,
    gained_add, add_assoc]

/-- Two buckets of the same settings in which the same has accrued are the same once it is
credited. -/
theorem refill_eq_of_accrued_eq {first second : Bucket Rat} {now : Nat}
    (maxTokens_eq : first.maxTokens = second.maxTokens) (rate_eq : first.rate = second.rate)
    (accrued_eq : first.accrued now = second.accrued now) :
    first.refill now = second.refill now := by
  rw [refill, refill, accrued_eq, maxTokens_eq, rate_eq]

namespace Meter

/-- The first bucket has the larger settings. It has allowed `lead` checks more than the second
one, and with these it has as many tokens. -/
structure Ahead (lead : Nat) (first second : Meter Rat) : Prop where
  waited_eq : first.now - first.bucket.credited = second.now - second.bucket.credited
  past : first.bucket.credited ≤ first.now ∧ second.bucket.credited ≤ second.now
  within : first.bucket.Within
  maxTokens_le : second.bucket.maxTokens.toNat ≤ first.bucket.maxTokens.toNat
  rate_le : second.bucket.rate.toNat ≤ first.bucket.rate.toNat
  tokens_le : second.bucket.tokens ≤ first.bucket.tokens + lead

namespace Ahead

variable {lead : Nat} {first second : Meter Rat}

theorem advance (ahead : Ahead lead first second) (nanos : Nat) :
    Ahead lead (first.next (.advance nanos)) (second.next (.advance nanos)) := by
  obtain ⟨waited_eq, past, within, maxTokens_le, rate_le, tokens_le⟩ := ahead
  have waited : first.now + nanos - first.bucket.credited =
      second.now + nanos - second.bucket.credited := by omega
  exact ⟨waited, past.imp (Nat.le_add_right_of_le ·) (Nat.le_add_right_of_le ·), within,
    maxTokens_le, rate_le, tokens_le⟩

/-- Accrual keeps the first bucket ahead: it gains no less, and it can hold no less. -/
theorem accrued_le (ahead : Ahead lead first second) :
    second.bucket.accrued second.now ≤ first.bucket.accrued first.now + lead := by
  have gained_le := gained_mono ahead.rate_le (second.now - second.bucket.credited)
  have tokens_le := ahead.tokens_le
  have maxTokens_le : (second.bucket.maxTokens.toNat : Rat) ≤ first.bucket.maxTokens.toNat := by
    exact_mod_cast ahead.maxTokens_le
  have nonneg : (0 : Rat) ≤ lead := Nat.cast_nonneg _
  rw [accrued_eq, accrued_eq, ahead.waited_eq, ← min_add_add_right]
  apply min_le_min
  · linarith
  · linarith

/-- What is ahead after a check is told by the tokens alone. -/
theorem checked (ahead : Ahead lead first second) {later : Nat}
    (tokens_le : (second.next .check).bucket.tokens ≤ (first.next .check).bucket.tokens + later) :
    Ahead later (first.next .check) (second.next .check) := by
  obtain ⟨credited, sameMax, sameRate⟩ := first.bucket.check_frame first.now
  obtain ⟨credited', sameMax', sameRate'⟩ := second.bucket.check_frame second.now
  refine ⟨?_, ⟨Nat.le_of_eq credited, Nat.le_of_eq credited'⟩, ahead.within.check _, ?_, ?_,
    tokens_le⟩
  · simp only [Meter.next, credited, credited', Nat.sub_self]
  · simp only [Meter.next, sameMax, sameMax', ahead.maxTokens_le]
  · simp only [Meter.next, sameRate, sameRate', ahead.rate_le]

/-- A check that only the second bucket allows finds the first one ahead. -/
theorem lead_pos (ahead : Ahead lead first second)
    (short : first.bucket.accrued first.now < 1 - slack first.bucket.rate)
    (enough : 1 - slack second.bucket.rate ≤ second.bucket.accrued second.now) : 1 ≤ lead := by
  by_contra none
  have zero : lead = 0 := by omega
  have accrued_le := ahead.accrued_le
  have slack_le := slack_mono ahead.rate_le
  rw [zero, Nat.cast_zero, add_zero] at accrued_le
  linarith

/-- A check moves the lead by what the answers differ in. -/
theorem check (ahead : Ahead lead first second) :
    ∃ later, Ahead later (first.next .check) (second.next .check) ∧
      second.answer.allowed.toNat + later = first.answer.allowed.toNat + lead := by
  have accrued_le := ahead.accrued_le
  have nonneg := ahead.within.accrued_nonneg first.now
  rcases first.bucket.check_tokens first.now with
      ⟨allowed, -, tokens⟩ | ⟨denied, short, tokens⟩ <;>
    rcases second.bucket.check_tokens second.now with
      ⟨allowed', enough', tokens'⟩ | ⟨denied', -, tokens'⟩
  case inl.inl =>
    refine ⟨lead, ahead.checked ?_, by rw [answer, answer, allowed, allowed']⟩
    have leadNonneg : (0 : Rat) ≤ lead := Nat.cast_nonneg _
    rw [next, next, tokens, tokens', ← max_add_add_right]
    apply max_le_max
    · linarith
    · linarith
  case inl.inr =>
    refine ⟨lead + 1, ahead.checked ?_, ?_⟩
    · have spent := le_max_left (first.bucket.accrued first.now - 1) 0
      rw [next, next, tokens, tokens', Nat.cast_add, Nat.cast_one]
      linarith
    · rw [answer, answer, allowed, denied', Bool.toNat_true, Bool.toNat_false]
      omega
  case inr.inl =>
    have some := ahead.lead_pos short enough'
    refine ⟨lead - 1, ahead.checked ?_, ?_⟩
    · have someCast : (1 : Rat) ≤ lead := by exact_mod_cast some
      rw [next, next, tokens, tokens', Nat.cast_sub some, Nat.cast_one]
      apply max_le
      · linarith
      · linarith
    · rw [answer, answer, denied, allowed', Bool.toNat_true, Bool.toNat_false]
      omega
  case inr.inr =>
    refine ⟨lead, ahead.checked ?_, by rw [answer, answer, denied, denied']⟩
    rw [next, next, tokens, tokens']
    exact accrued_le

/-- Over a run the lead grows by what is allowed more. -/
theorem after (ahead : Ahead lead first second) (acts : List Act) :
    ∃ later, Ahead later (first.after acts) (second.after acts) ∧
      (second.answers acts).countP Checked.allowed + later =
        (first.answers acts).countP Checked.allowed + lead := by
  induction acts generalizing lead first second with
  | nil => exact ⟨lead, ahead, rfl⟩
  | cons act acts ih =>
      cases act with
      | advance nanos => exact ih (ahead.advance nanos)
      | check =>
          obtain ⟨between, checked, moved⟩ := ahead.check
          obtain ⟨later, onward, counted⟩ := ih checked
          refine ⟨later, onward, ?_⟩
          rw [answers, answers, Checked.countP_cons, Checked.countP_cons]
          omega

end Ahead

/-- **Larger settings admit no fewer.** Of two new buckets that are checked at the same times, the
one that holds no less and gains no slower has at every time allowed at least as many checks. -/
theorem admissions_mono (fewer more slow fast : UInt32) (start start' : Nat) (acts : List Act)
    (roomier : fewer ≤ more) (faster : slow ≤ fast) :
    ∀ shown, shown <+: acts →
      ((fresh fewer slow start : Meter Rat).answers shown).countP Checked.allowed ≤
        ((fresh more fast start' : Meter Rat).answers shown).countP Checked.allowed := by
  intro shown _
  have maxTokens_le : fewer.toNat ≤ more.toNat := UInt32.le_iff_toNat_le.mp roomier
  have tokens_le : (fewer.toNat : Rat) ≤ more.toNat + (0 : Nat) := by
    rw [Nat.cast_zero, add_zero]
    exact_mod_cast maxTokens_le
  have ahead : Ahead 0 (fresh more fast start') (fresh fewer slow start) :=
    ⟨(Nat.sub_self _).trans (Nat.sub_self _).symm, ⟨Nat.le_refl _, Nat.le_refl _⟩,
      full_within .., maxTokens_le, UInt32.le_iff_toNat_le.mp faster, tokens_le⟩
  obtain ⟨later, -, counted⟩ := ahead.after shown
  omega

/-- One token at most, gained in half a second or in a whole one: the faster bucket spends the
token that comes first, so that at the last check only the slower one has a token. -/
theorem admissions_mono_one_token :
    (1 : UInt32) ≤ 1 ∧ (1 : UInt32) ≤ 2 ∧
      ((fresh 1 1 0 : Meter Rat).answers
        [.check, .advance 600000000, .check, .advance 400000000, .check]).map Checked.allowed =
          [true, false, true] ∧
      ((fresh 1 2 0 : Meter Rat).answers
        [.check, .advance 600000000, .check, .advance 400000000, .check]).map Checked.allowed =
          [true, true, false] ∧
      ((fresh 1 1 0 : Meter Rat).answers
        [.check, .advance 600000000, .check, .advance 400000000, .check]).countP Checked.allowed ≤
      ((fresh 1 2 0 : Meter Rat).answers
        [.check, .advance 600000000, .check, .advance 400000000, .check]).countP
          Checked.allowed := by
  refine ⟨by decide, by decide, by decide +kernel, by decide +kernel, ?_⟩
  exact admissions_mono 1 1 1 2 0 0
    [.check, .advance 600000000, .check, .advance 400000000, .check] (by decide) (by decide) _
    (List.prefix_refl _)

/-- What will have accrued in two buckets is the same at every instant to come, though it may not
be credited up to the same instant yet. -/
structure Alike (first second : Meter Rat) : Prop where
  now_eq : first.now = second.now
  past : first.bucket.credited ≤ first.now ∧ second.bucket.credited ≤ second.now
  maxTokens_eq : first.bucket.maxTokens = second.bucket.maxTokens
  rate_eq : first.bucket.rate = second.bucket.rate
  accrued_eq : ∀ later, first.now ≤ later →
    first.bucket.accrued later = second.bucket.accrued later

namespace Alike

variable {meter first second : Meter Rat}

theorem refl (past : meter.bucket.credited ≤ meter.now) : Alike meter meter :=
  ⟨rfl, ⟨past, past⟩, rfl, rfl, fun _ _ => rfl⟩

theorem advance (alike : Alike first second) (nanos : Nat) :
    Alike (first.next (.advance nanos)) (second.next (.advance nanos)) := by
  obtain ⟨now_eq, past, maxTokens_eq, rate_eq, accrued_eq⟩ := alike
  refine ⟨congrArg (· + nanos) now_eq, ?_, maxTokens_eq, rate_eq, ?_⟩
  · exact past.imp (Nat.le_add_right_of_le ·) (Nat.le_add_right_of_le ·)
  · exact fun later onward => accrued_eq later (Nat.le_of_add_right_le onward)

/-- A check answers the same to both, and leaves them the same. -/
theorem check_eq (alike : Alike first second) :
    first.answer = second.answer ∧ first.next .check = second.next .check := by
  have refilled : first.bucket.refill first.now = second.bucket.refill first.now :=
    refill_eq_of_accrued_eq alike.maxTokens_eq alike.rate_eq (alike.accrued_eq _ (Nat.le_refl _))
  have checked : first.bucket.check first.now = second.bucket.check second.now := by
    rw [← alike.now_eq, Bucket.check, Bucket.check, refilled]
  constructor
  · rw [answer, answer, checked, alike.now_eq]
  · rw [next, next, checked, alike.now_eq]

/-- Buckets stay alike when both are checked. -/
theorem check (alike : Alike first second) :
    Alike (first.next .check) (second.next .check) := by
  rw [alike.check_eq.2]
  exact refl (Nat.le_of_eq (check_frame _ _).1)

/-- A denied check that only the first bucket makes leaves both alike. -/
theorem denied (alike : Alike first second) (denied : first.answer.allowed = false) :
    Alike (first.next .check) second := by
  have refilled : (first.next .check).bucket = first.bucket.refill first.now := by
    rcases first.bucket.check_cases first.now with ⟨-, checked⟩ | ⟨-, checked⟩
    · rw [answer, checked] at denied
      cases denied
    · rw [next, checked]
  obtain ⟨now_eq, past, maxTokens_eq, rate_eq, accrued_eq⟩ := alike
  refine ⟨now_eq, ⟨?_, past.2⟩, ?_, ?_, ?_⟩
  · exact Nat.le_of_eq (check_frame _ _).1
  · rw [refilled]
    exact maxTokens_eq
  · rw [refilled]
    exact rate_eq
  · intro later onward
    rw [refilled, accrued_refill past.1 onward]
    exact accrued_eq later onward

end Alike

/-- An act of a run, which may be struck out. -/
structure Entry where
  act : Act
  struck : Bool
  deriving DecidableEq, Repr

/-- The run with everything that is struck out in it. -/
def whole (entries : List Entry) : List Act :=
  entries.map Entry.act

/-- The run without what is struck out. -/
def kept (entries : List Entry) : List Act :=
  (entries.filter fun entry => !entry.struck).map Entry.act

/-- Nothing is struck out but checks that the whole run denies. -/
def StrikesDenied : Meter Rat → List Entry → Prop
  | _, [] => True
  | meter, entry :: entries =>
    (entry.struck = true → entry.act = .check ∧ meter.answer.allowed = false) ∧
      (meter.next entry.act).StrikesDenied entries

instance decidableStrikesDenied (meter : Meter Rat) (entries : List Entry) :
    Decidable (meter.StrikesDenied entries) :=
  match entries with
  | [] => .isTrue trivial
  | entry :: entries =>
    have := decidableStrikesDenied (meter.next entry.act) entries
    inferInstanceAs (Decidable (_ ∧ _))

/-- Where a run strikes out denied checks only, so does the front of it. -/
theorem StrikesDenied.of_append {meter : Meter Rat} {before behind : List Entry}
    (strikes : meter.StrikesDenied (before ++ behind)) : meter.StrikesDenied before := by
  induction before generalizing meter with
  | nil => trivial
  | cons entry before ih => exact ⟨strikes.1, ih strikes.2⟩

/-- With and without denied checks, a run leaves its bucket alike. -/
theorem Alike.after {first second : Meter Rat} (alike : Alike first second) {entries : List Entry}
    (strikes : first.StrikesDenied entries) :
    Alike (first.after (whole entries)) (second.after (kept entries)) := by
  induction entries generalizing first second with
  | nil => exact alike
  | cons entry entries ih =>
      obtain ⟨here, others⟩ := strikes
      obtain ⟨act, struck⟩ := entry
      cases struck with
      | true =>
          obtain ⟨rfl, denied⟩ := here rfl
          exact ih (alike.denied denied) others
      | false =>
          cases act with
          | advance nanos => exact ih (alike.advance nanos) others
          | check => exact ih alike.check others

/-- **Denied checks are free.** Leave out of a run any of the checks that it denies: each check
that remains answers as it did, and leaves the bucket as it did. -/
theorem denied_checks_free (maxTokens rate : UInt32) (start : Nat) (earlier : List Act)
    (entries : List Entry)
    (strikes : ((fresh maxTokens rate start : Meter Rat).after earlier).StrikesDenied entries) :
    let meter := (fresh maxTokens rate start : Meter Rat).after earlier
    ∀ before behind, entries = before ++ ⟨.check, false⟩ :: behind →
      (meter.after (kept before)).answer = (meter.after (whole before)).answer ∧
      (meter.after (kept before)).next .check = (meter.after (whole before)).next .check := by
  rintro meter before behind rfl
  have past : meter.bucket.credited ≤ meter.now :=
    ((fresh_running maxTokens rate start).after earlier).past
  obtain ⟨answer_eq, next_eq⟩ := ((Alike.refl past).after strikes.of_append).check_eq
  exact ⟨answer_eq.symm, next_eq.symm⟩

/-- One token a second, asked for three times in the second after a check: with the two checks
that come too early or without them, the one that comes in time is allowed and empties the
bucket. -/
theorem denied_checks_free_thirds :
    ((fresh 1 1 0 : Meter Rat).after [.check]).StrikesDenied
        [⟨.advance 333333333, false⟩, ⟨.check, true⟩, ⟨.advance 333333333, false⟩,
          ⟨.check, true⟩, ⟨.advance 333333334, false⟩, ⟨.check, false⟩] ∧
      (((fresh 1 1 0 : Meter Rat).after [.check]).after
        [.advance 333333333, .advance 333333333, .advance 333333334]).answer =
          ⟨1000000000, true⟩ ∧
      (((fresh 1 1 0 : Meter Rat).after [.check]).after
        [.advance 333333333, .advance 333333333, .advance 333333334]).answer =
          (((fresh 1 1 0 : Meter Rat).after [.check]).after [.advance 333333333, .check,
            .advance 333333333, .check, .advance 333333334]).answer ∧
      (((fresh 1 1 0 : Meter Rat).after [.check]).after
        [.advance 333333333, .advance 333333333, .advance 333333334]).next .check =
          (((fresh 1 1 0 : Meter Rat).after [.check]).after [.advance 333333333, .check,
            .advance 333333333, .check, .advance 333333334]).next .check := by
  have strikes : ((fresh 1 1 0 : Meter Rat).after [.check]).StrikesDenied
      [⟨.advance 333333333, false⟩, ⟨.check, true⟩, ⟨.advance 333333333, false⟩,
        ⟨.check, true⟩, ⟨.advance 333333334, false⟩, ⟨.check, false⟩] := by decide +kernel
  exact ⟨strikes, by decide +kernel, denied_checks_free 1 1 0 [.check] _ strikes
    [⟨.advance 333333333, false⟩, ⟨.check, true⟩, ⟨.advance 333333333, false⟩, ⟨.check, true⟩,
      ⟨.advance 333333334, false⟩] [] rfl⟩

end Meter

end Admission.Bucket
