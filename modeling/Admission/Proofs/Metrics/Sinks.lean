import Admission.Proofs.Metrics.Exposition
import Admission.Proofs.Metrics.Series
import Admission.Proofs.Text

/-! # Two sinks told the same

Whatever the sinks are told and asked, in any order, each counts the calls: the four numbers of
`Admission.Counts` (`Admission.Counts.Tallies`), and the series of `Admission.Metrics`, which has
besides a series at zero for every other outcome that it was asked for, unless it has one with the
hash of that outcome (`Admission.Metrics.Shows`). The outcomes of the four numbers have four
hashes, so the sinks agree about them, and what is shown of the series is read back as the first
outcome for each hash with its count (`Admission.Metrics.sinks_agree`). Where no two outcomes have
one hash, these are all the outcomes.
-/

namespace Admission

/-- What a sink can be called for. Only one of the two sinks can be asked; the other one has
nothing to do then. -/
inductive SinkCall where
  | accept
  | refuse (cause : Refusal)
  | count (outcome : String)
  deriving DecidableEq, Repr

namespace SinkCall

/-- The outcome that a call is about. -/
def outcome : SinkCall → String
  | accept => Metrics.processed
  | refuse cause => cause.label
  | count outcome => outcome

/-- Whether a call counts its outcome. Asking counts nothing. -/
def isCounted : SinkCall → Bool
  | count _ => false
  | _ => true

/-- Whether a call counts an outcome, by counting one with its hash. -/
def counts (call : SinkCall) (outcome : String) : Bool :=
  call.isCounted && Metrics.hashOf outcome == Metrics.hashOf call.outcome

/-- How often an outcome is counted. -/
def times (calls : List SinkCall) (outcome : String) : Nat :=
  calls.countP fun call => call.counts outcome

/-- One more call counts an outcome once or not at all. -/
theorem times_concat (calls : List SinkCall) (call : SinkCall) (outcome : String) :
    times (calls ++ [call]) outcome =
      times calls outcome + if call.counts outcome then 1 else 0 := by
  rw [times, List.countP_append, List.countP_singleton, times]

/-- Admissions are counted as such by nothing else: no label of a refusal has the hash. -/
theorem counts_processed (call : SinkCall) :
    call.counts Metrics.processed = true ↔ call = accept := by
  cases call with
  | accept => decide +kernel
  | refuse cause => cases cause <;> decide +kernel
  | count outcome => exact iff_of_false Bool.false_ne_true nofun

/-- Refusals are counted by their cause, and by nothing else. -/
theorem counts_label (call : SinkCall) (cause : Refusal) :
    call.counts cause.label = true ↔ call = refuse cause := by
  cases call with
  | accept => cases cause <;> decide +kernel
  | refuse other => cases other <;> cases cause <;> decide +kernel
  | count outcome => exact iff_of_false Bool.false_ne_true nofun

/-- What every call keeps holds after any calls. -/
theorem foldl_keeps {σ : Type} {tell : σ → SinkCall → σ} {Holds : List SinkCall → σ → Prop}
    (step : ∀ {calls state}, Holds calls state → ∀ call, Holds (calls ++ [call]) (tell state call))
    {start : σ} (fresh : Holds [] start) (calls : List SinkCall) :
    Holds calls (calls.foldl tell start) := by
  have later (past calls : List SinkCall) (state : σ) (holds : Holds past state) :
      Holds (past ++ calls) (calls.foldl tell state) := by
    induction calls generalizing past state with
    | nil => rwa [List.append_nil]
    | cons call calls ih =>
        have next := ih _ _ (step holds call)
        rwa [List.append_assoc] at next
  exact later [] calls start fresh

end SinkCall

namespace Counts

def tell (counts : Counts) : SinkCall → Counts
  | .accept => counts.accept
  | .refuse cause => counts.refuse cause
  | .count _ => counts

/-- The counts after these calls, the oldest first. -/
def after (calls : List SinkCall) : Counts :=
  calls.foldl tell {}

/-- The counts are those of the calls. -/
structure Tallies (calls : List SinkCall) (counts : Counts) : Prop where
  accepted : counts.accepted = SinkCall.times calls Metrics.processed
  refused : ∀ cause, counts.refused cause = SinkCall.times calls cause.label

/-- Admissions are counted by themselves. -/
theorem accepted_tell (counts : Counts) (call : SinkCall) :
    (counts.tell call).accepted = counts.accepted + if call = .accept then 1 else 0 := by
  cases call with
  | refuse cause => cases cause <;> rfl
  | _ => rfl

/-- A refusal is counted under its cause alone. -/
theorem refused_tell (counts : Counts) (call : SinkCall) (cause : Refusal) :
    (counts.tell call).refused cause =
      counts.refused cause + if call = .refuse cause then 1 else 0 := by
  cases call with
  | refuse other => cases other <;> cases cause <;> rfl
  | _ => cases cause <;> rfl

variable {calls : List SinkCall} {counts : Counts}

/-- One more call keeps the counts those of the calls. -/
theorem Tallies.tell (tallies : Tallies calls counts) (call : SinkCall) :
    Tallies (calls ++ [call]) (counts.tell call) := by
  refine ⟨?_, fun cause => ?_⟩
  · rw [SinkCall.times_concat, ← tallies.accepted, accepted_tell]
    simp only [SinkCall.counts_processed]
  · rw [SinkCall.times_concat, ← tallies.refused, refused_tell]
    simp only [SinkCall.counts_label]

/-- The four numbers count the calls. -/
theorem tallies_after (calls : List SinkCall) : Tallies calls (after calls) :=
  SinkCall.foldl_keeps (fun tallies => tallies.tell)
    ⟨rfl, fun cause => by cases cause <;> rfl⟩ calls

end Counts

namespace Metrics

/-- The outcomes that have a series from the start. -/
def base : List String :=
  processed :: Refusal.all.map Refusal.label

def tell (metrics : Metrics) : SinkCall → Metrics
  | .accept => metrics.accept 1
  | .refuse cause => metrics.refuse cause 1
  | .count outcome => (metrics.count outcome).2

/-- The series after these calls, the oldest first. -/
def after (calls : List SinkCall) : Metrics :=
  calls.foldl tell new

/-- The outcomes that were ever named: the four, and what was asked for. -/
def named (calls : List SinkCall) : List String :=
  base ++ calls.map SinkCall.outcome

/-- Whether an outcome was named, or one with its hash. -/
def IsKnown (calls : List SinkCall) (outcome : String) : Prop :=
  ∃ other ∈ named calls, hashOf other = hashOf outcome

instance (calls : List SinkCall) (outcome : String) : Decidable (IsKnown calls outcome) :=
  inferInstanceAs (Decidable (∃ other ∈ named calls, _))

/-- Whether an outcome was named, and none with its hash before it. -/
def IsFirst (calls : List SinkCall) (outcome : String) : Prop :=
  ((named calls).find? fun other => hashOf other == hashOf outcome) = some outcome

instance (calls : List SinkCall) (outcome : String) : Decidable (IsFirst calls outcome) :=
  inferInstanceAs (Decidable (_ = _))

/-- Whether no two outcomes that were named have one hash. -/
def IsApart (calls : List SinkCall) : Prop :=
  ∀ outcome ∈ named calls, ∀ other ∈ named calls, hashOf other = hashOf outcome → other = outcome

instance (calls : List SinkCall) : Decidable (IsApart calls) :=
  inferInstanceAs (Decidable (∀ outcome ∈ named calls, ∀ other ∈ named calls, _))

/-- The series, in order, are those of the outcomes that were named first with their hashes, and
every outcome finds how often it was counted. -/
structure Shows (calls : List SinkCall) (metrics : Metrics) : Prop where
  ordered : metrics.IsOrdered
  known : ∀ outcome, outcome ∈ metrics.labels ↔ IsFirst calls outcome
  value : ∀ outcome, metrics.value outcome = SinkCall.times calls outcome

variable {metrics : Metrics} {calls : List SinkCall} {outcome : String}

/-- The outcomes of a call come behind those that were named before. -/
theorem named_concat (calls : List SinkCall) (call : SinkCall) :
    named (calls ++ [call]) = named calls ++ [call.outcome] := by
  rw [named, List.map_append, ← List.append_assoc]
  rfl

/-- An outcome is known exactly when one was named first with its hash. -/
theorem isKnown_iff : IsKnown calls outcome ↔
    ∃ first, IsFirst calls first ∧ hashOf first = hashOf outcome := by
  constructor
  · rintro ⟨other, member, same⟩
    cases found : (named calls).find? fun other => hashOf other == hashOf outcome with
    | none => exact absurd (beq_iff_eq.mpr same) (List.find?_eq_none.mp found other member)
    | some first =>
        have equal := List.find?_some found
        have like : hashOf first = hashOf outcome := beq_iff_eq.mp equal
        refine ⟨first, ?_, like⟩
        rw [IsFirst, like, found]
  · rintro ⟨first, named, same⟩
    exact ⟨first, List.mem_of_find?_eq_some named, same⟩

/-- After one more call an outcome is the first with its hash if it was before, or if the call is
about it and none was known with its hash. -/
theorem isFirst_concat (calls : List SinkCall) (call : SinkCall) (outcome : String) :
    IsFirst (calls ++ [call]) outcome ↔
      IsFirst calls outcome ∨ (outcome = call.outcome ∧ ¬ IsKnown calls call.outcome) := by
  rw [IsFirst, named_concat, List.find?_append, Option.or_eq_some_iff, List.find?_singleton,
    List.find?_eq_none]
  refine or_congr .rfl ⟨?_, ?_⟩
  · rintro ⟨unnamed, last⟩
    obtain ⟨-, last⟩ := Option.ite_none_right_eq_some.mp last
    cases last
    exact ⟨rfl, fun ⟨other, member, same⟩ => unnamed other member (beq_iff_eq.mpr same)⟩
  · rintro ⟨rfl, unknown⟩
    exact ⟨fun other member same => unknown ⟨other, member, beq_iff_eq.mp same⟩,
      if_pos BEq.rfl⟩

/-- The four are the first with their hashes, whatever is asked. -/
theorem isFirst_of_base (four : outcome ∈ base) : IsFirst calls outcome := by
  have first : ∀ outcome ∈ base,
      (base.find? fun other => hashOf other == hashOf outcome) = some outcome := by
    decide +kernel
  rw [IsFirst, named, List.find?_append, first outcome four, Option.some_or]

/-- Where hashes are apart, every outcome that was named is the first with its hash. -/
theorem isFirst_iff_of_isApart (apart : IsApart calls) :
    IsFirst calls outcome ↔ outcome ∈ named calls := by
  refine ⟨List.mem_of_find?_eq_some, fun member => ?_⟩
  obtain ⟨first, isFirst, same⟩ := isKnown_iff.mp ⟨outcome, member, rfl⟩
  obtain rfl := apart outcome member first (List.mem_of_find?_eq_some isFirst) same
  exact isFirst

/-- The new counters, in their order. -/
theorem series_new :
    new.series = [("busy", 0), ("processed", 0), ("rate_limited", 0), ("shutting_down", 0)] := by
  decide +kernel

/-- New counters show what they show when nothing was told. -/
theorem shows_new : Shows [] new := by
  have same : new.labels.Perm base := by
    rw [labels, series_new]
    decide
  refine ⟨⟨?_, ?_⟩, fun outcome => ?_, fun outcome => ?_⟩
  · rw [labels, series_new]
    decide
  · rw [labels, series_new]
    decide +kernel
  · rw [same.mem_iff]
    refine ⟨isFirst_of_base, fun first => ?_⟩
    exact (List.append_nil base) ▸ List.mem_of_find?_eq_some first
  · have zero : ∀ entry ∈ new.series, entry.2 = 0 := by
      rw [series_new]
      decide
    rw [Metrics.value]
    cases looked : new.series.find? fun entry => hashOf entry.1 == hashOf outcome with
    | none => rfl
    | some entry => exact zero entry (List.mem_of_find?_eq_some looked)

/-- Every call adds to the series of its outcome, be it nothing. -/
theorem tell_eq (metrics : Metrics) (call : SinkCall) :
    metrics.tell call = metrics.add call.outcome (if call.isCounted then 1 else 0) := by
  cases call <;> rfl

namespace Shows

variable (shows : Shows calls metrics)

include shows

/-- A series is found by the outcomes that are known. -/
theorem finds_iff : metrics.Finds outcome ↔ IsKnown calls outcome := by
  rw [isKnown_iff]
  exact exists_congr fun first => and_congr_left fun _ => shows.known first

/-- One more call keeps the series those of the calls. -/
theorem tell (call : SinkCall) : Shows (calls ++ [call]) (metrics.tell call) := by
  rw [tell_eq]
  refine ⟨shows.ordered.add _ _, fun outcome => ?_, fun outcome => ?_⟩
  · rw [mem_labels_add, shows.known, shows.finds_iff, isFirst_concat]
  · rw [value_add, shows.value, SinkCall.times_concat, SinkCall.counts]
    congr 1
    by_cases same : hashOf outcome = hashOf call.outcome
    · rw [if_pos same, beq_iff_eq.mpr same, Bool.and_true]
    · rw [if_neg same, beq_eq_false_iff_ne.mpr same, Bool.and_false]
      rfl

/-- What asking for an outcome does: nothing, or a series at zero when its hash is new. -/
theorem count (outcome : String) :
    (∀ other, (metrics.count outcome).2.value other = metrics.value other) ∧
      (IsKnown calls outcome → (metrics.count outcome).2 = metrics) ∧
      (¬ IsKnown calls outcome →
        (metrics.count outcome).2.series.Perm ((outcome, 0) :: metrics.series)) := by
  refine ⟨fun other => ?_, fun known => ?_, fun new => ?_⟩
  · exact (metrics.value_add outcome 0 other).trans (by rw [ite_self]; rfl)
  · exact add_zero (shows.finds_iff.mpr known)
  · rw [Metrics.count, add_of_new (shows.finds_iff.not.mpr new)]
    exact insert_perm ..

/-- What is read of the series that are shown. -/
theorem read :
    ∃ samples, Exposition.read? metrics.render = some samples ∧
      (samples.map Sample.text).Pairwise (fun text other => Text.octets text < Text.octets other) ∧
      ((samples.map Sample.text).map hashOf).Nodup ∧
      (∀ outcome, outcome ∈ samples.map Sample.text ↔ IsFirst calls outcome) ∧
      ∀ sample ∈ samples, sample.family = family ∧ sample.label = "outcome" ∧
        sample.value = (metrics.count sample.text).1 := by
  have texts : (metrics.series.map sample).map Sample.text = metrics.labels := List.map_map
  refine ⟨_, read?_render metrics, ?_⟩
  rw [texts]
  refine ⟨shows.ordered.sorted.imp Text.octets_lt, shows.ordered.apart, shows.known, ?_⟩
  intro found member
  obtain ⟨entry, among, rfl⟩ := List.mem_map.mp member
  exact ⟨rfl, rfl, (shows.ordered.value_of_mem among).symm⟩

end Shows

/-- Whatever the series are told and asked, they are those of the calls. -/
theorem shows_after (calls : List SinkCall) : Shows calls (after calls) :=
  SinkCall.foldl_keeps (fun shows => shows.tell) shows_new calls

/-- An outcome with another hash than the four is never counted. -/
theorem times_of_not_base (calls : List SinkCall)
    (outside : ∀ four ∈ base, hashOf outcome ≠ hashOf four) :
    SinkCall.times calls outcome = 0 := by
  rw [SinkCall.times, List.countP_eq_zero]
  intro call _ counted
  obtain ⟨counts, same⟩ := (Bool.and_eq_true _ _).mp counted
  refine outside call.outcome ?_ (beq_iff_eq.mp same)
  cases call with
  | accept => exact List.mem_cons_self
  | refuse cause => cases cause <;> decide
  | count other => cases counts

/-- **The sinks agree, and the exposition loses nothing but what one hash makes one.** Whatever the
sinks are told and asked, in any order: asked for the outcome of an admission or of a refusal, the
series answer what the four numbers count. Any other outcome is answered with zero, unless it has
the hash of one of the four, which it then stands for; each answer is how often the calls counted an
outcome with the hash. Asking changes no value, and makes a series only where the hash is new. What
is shown is read back as one sample for each hash, with the outcome that was named first with it,
any characters in it, in the order of octets, with the values that asking gives. The four are always
among these, and where no two outcomes that were named have one hash, they are all that were named.
Values are natural numbers here; those below 2 ^ 53 are the same as binary64 numbers. -/
theorem sinks_agree (calls : List SinkCall) :
    let metrics := after calls
    let counts := Counts.after calls
    ((metrics.count processed).1 = counts.accepted ∧
      (∀ cause : Refusal, (metrics.count cause.label).1 = counts.refused cause) ∧
      (∀ outcome, (∀ four ∈ base, hashOf outcome ≠ hashOf four) → (metrics.count outcome).1 = 0) ∧
      (∀ outcome, ∀ four ∈ base, hashOf outcome = hashOf four →
        (metrics.count outcome).1 = (metrics.count four).1) ∧
      ∀ outcome, (metrics.count outcome).1 = SinkCall.times calls outcome) ∧
    (∀ outcome,
      (∀ other, (metrics.count outcome).2.value other = metrics.value other) ∧
      (IsKnown calls outcome → (metrics.count outcome).2 = metrics) ∧
      (¬ IsKnown calls outcome →
        (metrics.count outcome).2.series.Perm ((outcome, 0) :: metrics.series))) ∧
    ∃ samples, Exposition.read? metrics.render = some samples ∧
      (samples.map Sample.text).Pairwise (fun text other => Text.octets text < Text.octets other) ∧
      ((samples.map Sample.text).map hashOf).Nodup ∧
      (∀ outcome, outcome ∈ samples.map Sample.text ↔ IsFirst calls outcome) ∧
      (∀ outcome ∈ base, outcome ∈ samples.map Sample.text) ∧
      (IsApart calls → ∀ outcome, outcome ∈ samples.map Sample.text ↔ outcome ∈ named calls) ∧
      ∀ sample ∈ samples, sample.family = family ∧ sample.label = "outcome" ∧
        sample.value = (metrics.count sample.text).1 := by
  have shows := shows_after calls
  have tallies := Counts.tallies_after calls
  obtain ⟨samples, read, sorted, apart, known, valued⟩ := shows.read
  refine ⟨⟨?_, fun cause => ?_, fun outcome outside => ?_, fun outcome four _ same => ?_,
    shows.value⟩, shows.count, samples, read, sorted, apart, known, ?_, ?_, valued⟩
  · exact (shows.value processed).trans tallies.accepted.symm
  · exact (shows.value cause.label).trans (tallies.refused cause).symm
  · exact (shows.value outcome).trans (times_of_not_base calls outside)
  · rw [Metrics.count, Metrics.count, Metrics.value, Metrics.value, same]
  · exact fun outcome four => (known outcome).mpr (isFirst_of_base four)
  · exact fun hashes outcome => (known outcome).trans (isFirst_iff_of_isApart hashes)

/-- Two admissions and a refusal, with a question in between for an outcome that looks like a whole
sample. -/
def fewCalls : List SinkCall :=
  [.accept, .count "busy\"\x7d 7\n", .refuse .queueFull, .accept]

/-- After few calls: an outcome that asks for the hash of another one gets its answer, and one with
a hash of its own gets zero and a series. -/
theorem sinks_agree_four :
    ((after fewCalls).count processed).1 = 2 ∧
    (∀ four ∈ base, hashOf "busy\\" ≠ hashOf four) ∧ ((after fewCalls).count "busy\\").1 = 0 ∧
    hashOf "caihnvrqflhhmts" = hashOf processed ∧
    ((after fewCalls).count "caihnvrqflhhmts").1 = ((after fewCalls).count processed).1 ∧
    ¬ IsKnown fewCalls "busy\\" ∧
    ((after fewCalls).count "busy\\").2.series.Perm (("busy\\", 0) :: (after fewCalls).series) ∧
    IsKnown fewCalls "busy\"\x7d 7\n" ∧
    ((after fewCalls).count "busy\"\x7d 7\n").2 = after fewCalls ∧
    IsApart fewCalls ∧
    ∃ samples, Exposition.read? (after fewCalls).render = some samples ∧
      ∀ outcome, outcome ∈ samples.map Sample.text ↔ outcome ∈ named fewCalls := by
  obtain ⟨⟨accepted, -, others, alike, -⟩, asked, samples, read, -, -, -, -, all, -⟩ :=
    sinks_agree fewCalls
  have outside : ∀ four ∈ base, hashOf "busy\\" ≠ hashOf four := by decide +kernel
  have shared : hashOf "caihnvrqflhhmts" = hashOf processed := by decide +kernel
  have new : ¬ IsKnown fewCalls "busy\\" := by decide +kernel
  have old : IsKnown fewCalls "busy\"\x7d 7\n" := by decide +kernel
  have apart : IsApart fewCalls := by decide +kernel
  exact ⟨accepted, outside, others _ outside, shared, alike _ _ List.mem_cons_self shared, new,
    (asked _).2.2 new, old, (asked _).2.1 old, apart, samples, read, all apart⟩

/-- An outcome that is none of the four, with the hash of one of them: it is answered with the
count of that one, and makes no series of its own. -/
theorem admissions_answered_for_another :
    "caihnvrqflhhmts" ∉ base ∧
    (after [.accept]).count "caihnvrqflhhmts" = (1, after [.accept]) ∧
    ∃ samples, Exposition.read? (after [.accept, .count "caihnvrqflhhmts"]).render = some samples ∧
      "caihnvrqflhhmts" ∉ samples.map Sample.text := by
  refine ⟨by decide, by decide +kernel, _, read?_render _, ?_⟩
  decide +kernel

end Metrics

end Admission
