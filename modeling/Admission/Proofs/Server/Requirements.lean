import Admission.Floor
import Admission.Proofs.Pool.Slots
import Admission.Proofs.Text
import Admission.Server.Config

/-! # What the settings of a server must meet

Settings are looked at twice: by the server, and by the pool that it starts. The server asks for
four things (`Admission.Server.Requirement`), one after the other, and reports the first that is
not met (`Admission.Server.Config.validate_eq`). The pool asks for two of them. So what the server
accepts the pool accepts as well, and its capacity is then the exact sum of its sizes
(`Admission.Server.validate_agrees`).
-/

namespace Admission.Server

/-- What is asked of settings. -/
inductive Requirement where
  | host
  | workers
  | timeouts
  | size
  deriving DecidableEq, Repr

namespace Requirement

/-- The order in which the requirements are looked at. -/
def all : List Requirement := [host, workers, timeouts, size]

/-- Whether settings meet a requirement. The sum is one of numbers, not of words. -/
def Met (config : Config) : Requirement → Prop
  | host => ∃ c ∈ config.host.toList, Text.isBlank c = false
  | workers => 1 ≤ config.workers.toNat
  | timeouts => config.readTimeout ≠ 0 ∧ config.writeTimeout ≠ 0
  | size => config.workers.toNat + config.queueSize.toNat ≤ 2 ^ 61 - 1

instance (config : Config) : DecidablePred (Met config)
  | host => decidable_of_iff (config.host.toList.any fun c => !Text.isBlank c) (by simp [Met])
  | workers => inferInstanceAs (Decidable (1 ≤ config.workers.toNat))
  | timeouts => inferInstanceAs (Decidable (config.readTimeout ≠ 0 ∧ config.writeTimeout ≠ 0))
  | size =>
    inferInstanceAs (Decidable (config.workers.toNat + config.queueSize.toNat ≤ 2 ^ 61 - 1))

/-- The message for settings that do not meet a requirement. -/
def text : Requirement → String
  | host => "host must not be empty"
  | workers => "workers must be at least 1"
  | timeouts => "read and write timeouts must be non-zero"
  | size => "workers + queue_size must not exceed 2305843009213693951"

/-- The first requirement that is not met. -/
def firstUnmet? (config : Config) : Option Requirement :=
  all.find? fun requirement => ¬ Met config requirement

/-- No requirement is unmet exactly when all four are met. -/
theorem firstUnmet?_eq_none_iff {config : Config} :
    firstUnmet? config = none ↔
      Met config .host ∧ Met config .workers ∧ Met config .timeouts ∧ Met config .size := by
  rw [firstUnmet?, List.find?_eq_none, all]
  simp only [List.forall_mem_cons, decide_not, Bool.not_eq_true', decide_eq_false_iff_not,
    Decidable.not_not, List.not_mem_nil, false_implies, implies_true, and_true]

end Requirement

open Requirement in
/-- Settings are refused with the message of the first requirement that they do not meet, and
valid if they meet all. -/
theorem Config.validate_eq (config : Config) :
    config.validate =
      match firstUnmet? config with
      | none => .ok ()
      | some requirement => .error (.config requirement.text) := by
  have unnamed : isBlankHost config.host = true ↔ ¬ Met config .host := by
    rw [isBlankHost, List.isEmpty_iff, Text.trim_eq_nil_iff, Met]
    simp only [not_exists, not_and, Bool.not_eq_false]
  have unstaffed : config.workers = 0 ↔ ¬ Met config .workers := by
    rw [← UInt64.toNat_inj, Met]
    exact Nat.lt_one_iff.symm.trans Nat.not_le.symm
  have endless : config.readTimeout = 0 ∨ config.writeTimeout = 0 ↔ ¬ Met config .timeouts := by
    rw [Met, Decidable.not_and_iff_not_or_not, Decidable.not_not, Decidable.not_not]
  have words : Pool.Config.oversized = text .size := by decide +kernel
  rw [validate, firstUnmet?, all]
  simp only [unnamed, unstaffed, endless, List.find?_cons, List.find?_nil, decide_not]
  by_cases named : Met config .host
  case neg => simp [named, text]
  by_cases staffed : Met config .workers
  case neg => simp [named, staffed, text]
  by_cases ending : Met config .timeouts
  case neg => simp [named, staffed, ending, text]
  -- The pool is asked last, and only its size can be wrong by then.
  rcases config.pool.validate_cases with ⟨none, -⟩ | ⟨-, fits, done⟩ | ⟨-, large, fault⟩
  · exact (Nat.ne_of_gt staffed none).elim
  · have fits : Met config .size := fits
    simp [named, staffed, ending, fits, done]
  · have large : ¬ Met config .size := Nat.not_le.mpr large
    simp [named, staffed, ending, large, fault, words]

open Requirement in
/-- **The two checks agree.** Settings are valid exactly when the host is not blank, there is a
worker, both timeouts are above zero, and the sizes have a sum that a semaphore can hold as
permits. The pool then takes them as well: it starts, whatever it is to process, with the exact
sum as its capacity and its permits. Settings that are not valid are refused as such, with the
message of the first requirement that they do not meet. -/
theorem validate_agrees (config : Config) :
    (config.validate = .ok () ↔
      (∃ c ∈ config.host.toList, Text.isBlank c = false) ∧ 1 ≤ config.workers.toNat ∧
        (config.readTimeout ≠ 0 ∧ config.writeTimeout ≠ 0) ∧
        config.workers.toNat + config.queueSize.toNat ≤ 2 ^ 61 - 1) ∧
    (config.pool.validate = .ok () ↔
      1 ≤ config.workers.toNat ∧ config.workers.toNat + config.queueSize.toNat ≤ 2 ^ 61 - 1) ∧
    (config.validate = .ok () →
      config.pool.validate = .ok () ∧
        config.pool.capacity.toNat = config.workers.toNat + config.queueSize.toNat ∧
        ∀ processor, ∃ floor, Floor.start config.pool processor true = .ok floor ∧
          floor.pool.free = config.workers.toNat + config.queueSize.toNat) ∧
    ∀ fault, config.validate = .error fault ↔
      ∃ requirement, firstUnmet? config = some requirement ∧ fault = .config requirement.text := by
  have valid : config.validate = .ok () ↔ firstUnmet? config = none := by
    rw [config.validate_eq]
    cases firstUnmet? config with
    | none => exact iff_of_true rfl rfl
    | some requirement => exact iff_of_false nofun nofun
  have pool : config.pool.validate = .ok () ↔ Met config .workers ∧ Met config .size :=
    Pool.Config.validate_eq_ok_iff
  refine ⟨valid.trans firstUnmet?_eq_none_iff, pool, ?_, ?_⟩
  · intro accepted
    obtain ⟨-, staffed, -, fits⟩ := firstUnmet?_eq_none_iff.mp (valid.mp accepted)
    have taken := pool.mpr ⟨staffed, fits⟩
    have total := (Pool.Config.validate_ok taken).2
    refine ⟨taken, total, fun processor => ?_⟩
    rw [Floor.start, taken]
    exact ⟨_, rfl, total⟩
  · intro fault
    rw [config.validate_eq]
    cases firstUnmet? config with
    | none => exact iff_of_false nofun nofun
    | some requirement =>
        constructor
        · rintro ⟨⟩
          exact ⟨requirement, rfl, rfl⟩
        · rintro ⟨_, ⟨⟩, rfl⟩
          rfl

/-- The largest pool that one worker can have. -/
theorem validate_agrees_largest :
    ({ workers := 1, queueSize := 2305843009213693950 } : Config).validate = .ok () ∧
      ({ workers := 1, queueSize := 2305843009213693950 } : Config).pool.capacity.toNat =
        2 ^ 61 - 1 :=
  have accepted := (validate_agrees { workers := 1, queueSize := 2305843009213693950 }).1.mpr
    ⟨⟨'1', by decide +kernel, by decide⟩, by decide, by decide, by decide⟩
  ⟨accepted, ((validate_agrees _).2.2.1 accepted).2.1⟩

/-- Nothing is right but the host and the workers, and the sum wraps around to one. -/
example : ({ workers := 2, queueSize := 0xFFFFFFFFFFFFFFFF, writeTimeout := 0 } : Config).validate =
    .error (.config "read and write timeouts must be non-zero") := rfl

end Admission.Server
