import Admission.Decimal

/-! # Whole numbers read back

A number that is written in decimal reads as itself (`Admission.Decimal.natural?_toDigits`,
`Admission.Decimal.integer?_toString`), and a text that reads as a number without a sign has nothing
in it but digits and a plus (`Admission.Decimal.mem_of_natural?`).
-/

namespace Admission.Decimal

theorem isDigit_iff {c : Char} : isDigit c = true ↔ c.isDigit = true := by
  rw [isDigit, Bool.and_eq_true, decide_eq_true_eq, decide_eq_true_eq, Char.isDigit,
    Bool.and_eq_true, decide_eq_true_eq, decide_eq_true_eq]
  rfl

/-- Digits are read as their value: at least one, and nothing else. -/
theorem digits?_eq_some_iff {text : List Char} {value : Nat} :
    digits? text = some value ↔
      text ≠ [] ∧ (∀ c ∈ text, isDigit c = true) ∧ valueOf text = value := by
  rw [digits?]
  split
  next unfit =>
    refine iff_of_false nofun ?_
    rintro ⟨some, digits, -⟩
    rcases unfit with empty | other
    · exact some (List.isEmpty_iff.mp empty)
    · obtain ⟨c, member, unlike⟩ := List.any_eq_true.mp other
      rw [digits c member] at unlike
      cases unlike
  next fit =>
    rw [not_or, List.isEmpty_iff, Bool.not_eq_true, List.any_eq_false] at fit
    obtain ⟨some, digits⟩ := fit
    rw [Option.some_inj]
    constructor
    · exact fun same => ⟨some, fun c member => by simpa using digits c member, same⟩
    · exact fun same => same.2.2

/-- The digits of a number have it as their value. -/
theorem valueOf_toDigits (n : Nat) : valueOf (Nat.toDigits 10 n) = n := by
  have same (digits : List Char) : valueOf digits = Nat.ofDigitChars 10 digits 0 := by
    rw [valueOf, Nat.ofDigitChars_eq_foldl]
    simp only [Nat.mul_comm]
  rw [same, Nat.ofDigitChars_ten_toDigits]

theorem isDigit_of_mem_toDigits {n : Nat} {c : Char} (member : c ∈ Nat.toDigits 10 n) :
    isDigit c = true :=
  isDigit_iff.mpr (Nat.isDigit_of_mem_toDigits (by decide) (by decide) member)

/-- The digits of a number are read as it. -/
theorem digits?_toDigits (n : Nat) : digits? (Nat.toDigits 10 n) = some n :=
  digits?_eq_some_iff.mpr
    ⟨Nat.toDigits_ne_nil, fun _ => isDigit_of_mem_toDigits, valueOf_toDigits n⟩

/-- A number below the bound that is written in decimal reads as itself. -/
theorem natural?_toDigits {bound n : Nat} (below : n < bound) :
    natural? bound (Nat.toDigits 10 n) = some n := by
  unfold natural?
  split
  next rest shape =>
    have plus : isDigit '+' = true :=
      isDigit_of_mem_toDigits (n := n) (by rw [shape]; exact List.mem_cons_self)
    cases plus
  next =>
    simp only [digits?_toDigits, Option.filter_some, decide_eq_true below, if_true]

/-- A number that is not negative is written with its digits. -/
theorem toList_toString_ofNat (n : Nat) :
    (toString (Int.ofNat n)).toList = Nat.toDigits 10 n :=
  String.toList_ofList

theorem toList_toString_negSucc (n : Nat) :
    (toString (Int.negSucc n)).toList = '-' :: Nat.toDigits 10 (n + 1) := by
  have shape : toString (Int.negSucc n) = "-" ++ toString (Int.ofNat (n + 1)) := rfl
  rw [shape, String.toList_append, toList_toString_ofNat]
  rfl

/-- Nothing but digits and a minus is written for a whole number. -/
theorem mem_toString_int {i : Int} {c : Char} (member : c ∈ (toString i).toList) :
    c = '-' ∨ isDigit c = true := by
  cases i with
  | ofNat n =>
      rw [toList_toString_ofNat] at member
      exact .inr (isDigit_of_mem_toDigits member)
  | negSucc n =>
      rw [toList_toString_negSucc] at member
      exact (List.mem_cons.mp member).imp_right isDigit_of_mem_toDigits

/-- An integer within the bounds that is written in decimal reads as itself. -/
theorem integer?_toString {bound : Nat} {i : Int} (least : -(bound : Int) ≤ i)
    (below : i < bound) : integer? bound (toString i).toList = some i := by
  cases i with
  | ofNat n =>
      rw [toList_toString_ofNat]
      unfold integer?
      split
      next rest shape =>
        have minus : isDigit '-' = true :=
          isDigit_of_mem_toDigits (n := n) (by rw [shape]; exact List.mem_cons_self)
        cases minus
      next =>
        rw [natural?_toDigits (Int.ofNat_lt.mp below)]
        rfl
  | negSucc n =>
      have within : n + 1 ≤ bound := by omega
      rw [toList_toString_negSucc]
      simp only [integer?, digits?_toDigits, Option.filter_some, decide_eq_true within, if_true]
      rfl

/-- What reads as an integer is within the bounds. -/
theorem range_of_integer? {bound : Nat} {i : Int} {text : List Char} (positive : 0 < bound)
    (read : integer? bound text = some i) : -(bound : Int) ≤ i ∧ i < bound := by
  unfold integer? at read
  split at read
  next rest =>
    obtain ⟨value, found, rfl⟩ := Option.map_eq_some_iff.mp read
    obtain ⟨n, digits, ⟨⟩⟩ := Option.bind_eq_some_iff.mp found
    have within : n ≤ bound := of_decide_eq_true (Option.filter_eq_some_iff.mp digits).2
    omega
  next =>
    obtain ⟨n, digits, rfl⟩ := Option.map_eq_some_iff.mp read
    have within : n < bound := of_decide_eq_true (Option.filter_eq_some_iff.mp digits).2
    exact ⟨Int.le_trans (by omega) (Int.natCast_nonneg n), Int.ofNat_lt.mpr within⟩

/-- Whatever reads as a number is made of digits and a plus. -/
theorem mem_of_natural? {bound value : Nat} {text : List Char}
    (read : natural? bound text = some value) : ∀ c ∈ text, c = '+' ∨ isDigit c = true := by
  unfold natural? at read
  rw [Option.filter_eq_some_iff] at read
  obtain ⟨digits, -⟩ := read
  intro c member
  split at digits
  next rest =>
    obtain ⟨-, all, -⟩ := digits?_eq_some_iff.mp digits
    rcases List.mem_cons.mp member with plus | later
    · exact .inl plus
    · exact .inr (all c later)
  next =>
    obtain ⟨-, all, -⟩ := digits?_eq_some_iff.mp digits
    exact .inr (all c member)

end Admission.Decimal
