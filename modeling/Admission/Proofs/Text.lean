import Admission.Decimal
import Admission.Text.Characters
import Admission.Text.Utf8
import Mathlib.Algebra.Ring.Nat

/-! # Texts

Trimming, lower case, and the order of the octets of texts.
-/

namespace Admission.Text

/-! ## White space around a text

Trimming takes white space off both ends and nothing else (`Admission.Text.exists_margins`). It
stops at the first character that is not blank, whatever stands behind it.
-/

/-- No digit is blank. -/
theorem isBlank_of_isDigit {c : Char} (digit : Decimal.isDigit c = true) : isBlank c = false := by
  rw [Decimal.isDigit, Bool.and_eq_true, decide_eq_true_eq, decide_eq_true_eq] at digit
  have least : 48 ≤ c.toNat := digit.1
  have greatest : c.toNat ≤ 57 := digit.2
  have apart : ∀ point ∈ blankPoints, point < 48 ∨ 57 < point := by decide
  rw [isBlank, List.contains_eq_mem, decide_eq_false_iff_not]
  intro member
  have outside := apart c.toNat member
  omega

/-- A margin is trimmed from a text that does not begin with white space. -/
theorem trimLeft_append {margin text : List Char} (blank : ∀ c ∈ margin, isBlank c = true)
    (solid : ∀ c ∈ text.head?, isBlank c = false) : trimLeft (margin ++ text) = text := by
  rw [trimLeft, List.dropWhile_append_of_pos blank]
  cases text with
  | nil => rfl
  | cons c text => rw [List.dropWhile_cons, solid c rfl, if_neg Bool.false_ne_true]

/-- What is trimmed at the end is at the end. -/
theorem trimRight_prefix (text : List Char) : trimRight text <+: text := by
  have suffix := List.dropWhile_suffix (l := text.reverse) isBlank
  rw [trimRight, ← List.reverse_suffix, List.reverse_reverse]
  exact suffix

/-- White space at the end is trimmed off. -/
theorem trimRight_append_margin {margin : List Char} (blank : ∀ c ∈ margin, isBlank c = true)
    (text : List Char) : trimRight (text ++ margin) = trimRight text := by
  have blank : ∀ c ∈ margin.reverse, isBlank c = true := fun c member =>
    blank c (List.mem_reverse.mp member)
  rw [trimRight, trimRight, List.reverse_append, List.dropWhile_append_of_pos blank]

/-- Nothing is trimmed of a text that does not end with white space. -/
theorem trimRight_append {front : List Char} {last : Char} (ending : front.getLast? = some last)
    (solid : isBlank last = false) (text : List Char) :
    trimRight (front ++ text) = front ++ trimRight text := by
  obtain ⟨initial, rfl⟩ := List.getLast?_eq_some_iff.mp ending
  have stop : (last :: initial.reverse).dropWhile isBlank = last :: initial.reverse := by
    rw [List.dropWhile_cons, solid, if_neg Bool.false_ne_true]
  rw [trimRight, trimRight, List.reverse_append, List.reverse_concat, List.dropWhile_append, stop]
  split
  next gone =>
    rw [List.isEmpty_iff.mp gone, List.reverse_cons, List.reverse_reverse, List.reverse_nil,
      List.append_nil]
  next => rw [List.reverse_append, List.reverse_cons, List.reverse_reverse]

/-- White space is trimmed, and nothing else. -/
theorem exists_margins (text : List Char) : ∃ before after,
    text = before ++ trim text ++ after ∧ (∀ c ∈ before, isBlank c = true) ∧
      ∀ c ∈ after, isBlank c = true := by
  refine ⟨text.takeWhile isBlank, ((trimLeft text).reverse.takeWhile isBlank).reverse, ?_, ?_, ?_⟩
  · have right : trimLeft text =
        trim text ++ ((trimLeft text).reverse.takeWhile isBlank).reverse := by
      rw [trim, trimRight, ← List.reverse_append, List.takeWhile_append_dropWhile,
        List.reverse_reverse]
    rw [List.append_assoc, ← right, trimLeft, List.takeWhile_append_dropWhile]
  · exact List.all_eq_true.mp List.all_takeWhile
  · exact fun c member => List.all_eq_true.mp List.all_takeWhile c (List.mem_reverse.mp member)

/-- A text that neither begins nor ends with white space is left alone. -/
theorem trim_eq_self {text : List Char} (first : ∀ c ∈ text.head?, isBlank c = false)
    (last : ∀ c ∈ text.getLast?, isBlank c = false) : trim text = text := by
  have left : trimLeft text = text := @trimLeft_append [] text nofun first
  rw [trim, left]
  cases ending : text.getLast? with
  | none =>
      rw [List.getLast?_eq_none_iff.mp ending]
      rfl
  | some c =>
      have kept := trimRight_append ending (last c ending) []
      rwa [List.append_nil, show trimRight [] = [] from rfl, List.append_nil] at kept

/-- Nothing is left of a text of white space, and of no other. -/
theorem trim_eq_nil_iff {text : List Char} : trim text = [] ↔ ∀ c ∈ text, isBlank c = true := by
  constructor
  · intro gone c member
    obtain ⟨before, after, shape, blankBefore, blankAfter⟩ := exists_margins text
    rw [shape, gone, List.append_nil] at member
    exact (List.mem_append.mp member).elim (blankBefore c) (blankAfter c)
  · intro blank
    have gone := @trimLeft_append text [] blank nofun
    rw [List.append_nil] at gone
    rw [trim, gone]
    rfl

/-! ## Lower case of lower case

Beyond the first 128 characters only the sign for kelvin has a lower case among them, the letter k
(`Admission.Text.lowerChar_ascii`). So a text whose lower case is a plain word without that letter
is plain itself, and a word that comes out when a text goes to lower case twice comes out the first
time (`Admission.Text.lower_eq_of_lower_lower`).
-/

/-- What the runs of capitals beyond the first 128 characters come to: characters beyond them as
well, except for the one that comes to k. -/
theorem caseRuns_beyond : ∀ run ∈ caseRuns, run.last < 0x80 ∨
    ((0x80 : Int) ≤ run.first + run.distance ∧ (run.last + run.distance < 0xD800 ∨
      (0xE000 : Int) ≤ run.first + run.distance ∧ run.last + run.distance < 0x110000)) ∨
    run.first = run.last ∧ run.last + run.distance = ('k'.toNat : Int) := by
  decide +kernel

/-- Of the characters whose lower case is among the first 128, all but the sign for kelvin are among
them too. -/
theorem lowerChar_ascii {c : Char} (small : (lowerChar c).toNat < 0x80) :
    c.toNat < 0x80 ∨ lowerChar c = 'k' := by
  rcases Nat.lt_or_ge c.toNat 0x80 with within | beyond
  · exact .inl within
  rw [lowerChar, if_neg (Nat.not_lt.mpr beyond)] at small ⊢
  cases found : caseRuns.find? (·.holds c.toNat) with
  | none =>
      rw [found] at small
      exact .inl small
  | some run =>
      right
      rw [found] at small
      have holds := List.find?_some found
      simp only [CaseRun.holds, Bool.and_eq_true, decide_eq_true_eq] at holds
      obtain ⟨⟨least, greatest⟩, -⟩ := holds
      rcases caseRuns_beyond run (List.mem_of_find?_eq_some found) with
        within | ⟨image, valid⟩ | ⟨single, image⟩
      · omega
      · have point : ((c.toNat : Int) + run.distance).toNat.isValidChar := by
          rw [Nat.isValidChar]
          omega
        have kept : (Char.ofNat ((c.toNat : Int) + run.distance).toNat).toNat =
            ((c.toNat : Int) + run.distance).toNat := by
          rw [Char.ofNat, dif_pos point]
          rfl
        simp only [kept] at small
        omega
      · have same : ((c.toNat : Int) + run.distance).toNat = 'k'.toNat := by omega
        simp only [same, Char.ofNat_toNat]

theorem lowerChar_of_ascii {c : Char} (within : c.toNat < 0x80) : lowerChar c = c.toLower :=
  if_pos within

theorem toNat_of_isUpper {c : Char} (upper : c.isUpper = true) : 65 ≤ c.toNat ∧ c.toNat ≤ 90 :=
  of_decide_eq_true upper

/-- Lower case has no capitals among the first 128 characters. -/
theorem not_isUpper_lowerChar (c : Char) : (lowerChar c).isUpper ≠ true := by
  have capitals : ∀ point < 0x80, (Char.ofNat point).toLower.isUpper ≠ true := by decide
  intro upper
  have low : (lowerChar c).toNat < 0x80 :=
    Nat.lt_of_le_of_lt (toNat_of_isUpper upper).2 (by decide)
  rcases lowerChar_ascii low with within | kelvin
  · rw [lowerChar_of_ascii within] at upper
    apply capitals c.toNat within
    rwa [Char.ofNat_toNat]
  · rw [kelvin] at upper
    cases upper

/-- What one character of a text comes to: its own lower case, or characters beyond the first 128
and the letter i. -/
theorem lowerFrom_cons (before : Option Char) (c : Char) (rest : List Char) :
    lowerFrom before (c :: rest) = lowerChar c :: lowerFrom (some c) rest ∨
      ∃ lowered, lowerFrom before (c :: rest) = lowered ++ lowerFrom (some c) rest ∧
        (lowered.any fun d => 0x80 ≤ d.toNat) ∧ lowered.all fun d => !d.isUpper := by
  rw [lowerFrom]
  split
  next => exact .inr ⟨_, rfl, by decide, by decide⟩
  next =>
    split
    next =>
      split
      next => exact .inr ⟨_, rfl, by decide, by decide⟩
      next => exact .inr ⟨_, rfl, by decide, by decide⟩
    next => exact .inl rfl

/-- No text in lower case has a capital. -/
theorem not_isUpper_of_mem_lowerFrom {before : Option Char} {text : List Char} :
    ∀ c ∈ lowerFrom before text, c.isUpper ≠ true := by
  induction text generalizing before with
  | nil => nofun
  | cons first rest ih =>
      intro c member
      rcases lowerFrom_cons before first rest with shape | ⟨lowered, shape, -, plain⟩
      · rw [shape] at member
        rcases List.mem_cons.mp member with rfl | later
        · exact not_isUpper_lowerChar first
        · exact ih c later
      · rw [shape] at member
        refine (List.mem_append.mp member).elim (fun here => ?_) (ih c)
        simpa using List.all_eq_true.mp plain c here

/-- Whether a word is among the first 128 characters, without the letter k. -/
def isPlainWord (word : List Char) : Bool :=
  word.all fun c => c.toNat < 0x80 && c ≠ 'k'

/-- A text without capitals whose lower case is a plain word without k is that word. -/
theorem eq_of_lowerFrom {before : Option Char} {text word : List Char}
    (small : ∀ c ∈ text, c.isUpper ≠ true) (plain : isPlainWord word)
    (lowered : lowerFrom before text = word) : text = word := by
  induction text generalizing before word with
  | nil => exact lowered
  | cons first rest ih =>
      rcases lowerFrom_cons before first rest with shape | ⟨others, shape, beyond, -⟩
      · subst lowered
        rw [shape] at plain ⊢
        rw [isPlainWord, List.all_cons, Bool.and_eq_true, Bool.and_eq_true, decide_eq_true_eq,
          decide_eq_true_eq] at plain
        obtain ⟨⟨within, other⟩, behind⟩ := plain
        have kept : first.toNat < 0x80 := (lowerChar_ascii within).resolve_right other
        have same : lowerChar first = first := by
          rw [lowerChar_of_ascii kept]
          exact dif_neg fun capital => small first List.mem_cons_self (decide_eq_true capital)
        rw [same, ← ih (fun c later => small c (List.mem_cons_of_mem _ later)) behind rfl]
      · obtain ⟨d, member, beyond⟩ := List.any_eq_true.mp beyond
        rw [← lowered, shape] at plain
        have within := List.all_eq_true.mp plain d (List.mem_append_left _ member)
        rw [Bool.and_eq_true, decide_eq_true_eq] at within
        exact (Nat.not_lt.mpr (of_decide_eq_true beyond) within.1).elim

/-- A plain word without k that comes out when a text goes to lower case twice comes out the first
time. -/
theorem lower_eq_of_lower_lower {text word : String}
    (plain : isPlainWord word.toList) (twice : lower (lower text) = word) :
    lower text = word := by
  have lowered : lowerFrom none (lower text).toList = word.toList := by
    rw [← twice, lower.eq_1 (lower text), String.toList_ofList]
  apply String.toList_inj.mp
  apply eq_of_lowerFrom _ plain lowered
  rw [lower, String.toList_ofList]
  exact not_isUpper_of_mem_lowerFrom

/-! ## The order of octets

In UTF-8 the octets of texts are in the order of the texts, character by character
(`Admission.Text.octets_lt`). A code point is written in base 64. Its first octet has the digits
that no other octet has, and a mark that grows with the number of octets that follow, so the first
octets decide unless two code points have the same form (`Admission.Text.leading_lt`); then the
digits are compared one by one, the most significant first.
-/

/-- How many octets continue a code point, and the mark on its first octet that tells so. -/
def form (n : Nat) : Nat × Nat :=
  if n < 0x80 then (0, 0)
  else if n < 0x800 then (1, 0xC0)
  else if n < 0x10000 then (2, 0xE0)
  else (3, 0xF0)

/-- The first octet of a code point: the mark, and the digits in base 64 that no other octet has. -/
def leading (n : Nat) : Nat :=
  n / 64 ^ (form n).1 + (form n).2

/-- The last `count` digits of a number in base 64, as the octets that continue a code point. -/
def continuing : (count n : Nat) → List UInt8
  | 0, _ => []
  | count + 1, n => UInt8.ofNat (n / 64 ^ count % 64 + 0x80) :: continuing count n

/-- The forms of code points, by their ranges. -/
theorem form_cases (n : Nat) :
    (n < 0x80 ∧ form n = (0, 0)) ∨ (0x80 ≤ n ∧ n < 0x800 ∧ form n = (1, 0xC0)) ∨
      (0x800 ≤ n ∧ n < 0x10000 ∧ form n = (2, 0xE0)) ∨ (0x10000 ≤ n ∧ form n = (3, 0xF0)) := by
  grind [form]

variable {count n m : Nat}

/-- Numbers are in the order of their quotients and, where these agree, of their remainders. -/
theorem digits_lt (less : n < m) (base : Nat) :
    n / base < m / base ∨ n / base = m / base ∧ n % base < m % base := by
  rcases Nat.lt_or_eq_of_le (Nat.div_le_div_right (c := base) (Nat.le_of_lt less)) with
    smaller | same
  · exact .inl smaller
  · have low := Nat.div_add_mod n base
    have high := Nat.div_add_mod m base
    rw [same] at low
    exact .inr ⟨same, by omega⟩

theorem octet_lt (less : n < m) (small : m < 256) : UInt8.ofNat n < UInt8.ofNat m :=
  (UInt8.ofNat_lt_iff_lt (Nat.lt_trans less small) small).mpr less

/-- The octets that continue two code points are in the order of their last digits, whatever
follows. -/
theorem continuing_append_lt (less : n % 64 ^ count < m % 64 ^ count) (first second : List UInt8) :
    continuing count n ++ first < continuing count m ++ second := by
  induction count with
  | zero => simp only [Nat.pow_zero, Nat.mod_one, Nat.lt_irrefl] at less
  | succ count ih =>
      have digits := digits_lt less (64 ^ count)
      simp only [Nat.pow_succ, Nat.mod_mul_right_div_self, Nat.mod_mul_right_mod] at digits
      rw [continuing, continuing, List.cons_append, List.cons_append, List.cons_lt_cons_iff]
      rcases digits with smaller | ⟨same, rest⟩
      · exact .inl (octet_lt (by omega) (by omega))
      · exact .inr ⟨by rw [same], ih rest⟩

/-- The first octet of a code point is an octet. -/
theorem leading_lt_256 (valid : n < 0x110000) : leading n < 256 := by
  unfold leading
  rcases form_cases n with ⟨_, formed⟩ | ⟨_, _, formed⟩ | ⟨_, _, formed⟩ | ⟨_, formed⟩ <;>
    simp only [formed, Nat.reducePow] <;> omega

/-- Of two code points the smaller one has the smaller first octet, or both have the same form. -/
theorem leading_lt (less : n < m) : leading n < leading m ∨ form n = form m := by
  unfold leading
  rcases form_cases n with ⟨_, formed⟩ | ⟨_, _, formed⟩ | ⟨_, _, formed⟩ | ⟨_, formed⟩ <;>
    rcases form_cases m with ⟨_, other⟩ | ⟨_, _, other⟩ | ⟨_, _, other⟩ | ⟨_, other⟩ <;>
    simp only [formed, other, Nat.reducePow, or_true] <;> omega

theorem toNat_lt (c : Char) : c.toNat < 0x110000 := by
  rcases c.valid with low | ⟨-, high⟩
  · exact Nat.lt_trans low (by decide)
  · exact high

/-- A character is encoded by its first octet and those that continue it. -/
theorem utf8EncodeChar_eq (c : Char) :
    String.utf8EncodeChar c =
      UInt8.ofNat (leading c.toNat) :: continuing (form c.toNat).1 c.toNat := by
  have bound := toNat_lt c
  have point : c.val.toNat = c.toNat := rfl
  rw [leading]
  simp only [String.utf8EncodeChar, point]
  -- The digits that the library takes of the first one are all that there are.
  rcases form_cases c.toNat with ⟨_, formed⟩ | ⟨_, _, formed⟩ | ⟨_, _, formed⟩ | ⟨_, formed⟩ <;>
    simp only [formed]
  · rw [if_pos (by omega)]
    simp [continuing]
  · rw [if_neg (by omega), if_pos (by omega), Nat.mod_eq_of_lt (a := c.toNat / 64) (by omega)]
    simp [continuing]
  · rw [if_neg (by omega), if_neg (by omega), if_pos (by omega),
      Nat.mod_eq_of_lt (a := c.toNat / 4096) (by omega)]
    simp [continuing]
  · rw [if_neg (by omega), if_neg (by omega), if_neg (by omega),
      Nat.mod_eq_of_lt (a := c.toNat / 262144) (by omega)]
    simp [continuing]

/-- The octets of a smaller character come before those of a greater one, whatever follows. -/
theorem utf8EncodeChar_append_lt {c d : Char} (less : c < d) (first second : List UInt8) :
    String.utf8EncodeChar c ++ first < String.utf8EncodeChar d ++ second := by
  have less : c.toNat < d.toNat := less
  rw [utf8EncodeChar_eq, utf8EncodeChar_eq, List.cons_append, List.cons_append,
    List.cons_lt_cons_iff]
  have small := leading_lt_256 (toNat_lt d)
  rcases leading_lt less with smaller | same
  · exact .inl (octet_lt smaller small)
  · rcases digits_lt less (64 ^ (form d.toNat).1) with smaller | ⟨equal, rest⟩
    · refine .inl (octet_lt ?_ small)
      rw [leading, leading, same]
      exact Nat.add_lt_add_right smaller _
    · rw [leading, leading, same, equal]
      exact .inr ⟨rfl, continuing_append_lt rest first second⟩

/-- The octets of a text are those of its characters. -/
theorem octets_eq (text : String) : octets text = text.toList.flatMap String.utf8EncodeChar := by
  have encoded : text.toByteArray = text.toList.utf8Encode := by
    rw [← String.toByteArray_ofList, String.ofList_toList]
  rw [octets, String.toUTF8_eq_toByteArray, encoded, List.utf8Encode, List.data_toByteArray]

/-- **Octets keep the order of texts.** -/
theorem octets_lt {text other : String} (less : text < other) : octets text < octets other := by
  rw [octets_eq, octets_eq]
  have less : List.Lex (· < ·) text.toList other.toList := less
  generalize text.toList = text, other.toList = other at less
  induction less with
  | nil =>
      rw [List.flatMap_cons, utf8EncodeChar_eq]
      exact List.nil_lt_cons ..
  | rel smaller => exact utf8EncodeChar_append_lt smaller _ _
  | cons rest ih => exact List.append_left_lt ih

end Admission.Text
