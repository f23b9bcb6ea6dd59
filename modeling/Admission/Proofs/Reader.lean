import Admission.Reader

/-! # What readers read

How the ways to put readers together act on a text. A repeated reader reads a text chunk by chunk
(`Admission.Reader.many_chunks`), and stops where it fails.
-/

namespace Admission.Reader

variable {α β : Type} {text rest : List Char} {value : α}

/-- A reader that reads is followed by the next one, on what is left. -/
theorem bind_of_some {first : Reader α} (read : first text = some (value, rest))
    (next : α → Reader β) : (first >>= next) text = next value rest := by
  change (first text).bind _ = _
  rw [read]
  rfl

theorem bind_of_none {first : Reader α} (failed : first text = none) (next : α → Reader β) :
    (first >>= next) text = none := by
  change (first text).bind _ = _
  rw [failed]
  rfl

/-- A reader that reads needs no second one. -/
theorem orElse_of_some {first : Reader α} (read : first text = some (value, rest))
    (second : Reader α) : (first <|> second) text = some (value, rest) := by
  change (first text <|> second text) = _
  rw [read]
  rfl

theorem orElse_of_none {first : Reader α} (failed : first text = none) (second : Reader α) :
    (first <|> second) text = second text := by
  change (first text <|> second text) = _
  rw [failed]
  rfl

theorem char_self (c : Char) (rest : List Char) : char c (c :: rest) = some ((), rest) :=
  if_pos rfl

/-- A run of at least one character, as far as it goes. -/
theorem span1_eq (test : Char → Bool) (text : List Char) :
    span1 test text =
      if (text.takeWhile test).isEmpty then none
      else some (text.takeWhile test, text.dropWhile test) := by
  refine (bind_of_some rfl _).trans ?_
  split <;> rfl

/-- A run ends where the first character behind it is another. -/
theorem span_append {test : Char → Bool} (all : ∀ c ∈ text, test c = true)
    (ends : ∀ c ∈ rest.head?, test c = false) : span test (text ++ rest) = some (text, rest) := by
  have none : rest.takeWhile test = [] ∧ rest.dropWhile test = rest := by
    cases rest with
    | nil => exact ⟨rfl, rfl⟩
    | cons c rest =>
        have other := ends c rfl
        simp only [List.takeWhile_cons, List.dropWhile_cons, other, Bool.false_eq_true, if_false,
          and_self]
  rw [span, List.takeWhile_append_of_pos all, List.dropWhile_append_of_pos all, none.1, none.2,
    List.append_nil]

/-- A run that is not empty ends where the first character behind it is another. -/
theorem span1_append {test : Char → Bool} (some : text ≠ []) (all : ∀ c ∈ text, test c = true)
    (ends : ∀ c ∈ rest.head?, test c = false) :
    span1 test (text ++ rest) = .some (text, rest) := by
  refine (bind_of_some (span_append all ends) _).trans ?_
  rw [if_neg]
  · rfl
  · rwa [List.isEmpty_iff]

/-- So many characters are read off the front of the text. -/
theorem exactly_append {test : Char → Bool} (all : ∀ c ∈ text, test c = true) :
    exactly test text.length (text ++ rest) = some (text, rest) := by
  induction text with
  | nil => rfl
  | cons c text ih =>
      obtain ⟨here, later⟩ := List.forall_mem_cons.mp all
      refine (bind_of_some (if_pos here) _).trans ?_
      exact bind_of_some (ih later) _

/-- What is there is read. -/
theorem perhaps_of_some {item : Reader α} (read : item text = some (value, rest)) :
    perhaps item text = some (some value, rest) :=
  orElse_of_some (bind_of_some read _) _

theorem perhaps_of_none {item : Reader α} (failed : item text = none) :
    perhaps item text = some (none, text) :=
  orElse_of_none (bind_of_none failed _) _

/-- A repeated reader stops where it fails, whatever its bound. -/
theorem manyWithin_of_none {item : Reader α} (failed : item text = none) (bound : Nat) :
    manyWithin item bound text = some ([], text) := by
  cases bound with
  | zero => rfl
  | succ bound => exact bind_of_some (perhaps_of_none failed) _

/-- A repeated reader stops at once where it fails. -/
theorem many_of_none {item : Reader α} (failed : item text = none) :
    many item text = some ([], text) :=
  manyWithin_of_none failed _

/-- A repeated reader that succeeds once. -/
theorem many_once {item : Reader α} (some : text ≠ []) (read : item text = .some (value, rest))
    (failed : item rest = none) : many item text = .some ([value], rest) := by
  obtain ⟨c, others, rfl⟩ := List.exists_cons_of_ne_nil some
  refine (bind_of_some (perhaps_of_some read) _).trans ?_
  exact bind_of_some (manyWithin_of_none failed _) _

/-- A text of chunks, each of which is read as a value whatever follows it, is read as the values,
up to where the reader fails. -/
theorem many_chunks {item : Reader α} {chunk : α → List Char} (values : List α)
    (read : ∀ value ∈ values, ∀ rest, item (chunk value ++ rest) = some (value, rest))
    (some : ∀ value ∈ values, chunk value ≠ []) (failed : item rest = none) :
    many item (values.flatMap chunk ++ rest) = .some (values, rest) := by
  have within (values : List α) (bound : Nat)
      (read : ∀ value ∈ values, ∀ rest, item (chunk value ++ rest) = .some (value, rest))
      (enough : values.length ≤ bound) :
      manyWithin item bound (values.flatMap chunk ++ rest) = .some (values, rest) := by
    induction values generalizing bound with
    | nil => exact manyWithin_of_none failed bound
    | cons value values ih =>
        obtain ⟨bound, rfl⟩ : ∃ fewer, bound = fewer + 1 := ⟨bound - 1, by
          rw [List.length_cons] at enough
          omega⟩
        obtain ⟨here, later⟩ := List.forall_mem_cons.mp read
        rw [List.flatMap_cons, List.append_assoc]
        refine (bind_of_some (perhaps_of_some (here _)) _).trans ?_
        exact bind_of_some (ih bound later (Nat.le_of_succ_le_succ enough)) _
  apply within values _ read
  clear read
  induction values with
  | nil => exact Nat.zero_le _
  | cons value values ih =>
      obtain ⟨here, later⟩ := List.forall_mem_cons.mp some
      have long := List.length_pos_iff.mpr here
      have others := ih later
      rw [List.flatMap_cons, List.append_assoc, List.length_append, List.length_cons]
      omega

end Admission.Reader
