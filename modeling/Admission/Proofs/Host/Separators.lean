import Admission.Host
import Admission.Proofs.Decimal
import Admission.Proofs.Text

/-! # What sets off the parts of a host setting

The mark of a scheme is looked for from the front (`Admission.Host.withoutScheme_append`), the
slash of a path behind it (`Admission.Host.authority_append`), and the colon of a port from the
back (`Admission.Host.withoutPort_append`). Each of the three is found whatever stands on its
other side.
-/

namespace Admission.Host

/-- What sets a scheme off. -/
def schemeMark : List Char := [':', '/', '/']

/-- No mark begins in this text, not even when one stands behind it. -/
def Unmarked (front : List Char) : Prop :=
  ¬ schemeMark <:+: front ++ [':', '/']

/-- Without a colon there is no mark of a scheme. -/
theorem unmarked_of_no_colon {front : List Char} (free : ':' ∉ front) : Unmarked front := by
  rintro ⟨before, after, shape⟩
  have length := congrArg List.length shape
  simp only [schemeMark, List.length_append, List.length_cons, List.length_nil] at length
  have colon : (front ++ [':', '/'])[before.length]? = some ':' := by
    rw [← shape, schemeMark, List.append_assoc, List.getElem?_append_right (Nat.le_refl _),
      Nat.sub_self]
    rfl
  rw [List.getElem?_append_left (by omega)] at colon
  exact free (List.mem_of_getElem? colon)

/-- The first mark is the one that is found. -/
theorem afterScheme?_append {front : List Char} (unmarked : Unmarked front) (rest : List Char) :
    afterScheme? (front ++ schemeMark ++ rest) = some rest := by
  induction front with
  | nil => rfl
  | cons c front ih =>
      have others : Unmarked front := fun inside => unmarked (List.infix_cons inside)
      rw [List.cons_append, List.cons_append, afterScheme?, ih others]
      -- A mark that begins with `c` would lie within the front and the mark behind it.
      rintro behind rfl shape
      rcases front with _ | ⟨d, _ | ⟨e, front⟩⟩
      · cases shape
      · cases shape
      · obtain ⟨rfl, rfl, -⟩ : d = '/' ∧ e = '/' ∧ _ := by simpa using shape
        exact unmarked ⟨[], front ++ [':', '/'], rfl⟩

theorem afterScheme?_eq_none {text : List Char} (free : ¬ schemeMark <:+: text) :
    afterScheme? text = none := by
  fun_induction afterScheme? text with
  | case1 rest => exact (free ⟨[], rest, rfl⟩).elim
  | case2 c rest other ih => exact ih fun inside => free (List.infix_cons inside)
  | case3 => rfl

/-- The first mark of a scheme goes, with what is in front of it. -/
theorem withoutScheme_append {front : List Char} (unmarked : Unmarked front) (rest : List Char) :
    withoutScheme (front ++ schemeMark ++ rest) = rest := by
  rw [withoutScheme, afterScheme?_append unmarked, Option.getD_some]

theorem withoutScheme_eq_self {text : List Char} (free : ¬ schemeMark <:+: text) :
    withoutScheme text = text := by
  rw [withoutScheme, afterScheme?_eq_none free, Option.getD_none]

/-- The authority ends with the text or in front of a slash. -/
theorem authority_append {front tail : List Char} (free : '/' ∉ front)
    (slash : ∀ c ∈ tail.head?, c = '/') : authority (front ++ tail) = front := by
  have none : tail.takeWhile (· != '/') = [] := by
    cases tail with
    | nil => rfl
    | cons c tail =>
        obtain rfl := slash c rfl
        rfl
  rw [authority, List.takeWhile_append_of_pos, none, List.append_nil]
  exact fun c member => bne_iff_ne.mpr fun same => free (same ▸ member)

/-- A text can be split at its last colon exactly when it has one. -/
theorem splitAtLastColon_eq_none_iff {text : List Char} :
    splitAtLastColon text = none ↔ ':' ∉ text := by
  induction text with
  | nil => exact iff_of_true rfl List.not_mem_nil
  | cons c text ih =>
      rw [splitAtLastColon, List.mem_cons, not_or, ← ih]
      cases splitAtLastColon text with
      | some parts => exact iff_of_false nofun fun free => nomatch free.2
      | none =>
          by_cases colon : c = ':'
          · simp [colon]
          · simp [colon, Ne.symm colon]

/-- A text is split at the colon behind which there is none. -/
theorem splitAtLastColon_append (host : List Char) {port : List Char} (free : ':' ∉ port) :
    splitAtLastColon (host ++ ':' :: port) = some (host, port) := by
  induction host with
  | nil =>
      rw [List.nil_append, splitAtLastColon, splitAtLastColon_eq_none_iff.mpr free]
      rfl
  | cons c host ih => rw [List.cons_append, splitAtLastColon, ih]

/-- The last colon has none behind it. -/
theorem shape_of_splitAtLastColon {text host port : List Char}
    (split : splitAtLastColon text = some (host, port)) :
    text = host ++ ':' :: port ∧ ':' ∉ port := by
  induction text generalizing host port with
  | nil => cases split
  | cons c text ih =>
      rw [splitAtLastColon] at split
      cases later : splitAtLastColon text with
      | some parts =>
          obtain ⟨front, behind⟩ := parts
          obtain ⟨shape, free⟩ := ih later
          rw [later] at split
          cases split
          exact ⟨congrArg (c :: ·) shape, free⟩
      | none =>
          rw [later] at split
          by_cases colon : c = ':'
          · simp only [colon, if_true] at split
            cases split
            exact ⟨congrArg (· :: text) colon, splitAtLastColon_eq_none_iff.mp later⟩
          · simp only [colon, if_false] at split
            cases split

/-- Unless a port can be taken off, nothing is. -/
theorem withoutPort_eq_self {text : List Char}
    (kept : ∀ host port, text = host ++ ':' :: port → ':' ∉ port → takesPort host = true →
      isPort port = false) : withoutPort text = text := by
  rw [withoutPort]
  split
  next host port split =>
    obtain ⟨shape, free⟩ := shape_of_splitAtLastColon split
    split
    next fits =>
      rw [Bool.and_eq_true] at fits
      rw [kept host port shape free fits.1] at fits
      cases fits.2
    next => rfl
  next => rfl

/-- A port goes, where the host may have one. -/
theorem withoutPort_append {host port : List Char} (takes : takesPort host = true)
    (free : ':' ∉ port) (valid : isPort port = true) :
    withoutPort (host ++ ':' :: port) = host := by
  rw [withoutPort, splitAtLastColon_append host free]
  simp only [takes, valid, Bool.and_self, if_true]

/-- Every number of 16 bits is a port in decimal. -/
theorem isPort_toDigits {port : Nat} (small : port < 65536) :
    isPort (Nat.toDigits 10 port) = true := by
  rw [isPort, Decimal.natural?_toDigits small, Option.isSome_some]

/-- A port is made of digits and a plus. -/
theorem mem_of_isPort {port : List Char} (valid : isPort port = true) :
    ∀ c ∈ port, c = '+' ∨ Decimal.isDigit c = true := by
  obtain ⟨value, read⟩ := Option.isSome_iff_exists.mp valid
  exact Decimal.mem_of_natural? read

/-- No port ends in a bracket. -/
theorem isPort_eq_false_of_closed {host port : List Char}
    (closed : (host ++ ':' :: port).getLast? = some ']') : isPort port = false := by
  have behind : ']' ∈ port := by
    rw [List.getLast?_append, List.getLast?_cons, Option.some_or, Option.some_inj] at closed
    cases ending : port.getLast? with
    | none =>
        rw [ending] at closed
        cases closed
    | some c =>
        rw [ending, Option.getD_some] at closed
        exact List.mem_of_getLast? (closed ▸ ending)
  apply eq_false_of_ne_true
  intro valid
  rcases mem_of_isPort valid ']' behind with plus | digit
  · cases plus
  · cases digit

end Admission.Host
