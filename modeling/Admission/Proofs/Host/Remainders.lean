import Admission.Proofs.Host.Separators

/-! # What is left of a host setting

What a setting comes to is a part of it: in front of that part stands white space or the mark of
a scheme, and behind it a port, a path or white space. Nothing more can be stripped of the part
itself: it has no slash, so no mark of a scheme either, and no port
(`Admission.Host.withoutPort_portless`). Taking a port off never uncovers another one, since the
host in front of it has no colon or ends in a bracket. Stripping a second time therefore changes
nothing, as long as no white space has come to the ends (`Admission.Host.normalize_settled`).
-/

namespace Admission.Host

/-- A port can be taken off: what stands behind some colon is one, and what stands in front of it
has no colon or ends in a bracket. -/
def Ported (text : List Char) : Prop :=
  ∃ host port, text = host ++ ':' :: port ∧ isPort port = true ∧
    (':' ∉ host ∨ host.getLast? = some ']')

/-- A port can be taken off a host without colons and off one that ends in a bracket. -/
theorem takesPort_iff {host : List Char} :
    takesPort host = true ↔ ':' ∉ host ∨ host.getLast? = some ']' := by
  rw [takesPort, Bool.or_eq_true, Bool.not_eq_true', List.contains_eq_mem, decide_eq_false_iff_not,
    beq_iff_eq]

theorem withoutPort_of_not_ported {text : List Char} (portless : ¬ Ported text) :
    withoutPort text = text := by
  apply withoutPort_eq_self
  intro host port shape free takes
  apply eq_false_of_ne_true
  exact fun valid => portless ⟨host, port, shape, valid, takesPort_iff.mp takes⟩

/-- A port that can be taken off is taken off. -/
theorem Ported.withoutPort {text : List Char} (ported : Ported text) :
    ∃ port, text = withoutPort text ++ ':' :: port ∧ isPort port = true ∧
      takesPort (withoutPort text) = true := by
  obtain ⟨host, port, rfl, valid, takes⟩ := ported
  have takes := takesPort_iff.mpr takes
  have free : ':' ∉ port := fun colon => by rcases mem_of_isPort valid ':' colon with ⟨⟨⟩⟩ | ⟨⟨⟩⟩
  rw [withoutPort_append takes free valid]
  exact ⟨port, rfl, valid, takes⟩

/-- **No port is left.** The host in front of a port that is taken off has no colon, or it ends in
a bracket, which no port does. -/
theorem withoutPort_portless (text : List Char) : ¬ Ported (withoutPort text) := by
  by_cases ported : Ported text
  · obtain ⟨-, -, -, takes⟩ := ported.withoutPort
    rintro ⟨host, port, shape, valid, -⟩
    rcases takesPort_iff.mp takes with free | closed
    · rw [shape] at free
      exact free (List.mem_append_right _ List.mem_cons_self)
    · rw [shape] at closed
      rw [isPort_eq_false_of_closed closed] at valid
      cases valid
  · rwa [withoutPort_of_not_ported ported]

/-- What is taken off the end of an authority is a port behind its colon. -/
theorem exists_port (text : List Char) : ∃ back, text = withoutPort text ++ back ∧
    (back = [] ∨ ∃ port, back = ':' :: port ∧ isPort port = true) := by
  by_cases ported : Ported text
  · obtain ⟨port, shape, valid, -⟩ := ported.withoutPort
    exact ⟨':' :: port, shape, .inr ⟨port, rfl, valid⟩⟩
  · rw [withoutPort_of_not_ported ported]
    exact ⟨[], (List.append_nil text).symm, .inl rfl⟩

/-- What is found behind a mark of a scheme is the end of the text. -/
theorem shape_of_afterScheme? {text rest : List Char} (found : afterScheme? text = some rest) :
    ∃ front, text = front ++ schemeMark ++ rest := by
  fun_induction afterScheme? text with
  | case1 behind =>
      cases found
      exact ⟨[], rfl⟩
  | case2 c behind other ih =>
      obtain ⟨front, shape⟩ := ih found
      exact ⟨c :: front, congrArg (c :: ·) shape⟩
  | case3 => cases found

/-- What is taken off the front ends in the mark of a scheme. -/
theorem exists_scheme (text : List Char) : ∃ front, text = front ++ withoutScheme text ∧
    (front = [] ∨ schemeMark <:+ front) := by
  rw [withoutScheme]
  cases found : afterScheme? text with
  | none => exact ⟨[], rfl, .inl rfl⟩
  | some rest =>
      obtain ⟨front, shape⟩ := shape_of_afterScheme? found
      exact ⟨front ++ schemeMark, shape, .inr (List.suffix_append front schemeMark)⟩

/-- In front of the first slash there is none. -/
theorem slash_not_mem_authority (text : List Char) : '/' ∉ authority text := by
  intro member
  have kept := List.all_eq_true.mp List.all_takeWhile '/' member
  cases kept

/-- What is left out behind the authority is a path. -/
theorem exists_path (text : List Char) : ∃ back, text = authority text ++ back ∧
    (back = [] ∨ ∃ path, back = '/' :: path) := by
  refine ⟨text.dropWhile (· != '/'), List.takeWhile_append_dropWhile.symm, ?_⟩
  cases shape : text.dropWhile (· != '/') with
  | nil => exact .inl rfl
  | cons c path =>
      have stop := List.head?_dropWhile_not (· != '/') text
      rw [shape] at stop
      obtain rfl : c = '/' := by simpa using stop
      exact .inr ⟨path, rfl⟩

theorem slash_not_mem_ofChars (text : List Char) : '/' ∉ ofChars text := by
  intro member
  obtain ⟨port, shape, -⟩ := exists_port (authority (withoutScheme (Text.trim text)))
  apply slash_not_mem_authority (withoutScheme (Text.trim text))
  rw [shape]
  exact List.mem_append_left port member

theorem unmarked_of_no_slash {text : List Char} (whole : '/' ∉ text) : ¬ schemeMark <:+: text :=
  fun mark => whole (mark.subset (List.mem_cons_of_mem _ List.mem_cons_self))

/-- A text in which nothing can be stripped is left alone. -/
theorem ofChars_eq_self {text : List Char} (trimmed : Text.trim text = text) (whole : '/' ∉ text)
    (portless : ¬ Ported text) : ofChars text = text := by
  have alone : authority text = text := by
    have all := @authority_append text [] whole nofun
    rwa [List.append_nil] at all
  rw [ofChars, trimmed, withoutScheme_eq_self (unmarked_of_no_slash whole), alone,
    withoutPort_of_not_ported portless]

/-- What stands around the host in a setting: white space or a scheme in front of it, and behind
it perhaps a port, and then nothing but white space or a path. -/
theorem exists_surroundings (text : List Char) : ∃ front port back,
    text = front ++ ofChars text ++ port ++ back ∧
      ((∀ c ∈ front, Text.isBlank c = true) ∨ schemeMark <:+ front) ∧
      (port = [] ∨ ∃ number, port = ':' :: number ∧ isPort number = true) ∧
      ((∀ c ∈ back, Text.isBlank c = true) ∨ ∃ path, back = '/' :: path) := by
  obtain ⟨before, after, margins, blankBefore, blankAfter⟩ := Text.exists_margins text
  obtain ⟨scheme, behind, marked⟩ := exists_scheme (Text.trim text)
  obtain ⟨path, place, slash⟩ := exists_path (withoutScheme (Text.trim text))
  obtain ⟨port, host, colon⟩ := exists_port (authority (withoutScheme (Text.trim text)))
  refine ⟨before ++ scheme, port, path ++ after, ?_, ?_, colon, ?_⟩
  · calc text
      _ = before ++ (scheme ++ (withoutPort (authority (withoutScheme (Text.trim text))) ++ port
            ++ path)) ++ after := by rw [← host, ← place, ← behind, ← margins]
      _ = _ := by simp only [ofChars, List.append_assoc]
  · rcases marked with rfl | mark
    · rw [List.append_nil]
      exact .inl blankBefore
    · exact .inr (mark.trans (List.suffix_append before scheme))
  · rcases slash with rfl | ⟨rest, rfl⟩
    · exact .inl blankAfter
    · exact .inr ⟨rest ++ after, rfl⟩

/-- **Nothing is left to strip.** What any setting comes to is a part of it: in front of that part
only white space or a scheme was stripped, behind it a port, and a path or white space. In the
part itself there is no slash, and so no mark of a scheme, and no port that could be taken off.
Unless white space has come to its ends, it comes to itself. -/
theorem normalize_settled (raw : String) :
    (normalize raw).toList <:+: raw.toList ∧
    (∃ front port back, raw.toList = front ++ (normalize raw).toList ++ port ++ back ∧
      ((∀ c ∈ front, Text.isBlank c = true) ∨ schemeMark <:+ front) ∧
      (port = [] ∨ ∃ number, port = ':' :: number ∧ isPort number = true) ∧
      ((∀ c ∈ back, Text.isBlank c = true) ∨ ∃ path, back = '/' :: path)) ∧
    '/' ∉ (normalize raw).toList ∧ ¬ schemeMark <:+: (normalize raw).toList ∧
    (∀ host port, (normalize raw).toList = host ++ ':' :: port → isPort port = true →
      ':' ∈ host ∧ host.getLast? ≠ some ']') ∧
    ((∀ c ∈ (normalize raw).toList.head?, Text.isBlank c = false) →
      (∀ c ∈ (normalize raw).toList.getLast?, Text.isBlank c = false) →
      normalize (normalize raw) = normalize raw) := by
  have whole := slash_not_mem_ofChars raw.toList
  have portless : ¬ Ported (ofChars raw.toList) := withoutPort_portless _
  have surroundings := exists_surroundings raw.toList
  rw [normalize, String.toList_ofList]
  refine ⟨?_, surroundings, whole, unmarked_of_no_slash whole, ?_, ?_⟩
  · obtain ⟨front, port, back, shape, -⟩ := surroundings
    exact ⟨front, port ++ back, by rw [← List.append_assoc, ← shape]⟩
  · intro host port shape valid
    constructor
    · exact Decidable.of_not_not fun free => portless ⟨host, port, shape, valid, .inl free⟩
    · exact fun closed => portless ⟨host, port, shape, valid, .inr closed⟩
  · intro first last
    rw [normalize, String.toList_ofList,
      ofChars_eq_self (Text.trim_eq_self first last) whole portless]

/-- A stray bracket, colons in front of it, and a port with a plus and zeros. -/
theorem normalize_settled_stray :
    normalize "x://a:1:2]:+0080/b:1" = "a:1:2]" ∧
      normalize (normalize "x://a:1:2]:+0080/b:1") = normalize "x://a:1:2]:+0080/b:1" := by
  have once : normalize "x://a:1:2]:+0080/b:1" = "a:1:2]" ∧
      (normalize "x://a:1:2]:+0080/b:1").toList.head? = some 'a' ∧
      (normalize "x://a:1:2]:+0080/b:1").toList.getLast? = some ']' := by
    decide +kernel
  refine ⟨once.1, (normalize_settled "x://a:1:2]:+0080/b:1").2.2.2.2.2 ?_ ?_⟩
  · rw [once.2.1]
    rintro _ ⟨⟩
    decide
  · rw [once.2.2]
    rintro _ ⟨⟩
    decide

/-- The white space in front of a port comes to the end, and only a second pass takes it off. -/
example : normalize "a :80" = "a " ∧ normalize "a " = "a" := by decide +kernel

end Admission.Host
