import Admission.Proofs.Host.Separators

/-! # Locators

A setting may name its host by a whole locator, of which the host is one part
(`Admission.Host.Locator`): a scheme in front, a port and a path behind it, white space around.
The host is found whatever the other parts are, with one exception
(`Admission.Host.normalize_locator`): the first mark of a scheme counts, even where it stands in
the path of a locator that has no scheme.
-/

namespace Admission.Host

/-- Neither a slash nor white space. -/
def Unbroken (text : List Char) : Prop :=
  ∀ c ∈ text, c ≠ '/' ∧ Text.isBlank c = false

instance (text : List Char) : Decidable (Unbroken text) :=
  decidable_of_iff (text.all (fun c => c != '/' && !Text.isBlank c) = true) <| by
    simp only [Unbroken, List.all_eq_true, Bool.and_eq_true, bne_iff_ne, ne_eq, Bool.not_eq_true']

/-- A host that a port may follow: a text without colons, or any text in brackets. -/
inductive Portable : List Char → Prop where
  | plain {host : List Char} (some : host ≠ []) (whole : ':' ∉ host) (unbroken : Unbroken host) :
      Portable host
  | bracketed {inner : List Char} (unbroken : Unbroken inner) : Portable ('[' :: inner ++ [']'])

/-- A bare address in groups, which no port may follow. -/
structure Bare (host : List Char) : Prop where
  groups : 2 ≤ host.count ':'
  opening : '[' ∉ host
  closing : ']' ∉ host
  unbroken : Unbroken host

/-- A text that names a host, in its parts. -/
structure Locator where
  before : List Char := []
  scheme : Option (List Char) := none
  host : List Char
  port : Option UInt16 := none
  /-- What stands behind the slash. -/
  path : Option (List Char) := none
  after : List Char := []
  margins : ∀ c ∈ before ++ after, Text.isBlank c = true
  named : ∀ name ∈ scheme, name ≠ [] ∧ ':' ∉ name ∧ Unbroken name
  hosted : Portable host ∨ Bare host ∧ port = none

namespace Locator

def schemeText (locator : Locator) : List Char :=
  match locator.scheme with
  | none => []
  | some name => name ++ schemeMark

/-- The port in decimal, behind its colon. -/
def portText (locator : Locator) : List Char :=
  match locator.port with
  | none => []
  | some port => ':' :: (toString port.toNat).toList

def pathText (locator : Locator) : List Char :=
  match locator.path with
  | none => []
  | some path => '/' :: path

/-- Everything behind the scheme. -/
def address (locator : Locator) : List Char :=
  locator.host ++ locator.portText ++ locator.pathText

def text (locator : Locator) : List Char :=
  locator.before ++ (locator.schemeText ++ locator.address) ++ locator.after

end Locator

/-- A digit is neither a slash nor white space. -/
theorem unbroken_of_isDigit {c : Char} (digit : Decimal.isDigit c = true) :
    c ≠ '/' ∧ Text.isBlank c = false := by
  constructor
  · rintro rfl
    cases digit
  · exact Text.isBlank_of_isDigit digit

/-- A host that a port may follow has no slash and no white space. -/
theorem Portable.unbroken {host : List Char} (portable : Portable host) : Unbroken host := by
  cases portable with
  | plain some whole unbroken => exact unbroken
  | bracketed unbroken =>
      intro c member
      rcases List.mem_append.mp member with front | last
      · rcases List.mem_cons.mp front with rfl | inner
        · decide
        · exact unbroken c inner
      · obtain rfl := List.mem_singleton.mp last
        decide

/-- The last character of a host in brackets is the closing one. -/
theorem getLast?_bracketed (inner : List Char) : ('[' :: inner ++ [']']).getLast? = some ']' :=
  List.getLast?_concat

/-- Such a host is one that a port can be taken off. -/
theorem Portable.takesPort {host : List Char} (portable : Portable host) :
    takesPort host = true := by
  rw [Host.takesPort, Bool.or_eq_true]
  cases portable with
  | plain some whole unbroken =>
      rw [List.contains_eq_mem, decide_eq_false whole]
      exact .inl rfl
  | @bracketed inner unbroken =>
      rw [getLast?_bracketed]
      exact .inr rfl

/-- Nothing is taken off a host that a port may follow, as long as none does. -/
theorem Portable.withoutPort {host : List Char} (portable : Portable host) :
    withoutPort host = host := by
  apply withoutPort_eq_self
  intro front port shape free takes
  cases portable with
  | plain some whole unbroken =>
      rw [shape] at whole
      exact (whole (List.mem_append_right _ List.mem_cons_self)).elim
  | @bracketed inner unbroken =>
      apply @isPort_eq_false_of_closed front port
      rw [← shape]
      exact getLast?_bracketed inner

/-- What stands in front of the last colon of a bare address has another one, and no bracket. -/
theorem Bare.withoutPort {host : List Char} (bare : Bare host) : withoutPort host = host := by
  apply withoutPort_eq_self
  rintro front port rfl free takes
  have groups := bare.groups
  rw [List.count_append, List.count_cons_self, List.count_eq_zero.mpr free] at groups
  have another : ':' ∈ front := List.count_pos_iff.mp (by omega)
  rw [Host.takesPort, List.contains_eq_mem, decide_eq_true another, Bool.not_true, Bool.false_or,
    beq_iff_eq] at takes
  exact (bare.closing (List.mem_append_left _ (List.mem_of_getLast? takes))).elim

theorem Bare.ne_nil {host : List Char} (bare : Bare host) : host ≠ [] := by
  rintro rfl
  exact Nat.not_succ_le_zero _ bare.groups

theorem Portable.ne_nil {host : List Char} (portable : Portable host) : host ≠ [] := by
  cases portable with
  | plain some whole unbroken => exact some
  | bracketed unbroken => exact List.cons_ne_nil _ _

namespace Locator

variable (locator : Locator)

theorem host_unbroken : Unbroken locator.host :=
  locator.hosted.elim Portable.unbroken fun bare => bare.1.unbroken

theorem host_ne_nil : locator.host ≠ [] :=
  locator.hosted.elim Portable.ne_nil fun bare => bare.1.ne_nil

/-- A port is written in digits. -/
theorem portText_cases :
    (locator.port = none ∧ locator.portText = []) ∨
      ∃ port : UInt16, locator.port = some port ∧
        locator.portText = ':' :: Nat.toDigits 10 port.toNat := by
  rw [portText]
  cases locator.port with
  | none => exact .inl ⟨rfl, rfl⟩
  | some port => exact .inr ⟨port, rfl, congrArg (':' :: ·) Nat.toList_repr⟩

/-- A host with its port has no slash and no white space. -/
theorem authority_unbroken : Unbroken (locator.host ++ locator.portText) := by
  intro c member
  rcases List.mem_append.mp member with host | port
  · exact locator.host_unbroken c host
  · rcases locator.portText_cases with ⟨-, none⟩ | ⟨number, -, digits⟩
    · rw [none] at port
      cases port
    · rw [digits] at port
      rcases List.mem_cons.mp port with rfl | digit
      · decide
      · exact unbroken_of_isDigit (Decimal.isDigit_of_mem_toDigits digit)

/-- The port is taken off, and nothing else. -/
theorem withoutPort_authority : withoutPort (locator.host ++ locator.portText) = locator.host := by
  rcases locator.portText_cases with ⟨-, none⟩ | ⟨number, present, digits⟩
  · rw [none, List.append_nil]
    exact locator.hosted.elim Portable.withoutPort fun bare => bare.1.withoutPort
  · have portable : Portable locator.host := by
      refine locator.hosted.resolve_right ?_
      rintro ⟨-, absent⟩
      cases present.symm.trans absent
    rw [digits]
    refine withoutPort_append portable.takesPort ?_ (isPort_toDigits number.toNat_lt)
    intro colon
    cases Decimal.isDigit_of_mem_toDigits colon

/-- A locator does not begin with white space. -/
theorem exists_first : ∃ first rest, locator.schemeText ++ locator.address = first :: rest ∧
    Text.isBlank first = false := by
  have begins {text : List Char} (some : text ≠ []) (unbroken : Unbroken text)
      (behind : List Char) : ∃ first rest, text ++ behind = first :: rest ∧
        Text.isBlank first = false := by
    obtain ⟨first, rest, rfl⟩ := List.exists_cons_of_ne_nil some
    exact ⟨first, rest ++ behind, rfl, (unbroken first List.mem_cons_self).2⟩
  have named := locator.named
  rw [schemeText]
  cases scheme : locator.scheme with
  | none =>
      rw [List.nil_append, address, List.append_assoc]
      exact begins locator.host_ne_nil locator.host_unbroken _
  | some name =>
      obtain ⟨some, -, unbroken⟩ := named name scheme
      rw [List.append_assoc]
      exact begins some unbroken _

/-- The white space around a locator is trimmed, and that at the end of its path. -/
theorem trim_text :
    Text.trim locator.text = Text.trimRight (locator.schemeText ++ locator.address) := by
  have before : ∀ c ∈ locator.before, Text.isBlank c = true := fun c member =>
    locator.margins c (List.mem_append_left _ member)
  have after : ∀ c ∈ locator.after, Text.isBlank c = true := fun c member =>
    locator.margins c (List.mem_append_right _ member)
  obtain ⟨first, rest, shape, solid⟩ := locator.exists_first
  have left : Text.trimLeft locator.text =
      locator.schemeText ++ locator.address ++ locator.after := by
    rw [text, List.append_assoc]
    apply Text.trimLeft_append before
    rw [shape]
    rintro c ⟨⟩
    exact solid
  rw [Text.trim, left, Text.trimRight_append_margin after]

/-- A path that is left after trimming begins with its slash. -/
theorem slash_of_path : ∀ c ∈ (Text.trimRight locator.pathText).head?, c = '/' := by
  intro c first
  obtain ⟨rest, shape⟩ := List.head?_eq_some_iff.mp first
  obtain ⟨behind, whole⟩ := Text.trimRight_prefix locator.pathText
  rw [shape, pathText] at whole
  cases path : locator.path with
  | none =>
      rw [path] at whole
      cases whole
  | some name =>
      rw [path] at whole
      exact (List.cons.inj whole).1

/-- No scheme is found in a locator but its own. -/
theorem withoutScheme_text
    (unmarked : locator.scheme = none → ¬ schemeMark <:+: locator.address) :
    withoutScheme (Text.trim locator.text) =
      locator.host ++ locator.portText ++ Text.trimRight locator.pathText := by
  obtain ⟨last, ending⟩ : ∃ last, (locator.host ++ locator.portText).getLast? = some last :=
    Option.ne_none_iff_exists'.mp fun none =>
      locator.host_ne_nil (List.append_eq_nil_iff.mp (List.getLast?_eq_none_iff.mp none)).1
  have solid := (locator.authority_unbroken last (List.mem_of_getLast? ending)).2
  have trimmed : Text.trim locator.text = locator.schemeText ++
      (locator.host ++ locator.portText ++ Text.trimRight locator.pathText) := by
    have front : (locator.schemeText ++ (locator.host ++ locator.portText)).getLast? =
        some last := by
      rw [List.getLast?_append, ending, Option.some_or]
    rw [trim_text, address, ← List.append_assoc, Text.trimRight_append front solid,
      List.append_assoc]
  rw [trimmed, schemeText]
  have named := locator.named
  cases scheme : locator.scheme with
  | none =>
      have part : locator.host ++ locator.portText ++ Text.trimRight locator.pathText <+:
          locator.address :=
        (List.prefix_append_right_inj _).mpr (Text.trimRight_prefix locator.pathText)
      exact withoutScheme_eq_self fun mark => unmarked scheme (mark.trans part.isInfix)
  | some name =>
      obtain ⟨-, free, -⟩ := named name scheme
      exact withoutScheme_append (unmarked_of_no_colon free) _

end Locator

/-- **The host of a locator is found.** Whatever the scheme, the port, the path and the white
space around them are, the host is what a setting comes to. A path may hold marks of a scheme, as
long as there is a scheme in front of it. Without one, the first mark counts as that of a scheme:
what comes of the setting is then read from behind it. -/
theorem normalize_locator (locator : Locator) :
    ((locator.scheme = none → ¬ schemeMark <:+: locator.address) →
      normalize (String.ofList locator.text) = String.ofList locator.host) ∧
    ∀ front rest, locator.scheme = none → locator.address = front ++ schemeMark ++ rest →
      Unmarked front →
      normalize (String.ofList locator.text) =
        String.ofList (withoutPort (authority (Text.trimRight rest))) := by
  rw [normalize, String.toList_ofList, ofChars]
  constructor
  · intro unmarked
    have whole : '/' ∉ locator.host ++ locator.portText := fun slash =>
      (locator.authority_unbroken '/' slash).1 rfl
    rw [locator.withoutScheme_text unmarked, authority_append whole locator.slash_of_path,
      locator.withoutPort_authority]
  · intro front rest bare shape unmarked
    have ending : (front ++ schemeMark).getLast? = some '/' := by
      rw [List.getLast?_append]
      rfl
    have trimmed : Text.trim locator.text = front ++ schemeMark ++ Text.trimRight rest := by
      rw [locator.trim_text, Locator.schemeText, bare, List.nil_append, shape,
        Text.trimRight_append ending (by decide)]
    rw [trimmed, withoutScheme_append unmarked]

/-- A locator with everything a locator may have, and one without a scheme. -/
theorem normalize_locator_full :
    (∃ locator : Locator, String.ofList locator.text = "\t s3://[::1]:65535/a://b:90/ c " ∧
      normalize "\t s3://[::1]:65535/a://b:90/ c " = "[::1]") ∧
    ∃ locator : Locator, String.ofList locator.text = "localhost:80/a:b" ∧
      ¬ schemeMark <:+: locator.address ∧ normalize "localhost:80/a:b" = "localhost" := by
  constructor
  · obtain ⟨locator, text, scheme, host⟩ : ∃ locator : Locator,
        String.ofList locator.text = "\t s3://[::1]:65535/a://b:90/ c " ∧
          locator.scheme = some ['s', '3'] ∧ String.ofList locator.host = "[::1]" :=
      ⟨{ before := ['\t', ' '], scheme := some ['s', '3'], host := ['[', ':', ':', '1', ']']
         port := some 65535, path := some "a://b:90/ c".toList, after := [' ']
         margins := List.all_eq_true.mp (by decide), named := by rintro name ⟨⟩; decide
         hosted := .inl (.bracketed (show Unbroken [':', ':', '1'] by decide)) },
        by decide +kernel, rfl, by decide +kernel⟩
    have found := (normalize_locator locator).1 fun none => nomatch scheme.symm.trans none
    rw [text, host] at found
    exact ⟨locator, text, found⟩
  · obtain ⟨locator, text, unmarked, host⟩ : ∃ locator : Locator,
        String.ofList locator.text = "localhost:80/a:b" ∧ ¬ schemeMark <:+: locator.address ∧
          String.ofList locator.host = "localhost" :=
      ⟨{ host := "localhost".toList, port := some 80, path := some "a:b".toList
         margins := List.all_eq_true.mp (by decide), named := by rintro name ⟨⟩
         hosted := .inl (.plain (by decide +kernel) (by decide +kernel) (by decide +kernel)) },
        by decide +kernel, by decide +kernel, by decide +kernel⟩
    have found := (normalize_locator locator).1 fun _ => unmarked
    rw [text, host] at found
    exact ⟨locator, text, unmarked, found⟩

/-- The path of a locator without a scheme holds the mark of one, and the host is not found. -/
theorem normalize_marked_path :
    ∃ locator : Locator, String.ofList locator.host = "localhost" ∧
      String.ofList locator.text = "localhost/a://b" ∧ normalize "localhost/a://b" = "b" :=
  ⟨{ host := "localhost".toList, path := some "a://b".toList
     margins := List.all_eq_true.mp (by decide), named := by rintro name ⟨⟩
     hosted := .inl (.plain (by decide +kernel) (by decide +kernel) (by decide +kernel)) },
    by decide +kernel, by decide +kernel, by decide +kernel⟩

end Admission.Host
