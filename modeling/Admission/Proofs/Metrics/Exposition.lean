import Admission.Metrics
import Admission.Proofs.Decimal
import Admission.Proofs.Reader

/-! # The exposition read back

A reader of the text exposition format, as far as counters with one label go. A line is a comment
or a sample: a family, a label with its text between quotes, and a value. In the text a backslash,
a quote and a line feed are escaped, so a text of any characters is read back as it was, whatever
follows it (`Admission.Exposition.text_written`), no text can look like the end of a sample, and
the counters are read back from what is shown of them (`Admission.Metrics.read?_render`).
-/

namespace Admission

open Reader

/-- A line with a value. -/
structure Sample where
  family : String
  label : String
  text : String
  value : Nat
  deriving DecidableEq, Repr

namespace Exposition

inductive Line where
  /-- What stands between a number sign and the end of the line. -/
  | comment (text : List Char)
  | sample (sample : Sample)
  deriving DecidableEq, Repr

def Line.sample? : Line → Option Sample
  | .comment _ => none
  | .sample shown => some shown

def isNameChar (c : Char) : Bool :=
  c.isAlphanum || c == '_' || c == ':'

def name : Reader String := do
  return String.ofList (← span1 isNameChar)

/-- A character of a text, with its escape undone. -/
def character : Reader Char :=
  (do
    char '\\'
    word "\\" '\\' <|> word "\"" '"' <|> word "n" '\n') <|>
  satisfying fun c => c != '\\' && c != '"' && c != '\n'

def text : Reader String := do
  char '"'
  let found ← many character
  char '"'
  return String.ofList found

def sample : Reader Sample := do
  let family ← name
  char '{'
  let label ← name
  char '='
  let text ← text
  chars ['}', ' ']
  let digits ← span1 Decimal.isDigit
  char '\n'
  return ⟨family, label, text, Decimal.valueOf digits⟩

def comment : Reader (List Char) := do
  char '#'
  let text ← span (· != '\n')
  char '\n'
  return text

def line : Reader Line :=
  (do return .comment (← comment)) <|> (do return .sample (← sample))

/-- The samples of a text, in their order. -/
def read? (text : String) : Option (List Sample) :=
  (whole (many line) text.toList).map fun lines => lines.filterMap Line.sample?

/-- A text between quotes. -/
def written (text : String) : List Char :=
  '"' :: (Metrics.escape text.toList ++ ['"'])

def Line.written : Line → List Char
  | .comment text => '#' :: (text ++ ['\n'])
  | .sample shown =>
    shown.family.toList ++ '{' :: (shown.label.toList ++ '=' :: (Exposition.written shown.text
      ++ '}' :: ' ' :: (Nat.toDigits 10 shown.value ++ ['\n'])))

def IsName (name : String) : Prop :=
  name.toList ≠ [] ∧ name.toList.all isNameChar = true

/-- Whether a line is one line, with names where names are to stand. -/
def Line.IsPlain : Line → Prop
  | .comment text => text.all (· != '\n') = true
  | .sample shown => IsName shown.family ∧ IsName shown.label

variable {rest : List Char}

/-- A text is escaped character by character. -/
theorem escape_eq (text : List Char) :
    Metrics.escape text = text.flatMap fun c => Metrics.escape [c] := by
  induction text with
  | nil => rfl
  | cons c text ih =>
      rw [List.flatMap_cons, ← ih]
      simp only [Metrics.escape]
      split <;> rfl

/-- A character is read back, whatever follows it. -/
theorem character_escape (c : Char) (rest : List Char) :
    character (Metrics.escape [c] ++ rest) = some (c, rest) := by
  simp only [Metrics.escape]
  split
  next => rfl
  next => rfl
  next => rfl
  next noBackslash noQuote noFeed =>
    have other : (c != '\\' && c != '"' && c != '\n') = true := by
      rw [Bool.and_eq_true, Bool.and_eq_true, bne_iff_ne, bne_iff_ne, bne_iff_ne]
      exact ⟨⟨noBackslash, noQuote⟩, noFeed⟩
    rw [character, orElse_of_none (bind_of_none (if_neg noBackslash) _)]
    exact if_pos other

/-- **A text of any characters is read back**, whatever follows it. -/
theorem text_written (content : String) (rest : List Char) :
    text (written content ++ rest) = some (content, rest) := by
  have found : many character (Metrics.escape content.toList ++ '"' :: rest) =
      some (content.toList, '"' :: rest) := by
    rw [escape_eq]
    apply many_chunks
    · exact fun c _ rest => character_escape c rest
    · intro c _
      simp only [Metrics.escape]
      split <;> exact List.cons_ne_nil _ _
    · rfl
  rw [written, List.cons_append, List.append_assoc]
  refine (bind_of_some (char_self _ _) _).trans ?_
  refine (bind_of_some found _).trans ?_
  refine (bind_of_some (char_self _ _) _).trans ?_
  rw [String.ofList_toList]
  rfl

/-- A name is read up to the first character that no name has. -/
theorem name_append {content : String} (valid : IsName content)
    (ends : ∀ c ∈ rest.head?, isNameChar c = false) :
    name (content.toList ++ rest) = some (content, rest) := by
  refine (bind_of_some (span1_append valid.1 (List.all_eq_true.mp valid.2) ends) _).trans ?_
  rw [String.ofList_toList]
  rfl

theorem sample_written {shown : Sample} (plain : (Line.sample shown).IsPlain) (rest : List Char) :
    sample ((Line.sample shown).written ++ rest) = some (shown, rest) := by
  obtain ⟨family, label⟩ := plain
  have digits : span1 Decimal.isDigit (Nat.toDigits 10 shown.value ++ '\n' :: rest) =
      some (Nat.toDigits 10 shown.value, '\n' :: rest) :=
    span1_append Nat.toDigits_ne_nil (fun _ => Decimal.isDigit_of_mem_toDigits)
      (by rintro _ ⟨⟩; rfl)
  simp only [Line.written, List.append_assoc, List.cons_append, List.nil_append]
  refine (bind_of_some (name_append family (by rintro _ ⟨⟩; rfl)) _).trans ?_
  refine (bind_of_some (char_self _ _) _).trans ?_
  refine (bind_of_some (name_append label (by rintro _ ⟨⟩; rfl)) _).trans ?_
  refine (bind_of_some (char_self _ _) _).trans ?_
  refine (bind_of_some (text_written _ _) _).trans ?_
  refine (bind_of_some rfl _).trans ?_
  refine (bind_of_some digits _).trans ?_
  refine (bind_of_some (char_self _ _) _).trans ?_
  rw [Decimal.valueOf_toDigits]
  rfl

theorem comment_written {content : List Char} (plain : (Line.comment content).IsPlain)
    (rest : List Char) :
    comment ((Line.comment content).written ++ rest) = some (content, rest) := by
  have found : span (· != '\n') (content ++ '\n' :: rest) = some (content, '\n' :: rest) :=
    span_append (List.all_eq_true.mp plain) (by rintro _ ⟨⟩; rfl)
  rw [Line.written, List.cons_append, List.append_assoc]
  refine (bind_of_some (char_self _ _) _).trans ?_
  refine (bind_of_some found _).trans ?_
  exact bind_of_some (char_self _ _) _

/-- A line is read back, whatever follows it. -/
theorem line_written {shown : Line} (plain : shown.IsPlain) (rest : List Char) :
    line (shown.written ++ rest) = some (shown, rest) := by
  cases shown with
  | comment content => exact orElse_of_some (bind_of_some (comment_written plain rest) _) _
  | sample shown =>
      -- A name does not begin with a number sign.
      have unlike : comment ((Line.sample shown).written ++ rest) = none := by
        obtain ⟨c, others, front⟩ := List.exists_cons_of_ne_nil plain.1.1
        have first : isNameChar c = true :=
          List.all_eq_true.mp plain.1.2 c (front ▸ List.mem_cons_self)
        rw [Line.written, front]
        apply bind_of_none
        apply if_neg
        rintro rfl
        cases first
      refine (orElse_of_none (bind_of_none unlike _) _).trans ?_
      exact bind_of_some (sample_written plain rest) _

/-- A text of plain lines is read back. -/
theorem read?_written {lines : List Line} (plain : ∀ line ∈ lines, line.IsPlain) :
    read? (String.ofList (lines.flatMap Line.written)) = some (lines.filterMap Line.sample?) := by
  have read : many line (lines.flatMap Line.written ++ []) = some (lines, []) := by
    apply many_chunks
    · exact fun line member rest => line_written (plain line member) rest
    · intro line _
      cases line <;> simp [Line.written]
    · rfl
  rw [List.append_nil] at read
  rw [read?, String.toList_ofList, whole, read]
  rfl

example : read? "# TYPE a counter\na\x7bb=\"c\\\"\x7d 1\\n\\\\\"\x7d 20\n" =
    some [⟨"a", "b", "c\"\x7d 1\n\\", 20⟩] := by
  decide +kernel

end Exposition

namespace Metrics

open Exposition

/-- A series as a sample. -/
def sample (entry : String × Nat) : Sample :=
  ⟨family, "outcome", entry.1, entry.2⟩

/-- The comments in front of the samples: what the family is about, and its type. -/
def comments : List (List Char) :=
  [(" HELP " ++ family ++ " Connections handled by the server, by admission outcome").toList,
    (" TYPE " ++ family ++ " counter").toList]

/-- The lines that show the counters. -/
def lines (metrics : Metrics) : List Line :=
  comments.map Line.comment ++ metrics.series.map fun entry => .sample (sample entry)

/-- A series is shown as its sample is written. -/
theorem toList_line (label : String) (value : Nat) :
    (line label value).toList = (Line.sample (sample (label, value))).written := by
  have number : (toString value).toList = Nat.toDigits 10 value := Nat.toList_repr
  have front : "\x7boutcome=\"".toList = '{' :: ("outcome".toList ++ ['=', '"']) := rfl
  have behind : "\"\x7d ".toList = ['"', '}', ' '] := rfl
  have feed : "\n".toList = ['\n'] := rfl
  simp only [line, sample, Line.written, written, String.toList_append, String.toList_ofList,
    number, front, behind, feed, List.append_assoc, List.cons_append, List.nil_append]

theorem toList_header : header.toList = (comments.map Line.comment).flatMap Line.written := by
  have help : "# HELP ".toList = '#' :: " HELP ".toList := rfl
  have meaning : " Connections handled by the server, by admission outcome\n".toList =
      " Connections handled by the server, by admission outcome".toList ++ ['\n'] := by
    decide +kernel
  have type : "# TYPE ".toList = '#' :: " TYPE ".toList := rfl
  have counter : " counter\n".toList = " counter".toList ++ ['\n'] := rfl
  simp only [header, comments, Line.written, String.toList_append, List.map_cons, List.map_nil,
    List.flatMap_cons, List.flatMap_nil, help, meaning, type, counter, List.append_assoc,
    List.cons_append, List.nil_append, List.append_nil]

/-- What is shown are the lines as they are written. -/
theorem render_eq (metrics : Metrics) :
    metrics.render = String.ofList (metrics.lines.flatMap Line.written) := by
  have shown : metrics.series.flatMap (fun entry => (line entry.1 entry.2).toList) =
      (metrics.series.map fun entry => Line.sample (sample entry)).flatMap Line.written := by
    rw [List.flatMap_map]
    simp only [toList_line]
  rw [← String.toList_inj, String.toList_ofList, render, String.toList_append, String.toList_join,
    List.flatMap_map, shown, lines, List.flatMap_append, toList_header]

/-- Every line that is shown is plain. -/
theorem plain_lines (metrics : Metrics) : ∀ line ∈ metrics.lines, line.IsPlain := by
  intro line member
  rcases List.mem_append.mp member with comment | sample
  · obtain ⟨text, among, rfl⟩ := List.mem_map.mp comment
    have single : comments.all (fun text => text.all (· != '\n')) = true := by decide +kernel
    exact List.all_eq_true.mp single text among
  · obtain ⟨entry, -, rfl⟩ := List.mem_map.mp sample
    have outer : IsName family := ⟨by decide +kernel, by decide +kernel⟩
    have inner : IsName "outcome" := ⟨by decide +kernel, by decide +kernel⟩
    exact ⟨outer, inner⟩

/-- **The exposition loses nothing.** Every series is read back, with its label and its value. -/
theorem read?_render (metrics : Metrics) :
    read? metrics.render = some (metrics.series.map sample) := by
  have none : (comments.map Line.comment).filterMap Line.sample? = [] := rfl
  have all : (metrics.series.map fun entry => Line.sample (sample entry)).filterMap Line.sample? =
      metrics.series.map sample := by
    rw [List.filterMap_map]
    exact congrFun List.filterMap_eq_map _
  rw [render_eq, read?_written metrics.plain_lines, lines, List.filterMap_append, none, all,
    List.nil_append]

end Metrics

end Admission
