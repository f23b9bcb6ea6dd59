import Admission.Proofs.Reader
import Admission.Toml.Document
import Mathlib.Algebra.Ring.Nat

/-! # Texts written into TOML

Between double quotes a text is written with the characters that stand for themselves as they are
and with an escape for each of the others. Read chunk by chunk, it is the same text again
(`Admission.Toml.atom_quoted`), so every text can be given to a key of a table
(`Admission.Toml.read?_assignment`).
-/

namespace Admission.Toml

open Reader

/-- The hexadecimal digits of a number, `count` of them. -/
def hexadecimal : (count n : Nat) → List Char
  | 0, _ => []
  | count + 1, n => hexadecimal count (n / 16) ++ [Nat.digitChar (n % 16)]

/-- A character as it is written between double quotes. -/
def written (c : Char) : List Char :=
  if isBasic c then [c] else '\\' :: 'U' :: hexadecimal 8 c.toNat

/-- A text in double quotes. -/
def quoted (text : String) : List Char :=
  '"' :: (text.toList.flatMap written ++ ['"'])

/-- A document that gives a text to one key of a table. -/
def assignment (table key text : String) : String :=
  String.ofList (table.toList ++ '.' :: (key.toList ++ ' ' :: '=' :: ' ' :: quoted text))

/-- Whether a name may stand without quotes. -/
def IsBareName (name : String) : Prop :=
  name.toList ≠ [] ∧ name.toList.all isBare = true

theorem length_hexadecimal (count n : Nat) : (hexadecimal count n).length = count := by
  induction count generalizing n with
  | zero => rfl
  | succ count ih => rw [hexadecimal, List.length_append, ih]; rfl

theorem digitValue_digitChar : ∀ digit < 16, digitValue 16 (Nat.digitChar digit) = some digit := by
  decide

theorem isDigitOf_of_mem_hexadecimal (count n : Nat) :
    ∀ c ∈ hexadecimal count n, isDigitOf 16 c = true := by
  induction count generalizing n with
  | zero => nofun
  | succ count ih =>
      intro c member
      rcases List.mem_append.mp member with front | last
      · exact ih _ c front
      · rw [List.mem_singleton.mp last, isDigitOf,
          digitValue_digitChar _ (Nat.mod_lt n (by decide))]
        rfl

/-- A number that so many digits can write is read back. -/
theorem numberOf_hexadecimal {count n : Nat} (below : n < 16 ^ count) :
    numberOf 16 (hexadecimal count n) = n := by
  induction count generalizing n with
  | zero => exact (Nat.lt_one_iff.mp below).symm
  | succ count ih =>
      have front : numberOf 16 (hexadecimal count (n / 16)) = n / 16 := by
        apply ih
        rw [Nat.pow_succ] at below
        exact Nat.div_lt_of_lt_mul (Nat.mul_comm .. ▸ below)
      rw [numberOf] at front
      rw [hexadecimal, numberOf, List.foldl_append, front]
      rw [List.foldl_cons, List.foldl_nil, digitValue_digitChar _ (Nat.mod_lt n (by decide))]
      rw [Option.getD_some]
      omega

variable {text : String} {c : Char} {rest : List Char}

/-- A code point in eight digits is read as its character. -/
theorem codePoint_hexadecimal (c : Char) (rest : List Char) :
    codePoint 8 (hexadecimal 8 c.toNat ++ rest) = some (c, rest) := by
  have digits : exactly (isDigitOf 16) 8 (hexadecimal 8 c.toNat ++ rest) =
      some (hexadecimal 8 c.toNat, rest) := by
    have all := @exactly_append _ rest _ (isDigitOf_of_mem_hexadecimal 8 c.toNat)
    rwa [length_hexadecimal] at all
  have point : numberOf 16 (hexadecimal 8 c.toNat) = c.toNat :=
    numberOf_hexadecimal c.val.toNat_lt
  rw [codePoint, bind_of_some digits]
  simp only [point]
  have valid : c.toNat.isValidChar := c.valid
  rw [if_pos valid, Char.ofNat_toNat]
  rfl

/-- One character is read back, whatever follows it. -/
theorem character_written (c : Char) (rest : List Char) :
    (satisfying isBasic <|> escape) (written c ++ rest) = some (c, rest) := by
  rw [written]
  split
  next plain =>
    apply orElse_of_some
    exact if_pos plain
  next =>
    rw [orElse_of_none rfl]
    exact codePoint_hexadecimal c rest

/-- A text in double quotes is read back, whatever follows it. -/
theorem basic_quoted (text : String) (rest : List Char) :
    basic (quoted text ++ rest) = some (text, rest) := by
  have found : many (satisfying isBasic <|> escape)
      (text.toList.flatMap written ++ '"' :: rest) = some (text.toList, '"' :: rest) := by
    apply many_chunks
    · exact fun c _ rest => character_written c rest
    · intro c _ empty
      rw [written] at empty
      split at empty <;> cases empty
    · rfl
  rw [quoted, List.cons_append, List.append_assoc]
  refine (bind_of_some (char_self _ _) _).trans ?_
  refine (bind_of_some found _).trans ?_
  refine (bind_of_some (char_self _ _) _).trans ?_
  rw [String.ofList_toList]
  rfl

/-- Two quotes at the front of a text are all of it: what is written between quotes starts with no
other quote. -/
theorem chars_quotes_quoted (text : String) :
    chars ['"', '"', '"'] (quoted text) = none := by
  rw [quoted]
  refine (bind_of_some (char_self _ _) _).trans ?_
  cases text.toList with
  | nil => rfl
  | cons c others =>
      apply bind_of_none
      rw [List.flatMap_cons, written]
      split
      next plain =>
        apply if_neg
        rintro rfl
        cases plain
      next => rfl

/-- A text in quotes is a value with the text in it. -/
theorem atom_quoted (text : String) : atom (quoted text) = some (.text text, []) := by
  have read : Toml.text (quoted text) = some (text, []) := by
    have lines : basicBlock (quoted text) = none := bind_of_none (chars_quotes_quoted text) _
    have literal : literalBlock (quoted text) = none := bind_of_none rfl _
    rw [Toml.text, orElse_of_none lines, orElse_of_none literal]
    apply orElse_of_some
    have line := basic_quoted text []
    rwa [List.append_nil] at line
  exact orElse_of_some (bind_of_some read _) _

theorem value_quoted (depth : Nat) (text : String) :
    value depth (quoted text) = some (.atom (.text text), []) := by
  have read := bind_of_some (atom_quoted text) fun found => pure (Datum.atom found)
  cases depth with
  | zero => exact read
  | succ depth => exact orElse_of_some read _

/-- Spaces and tabs are passed over, up to what is neither. -/
theorem gap_append (gaps : List Char) (all : ∀ c ∈ gaps, isGap c = true)
    (ends : ∀ c ∈ rest.head?, isGap c = false) : gap (gaps ++ rest) = some ((), rest) :=
  bind_of_some (span_append all ends) _

/-- A name that may stand without quotes, in the front of something else. -/
theorem key_bare {name : String} (bare : IsBareName name)
    (ends : ∀ c ∈ rest.head?, isBare c = false) :
    key (name.toList ++ rest) = some (name, rest) := by
  apply orElse_of_some
  refine (bind_of_some (span1_append bare.1 (List.all_eq_true.mp bare.2) ends) _).trans ?_
  rw [String.ofList_toList]
  rfl

/-- What may stand in a bare name is no space and no tab. -/
theorem not_isGap_of_isBare (bare : isBare c = true) : isGap c = false := by
  rw [isGap, Bool.or_eq_false_iff, decide_eq_false_iff_not, decide_eq_false_iff_not]
  constructor <;> (rintro rfl; cases bare)

/-- One key of a path, with the gaps around it. -/
def segment : Reader String := do
  gap
  let found ← key
  gap
  pure found

/-- A bare name with spaces or tabs behind it is one key of a path. -/
theorem segment_bare {name : String} (bare : IsBareName name) (gaps : List Char)
    (gap : ∀ c ∈ gaps, isGap c = true) (ends : ∀ c ∈ rest.head?, isGap c = false)
    (other : ∀ c ∈ (gaps ++ rest).head?, isBare c = false) :
    segment (name.toList ++ (gaps ++ rest)) = some (name, rest) := by
  obtain ⟨some, all⟩ := bare
  have front : ∀ c ∈ (name.toList ++ (gaps ++ rest)).head?, isGap c = false := by
    obtain ⟨c, others, shape⟩ := List.exists_cons_of_ne_nil some
    rw [shape]
    rintro _ ⟨⟩
    exact not_isGap_of_isBare (List.all_eq_true.mp all c (shape ▸ List.mem_cons_self))
  refine (bind_of_some (gap_append [] nofun front) _).trans ?_
  refine (bind_of_some (key_bare ⟨some, all⟩ other) _).trans ?_
  exact bind_of_some (gap_append gaps gap ends) _

/-- The path of a key in a table. -/
theorem path_bare {table name : String} (outer : IsBareName table) (inner : IsBareName name)
    (rest : List Char) :
    path (table.toList ++ '.' :: (name.toList ++ ' ' :: '=' :: rest)) =
      some ([table, name], '=' :: rest) := by
  have first : segment (table.toList ++ '.' :: (name.toList ++ ' ' :: '=' :: rest)) =
      some (table, '.' :: (name.toList ++ ' ' :: '=' :: rest)) := by
    apply segment_bare outer [] nofun
    all_goals
      rintro _ ⟨⟩
      rfl
  have second : segment (name.toList ++ ' ' :: '=' :: rest) = some (name, '=' :: rest) := by
    apply segment_bare inner [' '] (List.forall_mem_singleton.mpr rfl)
    all_goals
      rintro _ ⟨⟩
      rfl
  have others : many (char '.' >>= fun _ => segment) ('.' :: (name.toList ++ ' ' :: '=' :: rest)) =
      some ([name], '=' :: rest) := by
    apply many_once (List.cons_ne_nil _ _)
    · exact (bind_of_some (char_self _ _) _).trans second
    · exact bind_of_none rfl _
  have keys : separated1 (char '.') segment
      (table.toList ++ '.' :: (name.toList ++ ' ' :: '=' :: rest)) =
      some ([table, name], '=' :: rest) :=
    (bind_of_some first _).trans (bind_of_some others _)
  exact (bind_of_some keys _).trans rfl

theorem exists_front_assignment {table : String} (outer : IsBareName table)
    (name text : String) :
    ∃ c others, (assignment table name text).toList = c :: others ∧ isBare c = true := by
  obtain ⟨c, others, shape⟩ := List.exists_cons_of_ne_nil outer.1
  have front : (assignment table name text).toList =
      c :: (others ++ '.' :: (name.toList ++ ' ' :: '=' :: ' ' :: quoted text)) := by
    rw [assignment, String.toList_ofList, shape]
    rfl
  exact ⟨c, _, front, List.all_eq_true.mp outer.2 c (shape ▸ List.mem_cons_self)⟩

/-- A text that begins with another character has no mark to be taken off. -/
theorem withoutMark_of_ne (other : c ≠ '\uFEFF') (rest : List Char) :
    withoutMark (c :: rest) = c :: rest := by
  rw [withoutMark]
  rintro _ ⟨⟩
  exact other rfl

/-- The document begins with no mark of its byte order. -/
theorem withoutMark_assignment {table : String} (outer : IsBareName table)
    (name text : String) :
    withoutMark (assignment table name text).toList = (assignment table name text).toList := by
  obtain ⟨c, others, shape, bare⟩ := exists_front_assignment outer name text
  rw [shape]
  apply withoutMark_of_ne
  rintro rfl
  cases bare

/-- The one line of the document. -/
theorem line_assignment {table name : String} (outer : IsBareName table)
    (inner : IsBareName name) (text : String) :
    Line.read (assignment table name text).toList =
      some (.pair [table, name] (.atom (.text text)), []) := by
  have pair : Toml.pair (value (depthLimit - 1)) (assignment table name text).toList =
      some (([table, name], .atom (.text text)), []) := by
    rw [assignment, String.toList_ofList]
    refine (bind_of_some (path_bare outer inner _) _).trans ?_
    refine (bind_of_some (char_self _ _) _).trans ?_
    refine (bind_of_some (gap_append [' '] (List.forall_mem_singleton.mpr rfl) ?_) _).trans ?_
    · rintro _ ⟨⟩
      rfl
    · exact bind_of_some (value_quoted _ text) _
  obtain ⟨c, others, shape, bare⟩ := exists_front_assignment outer name text
  rw [shape] at pair ⊢
  have bracket : char '[' (c :: others) = none := by
    apply if_neg
    rintro rfl
    cases bare
  have element : Line.readElement (c :: others) = none :=
    bind_of_none (bind_of_none bracket _) _
  have header : Line.readTable (c :: others) = none := bind_of_none bracket _
  have start : gap (c :: others) = some ((), c :: others) := by
    apply gap_append [] nofun
    rintro _ ⟨⟩
    exact not_isGap_of_isBare bare
  refine (bind_of_some start _).trans ?_
  have said : (Line.readElement <|> Line.readTable <|> Line.readPair <|> pure .blank)
      (c :: others) = some (.pair [table, name] (.atom (.text text)), []) := by
    rw [orElse_of_none element, orElse_of_none header]
    exact orElse_of_some (bind_of_some pair _) _
  exact (bind_of_some said _).trans rfl

/-- No line begins with a mark of the byte order, so no document begins with two. -/
theorem lines?_of_marks (rest : List Char) :
    lines? ('\uFEFF' :: '\uFEFF' :: rest) = none := by
  have line : Line.read ('\uFEFF' :: rest) = some (.blank, '\uFEFF' :: rest) := rfl
  have all : separated1 lineEnd Line.read ('\uFEFF' :: rest) =
      some ([.blank], '\uFEFF' :: rest) :=
    (bind_of_some line _).trans (bind_of_some (many_of_none rfl) _)
  rw [lines?, withoutMark, whole, all]
  rfl

/-- A document that can be read has the same entries without the mark of its byte order. -/
theorem read?_withoutMark {entries : Keyed Datum} (found : read? text = some entries) :
    read? (String.ofList (withoutMark text.toList)) = some entries := by
  have once : withoutMark (withoutMark text.toList) = withoutMark text.toList := by
    rcases shape : text.toList with _ | ⟨c, rest⟩
    · rfl
    by_cases first : c = '\uFEFF'
    · subst first
      rcases rest with _ | ⟨c, rest⟩
      · rfl
      apply withoutMark_of_ne
      rintro rfl
      rw [read?, shape, lines?_of_marks] at found
      cases found
    · rw [withoutMark_of_ne first, withoutMark_of_ne first]
  rw [read?, String.toList_ofList, lines?, once]
  exact found

/-- **Every text can be written.** A document gives it to a key, and is read so. -/
theorem read?_assignment {table name : String} (outer : IsBareName table)
    (inner : IsBareName name) (text : String) :
    read? (assignment table name text) = some [(table, .table [(name, .atom (.text text))])] := by
  have lines : lines? (assignment table name text).toList =
      some [.pair [table, name] (.atom (.text text))] := by
    have all : separated1 lineEnd Line.read (assignment table name text).toList =
        some ([.pair [table, name] (.atom (.text text))], []) :=
      (bind_of_some (line_assignment outer inner text) _).trans (bind_of_some (many_of_none rfl) _)
    rw [lines?, withoutMark_assignment outer, whole, all]
    rfl
  rw [read?, lines]
  rfl

end Admission.Toml
