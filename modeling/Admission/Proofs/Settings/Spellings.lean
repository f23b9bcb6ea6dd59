import Admission.Proofs.Decimal
import Admission.Proofs.Settings.Winners
import Mathlib.Algebra.Ring.Int.Defs

/-! # Texts from the environment and from files

A text in a file is what its field becomes. From the environment a text comes by way of the value
that it reads as, so numbers and booleans change to the way in which they are written
(`Admission.Settings.Environment.spelled`), and all other texts stay
(`Admission.Settings.text_by_source`).
-/

namespace Admission.Settings

/-- The fields that hold a text. -/
inductive TextField where
  | url
  | endpoint
  | filter
  deriving DecidableEq, Repr

namespace TextField

def field : TextField → Field
  | url => .url
  | endpoint => .endpoint
  | filter => .filter

/-- Settings with another text in one field. -/
def put : TextField → String → Settings → Settings
  | url, text, settings => { settings with server := { settings.server with url := text } }
  | endpoint, text, settings =>
    { settings with metrics := { settings.metrics with endpoint := text } }
  | filter, text, settings => { settings with log := { settings.log with filter := text } }

/-- A text that is put in one field leaves the others as they are. -/
theorem get_put_of_ne (target : TextField) {other : Field} (different : other ≠ target.field)
    (text : String) (settings : Settings) :
    other.get (target.put text settings) = other.get settings := by
  cases target <;> cases other <;> first | rfl | exact absurd rfl different

end TextField

namespace Environment

/-- What a text in the environment comes to in a field of texts: booleans and numbers are written
anew. -/
def spelled (text : String) : String :=
  match Text.lower text with
  | "true" => "true"
  | "false" => "false"
  | _ =>
    match Decimal.integer? (Nat.pow 2 63) text.toList with
    | some i => toString i
    | none =>
      match Decimal.read? text.toList with
      | some x => Decimal.write x
      | none => text

/-- A value of the environment comes to a field of texts as it is spelled. -/
theorem toText_read (text : String) (origin : Option Origin) :
    (Value.atom origin (read text)).toText = .ok (spelled text) := by
  rw [read, spelled]
  by_cases yes : Text.lower text = "true"
  · simp only [yes]
    rfl
  by_cases no : Text.lower text = "false"
  · simp only [no]
    rfl
  simp only
  cases Decimal.integer? (Nat.pow 2 63) text.toList with
  | some i => rfl
  | none => cases Decimal.read? text.toList <;> rfl

/-- An integer in decimal is no word. -/
theorem lower_toString_ne {word : String} (letter : 'e' ∈ word.toList)
    (plain : Text.isPlainWord word.toList) (i : Int) :
    Text.lower (toString i) ≠ word := by
  intro lowered
  have same : (toString i).toList = word.toList := by
    apply Text.eq_of_lowerFrom _ plain
    · rw [← lowered, Text.lower, String.toList_ofList]
    · intro c member upper
      rcases Decimal.mem_toString_int member with rfl | digit
      · cases upper
      · rw [Decimal.isDigit, Bool.and_eq_true, decide_eq_true_eq, decide_eq_true_eq] at digit
        have least := (Text.toNat_of_isUpper upper).1
        have most : c.toNat ≤ 57 := digit.2
        omega
  rcases Decimal.mem_toString_int (same ▸ letter) with minus | digit
  · cases minus
  · cases digit

/-- An integer of 64 bits in decimal stays. -/
theorem spelled_toString_int {i : Int} (least : -2 ^ 63 ≤ i) (below : i < 2 ^ 63) :
    spelled (toString i) = toString i := by
  have yes : Text.lower (toString i) ≠ "true" :=
    lower_toString_ne (by decide +kernel) (by decide +kernel) i
  have no : Text.lower (toString i) ≠ "false" :=
    lower_toString_ne (by decide +kernel) (by decide +kernel) i
  have read : Decimal.integer? (Nat.pow 2 63) (toString i).toList = some i :=
    Decimal.integer?_toString least below
  rw [spelled]
  simp only [read]

/-- A text stays where it is no boolean and no number, or what it reads as is written so. -/
theorem spelled_eq_iff {text : String} :
    spelled text = text ↔
      read text = .text text ∨ (∃ b : Bool, text = toString b) ∨
        (∃ i : Int, -2 ^ 63 ≤ i ∧ i < 2 ^ 63 ∧ text = toString i) ∨
        ∃ x : Float, read text = .real x ∧ text = Decimal.write x := by
  constructor
  · rw [spelled, read]
    by_cases yes : Text.lower text = "true"
    · simp only [yes]
      exact fun same => .inr (.inl ⟨true, same.symm⟩)
    by_cases no : Text.lower text = "false"
    · simp only [no]
      exact fun same => .inr (.inl ⟨false, same.symm⟩)
    simp only
    cases whole : Decimal.integer? (Nat.pow 2 63) text.toList with
    | some i =>
        obtain ⟨least, below⟩ := Decimal.range_of_integer? (by decide) whole
        exact fun same => .inr (.inr (.inl ⟨i, least, below, same.symm⟩))
    | none =>
        cases Decimal.read? text.toList with
        | some x => exact fun same => .inr (.inr (.inr ⟨x, rfl, same.symm⟩))
        | none => exact fun _ => .inl rfl
  · have shown := toText_read text none
    rintro (plain | ⟨b, rfl⟩ | ⟨i, least, below, rfl⟩ | ⟨x, real, written⟩)
    · rw [plain] at shown
      exact (Except.ok.inj shown).symm
    · cases b <;> decide +kernel
    · exact spelled_toString_int least below
    · rw [real] at shown
      exact (Except.ok.inj shown).symm.trans written.symm

end Environment

theorem proper_nil : Proper [] :=
  ⟨nofun, List.nodup_nil⟩

theorem orderly_nil : Orderly [] :=
  ⟨nofun, List.nodup_nil, nofun⟩

section

variable {files environment : Keyed String} {path : String} {entries : Keyed Datum}
  {settings : Settings} {target : TextField} {text : String}

/-- A field that no source gives anything holds its default. -/
theorem content?_of_unset {field : Field} (unset : field.override? environment = none)
    (absent : field.given? entries = none) :
    field.content? entries environment = some (field.get {}) := by
  rw [Field.content?, Field.winner?, unset, absent]
  rfl

variable (filed : Filed files path entries) (orderly : Orderly entries)
  (proper : Proper environment)
  (others : ∀ other, other ≠ target.field →
    other.content? entries environment = some (other.get settings))

include filed orderly proper others

/-- Settings are what all other values make them, but for the text. -/
theorem load_put {atom : Atom}
    (won : target.field.winner? entries environment = some (.atom atom))
    (shown : (Value.atom none atom).toText = .ok text) :
    load files environment path = .ok (target.put text settings) := by
  rw [load_eq_ok_iff filed orderly proper]
  intro field
  by_cases same : field = target.field
  · subst same
    rw [Field.content?, won]
    have fits := toOption_eq_some_iff.mpr shown
    cases target <;> exact fits
  · rw [target.get_put_of_ne same, others field same]

/-- A text in the environment becomes its field's as it is spelled. -/
theorem load_of_override (set : target.field.override? environment = some text) :
    load files environment path = .ok (target.put (Environment.spelled text) settings) := by
  refine load_put filed orderly proper others ?_ (Environment.toText_read text none)
  rw [Field.winner?, set]
  rfl

/-- A text in a file becomes its field's as it is, where the environment does not set the field. -/
theorem load_of_given (unset : target.field.override? environment = none)
    (given : target.field.given? entries = some (.atom (.text text))) :
    load files environment path = .ok (target.put text settings) := by
  have won : target.field.winner? entries environment = some (.atom (.text text)) := by
    rw [Field.winner?, unset, given]
    rfl
  exact load_put filed orderly proper others won rfl

end

/-- **Texts by their source.** A text in a file is what its field becomes. The same text in the
environment becomes what it is spelled as, which is the text itself exactly where it reads as no
boolean and no number, or is written as these are. Both load, and no other field is touched. -/
theorem text_by_source (target : TextField) (text : String) :
    load [] [(target.field.environmentName, text)] "tollgate.toml" =
      .ok (target.put (Environment.spelled text) {}) ∧
    load [("tollgate.toml", Toml.assignment target.field.whole.name target.field.name text)] []
      "tollgate.toml" = .ok (target.put text {}) ∧
    (Environment.spelled text = text ↔
      Environment.read text = .text text ∨ (∃ b : Bool, text = toString b) ∨
        (∃ i : Int, -2 ^ 63 ≤ i ∧ i < 2 ^ 63 ∧ text = toString i) ∨
        ∃ x : Float, Environment.read text = .real x ∧ text = Decimal.write x) ∧
    ∀ (files environment : Keyed String) (path : String) (entries : Keyed Datum)
      (settings : Settings), Filed files path entries → Orderly entries → Proper environment →
      (∀ other, other ≠ target.field →
        other.content? entries environment = some (other.get settings)) →
      (target.field.override? environment = some text →
        load files environment path = .ok (target.put (Environment.spelled text) settings)) ∧
      (target.field.override? environment = none →
        target.field.given? entries = some (.atom (.text text)) →
        load files environment path = .ok (target.put text settings)) := by
  refine ⟨?_, ?_, Environment.spelled_eq_iff, ?_⟩
  · refine load_of_override (filed_nil _) orderly_nil (proper_singleton _ _) ?_ ?_
    · intro other different
      apply content?_of_unset _ rfl
      rw [override?_singleton, if_neg different.symm]
    · rw [override?_singleton, if_pos rfl]
  · obtain ⟨outer, inner⟩ := target.field.bare
    refine load_of_given (filed_assignment outer inner text) (orderly_assignment target.field text)
      proper_nil ?_ rfl ?_
    · intro other different
      apply content?_of_unset rfl
      rw [Field.given?_single, if_neg different.symm]
    · rw [Field.given?_single, if_pos rfl]
  · intro files environment path entries settings filed orderly proper others
    exact ⟨load_of_override filed orderly proper others,
      load_of_given filed orderly proper others⟩

/-- Among others: zeros in front are lost on the way through the environment, and kept in the
file. -/
theorem text_by_source_zeros :
    load [("tollgate.toml", Toml.assignment "server" "url" "007")]
        [("TOLLGATE__LOG__FILTER", "007")] "tollgate.toml" =
      .ok { server := { url := "007" }, log := { filter := "7" } } := by
  have spelled : Environment.spelled "007" = "7" := by
    decide +kernel
  have name : Field.filter.environmentName = "TOLLGATE__LOG__FILTER" := by
    decide +kernel
  obtain ⟨outer, inner⟩ := Field.url.bare
  have loaded := ((text_by_source .filter "007").2.2.2 _ _ _ _ (TextField.url.put "007" {})
    (filed_assignment outer inner "007") (orderly_assignment .url "007")
    (proper_singleton .filter "007") ?_).1 ?_
  · rwa [spelled, name] at loaded
  · intro other different
    have unset : other.override? [(Field.filter.environmentName, "007")] = none :=
      (override?_singleton .filter other "007").trans (if_neg different.symm)
    have given := Field.given?_single .url other (.atom (.text "007"))
    by_cases url : other = .url
    · rw [if_pos url.symm] at given
      rw [Field.content?, Field.winner?, unset, given, url]
      rfl
    · rw [if_neg (Ne.symm url)] at given
      rw [TextField.url.get_put_of_ne url]
      exact content?_of_unset unset given
  · exact override?_singleton .filter .filter "007"

/-- The environment and a file do not agree on every text. -/
theorem zeros_lost :
    load [] [("TOLLGATE__SERVER__URL", "007")] "tollgate.toml" =
        .ok { server := { url := "7" } } ∧
      load [("tollgate.toml", "server.url = \"007\"")] [] "tollgate.toml" =
        .ok { server := { url := "007" } } ∧
      "7" ≠ "007" := by
  refine ⟨toOption_eq_some_iff.mp ?_, toOption_eq_some_iff.mp ?_, ?_⟩
  all_goals decide +kernel

end Admission.Settings
