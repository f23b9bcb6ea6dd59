import Admission.Datum
import Admission.Proofs.Reader
import Admission.Proofs.Settings.Fields

/-! # What sources put in place

A document whose keys are plain and distinct in lower case lies below the root under its keys in
lower case (`Admission.Settings.withSource_bare`). A source that sets single fields changes what
lies at their places, and nothing else (`Admission.Settings.withSource_fields`). The environment is
such a source where no two variables set the same (`Admission.Settings.Proper.find?_entries`).
-/

namespace Admission.Settings

/-- The values by their names in lower case. -/
def lowered {α : Type} (entries : Keyed α) : Keyed α :=
  entries.map fun (name, value) => (Text.lower name, value)

/-- Whether names are distinct even in lower case. -/
def Distinct {α : Type} (entries : Keyed α) : Prop :=
  ((lowered entries).map Prod.fst).Nodup

namespace Value

/-- A value as it lies under a name that is new. -/
def placed : Value → Value
  | .table _ incoming => putAll (.table none []) incoming
  | value => value

variable {origin : Option Origin} {entries incoming : Keyed Value} {name : String}

/-- A value under a new name comes last in a table, under the name in lower case. -/
theorem put_of_absent (absent : entries.find? (Text.lower name) = none) (value : Value) :
    put (.table origin entries) name value =
      .table origin (entries ++ [(Text.lower name, value.placed)]) := by
  rw [← Keyed.set_of_absent absent]
  cases value with
  | table other inner =>
      simp only [put, asTable, absent, Option.getD_none]
      rfl
  | atom | list => simp only [put, asTable, placed]

/-- A table takes in values under new names, in lower case. -/
theorem putAll_of_distinct (distinct : Distinct incoming)
    (fresh : ∀ name ∈ (lowered incoming).map Prod.fst, entries.find? name = none) :
    putAll (.table origin entries) incoming =
      .table origin (entries ++ incoming.map fun (name, value) =>
        (Text.lower name, value.placed)) := by
  induction incoming generalizing entries with
  | nil => rw [putAll, List.map_nil, List.append_nil]
  | cons entry incoming ih =>
      obtain ⟨name, value⟩ := entry
      obtain ⟨absent, others⟩ := List.nodup_cons.mp distinct
      obtain ⟨here, later⟩ := List.forall_mem_cons.mp fresh
      rw [putAll, put_of_absent here, ih others, List.append_assoc]
      · rfl
      · intro other member
        rw [Keyed.find?_eq_none_iff, List.map_append, List.mem_append, not_or]
        refine ⟨Keyed.find?_eq_none_iff.mp (later other member), fun same => ?_⟩
        exact absent (List.mem_singleton.mp same ▸ member)

/-- A table that is placed has no origin, and its values are placed in it in turn. -/
theorem placed_table (distinct : Distinct incoming) :
    (table origin incoming).placed =
      .table none (incoming.map fun (name, value) => (Text.lower name, value.placed)) :=
  putAll_of_distinct distinct fun _ _ => rfl

/-- The values of a document are those of its entries, one by one. -/
theorem ofEntries_eq_map (origin : Option Origin) (entries : Keyed Datum) :
    ofEntries origin entries = entries.map fun (name, datum) => (name, ofDatum origin datum) := by
  induction entries with
  | nil => rw [ofEntries, List.map_nil]
  | cons entry entries ih =>
      obtain ⟨name, datum⟩ := entry
      rw [ofEntries, ih, List.map_cons]

theorem distinct_ofEntries {origin : Option Origin} {entries : Keyed Datum}
    (distinct : Distinct entries) : Distinct (ofEntries origin entries) := by
  rw [Distinct, lowered, ofEntries_eq_map, List.map_map, List.map_map]
  rw [Distinct, lowered, List.map_map] at distinct
  exact distinct

end Value

namespace KeyPath

/-- Whether a key is one name: it has no dots and no brackets. -/
def isPlainKey (key : String) : Bool :=
  key.toList.all fun c => c ≠ '.' && c ≠ '['

/-- A path goes no further without a dot or a bracket. -/
theorem readStep_of_plain {text : List Char} (plain : ∀ c ∈ text, c ≠ '.' ∧ c ≠ '[') :
    readStep text = none := by
  cases text with
  | nil => rfl
  | cons c rest =>
      obtain ⟨dot, bracket⟩ := plain c List.mem_cons_self
      rw [readStep, Reader.orElse_of_none]
      · apply Reader.bind_of_none
        rw [Reader.char, if_neg bracket]
      · apply Reader.bind_of_none
        rw [Reader.char, if_neg dot]

/-- A plain key is read as the name of one value. -/
theorem ofKey_of_plain {key : String} (plain : isPlainKey key) : ofKey key = name key := by
  have plain : ∀ c ∈ key.toList, c ≠ '.' ∧ c ≠ '[' := by simpa [isPlainKey] using plain
  have behind : ∀ c ∈ key.toList.dropWhile isNamed, c ≠ '.' ∧ c ≠ '[' := fun c member =>
    plain c ((List.dropWhile_suffix _).subset member)
  have shape := List.takeWhile_append_dropWhile (p := isNamed) (l := key.toList)
  rw [ofKey, Reader.whole]
  by_cases empty : (key.toList.takeWhile isNamed).isEmpty = true
  · have unnamed : readName key.toList = none := by
      apply Reader.bind_of_none
      rw [Reader.span1_eq, if_pos empty]
    rw [read, Reader.bind_of_none unnamed]
    rfl
  · have named : readName key.toList =
        some (String.ofList (key.toList.takeWhile isNamed), key.toList.dropWhile isNamed) := by
      refine (Reader.bind_of_some ?_ _).trans rfl
      rw [Reader.span1_eq, if_neg empty]
    rw [read, Reader.bind_of_some named,
      Reader.bind_of_some (Reader.many_of_none (readStep_of_plain behind))]
    cases rest : key.toList.dropWhile isNamed with
    | nil =>
        rw [rest, List.append_nil] at shape
        rw [shape, String.ofList_toList]
        rfl
    | cons c rest => rfl

end KeyPath

theorem withSource_cons (root : Value) (origin : Option Origin) (key : String) (datum : Datum)
    (entries : Keyed Datum) :
    withSource root origin ((key, datum) :: entries) =
      withSource ((KeyPath.ofKey key).put (.ofDatum origin datum) root) origin entries := rfl

/-- Below the root lies every entry of a document, under its key in lower case. -/
theorem withSource_bare {origin : Option Origin} {entries : Keyed Datum}
    (plain : ∀ key ∈ entries.map Prod.fst, KeyPath.isPlainKey key)
    (distinct : Distinct entries) :
    withSource bare origin entries = .table none (entries.map fun (key, datum) =>
      (Text.lower key, (Value.ofDatum origin datum).placed)) := by
  have together (root : Value) : withSource root origin entries =
      root.putAll (Value.ofEntries origin entries) := by
    clear distinct
    induction entries generalizing root with
    | nil => rw [Value.ofEntries, Value.putAll]; rfl
    | cons entry entries ih =>
        obtain ⟨key, datum⟩ := entry
        obtain ⟨here, later⟩ := List.forall_mem_cons.mp plain
        rw [withSource_cons, KeyPath.ofKey_of_plain here, ih later, Value.ofEntries, Value.putAll]
        rfl
  rw [together, bare, Value.putAll_of_distinct, Value.ofEntries_eq_map, List.map_map]
  · rfl
  · exact Value.distinct_ofEntries distinct
  · exact fun _ _ => rfl

/-- What is asked of a document: its keys are plain and distinct in lower case, the sections in it
are tables, and the names in these, and in tables in place of their fields, are distinct in lower
case as well. -/
structure Orderly (entries : Keyed Datum) : Prop where
  plain : ∀ key ∈ entries.map Prod.fst, KeyPath.isPlainKey key
  distinct : Distinct entries
  sections : ∀ whole : Section, ∀ datum ∈ (lowered entries).find? whole.name,
    ∃ inner, datum = .table inner ∧ Distinct inner ∧
      ∀ name ∈ whole.fieldNames, ∀ fields,
        (lowered inner).find? name = some (.table fields) → Distinct fields

/-- A document of tables in which there are no others. -/
theorem orderly_of_flat {entries : Keyed Datum}
    (plain : ∀ key ∈ entries.map Prod.fst, KeyPath.isPlainKey key) (distinct : Distinct entries)
    (flat : ∀ datum ∈ entries.map Prod.snd, ∃ inner, datum = .table inner ∧ Distinct inner ∧
      ∀ entry ∈ inner, ∀ fields, entry.2 ≠ .table fields) :
    Orderly entries := by
  refine ⟨plain, distinct, fun whole datum found => ?_⟩
  obtain ⟨entry, there, named⟩ := List.mem_map.mp (Keyed.mem_of_find? found)
  obtain rfl : entry.2 = datum := (Prod.mk.inj named).2
  obtain ⟨inner, table, distinct, simple⟩ := flat entry.2 (List.mem_map_of_mem there)
  refine ⟨inner, table, distinct, fun name _ fields lies => ?_⟩
  obtain ⟨entry, member, same⟩ := List.mem_map.mp (Keyed.mem_of_find? lies)
  exact (simple entry member fields (Prod.mk.inj same).2).elim

/-- What a document gives a field. -/
def Field.given? (field : Field) (entries : Keyed Datum) : Option Datum :=
  match (lowered entries).find? field.whole.name with
  | some (.table inner) => (lowered inner).find? field.name
  | _ => none

theorem find?_placed (origin : Option Origin) (entries : Keyed Datum) (name : String) :
    Keyed.find? (entries.map fun (key, datum) =>
        (Text.lower key, (Value.ofDatum origin datum).placed)) name =
      ((lowered entries).find? name).map fun datum => (Value.ofDatum origin datum).placed := by
  rw [← Keyed.find?_map, lowered, List.map_map]
  rfl

/-- A table of data is placed with its names in lower case. -/
theorem placed_ofDatum_table {inner : Keyed Datum} (origin : Option Origin)
    (distinct : Distinct inner) :
    (Value.ofDatum origin (.table inner)).placed = .table none (inner.map fun (key, datum) =>
      (Text.lower key, (Value.ofDatum origin datum).placed)) := by
  rw [Value.ofDatum, Value.placed_table, Value.ofEntries_eq_map, List.map_map]
  · rfl
  · exact Value.distinct_ofEntries distinct

namespace Orderly

variable {entries : Keyed Datum} (orderly : Orderly entries) (origin : Option Origin)

include orderly

theorem sectionOf_bare (whole : Section) :
    sectionOf (withSource bare origin entries) whole =
      ((lowered entries).find? whole.name).map fun datum =>
        (Value.ofDatum origin datum).placed := by
  rw [withSource_bare orderly.plain orderly.distinct]
  exact find?_placed origin entries whole.name

theorem isTabular (whole : Section) :
    IsTabular (sectionOf (withSource bare origin entries) whole) := by
  intro value member
  rw [orderly.sectionOf_bare] at member
  obtain ⟨datum, found, rfl⟩ := Option.map_eq_some_iff.mp member
  obtain ⟨inner, rfl, distinct, -⟩ := orderly.sections whole datum found
  exact ⟨none, _, placed_ofDatum_table origin distinct⟩

/-- At the place of a field lies what the document gives it. -/
theorem lookup_bare (field : Field) :
    field.lookup (withSource bare origin entries) =
      (field.given? entries).map fun datum => (Value.ofDatum origin datum).placed := by
  rw [Field.lookup, orderly.sectionOf_bare, Field.within, Field.given?]
  cases found : (lowered entries).find? field.whole.name with
  | none => rfl
  | some datum =>
      obtain ⟨inner, rfl, distinct, -⟩ := orderly.sections field.whole datum found
      rw [Option.map_some, Option.bind_some, placed_ofDatum_table origin distinct]
      exact find?_placed origin inner field.name

omit origin in
/-- Names are distinct in a table in place of a field. -/
theorem distinct_given {field : Field} {datum : Datum}
    (given : field.given? entries = some datum) (fields : Keyed Datum)
    (same : datum = .table fields) : Distinct fields := by
  subst same
  rw [Field.given?] at given
  cases found : (lowered entries).find? field.whole.name with
  | none => simp [found] at given
  | some datum =>
      obtain ⟨inner, rfl, -, named⟩ := orderly.sections field.whole datum found
      rw [found] at given
      exact named field.name field.name_mem fields given

end Orderly

namespace Field

/-- The key under which a source sets a single field. -/
def key (field : Field) : String :=
  field.whole.name ++ "." ++ field.name

/-- The variable that sets a field. -/
def environmentName (field : Field) : String :=
  Environment.nameOf field.whole field.name

/-- The key of a field is read as the path of its name in its section. -/
theorem ofKey_key (field : Field) :
    KeyPath.ofKey field.key = .entry (.name field.whole.name) field.name := by
  cases field <;> decide +kernel

/-- The variable of a field is a setting, with the key of the field. -/
theorem key?_environmentName (field : Field) :
    Environment.key? field.environmentName = some field.key := by
  cases field <;> decide +kernel

theorem lower_name (field : Field) : Text.lower field.name = field.name := by
  cases field <;> decide +kernel

theorem lower_whole (field : Field) : Text.lower field.whole.name = field.whole.name := by
  cases field <;> decide +kernel

/-- No two fields have one key. -/
theorem eq_of_key {field other : Field} (same : field.key = other.key) : field = other := by
  have apart : ∀ field ∈ all, ∀ other ∈ all, field.key = other.key → field = other := by
    decide +kernel
  exact apart field field.mem_all other other.mem_all same

theorem eq_of_place {field other : Field} (whole : field.whole.name = other.whole.name)
    (name : field.name = other.name) : field = other := by
  apply eq_of_key
  rw [key, key, whole, name]

/-- A document that gives one field something. -/
theorem given?_single (field other : Field) (datum : Datum) :
    other.given? [(field.whole.name, .table [(field.name, datum)])] =
      if field = other then some datum else none := by
  have single {α : Type} (name : String) (value : α) (wanted : String) :
      (lowered [(name, value)]).find? wanted =
        if Text.lower name = wanted then some value else none := rfl
  rw [given?, single, field.lower_whole]
  by_cases whole : field.whole.name = other.whole.name
  · rw [if_pos whole]
    refine (single field.name datum other.name).trans ?_
    rw [field.lower_name]
    by_cases name : field.name = other.name
    · rw [if_pos name, if_pos (eq_of_place whole name)]
    · rw [if_neg name, if_neg fun same => name (congrArg Field.name same)]
  · rw [if_neg whole, if_neg fun same => whole (congrArg (·.whole.name) same)]

end Field

section

variable {root : Value} {origin : Option Origin}

/-- One field is set: the section becomes a table with the value in its place. -/
theorem put_key (root : Value) (field : Field) (origin : Option Origin) (atom : Atom) :
    (KeyPath.ofKey field.key).put (.atom origin atom) root =
      let inner := ((sectionOf root field.whole).getD .nothing).asTable
      .table root.asTable.1 (root.asTable.2.set field.whole.name
        (.table inner.1 (inner.2.set field.name (.atom origin atom)))) := by
  rw [field.ofKey_key, KeyPath.put, KeyPath.change, Value.changeEntry]
  simp only [Value.put, field.lower_name]
  rfl

/-- A single field that is put below the root changes its own section only, which becomes a table if
it was none. -/
theorem sectionOf_put_key (root : Value) (field : Field) (origin : Option Origin) (atom : Atom)
    (whole : Section) :
    sectionOf ((KeyPath.ofKey field.key).put (.atom origin atom) root) whole =
      if field.whole.name = whole.name then
        let inner := ((sectionOf root field.whole).getD .nothing).asTable
        some (.table inner.1 (inner.2.set field.name (.atom origin atom)))
      else sectionOf root whole := by
  rw [put_key, sectionOf]
  exact Keyed.find?_set ..

/-- Sections stay tables when one field is set. -/
theorem isTabular_put_key (tabular : ∀ whole, IsTabular (sectionOf root whole)) (field : Field)
    (atom : Atom) (whole : Section) :
    IsTabular (sectionOf ((KeyPath.ofKey field.key).put (.atom origin atom) root) whole) := by
  rw [sectionOf_put_key]
  split
  next =>
    rintro value ⟨⟩
    exact ⟨_, _, rfl⟩
  next => exact tabular whole

/-- One field is set, and no other is touched. -/
theorem lookup_put_key (root : Value) (field other : Field) (atom : Atom) :
    other.lookup ((KeyPath.ofKey field.key).put (.atom origin atom) root) =
      if field = other then some (.atom origin atom) else other.lookup root := by
  rw [Field.lookup, sectionOf_put_key]
  by_cases whole : field.whole.name = other.whole.name
  · have same : sectionOf root field.whole = sectionOf root other.whole := by
      rw [sectionOf, sectionOf, whole]
    have before : other.lookup root =
        ((sectionOf root other.whole).getD .nothing).asTable.2.find? other.name := by
      rw [Field.lookup, Field.within]
      cases sectionOf root other.whole <;> rfl
    rw [if_pos whole, before, ← same]
    refine (Keyed.find?_set ..).trans ?_
    by_cases name : field.name = other.name
    · rw [if_pos name, if_pos (Field.eq_of_place whole name)]
    · rw [if_neg name, if_neg fun same => name (congrArg Field.name same)]
  · rw [if_neg whole, if_neg fun same => whole (congrArg (·.whole.name) same)]
    rfl

/-- **A source of single fields.** It sets the fields that it mentions, once each, and touches no
others. -/
theorem withSource_fields (entries : Keyed Datum) (root : Value) (origin : Option Origin)
    (tabular : ∀ whole, IsTabular (sectionOf root whole))
    (single : ∀ entry ∈ entries,
      ∃ (field : Field) (atom : Atom), entry = (field.key, .atom atom))
    (distinct : (entries.map Prod.fst).Nodup) :
    (∀ whole, IsTabular (sectionOf (withSource root origin entries) whole)) ∧
      ∀ field : Field, field.lookup (withSource root origin entries) =
        ((entries.find? field.key).map (Value.ofDatum origin)).or (field.lookup root) := by
  induction entries generalizing root with
  | nil => exact ⟨tabular, fun _ => rfl⟩
  | cons entry entries ih =>
      obtain ⟨⟨field, atom, rfl⟩, others⟩ := List.forall_mem_cons.mp single
      obtain ⟨absent, distinct⟩ := List.nodup_cons.mp distinct
      rw [withSource_cons, Value.ofDatum]
      obtain ⟨kept, looked⟩ := ih _ (isTabular_put_key tabular field atom) others distinct
      refine ⟨kept, fun other => ?_⟩
      rw [looked, lookup_put_key, Keyed.find?]
      by_cases same : field = other
      · subst same
        rw [if_pos rfl, if_pos rfl, Keyed.find?_eq_none_iff.mpr absent]
        rw [Option.map_some, Value.ofDatum]
        rfl
      · rw [if_neg same, if_neg fun key => same (Field.eq_of_key key)]

end

/-- The variables that are settings, by their keys. -/
def Environment.named (environment : Keyed String) : Keyed String :=
  environment.filterMap fun (name, text) => (key? name).map (·, text)

/-- What is asked of the environment: the variables that are settings set known fields, and no two
of them the same. -/
structure Proper (environment : Keyed String) : Prop where
  known : ∀ key ∈ (Environment.named environment).map Prod.fst,
    ∃ field : Field, key = field.key
  distinct : ((Environment.named environment).map Prod.fst).Nodup

/-- What the environment gives a field, as it is written. -/
def Field.override? (field : Field) (environment : Keyed String) : Option String :=
  (Environment.named environment).find? field.key

/-- A variable that sets a field is among the settings under the key of the field. -/
theorem Environment.named_cons (field : Field) (text : String) (environment : Keyed String) :
    Environment.named ((field.environmentName, text) :: environment) =
      (field.key, text) :: Environment.named environment := by
  rw [Environment.named, List.filterMap_cons]
  simp only [field.key?_environmentName]
  rfl

/-- A single variable that sets a field. -/
theorem proper_singleton (field : Field) (text : String) :
    Proper [(field.environmentName, text)] := by
  constructor
  · rw [Environment.named_cons]
    exact fun key same => ⟨field, List.mem_singleton.mp same⟩
  · rw [Environment.named_cons]
    exact List.nodup_cons.mpr ⟨nofun, List.nodup_nil⟩

/-- A variable that sets a field sets no other one. -/
theorem override?_singleton (field other : Field) (text : String) :
    other.override? [(field.environmentName, text)] =
      if field = other then some text else none := by
  rw [Field.override?, Environment.named_cons, Keyed.find?]
  by_cases same : field = other
  · rw [if_pos same, if_pos (congrArg Field.key same)]
  · rw [if_neg same, if_neg fun key => same (Field.eq_of_key key)]
    rfl

namespace Proper

variable {environment : Keyed String} (proper : Proper environment)

include proper

/-- Each variable sets what it reads as. -/
theorem entries_eq_map :
    Environment.entries environment =
      (Environment.named environment).map fun (key, text) =>
        (key, .atom (Environment.read text)) := by
  have apart : (((Environment.named environment).map fun (key, text) =>
      (key, Datum.atom (Environment.read text))).map Prod.fst).Nodup := by
    rw [List.map_map]
    exact proper.distinct
  have gathered := Keyed.foldl_set apart fun name _ => (rfl : Keyed.find? [] name = none)
  rw [List.foldl_map, Environment.named, List.foldl_filterMap] at gathered
  rw [Environment.entries]
  refine Eq.trans ?_ gathered
  congr 1
  funext found (name, text)
  dsimp only
  cases Environment.key? name <;> rfl

/-- Every entry that the environment gives is a single value for a field. -/
theorem single : ∀ entry ∈ Environment.entries environment,
    ∃ (field : Field) (atom : Atom), entry = (field.key, .atom atom) := by
  rw [proper.entries_eq_map]
  intro entry member
  obtain ⟨⟨key, text⟩, set, rfl⟩ := List.mem_map.mp member
  obtain ⟨field, rfl⟩ := proper.known key (List.mem_map_of_mem set)
  exact ⟨field, _, rfl⟩

theorem nodup_entries : ((Environment.entries environment).map Prod.fst).Nodup := by
  rw [proper.entries_eq_map, List.map_map]
  exact proper.distinct

/-- Under the key of a field the environment gives what the variable of the field reads as. -/
theorem find?_entries (field : Field) :
    (Environment.entries environment).find? field.key =
      (field.override? environment).map fun text => .atom (Environment.read text) := by
  rw [proper.entries_eq_map]
  exact Keyed.find?_map (fun text => Datum.atom (Environment.read text)) _ _

end Proper

end Admission.Settings
