import Admission.Proofs.Settings.Sources
import Admission.Proofs.Text
import Admission.Proofs.Toml.Written
import Mathlib

/-! # The winner for each field

A field takes the value that the environment gives it, otherwise the one from the file, otherwise
its default. Loading comes to look at the places of the fields
(`Admission.Settings.ofRoot_eq_ok_iff`), where the sources put what they give
(`Admission.Settings.Orderly.lookup_bare`, `Admission.Settings.withSource_fields`). So it succeeds
exactly when each field can hold its winner, and a value that another one hides is never looked at
(`Admission.Settings.load_winners`).

Which document a path leads to is told by the names of the files, and what is in it by the reader of
its form (`Admission.Settings.Filed`), without looking at how loading finds and opens it.
-/

namespace Admission.Settings

section

variable (origin : Option Origin)

/-- Where a value came from matters to messages only. -/
theorem toOption_toNatural_atom (atom : Atom) :
    (Value.atom origin atom).toNatural.toOption = (Value.atom none atom).toNatural.toOption := by
  cases atom with
  | nothing | boolean | real => rfl
  | integer i =>
      simp only [Value.toNatural]
      split <;> rfl
  | text s =>
      simp only [Value.toNatural]
      cases truthOfWord? s with
      | some b => rfl
      | none => cases Decimal.natural? (Nat.pow 2 64) s.toList <;> rfl

theorem toOption_toBool_atom (atom : Atom) :
    (Value.atom origin atom).toBool.toOption = (Value.atom none atom).toBool.toOption := by
  cases atom with
  | nothing | boolean | integer | real => rfl
  | text s =>
      simp only [Value.toBool]
      cases truthOfWord? s with
      | some b => rfl
      | none =>
          by_cases one : s = "1"
          · simp only [if_pos one]
          · by_cases zero : s = "0"
            · simp only [if_neg one, if_pos zero]
            · simp only [if_neg one, if_neg zero]
              rfl

end

section

variable {ε α β : Type} {left right : Except ε α}

theorem toOption_bind_congr (same : left.toOption = right.toOption) (next : α → Except ε β) :
    (left.bind next).toOption = (right.bind next).toOption := by
  cases left <;> cases right <;> cases same <;> rfl

theorem toOption_map_congr (same : left.toOption = right.toOption) (f : α → β) :
    (left.map f).toOption = (right.map f).toOption := by
  cases left <;> cases right <;> cases same <;> rfl

end

namespace Field

/-- What a datum comes to in a field, if it fits. -/
def read? (field : Field) (datum : Datum) : Option field.Content :=
  field.convert? (.ofDatum none datum)

/-- A single value comes to the same in a field wherever it is from. -/
theorem convert?_atom (field : Field) (origin : Option Origin) (atom : Atom) :
    field.convert? (.atom origin atom) = field.read? (.atom atom) := by
  have same := toOption_toNatural_atom origin atom
  cases field with
  | url | endpoint | filter => cases atom <;> rfl
  | port | metricsPort => exact toOption_map_congr (toOption_bind_congr same _) _
  | tokenRate | tokenLimit => exact toOption_map_congr (toOption_bind_congr same _) _
  | workers | queueSize | readTimeout | writeTimeout => exact toOption_map_congr same _
  | enabled => exact toOption_toBool_atom origin atom
  | format => cases atom <;> rfl

end Field

/-- The name of a log format may be put in lower case before it is looked up. -/
theorem formatOfName_lower (name : String) :
    (formatOfName (Text.lower name)).toOption = (formatOfName name).toOption := by
  have kept : ∀ format ∈ LogFormat.all, Text.lower format.name = format.name ∧
      Text.isPlainWord format.name.toList := by
    decide +kernel
  have found : (LogFormat.all.find? fun format => Text.lower (Text.lower name) = format.name) =
      LogFormat.all.find? fun format => Text.lower name = format.name := by
    apply List.find?_congr
    intro format member
    obtain ⟨low, plain⟩ := kept format member
    rw [decide_eq_decide]
    constructor
    · exact Text.lower_eq_of_lower_lower plain
    · intro named
      rw [named, low]
  rw [formatOfName, formatOfName, found]
  cases LogFormat.all.find? fun format => Text.lower name = format.name <;> rfl

namespace Field

/-- A value converts in its place as it does by itself. -/
theorem convert?_placed (field : Field) (origin : Option Origin) {datum : Datum}
    (distinct : ∀ inner, datum = .table inner → Distinct inner) :
    field.convert? (Value.ofDatum origin datum).placed = field.read? datum := by
  cases datum with
  | atom value => exact field.convert?_atom origin value
  | list items => cases field <;> rfl
  | table inner =>
      rw [placed_ofDatum_table origin (distinct inner rfl), read?, Value.ofDatum,
        Value.ofEntries_eq_map]
      cases field with
      | format =>
          rcases inner with _ | ⟨⟨name, datum⟩, _ | ⟨second, others⟩⟩
          · rfl
          · exact formatOfName_lower name
          · rfl
      | _ => rfl

end Field

/-- Whether a path leads to a document of a form: to the one of the very name, which ends as
documents of the form do, or, where nothing has that name, to the one with the ending after it. Of
two such, the one in TOML counts. -/
inductive Stored (files : Keyed String) (path : String) : FileForm → String → Prop where
  | exact {form : FileForm} {text : String} (there : files.find? (plainPath path) = some text)
      (ends : ending (plainPath path) = form.ending) : Stored files path form text
  | toml {text : String} (bare : files.find? (plainPath path) = none)
      (there : files.find? (plainPath path ++ ".toml") = some text) : Stored files path .toml text
  | json {text : String} (bare : files.find? (plainPath path) = none)
      (other : files.find? (plainPath path ++ ".toml") = none)
      (there : files.find? (plainPath path ++ ".json") = some text) : Stored files path .json text

/-- Whether a path leads to a document with these entries, which are read behind the mark of its
byte order where there is one, or to no document and there are none. -/
inductive Filed (files : Keyed String) (path : String) : Keyed Datum → Prop where
  | missing (missing : ∀ form text, ¬ Stored files path form text) : Filed files path []
  | toml {text : String} {entries : Keyed Datum} (stored : Stored files path .toml text)
      (read : Toml.read? (String.ofList (Toml.withoutMark text.toList)) = some entries) :
      Filed files path entries
  | json {text : String} {entries : Keyed Datum} (stored : Stored files path .json text)
      (read : Json.read? (String.ofList (Toml.withoutMark text.toList)) = some entries) :
      Filed files path entries

namespace Field

/-- The value that counts for a field: the one from the environment, otherwise the one from the
document. -/
def winner? (field : Field) (entries : Keyed Datum) (environment : Keyed String) : Option Datum :=
  ((field.override? environment).map fun text => .atom (Environment.read text)).or
    (field.given? entries)

/-- What a field holds, if it can: what the value that counts comes to, or the default. -/
def content? (field : Field) (entries : Keyed Datum) (environment : Keyed String) :
    Option field.Content :=
  match field.winner? entries environment with
  | none => some (field.get {})
  | some datum => field.read? datum

end Field

variable {files environment : Keyed String} {path : String} {entries : Keyed Datum}
  {settings : Settings}

/-- The form of a document is told by its ending. -/
theorem FileForm.find?_ending {form : FileForm} {name : String} :
    (FileForm.all.find? fun form => form.ending = name) = some form ↔ name = form.ending := by
  constructor
  · intro found
    have ends := List.find?_some found
    exact (of_decide_eq_true ends).symm
  · rintro rfl
    cases form <;> rfl

/-- The file of the very name is taken in the form that it ends as. -/
theorem findFile?_of_exact {text : String} (there : files.find? (plainPath path) = some text) :
    findFile? files path =
      (FileForm.all.find? fun form => form.ending = ending (plainPath path)).map fun form =>
        ⟨plainPath path, form, text⟩ := by
  simp only [findFile?, there]

/-- Where no file has the very name, the endings are tried in their order. -/
theorem findFile?_of_bare (bare : files.find? (plainPath path) = none) :
    findFile? files path =
      ((files.find? (plainPath path ++ ".toml")).map fun text =>
          ⟨plainPath path ++ ".toml", .toml, text⟩).or
        ((files.find? (plainPath path ++ ".json")).map fun text =>
          ⟨plainPath path ++ ".json", .json, text⟩) := by
  have toml : plainPath path ++ "." ++ FileForm.toml.ending = plainPath path ++ ".toml" :=
    String.append_assoc
  have json : plainPath path ++ "." ++ FileForm.json.ending = plainPath path ++ ".json" :=
    String.append_assoc
  simp only [findFile?, bare, FileForm.all, List.findSome?_cons, List.findSome?_nil, toml, json]
  cases files.find? (plainPath path ++ ".toml") with
  | some text => rfl
  | none => cases files.find? (plainPath path ++ ".json") <;> rfl

/-- The file that is found is the document that the path leads to. -/
theorem stored_iff {form : FileForm} {text : String} :
    Stored files path form text ↔ ∃ name, findFile? files path = some ⟨name, form, text⟩ := by
  constructor
  · rintro (⟨there, ends⟩ | ⟨bare, there⟩ | ⟨bare, other, there⟩)
    · refine ⟨plainPath path, ?_⟩
      rw [findFile?_of_exact there, FileForm.find?_ending.mpr ends]
      rfl
    · refine ⟨plainPath path ++ ".toml", ?_⟩
      rw [findFile?_of_bare bare, there]
      rfl
    · refine ⟨plainPath path ++ ".json", ?_⟩
      rw [findFile?_of_bare bare, other, there]
      rfl
  · rintro ⟨name, found⟩
    cases there : files.find? (plainPath path) with
    | some contents =>
        rw [findFile?_of_exact there] at found
        obtain ⟨form, ends, ⟨⟩⟩ := Option.map_eq_some_iff.mp found
        exact .exact there (FileForm.find?_ending.mp ends)
    | none =>
        rw [findFile?_of_bare there] at found
        cases toml : files.find? (plainPath path ++ ".toml") with
        | some contents =>
            rw [toml] at found
            cases found
            exact .toml there toml
        | none =>
            rw [toml] at found
            obtain ⟨contents, json, ⟨⟩⟩ := Option.map_eq_some_iff.mp found
            exact .json there toml json

/-- Loading starts from the entries of the document, whatever is said to be their origin. -/
theorem Filed.load_eq (filed : Filed files path entries) (environment : Keyed String) :
    ∃ origin, load files environment path =
      ofRoot (withSource (withSource bare origin entries) (some .environment)
        (Environment.entries environment)) := by
  have found {form : FileForm} {text : String} (stored : Stored files path form text)
      (read : form.read? (String.ofList (Toml.withoutMark text.toList)) = some entries) :
      ∃ origin, load files environment path =
        ofRoot (withSource (withSource bare origin entries) (some .environment)
          (Environment.entries environment)) := by
    obtain ⟨name, found⟩ := stored_iff.mp stored
    refine ⟨some (.file name), ?_⟩
    rw [load, found]
    simp only [FoundFile.read?, read]
    rfl
  cases filed with
  | missing missing =>
      have nothing : findFile? files path = none := by
        cases found : findFile? files path with
        | none => rfl
        | some file => exact (missing _ _ (stored_iff.mpr ⟨file.name, found⟩)).elim
      refine ⟨none, ?_⟩
      rw [load, nothing]
      rfl
  | toml stored read => exact found stored read
  | json stored read => exact found stored read

/-- What lies at the place of a field once both sources are in. -/
theorem lookup_sources (orderly : Orderly entries) (proper : Proper environment)
    (origin : Option Origin) :
    (∀ whole, IsTabular (sectionOf (withSource (withSource bare origin entries)
        (some .environment) (Environment.entries environment)) whole)) ∧
      ∀ field : Field, field.lookup (withSource (withSource bare origin entries)
          (some .environment) (Environment.entries environment)) =
        ((field.override? environment).map fun text =>
            .atom (some .environment) (Environment.read text)).or
          ((field.given? entries).map fun datum => (Value.ofDatum origin datum).placed) := by
  obtain ⟨tabular, looked⟩ := withSource_fields _ (withSource bare origin entries)
    (some .environment) (orderly.isTabular origin) proper.single proper.nodup_entries
  refine ⟨tabular, fun field => ?_⟩
  rw [looked, proper.find?_entries, orderly.lookup_bare, Option.map_map]
  rfl

/-- Loading gives every field what it holds. -/
theorem load_eq_ok_iff (filed : Filed files path entries) (orderly : Orderly entries)
    (proper : Proper environment) :
    load files environment path = .ok settings ↔
      ∀ field : Field, field.content? entries environment = some (field.get settings) := by
  obtain ⟨origin, loaded⟩ := filed.load_eq environment
  obtain ⟨tabular, looked⟩ := lookup_sources orderly proper origin
  rw [loaded, ofRoot_eq_ok_iff tabular]
  refine forall_congr' fun field => ?_
  rw [looked, Field.content?, Field.winner?]
  cases field.override? environment with
  | some text =>
      simp only [Option.map_some, Option.some_or, Field.Holds]
      rw [Field.convert?_atom]
  | none =>
      simp only [Option.map_none, Option.none_or]
      cases given : field.given? entries with
      | none =>
          simp only [Option.map_none, Field.Holds, Option.some.injEq]
          exact eq_comm
      | some datum =>
          simp only [Option.map_some, Field.Holds]
          rw [field.convert?_placed origin (orderly.distinct_given given)]

/-- A field can hold something exactly when the value that counts for it, if there is one, fits. -/
theorem Field.isSome_content?_iff {field : Field} :
    (field.content? entries environment).isSome ↔
      ∀ datum, field.winner? entries environment = some datum → (field.read? datum).isSome := by
  rw [Field.content?]
  cases field.winner? entries environment with
  | none => exact iff_of_true rfl nofun
  | some datum =>
      constructor
      · rintro fits _ ⟨⟩
        exact fits
      · exact fun fits => fits datum rfl

/-- Where each field can hold something, the settings load. -/
theorem exists_load_eq_ok_iff (filed : Filed files path entries) (orderly : Orderly entries)
    (proper : Proper environment) :
    (∃ settings, load files environment path = .ok settings) ↔
      ∀ field : Field, (field.content? entries environment).isSome := by
  simp only [load_eq_ok_iff filed orderly proper]
  constructor
  · rintro ⟨settings, held⟩ field
    rw [held field]
    rfl
  · intro fits
    refine ⟨ofContents fun field => (field.content? entries environment).get (fits field), ?_⟩
    intro field
    rw [get_ofContents, Option.some_get]

/-- **The winner for each field.** Settings load exactly when every value that counts fits its
field, and then each field is what that value comes to, or its default where no source gives one.
What a document gives to fields that the environment sets makes no difference. -/
theorem load_winners (filed : Filed files path entries) (orderly : Orderly entries)
    (proper : Proper environment) :
    ((∃ settings, load files environment path = .ok settings) ↔
      ∀ (field : Field) (datum : Datum), field.winner? entries environment = some datum →
        (field.read? datum).isSome) ∧
    (∀ settings, load files environment path = .ok settings → ∀ field : Field,
      (∀ datum, field.winner? entries environment = some datum →
        field.read? datum = some (field.get settings)) ∧
      (field.winner? entries environment = none → field.get settings = field.get {})) ∧
    ∀ (others : Keyed String) (there : String) (hidden : Keyed Datum),
      Filed others there hidden → Orderly hidden →
      (∀ field : Field, field.override? environment = none →
        field.given? hidden = field.given? entries) →
      (load others environment there).toOption = (load files environment path).toOption := by
  refine ⟨?_, ?_, ?_⟩
  · rw [exists_load_eq_ok_iff filed orderly proper]
    exact forall_congr' fun field => Field.isSome_content?_iff
  · intro settings loaded field
    have held := (load_eq_ok_iff filed orderly proper).mp loaded field
    rw [Field.content?] at held
    constructor
    · intro datum won
      rwa [won] at held
    · intro lost
      rw [lost] at held
      exact (Option.some.inj held).symm
  · intro others there hidden filed' orderly' same
    ext settings
    rw [toOption_eq_some_iff, toOption_eq_some_iff, load_eq_ok_iff filed' orderly' proper,
      load_eq_ok_iff filed orderly proper]
    refine forall_congr' fun field => ?_
    rw [Field.content?, Field.content?, Field.winner?, Field.winner?]
    cases set : field.override? environment with
    | none => rw [same field set]
    | some text => rfl

/-- The places of fields are named by plain words. -/
theorem Field.bare (field : Field) :
    Toml.IsBareName field.whole.name ∧ Toml.IsBareName field.name := by
  unfold Toml.IsBareName
  cases field <;> decide +kernel

/-- A file in TOML of the very name is filed with the entries it is read with. -/
theorem filed_of_toml {text : String} (there : files.find? (plainPath path) = some text)
    (ends : ending (plainPath path) = "toml") (read : Toml.read? text = some entries) :
    Filed files path entries :=
  .toml (.exact there ends) (Toml.read?_withoutMark read)

/-- A file in TOML that is there alone is filed with the entries it is read with. -/
theorem filed_single {text : String} (read : Toml.read? text = some entries) :
    Filed [("tollgate.toml", text)] "tollgate.toml" entries := by
  have plain : plainPath "tollgate.toml" = "tollgate.toml" ∧ ending "tollgate.toml" = "toml" := by
    decide +kernel
  apply filed_of_toml _ _ read
  · rw [plain.1]
    exact if_pos rfl
  · rw [plain.1, plain.2]

/-- Nothing is filed where there are no files. -/
theorem filed_nil (path : String) : Filed [] path [] := by
  apply Filed.missing
  rintro form text (⟨there, -⟩ | ⟨-, there⟩ | ⟨-, -, there⟩) <;> cases there

/-- A document that gives a text to one key is read so. -/
theorem filed_assignment {table name : String} (outer : Toml.IsBareName table)
    (inner : Toml.IsBareName name) (text : String) :
    Filed [("tollgate.toml", Toml.assignment table name text)] "tollgate.toml"
      [(table, .table [(name, .atom (.text text))])] :=
  filed_single (Toml.read?_assignment outer inner text)

/-- A document that gives a text to one field is orderly. -/
theorem orderly_assignment (field : Field) (text : String) :
    Orderly [(field.whole.name, .table [(field.name, .atom (.text text))])] := by
  apply orderly_of_flat
  · have plain : KeyPath.isPlainKey field.whole.name = true := by
      cases field <;> decide +kernel
    exact List.forall_mem_singleton.mpr plain
  · exact List.nodup_cons.mpr ⟨nofun, List.nodup_nil⟩
  · refine List.forall_mem_singleton.mpr ⟨_, rfl, ?_, ?_⟩
    · exact List.nodup_cons.mpr ⟨nofun, List.nodup_nil⟩
    · exact List.forall_mem_singleton.mpr nofun

/-- A document that gives the server its URL and its port. -/
def addressed : String :=
  "[server]\nurl = \"http://localhost\"\nport = \"8443\"\n"

/-- The document with a second table, which gives the metrics what is no boolean. -/
def layered : String :=
  addressed ++ "\n[metrics]\nenabled = \"maybe\"\n"

/-- The server's table in both documents. -/
def addressedTable : String × Datum :=
  ("server", .table [("url", .atom (.text "http://localhost")), ("port", .atom (.text "8443"))])

/-- The second table. -/
def layeredTable : String × Datum :=
  ("metrics", .table [("enabled", .atom (.text "maybe"))])

/-- Read from their texts, the documents have these tables. -/
theorem read?_layered :
    Toml.read? addressed = some [addressedTable] ∧
      Toml.read? layered = some [addressedTable, layeredTable] := by
  constructor <;> cbv

/-- Both documents are orderly. -/
theorem orderly_layered : Orderly [addressedTable] ∧ Orderly [addressedTable, layeredTable] := by
  have plain : ∀ key ∈ [addressedTable, layeredTable].map Prod.fst, KeyPath.isPlainKey key := by
    decide +kernel
  have distinct : Distinct [addressedTable, layeredTable] := by
    unfold Distinct
    decide +kernel
  have first : ∃ inner, addressedTable.2 = .table inner ∧ Distinct inner ∧
      ∀ entry ∈ inner, ∀ fields, entry.2 ≠ .table fields := by
    refine ⟨_, rfl, ?_, List.forall_mem_cons.mpr ⟨nofun, List.forall_mem_singleton.mpr nofun⟩⟩
    unfold Distinct
    decide +kernel
  have second : ∃ inner, layeredTable.2 = .table inner ∧ Distinct inner ∧
      ∀ entry ∈ inner, ∀ fields, entry.2 ≠ .table fields := by
    refine ⟨_, rfl, ?_, List.forall_mem_singleton.mpr nofun⟩
    exact List.nodup_cons.mpr ⟨nofun, List.nodup_nil⟩
  constructor
  · apply orderly_of_flat
    · exact List.forall_mem_singleton.mpr (plain _ List.mem_cons_self)
    · exact List.nodup_cons.mpr ⟨nofun, List.nodup_nil⟩
    · exact List.forall_mem_singleton.mpr first
  · apply orderly_of_flat plain distinct
    exact List.forall_mem_cons.mpr ⟨first, List.forall_mem_singleton.mpr second⟩

/-- What the longer document gives each field. The shorter one gives the same, but for whether there
are metrics. -/
theorem given?_layered (field : Field) :
    field.given? [addressedTable, layeredTable] =
      (match field with
      | .url => some (.atom (.text "http://localhost"))
      | .port => some (.atom (.text "8443"))
      | .enabled => some (.atom (.text "maybe"))
      | _ => none) ∧
    (field ≠ .enabled →
      field.given? [addressedTable] = field.given? [addressedTable, layeredTable]) := by
  cases field with
  | enabled => exact ⟨rfl, fun other => absurd rfl other⟩
  | _ => exact ⟨rfl, fun _ => rfl⟩

/-- What counts for each field, when the environment says whether there are metrics. -/
theorem winner?_layered (field : Field) :
    field.winner? [addressedTable, layeredTable] [(Field.enabled.environmentName, "False")] =
      match field with
      | .url => some (.atom (.text "http://localhost"))
      | .port => some (.atom (.text "8443"))
      | .enabled => some (.atom (.boolean false))
      | _ => none := by
  have low : Text.lower "False" = "false" := by
    decide +kernel
  rw [Field.winner?, override?_singleton, (given?_layered field).1]
  by_cases same : Field.enabled = field
  · subst same
    simp only [if_pos, Option.map_some, Environment.read, low]
    rfl
  · rw [if_neg same]
    cases field with
    | enabled => exact absurd rfl same
    | _ => rfl

/-- Two values of a file become settings, a third, which would fit nothing, is hidden by the
environment, and what neither source gives is as it is by default. Without the hidden value the
same settings load. -/
theorem load_winners_layered :
    ∃ settings,
      load [("tollgate.toml", layered)] [("TOLLGATE__METRICS__ENABLED", "False")]
          "tollgate.toml" = .ok settings ∧
      settings.server.url = "http://localhost" ∧ settings.server.port = 8443 ∧
      settings.metrics.enabled = false ∧ settings.metrics.port = 9090 ∧
      load [("tollgate.toml", addressed)] [("TOLLGATE__METRICS__ENABLED", "False")]
          "tollgate.toml" = .ok settings := by
  have name : Field.enabled.environmentName = "TOLLGATE__METRICS__ENABLED" := by
    decide +kernel
  obtain ⟨succeeds, holds, hides⟩ := load_winners (filed_single read?_layered.2)
    orderly_layered.2 (proper_singleton .enabled "False")
  rw [← name]
  obtain ⟨settings, loaded⟩ := succeeds.mpr (by
    intro field datum won
    rw [winner?_layered] at won
    cases field <;> cases won
    all_goals decide +kernel)
  have held := holds settings loaded
  refine ⟨settings, loaded, ?_, ?_, ?_, ?_, ?_⟩
  · exact (Option.some.inj ((held .url).1 _ (winner?_layered .url))).symm
  · have port : Field.port.read? (.atom (.text "8443")) = some (8443 : UInt16) := by
      decide +kernel
    exact (Option.some.inj (port.symm.trans ((held .port).1 _ (winner?_layered .port)))).symm
  · exact (Option.some.inj ((held .enabled).1 _ (winner?_layered .enabled))).symm
  · exact (held .metricsPort).2 (winner?_layered .metricsPort)
  · have same := hides _ _ _ (filed_single read?_layered.1) orderly_layered.1 (by
      intro field unset
      apply (given?_layered field).2
      rintro rfl
      rw [override?_singleton, if_pos rfl] at unset
      cases unset)
    rw [loaded] at same
    exact toOption_eq_some_iff.mp same

end Admission.Settings
