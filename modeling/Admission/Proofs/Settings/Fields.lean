import Admission.Settings

/-! # Fields of the settings

Thirteen fields make up the settings (`Admission.Settings.Field`), each with a place in a section, a
type of its own and a default. Settings come of a root in which the sections are tables exactly when
every field is what the value at its place converts to, or its default where there is no value
(`Admission.Settings.ofRoot_eq_ok_iff`).
-/

namespace Admission.Settings

/-- The fields of the settings. -/
inductive Field where
  | url
  | port
  | workers
  | queueSize
  | tokenRate
  | tokenLimit
  | readTimeout
  | writeTimeout
  | enabled
  | metricsPort
  | endpoint
  | format
  | filter
  deriving DecidableEq, Repr

namespace Field

/-- The section that a field belongs to. -/
def whole : Field → Section
  | url | port | workers | queueSize => .server
  | tokenRate | tokenLimit | readTimeout | writeTimeout => .server
  | enabled | metricsPort | endpoint => .metrics
  | format | filter => .log

/-- The name of a field in its section. -/
def name : Field → String
  | url => "url"
  | port => "port"
  | workers => "workers"
  | queueSize => "queue_size"
  | tokenRate => "token_rate"
  | tokenLimit => "token_limit"
  | readTimeout => "read_timeout_ms"
  | writeTimeout => "write_timeout_ms"
  | enabled => "enabled"
  | metricsPort => "port"
  | endpoint => "endpoint"
  | format => "format"
  | filter => "filter"

/-- What a field holds. -/
abbrev Content : Field → Type
  | url | endpoint | filter => String
  | port | metricsPort => UInt16
  | workers | queueSize | readTimeout | writeTimeout => UInt64
  | tokenRate | tokenLimit => UInt32
  | enabled => Bool
  | format => LogFormat

def get : (field : Field) → Settings → field.Content
  | url, settings => settings.server.url
  | port, settings => settings.server.port
  | workers, settings => settings.server.workers
  | queueSize, settings => settings.server.queueSize
  | tokenRate, settings => settings.server.tokenRate
  | tokenLimit, settings => settings.server.tokenLimit
  | readTimeout, settings => settings.server.readTimeout
  | writeTimeout, settings => settings.server.writeTimeout
  | enabled, settings => settings.metrics.enabled
  | metricsPort, settings => settings.metrics.port
  | endpoint, settings => settings.metrics.endpoint
  | format, settings => settings.log.format
  | filter, settings => settings.log.filter

/-- What a value comes to in a field, if it fits. -/
def convert? : (field : Field) → Value → Option field.Content
  | url, value | endpoint, value | filter, value => value.toText.toOption
  | port, value | metricsPort, value => value.toWord16.toOption
  | workers, value | queueSize, value | readTimeout, value | writeTimeout, value =>
    value.toWord64.toOption
  | tokenRate, value | tokenLimit, value => value.toWord32.toOption
  | enabled, value => value.toBool.toOption
  | format, value => (formatOf value).toOption

/-- All fields, in the order of the sections. -/
def all : List Field :=
  [url, port, workers, queueSize, tokenRate, tokenLimit, readTimeout, writeTimeout, enabled,
    metricsPort, endpoint, format, filter]

theorem mem_all (field : Field) : field ∈ all := by
  cases field <;> decide

/-- Every field is one of the names that its section knows. -/
theorem name_mem (field : Field) : field.name ∈ field.whole.fieldNames := by
  cases field <;> decide

/-- What a field is, given the value at its place: what it comes to, or the default. -/
def Holds (field : Field) (value : Option Value) (content : field.Content) : Prop :=
  match value with
  | none => content = field.get {}
  | some given => field.convert? given = some content

end Field

/-- Settings with the given contents of the fields. -/
def ofContents (content : ∀ field : Field, field.Content) : Settings :=
  { server :=
      { url := content .url, port := content .port, workers := content .workers,
        queueSize := content .queueSize, tokenRate := content .tokenRate,
        tokenLimit := content .tokenLimit, readTimeout := content .readTimeout,
        writeTimeout := content .writeTimeout }
    metrics :=
      { enabled := content .enabled, port := content .metricsPort, endpoint := content .endpoint }
    log := { format := content .format, filter := content .filter } }

@[simp] theorem get_ofContents (content : ∀ field : Field, field.Content) (field : Field) :
    field.get (ofContents content) = content field := by
  cases field <;> rfl

section

variable {ε α β : Type}

/-- Two steps give a result exactly when the first one gives a value and the second one the result
of it. -/
theorem bind_eq_ok_iff {first : Except ε α} {next : α → Except ε β} {result : β} :
    (first >>= next) = .ok result ↔ ∃ value, first = .ok value ∧ next value = .ok result := by
  cases first with
  | error fault => exact iff_of_false nofun nofun
  | ok value =>
      constructor
      · exact fun done => ⟨value, rfl, done⟩
      · rintro ⟨_, ⟨⟩, done⟩
        exact done

/-- What is there with the message forgotten is there with it. -/
theorem toOption_eq_some_iff {first : Except ε α} {value : α} :
    first.toOption = some value ↔ first = .ok value := by
  cases first with
  | error fault => exact iff_of_false nofun nofun
  | ok other => exact Option.some_inj.trans ⟨congrArg _, Except.ok.inj⟩

end

/-- The values of a section that is a table, by the names of its fields. -/
theorem find?_fieldsOfTable (whole : Section) (entries : Keyed Value) {name : String}
    (known : name ∈ whole.fieldNames) :
    (fieldsOfTable whole entries).find? name =
      (entries.find? name).map fun value => (whole.name ++ "." ++ name, value) := by
  have among (names : List String) :
      Keyed.find? (names.filterMap fun name =>
          (entries.find? name).map fun value => (name, whole.name ++ "." ++ name, value)) name =
        if name ∈ names then
          (entries.find? name).map fun value => (whole.name ++ "." ++ name, value)
        else none := by
    induction names with
    | nil => rfl
    | cons other names ih =>
        by_cases same : other = name
        · subst same
          rw [if_pos List.mem_cons_self]
          cases found : entries.find? other with
          | none => simp [found, ih]
          | some value => simp [found, Keyed.find?]
        · have fewer : name ∈ other :: names ↔ name ∈ names := by simp [Ne.symm same]
          simp only [fewer]
          rw [← ih]
          cases found : entries.find? other with
          | none => simp [found]
          | some value => simp [found, Keyed.find?, same]
  rw [fieldsOfTable, among, if_pos known]

/-- Whether a section is a table, where there is one. -/
def IsTabular (part? : Option Value) : Prop :=
  ∀ value ∈ part?, ∃ origin entries, value = .table origin entries

/-- The section of that name below a root. -/
def sectionOf (root : Value) (whole : Section) : Option Value :=
  root.asTable.2.find? whole.name

/-- The value of a field in its section. -/
def Field.within (field : Field) (part? : Option Value) : Option Value :=
  part?.bind fun inner => inner.asTable.2.find? field.name

/-- The value at the place of a field, below a root. -/
def Field.lookup (field : Field) (root : Value) : Option Value :=
  field.within (sectionOf root field.whole)

/-- The values that a section holds for its fields, with the keys for messages. -/
theorem exists_fields (whole : Section) {part? : Option Value} (tabular : IsTabular part?) :
    ∃ given, fields whole part? = .ok given ∧ ∀ field : Field, field.whole = whole →
      field.within part? = (given.find? field.name).map Prod.snd := by
  cases part? with
  | none => exact ⟨[], rfl, fun _ _ => rfl⟩
  | some value =>
      obtain ⟨origin, entries, rfl⟩ := tabular value rfl
      refine ⟨fieldsOfTable whole entries, rfl, fun field belongs => ?_⟩
      rw [find?_fieldsOfTable whole entries (belongs ▸ field.name_mem), Option.map_map]
      exact Option.map_id_apply.symm

/-- A field is read from the value given for it. -/
theorem field_eq_ok_iff {α : Type} {given : Fields} {name : String}
    {convert : Value → Except Mismatch α} {default content : α} :
    Settings.field given name convert default = .ok content ↔
      match (given.find? name).map Prod.snd with
      | none => content = default
      | some value => (convert value).toOption = some content := by
  rw [Settings.field]
  cases given.find? name with
  | none =>
      simp only [Except.ok.injEq, Option.map_none]
      exact eq_comm
  | some entry =>
      obtain ⟨key, value⟩ := entry
      simp only [Option.map_some, toOption_eq_some_iff]
      cases convert value with
      | error mismatch => exact iff_of_false nofun nofun
      | ok other =>
          constructor
          · rintro ⟨⟩
            rfl
          · rintro ⟨⟩
            rfl

variable {part? : Option Value} {settings : Settings}

/-- The server's section is read field by field. -/
theorem serverOf_eq_ok_iff (tabular : IsTabular part?) :
    serverOf part? = .ok settings.server ↔
      ∀ field : Field, field.whole = .server →
        field.Holds (field.within part?) (field.get settings) := by
  obtain ⟨given, read, value⟩ := exists_fields .server tabular
  rw [serverOf, read]
  simp only [bind_eq_ok_iff, field_eq_ok_iff]
  constructor
  · rintro ⟨_, ⟨⟩, _, url, _, port, _, workers, _, queueSize, _, tokenRate, _, tokenLimit,
      _, readTimeout, _, writeTimeout, same⟩ field belongs
    obtain ⟨server, metrics, log⟩ := settings
    obtain rfl := Except.ok.inj same
    rw [value field belongs]
    cases field with
    | url => exact url
    | port => exact port
    | workers => exact workers
    | queueSize => exact queueSize
    | tokenRate => exact tokenRate
    | tokenLimit => exact tokenLimit
    | readTimeout => exact readTimeout
    | writeTimeout => exact writeTimeout
    | _ => cases belongs
  · intro holds
    have held (field : Field) (belongs : field.whole = .server) :=
      value field belongs ▸ holds field belongs
    exact ⟨given, rfl, _, held .url rfl, _, held .port rfl, _, held .workers rfl, _,
      held .queueSize rfl, _, held .tokenRate rfl, _, held .tokenLimit rfl, _,
      held .readTimeout rfl, _, held .writeTimeout rfl, rfl⟩

theorem metricsOf_eq_ok_iff (tabular : IsTabular part?) :
    metricsOf part? = .ok settings.metrics ↔
      ∀ field : Field, field.whole = .metrics →
        field.Holds (field.within part?) (field.get settings) := by
  obtain ⟨given, read, value⟩ := exists_fields .metrics tabular
  rw [metricsOf, read]
  simp only [bind_eq_ok_iff, field_eq_ok_iff]
  constructor
  · rintro ⟨_, ⟨⟩, _, enabled, _, port, _, endpoint, same⟩ field belongs
    obtain ⟨server, metrics, log⟩ := settings
    obtain rfl := Except.ok.inj same
    rw [value field belongs]
    cases field with
    | enabled => exact enabled
    | metricsPort => exact port
    | endpoint => exact endpoint
    | _ => cases belongs
  · intro holds
    have held (field : Field) (belongs : field.whole = .metrics) :=
      value field belongs ▸ holds field belongs
    exact ⟨given, rfl, _, held .enabled rfl, _, held .metricsPort rfl, _, held .endpoint rfl,
      rfl⟩

/-- The format of the log among the values for the fields. -/
def formatIn (given : Fields) : Except Mistake LogFormat :=
  match given.find? "format" with
  | none => .ok .pretty
  | some (_, value) => formatOf value

/-- The format among given values is what its value comes to, or the default. -/
theorem formatIn_eq_ok_iff {given : Fields} {content : LogFormat} :
    formatIn given = .ok content ↔
      Field.format.Holds ((given.find? "format").map Prod.snd) content := by
  rw [formatIn]
  cases given.find? "format" with
  | none =>
      rw [Except.ok.injEq]
      exact eq_comm
  | some entry => exact toOption_eq_some_iff.symm

/-- The section of the log is read as its format and then its filter. -/
theorem logOf_eq_bind {given : Fields} (read : fields .log part? = .ok given) :
    logOf part? = formatIn given >>= fun format =>
      Settings.field given "filter" Value.toText "tollgate=info" >>= fun filter =>
      .ok { format, filter } := by
  have next (rest : Fields → Except Mistake LogSettings) :
      (.ok given >>= rest) = rest given := rfl
  -- The format is read by a match, which takes in what follows it.
  rw [logOf, read, next, formatIn]
  cases given.find? "format" <;> rfl

theorem logOf_eq_ok_iff (tabular : IsTabular part?) :
    logOf part? = .ok settings.log ↔
      ∀ field : Field, field.whole = .log →
        field.Holds (field.within part?) (field.get settings) := by
  obtain ⟨given, read, value⟩ := exists_fields .log tabular
  rw [logOf_eq_bind read]
  simp only [bind_eq_ok_iff, field_eq_ok_iff, formatIn_eq_ok_iff]
  constructor
  · rintro ⟨_, format, _, filter, same⟩ field belongs
    obtain ⟨server, metrics, log⟩ := settings
    obtain rfl := Except.ok.inj same
    rw [value field belongs]
    cases field with
    | format => exact format
    | filter => exact filter
    | _ => cases belongs
  · intro holds
    have held (field : Field) (belongs : field.whole = .log) :=
      value field belongs ▸ holds field belongs
    exact ⟨_, held .format rfl, _, held .filter rfl, rfl⟩

/-- **Settings are read field by field.** Where the sections are tables, the settings of a root
are those whose fields are what the values at their places come to, or their defaults. -/
theorem ofRoot_eq_ok_iff {root : Value} (tabular : ∀ whole, IsTabular (sectionOf root whole)) :
    ofRoot root = .ok settings ↔
      ∀ field : Field, field.Holds (field.lookup root) (field.get settings) := by
  have parts : ofRoot root = .ok settings ↔
      serverOf (sectionOf root .server) = .ok settings.server ∧
        metricsOf (sectionOf root .metrics) = .ok settings.metrics ∧
        logOf (sectionOf root .log) = .ok settings.log := by
    rw [ofRoot]
    simp only [bind_eq_ok_iff]
    constructor
    · rintro ⟨server, first, metrics, second, log, third, ⟨⟩⟩
      exact ⟨first, second, third⟩
    · rintro ⟨first, second, third⟩
      exact ⟨_, first, _, second, _, third, rfl⟩
  rw [parts, serverOf_eq_ok_iff (tabular .server), metricsOf_eq_ok_iff (tabular .metrics),
    logOf_eq_ok_iff (tabular .log)]
  constructor
  · rintro ⟨server, metrics, log⟩ field
    rw [Field.lookup]
    cases belongs : field.whole with
    | server => exact server field belongs
    | metrics => exact metrics field belongs
    | log => exact log field belongs
  · intro holds
    have held (whole : Section) (field : Field) (belongs : field.whole = whole) :
        field.Holds (field.within (sectionOf root whole)) (field.get settings) :=
      belongs ▸ holds field
    exact ⟨held .server, held .metrics, held .log⟩

end Admission.Settings
