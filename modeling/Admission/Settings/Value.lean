import Admission.Datum
import Admission.Reader
import Admission.Text.Characters

/-! # Values of settings

The sections that settings are sorted into, values with their origins, and the paths under which
values are put.
-/

namespace Admission.Settings

/-! ## Sections of the settings

Three sections of named fields. The names are those of settings files, in the order in
which a list fills the fields.
-/

/-- The sections of the settings. -/
inductive Section where
  | server
  | metrics
  | log
  deriving DecidableEq, Repr

namespace Section

def all : List Section := [server, metrics, log]

/-- The name under which a section stands. -/
def name : Section → String
  | server => "server"
  | metrics => "metrics"
  | log => "log"

/-- What messages call a section. -/
def title : Section → String
  | server => "ServerSettings"
  | metrics => "MetricsSettings"
  | log => "LogSettings"

def fieldNames : Section → List String
  | server =>
    ["url", "port", "workers", "queue_size", "token_rate", "token_limit", "read_timeout_ms",
      "write_timeout_ms"]
  | metrics => ["enabled", "port", "endpoint"]
  | log => ["format", "filter"]

end Section

/-! ## Values with their origins

Where a value came from is kept beside it, so that a message about it can tell.
Tables and lists that only exist because something was put into them come from
nowhere.
-/

/-- Where a value came from. -/
inductive Origin where
  | file (name : String)
  | environment
  deriving DecidableEq, Repr

namespace Origin

/-- The words for an origin. -/
def text : Origin → String
  | file name => name
  | environment => "the environment"

end Origin

/-- A value, and where it came from. -/
inductive Value where
  | atom (origin : Option Origin) (value : Atom)
  | list (origin : Option Origin) (items : List Value)
  | table (origin : Option Origin) (entries : List (String × Value))
  deriving Repr

namespace Value

mutual

/-- Data of one origin. -/
def ofDatum (origin : Option Origin) : Datum → Value
  | .atom value => .atom origin value
  | .list items => .list origin (ofItems origin items)
  | .table entries => .table origin (ofEntries origin entries)

def ofItems (origin : Option Origin) : List Datum → List Value
  | [] => []
  | item :: rest => ofDatum origin item :: ofItems origin rest

def ofEntries (origin : Option Origin) : List (String × Datum) → List (String × Value)
  | [] => []
  | (name, datum) :: rest => (name, ofDatum origin datum) :: ofEntries origin rest

end

/-- What stands in a list where nothing was put. -/
def nothing : Value := .atom none .nothing

def origin : Value → Option Origin
  | .atom origin _ => origin
  | .list origin _ => origin
  | .table origin _ => origin

/-- A value as a table: its origin and its entries. What is no table becomes an
empty one from nowhere. -/
def asTable : Value → Option Origin × Keyed Value
  | .table origin entries => (origin, entries)
  | _ => (none, [])

/-- A value as a list: its origin and its items. What is no list becomes an empty
one from nowhere. -/
def asList : Value → Option Origin × List Value
  | .list origin items => (origin, items)
  | _ => (none, [])

mutual

/-- Puts a value under a name, which becomes lower case, into a target that becomes
a table. A table goes in entry by entry and leaves other entries alone; anything else
takes the place of what was there. -/
def put (target : Value) (name : String) : Value → Value
  | .table _ incoming =>
    let (origin, entries) := target.asTable
    let key := Text.lower name
    let inner := (entries.find? key).getD (.table none [])
    .table origin (entries.set key (putAll inner incoming))
  | value =>
    let (origin, entries) := target.asTable
    .table origin (entries.set (Text.lower name) value)

/-- Puts values under their names, one after the other. -/
def putAll (target : Value) : List (String × Value) → Value
  | [] => target
  | (name, value) :: rest => putAll (put target name value) rest

end

/-- Changes the entry of a name, as it is written, in a target that becomes a
table. -/
def changeEntry (name : String) (change : Value → Value) (target : Value) : Value :=
  let (origin, entries) := target.asTable
  .table origin (entries.set name (change ((entries.find? name).getD nothing)))

/-- Changes an item in a target that becomes a list, which is filled up to the item.
A negative index counts from the end; before the first item there is nothing to
change. -/
def changeItem (index : Int) (change : Value → Value) (target : Value) : Value :=
  let (origin, items) := target.asList
  let place := if 0 ≤ index then index else items.length + index
  if place < 0 then .list origin items
  else
    let place := place.toNat
    let filled := items ++ List.replicate (place + 1 - items.length) nothing
    .list origin (filled.set place (change (filled.getD place nothing)))

end Value

/-! ## Key paths

The key of a setting may lead into tables and lists: names are joined by dots, and
an index in brackets picks an item. A key that is not of this form is one name.

What a path leads through is made on the way, and replaced where it is neither the
table nor the list that the path needs.
-/

open Reader

/-- Where a setting lies. -/
inductive KeyPath where
  | name (name : String)
  | entry (parent : KeyPath) (name : String)
  | item (parent : KeyPath) (index : Int)
  deriving DecidableEq, Repr

namespace KeyPath

/-- The characters of a name in a path. -/
def isNamed (c : Char) : Bool :=
  c.isAlphanum || c = ' ' || c = '_' || c = '-'

def readName : Reader String := do
  return String.ofList (← span1 isNamed)

/-- An index with blanks around it. -/
def readIndex : Reader Int := do
  let isGap (c : Char) : Bool := c = ' ' || c = '\t'
  let _ ← span isGap
  let negative ← word "-" true <|> pure false
  let value : Int := numberOf 10 (← span1 (isDigitOf 10))
  let value := if negative then -value else value
  let _ ← span isGap
  if -((Nat.pow 2 63 : Nat) : Int) ≤ value ∧ value < (Nat.pow 2 63 : Nat) then pure value else fail

/-- One step further down: what the path becomes. -/
def readStep : Reader (KeyPath → KeyPath) :=
  (do
    char '.'
    let name ← readName
    pure (entry · name)) <|> do
    char '['
    let index ← readIndex
    char ']'
    pure (item · index)

/-- A path in the written form. -/
def read : Reader KeyPath := do
  let first ← readName
  let steps ← many readStep
  pure (steps.foldl (fun path step => step path) (name first))

def ofKey (key : String) : KeyPath :=
  (whole read key.toList).getD (name key)

/-- Changes what lies at a path. -/
def change : KeyPath → (Value → Value) → Value → Value
  | name key, edit, root => root.changeEntry key edit
  | entry parent key, edit, root => parent.change (Value.changeEntry key edit) root
  | item parent index, edit, root => parent.change (Value.changeItem index edit) root

/-- Puts a value at the end of a path. -/
def put (path : KeyPath) (value : Value) (root : Value) : Value :=
  match path with
  | name key => root.put key value
  | entry parent key => parent.change (fun target => target.put key value) root
  | item parent index => parent.change (Value.changeItem index fun _ => value) root

end KeyPath

end Admission.Settings
