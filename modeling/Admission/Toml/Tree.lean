import Admission.Datum

/-! # The tree of a TOML document

Headers and pairs grow a tree of tables. What may still be added to a table hangs
on how it came into being: a table that was declared by its own header or by
braces is closed to dotted keys from outside, a table that dotted keys made is
closed to headers, and a table that exists only because something lies inside it
may still be declared.

Every header and every pair is one change at the end of a path, and `descend`
walks the path.
-/

namespace Admission.Toml

/-- How a table came into being. -/
inductive Standing where
  /-- By its own header, by an element of an array, or by braces. -/
  | declared
  /-- By the header of something inside it. -/
  | implied
  /-- By dotted keys. -/
  | dotted
  deriving DecidableEq, Repr

/-- What a key of a table stands for. -/
inductive Node where
  | value (datum : Datum)
  | table (standing : Standing) (entries : List (String × Node))
  /-- An array whose elements were declared by headers. -/
  | tables (elements : List (List (String × Node)))

namespace Node

mutual

/-- The value of a node. -/
def datum : Node → Datum
  | .value datum => datum
  | .table _ entries => .table (data entries)
  | .tables elements => .list (listed elements)

def data : List (String × Node) → List (String × Datum)
  | [] => []
  | (key, node) :: rest => (key, datum node) :: data rest

def listed : List (List (String × Node)) → List Datum
  | [] => []
  | entries :: rest => .table (data entries) :: listed rest

end

end Node

/-- The entries of a table. -/
abbrev Entries := Keyed Node

/-- A change of a table that may be refused. -/
abbrev Change := Standing → Entries → Option Entries

namespace Change

/-- Makes a change at the end of a path. Tables that are missing on the way are
made; of an array of tables the last one is meant; a table that was declared lets
no dotted key through. -/
def descend (isDotted : Bool) (change : Change) : (path : List String) → Change
  | [], standing, entries => change standing entries
  | key :: path, _, entries =>
    match entries.find? key with
    | none =>
      let standing := if isDotted then .dotted else .implied
      (descend isDotted change path standing []).map fun inner =>
        entries.set key (.table standing inner)
    | some (.value _) => none
    | some (.table standing inner) =>
      if isDotted ∧ standing = .declared then none
      else
        (descend isDotted change path standing inner).map fun inner =>
          entries.set key (.table standing inner)
    | some (.tables elements) =>
      elements.getLast?.bind fun last =>
        (descend isDotted change path .declared last).map fun last =>
          entries.set key (.tables (elements.dropLast ++ [last]))

/-- Declares the table of a key. It must be new, or implied by what lies in it. -/
def declare (key : String) : Change := fun _ entries =>
  match entries.find? key with
  | none => some (entries.set key (.table .declared []))
  | some (.table .implied inner) => some (entries.set key (.table .declared inner))
  | some _ => none

/-- Adds an empty table to the array of a key. -/
def addElement (key : String) : Change := fun _ entries =>
  match entries.find? key with
  | none => some (entries.set key (.tables [[]]))
  | some (.tables elements) => some (entries.set key (.tables (elements ++ [[]])))
  | some _ => none

/-- Gives a new key a value. A key after dots goes only into a table that dotted
keys made, a key without dots never into one. -/
def put (isDotted : Bool) (key : String) (datum : Datum) : Change := fun standing entries =>
  if (standing == .dotted) = isDotted ∧ (entries.find? key).isNone then
    some (entries.set key (.value datum))
  else none

/-- A change at the end of a path of keys, the last of which the change is about. -/
def along (isDotted : Bool) (change : String → Change) (path : List String) : Change :=
  match path.getLast? with
  | none => fun _ _ => none
  | some key => descend isDotted (change key) path.dropLast

/-- Puts a value at the end of a dotted path. -/
def pair (path : List String) (datum : Datum) : Change :=
  along true (fun key => put (1 < path.length) key datum) path

end Change

/-- The table that pairs in braces make. -/
def tableOfPairs? (pairs : List (List String × Datum)) : Option Datum :=
  (pairs.foldlM (fun entries (path, datum) => Change.pair path datum .declared entries)
      ([] : Entries)).map
    fun entries => .table (Node.data entries)

end Admission.Toml
