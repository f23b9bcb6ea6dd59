import Admission.Datum
import Admission.Decimal
import Admission.Json
import Admission.Settings.Value
import Admission.Text.Characters
import Admission.Toml.Document

/-! # Sources of settings

The environment and files, and the values that they give.
-/

namespace Admission.Settings.Environment

/-! ## Settings in the environment

Variables whose names begin with the mark of the program are settings. Two
underscores separate the parts of a name, and the case of letters does not count. A
value is a boolean, an integer or a real number where it can be read as one, and a
text otherwise.
-/

/-- What the names of settings begin with, in lower case. -/
def mark : List Char := "tollgate__".toList

/-- A name with a dot in place of every two underscores. -/
def dotted : List Char → List Char
  | '_' :: '_' :: rest => '.' :: dotted rest
  | c :: rest => c :: dotted rest
  | [] => []

/-- The key of a variable, when it is a setting. -/
def key? (name : String) : Option String :=
  let lowered := (Text.lower name).toList
  if mark.isPrefixOf lowered then some (String.ofList (dotted (lowered.drop mark.length)))
  else none

/-- The variable, in capitals, that sets a field. -/
def nameOf (whole : Section) (field : String) : String :=
  (String.ofList mark ++ whole.name ++ "__" ++ field).map Char.toUpper

/-- The variables that set the fields of all sections. -/
def names : List String :=
  Section.all.flatMap fun whole => whole.fieldNames.map (nameOf whole)

def read (text : String) : Atom :=
  match Text.lower text with
  | "true" => .boolean true
  | "false" => .boolean false
  | _ =>
    match Decimal.integer? (Nat.pow 2 63) text.toList with
    | some i => .integer i
    | none =>
      match Decimal.read? text.toList with
      | some x => .real x
      | none => .text text

/-- The settings among the variables. Of two variables for one key the later one
counts. -/
def entries (environment : Keyed String) : Keyed Datum :=
  environment.foldl (fun found (name, text) =>
    match key? name with
    | some key => found.set key (.atom (read text))
    | none => found) []

end Admission.Settings.Environment

namespace Admission.Settings

/-! ## Settings files

The form of a file is told by what follows the last dot of its name. A file of an
unknown form is passed over, and so is one that is not there. Where no file has
exactly the given name, one with a known ending after it is taken.

Two forms are read here. The readers of YAML, INI, RON and JSON5 are left out, so
nothing is said about files whose names end in `yaml`, `yml`, `ini`, `ron` or `json5`:
they are passed over like files of unknown forms.
-/

/-- The forms of settings files that are read. -/
inductive FileForm where
  | toml
  | json
  deriving DecidableEq, Repr

namespace FileForm

def all : List FileForm := [toml, json]

/-- What the names of files of a form end in, after the dot. -/
def ending : FileForm → String
  | toml => "toml"
  | json => "json"

def read? : FileForm → String → Option (Keyed Datum)
  | toml => Toml.read?
  | json => Json.read?

end FileForm

/-- The parts of a path, without those that lead nowhere. -/
def pathParts (path : String) : List String :=
  (path.toList.splitOn '/').map String.ofList |>.filter fun part => part ≠ "" ∧ part ≠ "."

/-- A path as it is named in messages about the file: without parts that lead
nowhere. -/
def plainPath (path : String) : String :=
  let joined := "/".intercalate (pathParts path)
  if path.startsWith "/" then "/" ++ joined else joined

/-- What follows the last dot of a file's name. A dot at the very front does not
count. -/
def ending (name : String) : String :=
  let reversed := name.toList.reverse
  let after := reversed.takeWhile (· ≠ '.')
  if after.length + 1 < reversed.length then String.ofList after.reverse else ""

/-- A file that was found: its name, its form and its contents. -/
structure FoundFile where
  name : String
  form : FileForm
  contents : String
  deriving Repr

/-- The file that a path means. -/
def findFile? (files : Keyed String) (path : String) : Option FoundFile :=
  let name := plainPath path
  match files.find? name with
  | some contents =>
    (FileForm.all.find? fun form => form.ending = ending name).map fun form =>
      ⟨name, form, contents⟩
  | none =>
    FileForm.all.findSome? fun form =>
      let longer := name ++ "." ++ form.ending
      (files.find? longer).map fun contents => ⟨longer, form, contents⟩

namespace FoundFile

/-- The entries of a file, whose contents may begin with the mark of their byte
order. -/
def read? (file : FoundFile) : Option (Keyed Datum) :=
  file.form.read? (String.ofList (Toml.withoutMark file.contents.toList))

end FoundFile

end Admission.Settings
