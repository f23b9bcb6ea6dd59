import Admission.Decimal
import Admission.Json
import Admission.Text.Characters

/-! # The log

Lines, how they are written, and which of them are let through.
-/

namespace Admission

/-! ## Log lines

A log line has a level, the part of the program it comes from, a message and
fields. Levels are ordered by how much they let through.
-/

/-- How urgent a line is; as a bound, how much is let through. -/
inductive Level where
  /-- No line has this level: as a bound it lets nothing through. -/
  | off
  | error
  | warn
  | info
  | debug
  | trace
  deriving DecidableEq, Repr

namespace Level

def all : List Level := [off, error, warn, info, debug, trace]

def number : Level → Nat
  | off => 0
  | error => 1
  | warn => 2
  | info => 3
  | debug => 4
  | trace => 5

/-- The name of a level, in capitals. -/
def name : Level → String
  | off => "OFF"
  | error => "ERROR"
  | warn => "WARN"
  | info => "INFO"
  | debug => "DEBUG"
  | trace => "TRACE"

/-- Whether a bound lets a level through. -/
def allows (bound level : Level) : Bool :=
  level.number ≤ bound.number

end Level

inductive FieldValue where
  | number (value : Nat)
  | word (value : String)
  deriving DecidableEq, Repr

/-- A line of the log. -/
structure LogLine where
  level : Level
  /-- The part of the program the line comes from. -/
  target : String
  message : String
  /-- The fields besides the message. -/
  fields : List (String × FieldValue) := []
  deriving DecidableEq, Repr

/-! ## Written log lines

A log line is written for people, or as one JSON object.
-/

/-- How log lines are written. -/
inductive LogFormat where
  /-- For people. -/
  | pretty
  /-- One object a line. -/
  | json
  deriving DecidableEq, Repr

namespace LogFormat

def all : List LogFormat := [pretty, json]

def name : LogFormat → String
  | pretty => "pretty"
  | json => "json"

end LogFormat

namespace FieldValue

/-- A value for people. -/
def text : FieldValue → String
  | number value => toString value
  | word value => value

/-- A value of JSON. -/
def json : FieldValue → String
  | number value => toString value
  | word value => Json.writeText value

end FieldValue

namespace LogLine

def pretty (line : LogLine) : String :=
  let fields := line.fields.map fun (name, value) => ", " ++ name ++ ": " ++ value.text
  line.level.name ++ " " ++ line.target ++ ": " ++ line.message ++ String.join fields

def json (line : LogLine) : String :=
  let member (name value : String) : String := Json.writeText name ++ ":" ++ value
  let fields := member "message" (Json.writeText line.message)
    :: line.fields.map fun (name, value) => member name value.json
  "\x7b" ++ member "level" (Json.writeText line.level.name) ++ ","
    ++ member "fields" ("\x7b" ++ ",".intercalate fields ++ "\x7d") ++ ","
    ++ member "target" (Json.writeText line.target) ++ "\x7d"

def written (line : LogLine) : LogFormat → String
  | .pretty => line.pretty
  | .json => line.json

end LogLine

/-! ## Log filters

A filter is a list of directives with commas between them. A directive bounds the
level of the lines it speaks about: all of them, those of a part of the program, or
those with certain fields. Of several directives that speak about a line the most
specific one decides; without any directive only errors are let through.

A directive may also ask for a span, which is a stretch of work that lines lie in.
This program has no spans, so such a directive lets nothing through.
-/

/-- A directive of a filter. -/
structure Directive where
  bound : Level := .trace
  /-- What the targets of the lines begin with. -/
  target : Option String := none
  /-- The span the lines lie in. -/
  span : Option String := none
  /-- The fields the lines have. -/
  fields : List String := []
  /-- Whether some field is asked for a value. -/
  hasValues : Bool := false
  deriving DecidableEq, Repr

/-- What is wrong with a filter. -/
inductive FilterFault where
  | level
  | directive
  deriving DecidableEq, Repr

namespace FilterFault

/-- The message for a filter that cannot be read. -/
def message : FilterFault → String
  | level =>
    "error parsing level filter: expected one of \"off\", \"error\", \"warn\", "
      ++ "\"info\", \"debug\", \"trace\", or a number 0-5"
  | directive => "invalid filter directive"

/-- The messages of what is behind a fault: a level that does not exist is its own
cause. -/
def causes (fault : FilterFault) : List String :=
  match fault with
  | level => [fault.message]
  | directive => []

end FilterFault

namespace Level

/-- Reads a level: a number, or a name in any case of ASCII letters. -/
def ofText? (text : String) : Option Level :=
  match (Decimal.natural? (Nat.pow 2 64) text.toList).bind fun n => all[n]? with
  | some level => some level
  | none => all.find? fun level => text.map Char.toUpper = level.name

end Level

namespace Directive

/-- Where the reader of a directive is, and the characters of the current part so far,
the last one first. -/
inductive Place where
  | start
  | levelOrTarget (part : List Char)
  | span (part : List Char)
  | field (part : List Char)
  | fields
  | target
  | level (part : List Char)
  deriving DecidableEq, Repr

/-- Whether a directive may begin with this character, brackets apart. Beyond ASCII
every character may. -/
def isOpening (c : Char) : Bool :=
  c = '-' || c = ':' || c = '_' || c.isAlphanum || 0x7F < c.toNat

def textOf (part : List Char) : String := String.ofList part.reverse

def withField (directive : Directive) (part : List Char) : Except FilterFault Directive :=
  if part.isEmpty then .error .directive
  else
    let name := part.reverse.takeWhile (· ≠ '=')
    .ok { directive with
      fields := directive.fields ++ [String.ofList name]
      hasValues := directive.hasValues || part.contains '=' }

/-- One character further. `kept` is the character that parts keep. -/
def step (directive : Directive) (place : Place) (c kept : Char) :
    Except FilterFault (Directive × Place) :=
  match place with
  | .start =>
    if c = '[' then .ok (directive, .span [])
    else if isOpening c then .ok (directive, .levelOrTarget [kept])
    else .error .directive
  | .levelOrTarget part =>
    if c = '=' then .ok ({ directive with target := some (textOf part) }, .level [])
    else if c = '[' then .ok ({ directive with target := some (textOf part) }, .span [])
    else .ok (directive, .levelOrTarget (kept :: part))
  | .target => if c = '=' then .ok (directive, .level []) else .error .directive
  | .span part =>
    if c = ']' then .ok ({ directive with span := some (textOf part) }, .target)
    else if c = '\x7b' then
      let span := if part.isEmpty then none else some (textOf part)
      .ok ({ directive with span }, .field [])
    else .ok (directive, .span (kept :: part))
  | .field part =>
    if c = '\x7d' then (directive.withField part).map fun directive => (directive, .fields)
    else .ok (directive, .field (kept :: part))
  | .fields => if c = ']' then .ok (directive, .target) else .error .directive
  | .level part => .ok (directive, .level (kept :: part))

/-- The level that ends a directive; without one everything is let through. -/
def withLevel (directive : Directive) (text : String) : Except FilterFault Directive :=
  if text = "" then .ok { directive with bound := .trace }
  else
    match Level.ofText? text with
    | some bound => .ok { directive with bound }
    | none => .error .level

/-- What a directive is when its text is over; `rest` is what the current part still
gets. -/
def ended (directive : Directive) (place : Place) (rest : List Char) :
    Except FilterFault Directive :=
  match place with
  | .levelOrTarget part =>
    let text := String.ofList (part.reverse ++ rest)
    match Level.ofText? text with
    | some bound => .ok { directive with bound }
    | none => .ok { directive with bound := .trace, target := some text }
  | .level part => directive.withLevel (String.ofList (part.reverse ++ rest))
  | .target => .ok directive
  | _ => .error .directive

/-- Reads the pairs of a character and the one to be kept for it. -/
def readFrom (directive : Directive) (place : Place) (rest : List Char) :
    List (Char × Char) → Except FilterFault Directive
  | [] => ended directive place rest
  | (c, kept) :: others =>
    match step directive place c kept with
    | .error fault => .error fault
    | .ok (directive, place) => readFrom directive place rest others

/-- Reads a directive. Blanks around it do not count for its structure; but parts are
cut out of the text with its blanks, at the places they have in the text without
them. -/
def read (text : String) : Except FilterFault Directive :=
  let whole := text.toList
  let bare := Text.trim whole
  readFrom {} .start (whole.drop bare.length) (bare.zip whole)

/-- Whether a directive speaks about lines, and not only about spans. -/
def isStatic (directive : Directive) : Bool :=
  directive.span.isNone && !directive.hasValues

/-- Whether a directive speaks about a line. Every line has its message as a field. -/
def concerns (directive : Directive) (line : LogLine) : Bool :=
  directive.target.all (fun target => target.toList.isPrefixOf line.target.toList)
    && directive.fields.all fun name => name = "message" || line.fields.any (·.1 = name)

/-- How specific a directive is: first by its target, then by its fields. -/
def rank (directive : Directive) : Nat × Nat :=
  ((directive.target.map fun target => target.utf8ByteSize + 1).getD 0, directive.fields.length)

/-- Whether the first of two directives is at least as specific as the second. -/
def atLeast (first second : Directive) : Bool :=
  second.rank.1 < first.rank.1
    || (second.rank.1 = first.rank.1 && second.rank.2 ≤ first.rank.2)

end Directive

/-- Which lines are written. -/
structure LogFilter where
  directives : List Directive
  deriving DecidableEq, Repr

namespace LogFilter

def read (text : String) : Except FilterFault LogFilter := do
  let parts := (text.toList.splitOn ',').filter fun part => !part.isEmpty
  let directives ← parts.mapM fun part => Directive.read (String.ofList part)
  return { directives := if directives.isEmpty then [{ bound := .error }] else directives }

/-- The directive that decides about a line: of the most specific ones that speak about
it the last. -/
def deciding (filter : LogFilter) (line : LogLine) : Option Directive :=
  (filter.directives.filter fun d => d.isStatic && d.concerns line).foldl
    (fun best directive =>
      match best with
      | none => some directive
      | some other => if directive.atLeast other then some directive else best) none

def allows (filter : LogFilter) (line : LogLine) : Bool :=
  (filter.deciding line).any fun directive => directive.bound.allows line.level

end LogFilter

end Admission
