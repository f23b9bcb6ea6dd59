/-! # The command line

What the arguments of the daemon ask for, and what it says about them. Help is wrapped to a width,
and a word that was not understood is compared with those that are.
-/

namespace Admission.Text

/-! ## Wrapping text

A paragraph is broken into lines between words. A word goes onto the line while it
fits, and the blank in front of it is dropped where it does not.
-/

/-- The lines of words, of which each line has as many as fit into `width` columns.
`line` is the line so far. -/
def fill (width : Nat) (line : String) : List String → List String
  | [] => [line]
  | word :: rest =>
    if line.length + 1 + word.length ≤ width then fill width (line ++ " " ++ word) rest
    else line :: fill width word rest

/-- A text in lines of at most `width` columns, except for longer words. -/
def wrap (width : Nat) (text : String) : List String :=
  match (text.toList.splitOn ' ').map String.ofList with
  | [] => []
  | word :: rest => fill width word rest

/-! ## How alike two words are

Jaro's measure: characters match when they are equal and not too far apart, and what
counts is how many match and how many of those come in another order. The measure
is a fraction; it is kept as one, so that comparing it is exact.
-/

/-- The first place from `least` on that has the character `c` and is free; places are
counted from `index`. -/
def freePlace? (c : Char) (least : Nat) : (index : Nat) → List (Char × Bool) → Option Nat
  | _, [] => none
  | index, (other, taken) :: rest =>
    if least ≤ index ∧ other = c ∧ !taken then some index
    else freePlace? c least (index + 1) rest

/-- Matches the characters of `first`, from the place `index` on, with free places of
`second` at most `reach` away; answers the characters that found a match, and the places
of `second` with what is taken. -/
def matchUp (reach : Nat) : (index : Nat) → (first : List Char) → (second : List (Char × Bool)) →
    List Char × List (Char × Bool)
  | _, [], second => ([], second)
  | index, c :: rest, second =>
    match freePlace? c (index - reach) 0 (second.take (index + reach + 1)) with
    | none => matchUp reach (index + 1) rest second
    | some place =>
      let (found, second) := matchUp reach (index + 1) rest (second.set place (c, true))
      (c :: found, second)

/-- A fraction of natural numbers. -/
structure Share where
  part : Nat
  whole : Nat
  deriving DecidableEq, Repr

/-- Three times the likeness of two words. -/
def likeness (first second : List Char) : Share :=
  let reach := max first.length second.length / 2 - 1
  let (found, places) := matchUp reach 0 first (second.map fun c => (c, false))
  let others := (places.filter fun place => place.2).map fun place => place.1
  let m := found.length
  let moved := ((found.zip others).filter fun (c, d) => c ≠ d).length / 2
  let a := first.length
  let b := second.length
  if a = 0 ∧ b = 0 then ⟨3, 1⟩
  else if m = 0 then ⟨0, 1⟩
  else ⟨m * b * m + m * a * m + (m - moved) * a * b, a * b * m⟩

/-- Whether one fraction is above another. -/
def Share.above (first second : Share) : Bool :=
  second.part * first.whole < first.part * second.whole

/-- The word that is most like a given one, when some word is alike enough: more than
seven tenths. -/
def mostLike? (words : List String) (word : String) : Option String :=
  let enough : Share := ⟨21, 10⟩
  (words.foldl (fun (best : Option (String × Share)) other =>
    let share := likeness word.toList other.toList
    let bar := (best.map Prod.snd).getD enough
    if share.above bar then some (other, share) else best) none).map Prod.fst

end Admission.Text

namespace Admission.Daemon

/-! ## Arguments

The daemon takes one option, the path of its settings file, and can be asked for its
version and for help. Arguments are read from left to right. A value that stands as
an argument of its own is looked at when the next option comes or the arguments are
over; an argument that means nothing is reported before that.
-/

def version : String := "0.1.0"

def program : String := "tollgate"

/-- The options of the command line. -/
inductive Switch where
  | config
  | help
  | version
  deriving DecidableEq, Repr

namespace Switch

def all : List Switch := [config, help, version]

/-- The long name of an option. -/
def name : Switch → String
  | config => "config"
  | help => "help"
  | version => "version"

/-- The letter of an option. -/
def letter : Switch → Char
  | config => 'c'
  | help => 'h'
  | version => 'V'

def shown : Switch → String
  | config => "--config <CONFIG>"
  | help => "--help"
  | version => "--version"

end Switch

/-- What is wrong with the arguments. -/
inductive UsageFault where
  /-- An argument that means nothing, perhaps an option that was meant, and the options
  that the usage then shows. -/
  | unexpected (argument : String) (meant : Option Switch) (used : List Switch)
  | missingValue
  /-- The option was given twice. -/
  | repeated
  /-- A value for an option that takes none. -/
  | needlessValue (value : String) (option : Switch) (used : List Switch)
  deriving DecidableEq, Repr

namespace UsageFault

def usage (used : List Switch) : String :=
  let options :=
    if used.isEmpty then "[OPTIONS]" else " ".intercalate (used.map Switch.shown)
  "Usage: " ++ program ++ " " ++ options ++ "\n\n"

/-- What the message says, without its first and its last words. -/
def body : UsageFault → String
  | unexpected argument meant used =>
    let tip :=
      match meant with
      | some switch => "  tip: a similar argument exists: '--" ++ switch.name ++ "'\n\n"
      | none => ""
    "unexpected argument '" ++ argument ++ "' found\n\n" ++ tip ++ usage used
  | missingValue =>
    "a value is required for '" ++ Switch.config.shown ++ "' but none was supplied\n\n"
  | repeated =>
    "the argument '" ++ Switch.config.shown ++ "' cannot be used multiple times\n\n" ++ usage []
  | needlessValue value option used =>
    "unexpected value '" ++ value ++ "' for '" ++ option.shown
      ++ "' found; no more were expected\n\n" ++ usage used

def message (fault : UsageFault) : String :=
  "error: " ++ fault.body ++ "For more information, try '--help'.\n"

end UsageFault

/-- What the arguments ask for. -/
inductive Request where
  /-- To run, with the path of the settings file where it is given. -/
  | run (path : Option String)
  | showHelp
  | showVersion
  deriving DecidableEq, Repr

/-- An option that still waits for its value, or whose value was not looked at yet. -/
inductive Pending where
  | nothing
  | option
  | value (path : String)
  deriving DecidableEq, Repr

/-- How far the arguments were read. -/
structure Reading where
  path : Option String := none
  pending : Pending := .nothing
  /-- Whether the rest are no options. -/
  noOptions : Bool := false
  deriving DecidableEq, Repr

namespace Reading

def take (reading : Reading) (path : String) : Except UsageFault Reading :=
  if reading.path.isSome then .error .repeated
  else if path = "" then .error .missingValue
  else .ok { reading with path := some path, pending := .nothing }

def settle (reading : Reading) : Except UsageFault Reading :=
  match reading.pending with
  | .nothing => .ok reading
  | .option => .error .missingValue
  | .value path => reading.take path

/-- The options that were used, as far as the usage line shows them: of two values for
one option the later one cancels the earlier one. -/
def used (reading : Reading) : List Switch :=
  let given :=
    match reading.pending with
    | .value _ => reading.path.isNone
    | _ => reading.path.isSome
  if given then [.config] else []

/-- The fault of an argument that means nothing. -/
def unexpected {α : Type} (argument : String) : Except UsageFault α :=
  .error (.unexpected argument none [])

/-- The fault of an unknown long option. -/
def unknown {α : Type} (reading : Reading) (name : String) : Except UsageFault α :=
  let meant :=
    (Text.mostLike? (Switch.all.map Switch.name) name).bind fun similar =>
      Switch.all.find? fun switch => switch.name = similar
  let used := reading.used ++ (meant.toList.filter fun switch => !reading.used.contains switch)
  .error (.unexpected ("--" ++ name) meant used)

inductive Next where
  | goOn (reading : Reading)
  | done (request : Request)

/-- Takes an option with the value that is attached to it. -/
def onSwitch (reading : Reading) (switch : Switch) (attached : Option String) :
    Except UsageFault Next :=
  match switch, attached with
  | .config, some value => do
    let reading ← reading.settle
    return .goOn (← reading.take value)
  | .config, none => do
    let reading ← reading.settle
    return .goOn { reading with pending := .option }
  | .help, none => do
    let _ ← reading.settle
    return .done .showHelp
  | .version, none => do
    let _ ← reading.settle
    return .done .showVersion
  | switch, some value => .error (.needlessValue value switch reading.used)

/-- A long option: its name and, after an equals sign, its value. -/
def splitLong (text : List Char) : String × Option String :=
  let name := String.ofList (text.takeWhile (· ≠ '='))
  match text.dropWhile (· ≠ '=') with
  | [] => (name, none)
  | _ :: value => (name, some (String.ofList value))

/-- The value that is attached to a letter, perhaps after an equals sign. -/
def attachedToLetter : List Char → Option String
  | [] => none
  | '=' :: value => some (String.ofList value)
  | value => some (String.ofList value)

def step (reading : Reading) (argument : String) : Except UsageFault Next :=
  if reading.noOptions then unexpected argument
  else
    match argument.toList with
    | ['-', '-'] => .ok (.goOn { reading with noOptions := true })
    | '-' :: '-' :: text =>
      let (name, attached) := splitLong text
      match Switch.all.find? fun switch => switch.name = name with
      | some switch => reading.onSwitch switch attached
      | none => reading.unknown name
    | '-' :: letter :: rest =>
      match Switch.all.find? fun switch => switch.letter = letter with
      | some .config => reading.onSwitch .config (attachedToLetter rest)
      | some switch => reading.onSwitch switch none
      | none => unexpected (String.ofList ['-', letter])
    | _ =>
      match reading.pending with
      | .option => .ok (.goOn { reading with pending := .value argument })
      | _ => unexpected argument

end Reading

/-- Reads the arguments that are left. -/
def readFrom (reading : Reading) : List String → Except UsageFault Request
  | [] => reading.settle.map fun reading => .run reading.path
  | argument :: rest =>
    match reading.step argument with
    | .error fault => .error fault
    | .ok (.done request) => .ok request
    | .ok (.goOn reading) => readFrom reading rest

def Request.ofArguments (arguments : List String) : Except UsageFault Request :=
  readFrom {} arguments

/-- The variable that names the settings file where no option does. -/
def pathVariable : String := "TOLLGATE_CONFIG"

/-- The settings file where nothing names one. -/
def defaultPath : String := "tollgate.toml"

/-- The path of the settings file: from the option, from the environment, or the
default. -/
def pathOf (given fromEnvironment : Option String) : Except UsageFault String :=
  match given, fromEnvironment with
  | some path, _ => .ok path
  | none, some path => if path = "" then .error .missingValue else .ok path
  | none, none => .ok defaultPath

def versionText : String := program ++ " " ++ version ++ "\n"

/-- The help text; it shows what the environment says. -/
def helpText (fromEnvironment : Option String) : String :=
  let about :=
    "Settings file (TOML); missing file means defaults [env: " ++ pathVariable ++ "="
      ++ fromEnvironment.getD "" ++ "] [default: " ++ defaultPath ++ "]"
  let margin := String.ofList (List.replicate 25 ' ')
  "Rate-limited connection server with a bounded worker pool\n\n" ++ UsageFault.usage []
    ++ "Options:\n  -c, --config <CONFIG>  "
    ++ ("\n" ++ margin).intercalate (Text.wrap 75 about) ++ "\n"
    ++ "  -h, --help             Print help\n  -V, --version          Print version\n"

end Admission.Daemon
