import Admission.Refusal
import Admission.Text.Utf8

/-! # Admission counts

Two sinks count the same events. `Counts` keeps four numbers. `Metrics` keeps
series, sorted by their labels, and can show them as text; a series that is asked
for exists from then on. Series are found by a hash of the label, so labels with one
hash share a series, which has the label that came first.
-/

namespace Admission

/-- How many connections were taken in, and how many were refused for each
cause. -/
structure Counts where
  accepted : Nat := 0
  rateLimited : Nat := 0
  busy : Nat := 0
  shuttingDown : Nat := 0
  deriving DecidableEq, Repr

namespace Counts

def accept (counts : Counts) : Counts :=
  { counts with accepted := counts.accepted + 1 }

def refuse (counts : Counts) : Refusal → Counts
  | .rateLimited => { counts with rateLimited := counts.rateLimited + 1 }
  | .queueFull => { counts with busy := counts.busy + 1 }
  | .queueClosed => { counts with shuttingDown := counts.shuttingDown + 1 }

def refused (counts : Counts) : Refusal → Nat
  | .rateLimited => counts.rateLimited
  | .queueFull => counts.busy
  | .queueClosed => counts.shuttingDown

def totalRefused (counts : Counts) : Nat :=
  counts.rateLimited + counts.busy + counts.shuttingDown

end Counts

/-- Counters with their labels, in the order of the labels. -/
structure Metrics where
  series : List (String × Nat)
  deriving DecidableEq, Repr

namespace Metrics

def processed : String := "processed"

/-- What series are found by: the FNV-1a hash of a label's octets, in 64 bits. -/
def hashOf (label : String) : UInt64 :=
  (Text.octets label).foldl (fun hash octet => (hash ^^^ octet.toUInt64) * 0x100000001b3)
    0xcbf29ce484222325

/-- Makes a series in its place. Labels are in the order of their code points, which
is the order of their octets. -/
def insert (label : String) (value : Nat) : List (String × Nat) → List (String × Nat)
  | [] => [(label, value)]
  | (other, old) :: rest =>
    if label < other then (label, value) :: (other, old) :: rest
    else (other, old) :: insert label value rest

/-- Adds to the series that a label is found by, which is made when there is none. -/
def add (metrics : Metrics) (label : String) (times : Nat) : Metrics :=
  if metrics.series.any fun entry => hashOf entry.1 == hashOf label then
    ⟨metrics.series.map fun (other, value) =>
      (other, if hashOf other = hashOf label then value + times else value)⟩
  else ⟨insert label times metrics.series⟩

/-- New counters: the four of the server, all at zero. -/
def new : Metrics :=
  (processed :: Refusal.all.map Refusal.label).foldl (fun metrics label => metrics.add label 0) ⟨[]⟩

def accept (metrics : Metrics) (times : Nat) : Metrics :=
  metrics.add processed times

def refuse (metrics : Metrics) (cause : Refusal) (times : Nat) : Metrics :=
  metrics.add cause.label times

/-- The value of the series that a label is found by, if there is one. -/
def value (metrics : Metrics) (label : String) : Nat :=
  ((metrics.series.find? fun entry => hashOf entry.1 == hashOf label).map Prod.snd).getD 0

/-- The value of a label's series, which is made when there is none. -/
def count (metrics : Metrics) (label : String) : Nat × Metrics :=
  (metrics.value label, metrics.add label 0)

/-- A label as it stands between quotes: backslash, quote and line feed are
escaped. -/
def escape : List Char → List Char
  | [] => []
  | c :: rest =>
    match c with
    | '\\' => '\\' :: '\\' :: escape rest
    | '"' => '\\' :: '"' :: escape rest
    | '\n' => '\\' :: 'n' :: escape rest
    | _ => c :: escape rest

def family : String := "tollgate_requests_total"

def header : String :=
  "# HELP " ++ family ++ " Connections handled by the server, by admission outcome\n"
    ++ "# TYPE " ++ family ++ " counter\n"

def line (label : String) (value : Nat) : String :=
  family ++ "\x7boutcome=\"" ++ String.ofList (escape label.toList) ++ "\"\x7d "
    ++ toString value ++ "\n"

/-- The counters in the text exposition format. -/
def render (metrics : Metrics) : String :=
  header ++ String.join (metrics.series.map fun (label, value) => line label value)

end Metrics

end Admission
