import Admission.Datum
import Admission.Decimal
import Admission.Toml.Text
import Admission.Toml.Tree

/-! # TOML documents

Documents line by line, with everything that can stand as a value.
-/

namespace Admission.Toml

/-! ## Dates and times

A date, a time of day, or both, then possibly with an offset. A moment is kept as
a text in one form: the letter T stands between date and time, a fraction of a
second has at most nine digits and none that say nothing, and an offset of no
hours is positive.
-/

open Reader

/-- Exactly `count` digits that make a number from `least` to `most`. -/
def field (count least most : Nat) : Reader (List Char) := do
  let digits ← exactly (isDigitOf 10) count
  let value := numberOf 10 digits
  if least ≤ value ∧ value ≤ most then pure digits else fail

/-- Whether a year has a 29th of February. -/
def isLeap (year : Nat) : Bool :=
  year % 4 = 0 && (year % 100 ≠ 0 || year % 400 = 0)

def daysIn (year month : Nat) : Nat :=
  if month = 2 then if isLeap year then 29 else 28
  else if month = 4 ∨ month = 6 ∨ month = 9 ∨ month = 11 then 30
  else 31

/-- Year, month and day. -/
def date : Reader (List Char) := do
  let year ← field 4 0 9999
  char '-'
  let month ← field 2 1 12
  char '-'
  let day ← field 2 1 (daysIn (numberOf 10 year) (numberOf 10 month))
  pure (year ++ '-' :: month ++ '-' :: day)

/-- A list without the zeros at its end. -/
def withoutTrailingZeros (digits : List Char) : List Char :=
  (digits.reverse.dropWhile (· = '0')).reverse

/-- A fraction of a second. -/
def secondFraction : Reader (List Char) := do
  char '.'
  let digits := withoutTrailingZeros ((← span1 (isDigitOf 10)).take 9)
  pure (if digits.isEmpty then [] else '.' :: digits)

/-- Hour, minute and second. -/
def timeOfDay : Reader (List Char) := do
  let hour ← field 2 0 23
  char ':'
  let minute ← field 2 0 59
  char ':'
  let second ← field 2 0 60
  let part ← perhaps secondFraction
  pure (hour ++ ':' :: minute ++ ':' :: second ++ part.getD [])

/-- The offset of a time. -/
def offset : Reader (List Char) :=
  (do
    let _ ← satisfying fun c => c = 'Z' || c = 'z'
    pure ['Z']) <|> do
    let mark ← satisfying fun c => c = '+' || c = '-'
    let hour ← field 2 0 23
    char ':'
    let minute ← field 2 0 59
    let mark := if numberOf 10 (hour ++ minute) = 0 then '+' else mark
    pure (mark :: hour ++ ':' :: minute)

/-- A time of day after a date. -/
def timeAfterDate : Reader (List Char) := do
  let _ ← satisfying fun c => c = 'T' || c = 't' || c = ' '
  let time ← timeOfDay
  let shift ← perhaps offset
  pure ('T' :: time ++ shift.getD [])

/-- A date, a date with a time, or a time. -/
def moment : Reader String :=
  (do
    let day ← date
    let time ← perhaps timeAfterDate
    pure (String.ofList (day ++ time.getD []))) <|> do
    return String.ofList (← timeOfDay)

/-! ## Numbers

Digits may be grouped by single underscores. A decimal number has no needless
leading zero. An integer fits 64 bits with a sign; a real number may not be so
large that it rounds to infinity.
-/

/-- Digits with single underscores between them. -/
def digitRun (test : Char → Bool) : Reader (List Char) := do
  let c ← satisfying test
  let others ← many do
    let _ ← perhaps (char '_')
    satisfying test
  pure (c :: others)

/-- Whether a character is a digit other than zero. -/
def isLeading (c : Char) : Bool :=
  '1' ≤ c && c ≤ '9'

/-- The digits of a decimal number, without needless zeros in front. -/
def decimalDigits : Reader (List Char) := do
  match ← ahead with
  | some '0' =>
    char '0'
    pure ['0']
  | some c => if isLeading c then digitRun (isDigitOf 10) else fail
  | none => fail

/-- A sign, if there is one: whether it is a minus. -/
def sign : Reader Bool :=
  word "-" true <|> word "+" false <|> pure false

/-- An integer in another radix, after the mark of the radix. -/
def inRadix (mark : String) (radix : Nat) : Reader Int := do
  word mark ()
  let value := numberOf radix (← digitRun (isDigitOf radix))
  if value < Nat.pow 2 63 then pure value else fail

def decimalInteger : Reader Int := do
  let negative ← sign
  let value : Int := numberOf 10 (← decimalDigits)
  let value := if negative then -value else value
  if -((Nat.pow 2 63 : Nat) : Int) ≤ value ∧ value < (Nat.pow 2 63 : Nat) then pure value else fail

/-- An integer in any of the four radixes. -/
def integer : Reader Int :=
  inRadix "0x" 16 <|> inRadix "0o" 8 <|> inRadix "0b" 2 <|> decimalInteger

def exponent : Reader Int := do
  let _ ← satisfying fun c => c = 'e' || c = 'E'
  let negative ← sign
  let value : Int := numberOf 10 (← digitRun (isDigitOf 10))
  pure (if negative then -value else value)

/-- The digits after the point. -/
def fraction : Reader (List Char) := do
  char '.'
  digitRun (isDigitOf 10)

/-- What makes a number a real one: a fraction, an exponent or both. -/
def realTail : Reader (List Char × Int) :=
  (do return (← fraction, (← perhaps exponent).getD 0)) <|> (do return ([], ← exponent))

/-- A real number that is written with digits. -/
def finiteReal : Reader Float := do
  let negative ← sign
  let whole ← decimalDigits
  let (places, power) ← realTail
  let magnitude :=
    Decimal.nearest (numberOf 10 (whole ++ places)) (power - (places.length : Int))
  if negative then pure (-magnitude)
  else if magnitude.isInf then fail
  else pure magnitude

/-- Infinity, or what is no number. -/
def specialReal : Reader Float := do
  let negative ← sign
  let value ← word "inf" Decimal.infinity <|> word "nan" Decimal.notANumber
  pure (if negative then -value else value)

def real : Reader Float :=
  finiteReal <|> specialReal

/-! ## Values

A value is a text, a moment, a number, a boolean, an array or a table in braces.
How deep arrays and tables may lie in each other is bounded, and the reader of
values recurses on that bound.
-/

/-- A value without other values inside it. -/
def atom : Reader Atom :=
  (do return .text (← text)) <|> (do return .text (← moment)) <|> (do return .real (← real))
    <|> (do return .integer (← integer)) <|> word "true" (.boolean true)
    <|> word "false" (.boolean false)

/-- An array; a comma may follow the last item. -/
def array (item : Reader Datum) : Reader Datum := do
  char '['
  let items ← perhaps do
    let items ← separated1 (char ',') do
      padding
      let found ← item
      padding
      pure found
    let _ ← perhaps (char ',')
    pure items
  padding
  char ']'
  pure (.list (items.getD []))

/-- A key or a dotted path, and the value it is given. -/
def pair (item : Reader Datum) : Reader (List String × Datum) := do
  let keys ← path
  char '='
  gap
  let found ← item
  pure (keys, found)

/-- A table in braces, on one line. -/
def braced (item : Reader Datum) : Reader Datum := do
  char '{'
  let pairs ← perhaps do
    separated1 (char ',') do
      let found ← pair item
      gap
      pure found
  gap
  char '}'
  match tableOfPairs? (pairs.getD []) with
  | some datum => pure datum
  | none => fail

/-- A value with at most `depth` arrays and tables around each other. -/
def value : (depth : Nat) → Reader Datum
  | 0 => do return .atom (← atom)
  | depth + 1 => (do return .atom (← atom)) <|> array (value depth) <|> braced (value depth)

/-! ## Lines of documents

A document is lines, each with a header, a pair or nothing, and perhaps a comment.
A value may run on over several lines. Headers say where the pairs below them
go.
-/

/-- What a line says. -/
inductive Line where
  | blank
  | table (path : List String)
  /-- The header of one more element of an array of tables. -/
  | element (path : List String)
  | pair (path : List String) (datum : Datum)

namespace Line

def readTable : Reader Line := do
  char '['
  let keys ← path
  char ']'
  pure (.table keys)

def readElement : Reader Line := do
  chars ['[', '[']
  let keys ← path
  chars [']', ']']
  pure (.element keys)

def readPair : Reader Line := do
  let (keys, datum) ← Toml.pair (value (depthLimit - 1))
  pure (.pair keys datum)

def read : Reader Line := do
  gap
  let line ← readElement <|> readTable <|> readPair <|> pure .blank
  gap
  let _ ← perhaps comment
  pure line

end Line

/-- What was read of a document so far: the table that pairs go to, and the tree. -/
structure Progress where
  current : List String := []
  entries : Entries := []

namespace Progress

/-- Takes one more line into account. -/
def step (progress : Progress) : Line → Option Progress
  | .blank => some progress
  | .table path =>
    (Change.along false Change.declare path .declared progress.entries).map fun entries =>
      { current := path, entries }
  | .element path =>
    (Change.along false Change.addElement path .declared progress.entries).map fun entries =>
      { current := path, entries }
  | .pair path datum =>
    (Change.descend false (Change.pair path datum) progress.current .declared
        progress.entries).map fun entries =>
      { progress with entries }

end Progress

/-- A text without the mark of its byte order. -/
def withoutMark : List Char → List Char
  | '\uFEFF' :: rest => rest
  | text => text

/-- The lines of a document. -/
def lines? (text : List Char) : Option (List Line) :=
  whole (separated1 lineEnd Line.read) (withoutMark text)

/-- The entries of a document's table. -/
def read? (text : String) : Option (Keyed Datum) := do
  let lines ← lines? text.toList
  let progress ← lines.foldlM Progress.step {}
  pure (Node.data progress.entries)

end Admission.Toml
