import Admission.Datum
import Admission.Decimal
import Admission.Reader

/-! # JSON

A document is one value with blanks around it. Of two entries of one name the last
one counts. A number is an integer when it has neither point nor exponent and fits
64 bits with a sign; otherwise it is real.

Real numbers are read the quick way: as many leading digits as 64 bits hold, times
or divided by a power of ten. The result can miss the nearest binary64 number by a
last place. A number beyond the finite ones is refused.
-/

namespace Admission.Json

open Reader

/-- The characters that may stand between the parts of a document. -/
def isGap (c : Char) : Bool :=
  c = ' ' || c = '\t' || c = '\n' || c = '\r'

/-- A reader with blanks around it. -/
def spaced {α : Type} (item : Reader α) : Reader α := do
  let _ ← span isGap
  let found ← item
  let _ ← span isGap
  pure found

def unit16 : Reader Nat := do
  return numberOf 16 (← exactly (isDigitOf 16) 4)

/-- The character of one unit, or of two where the first one is the upper half of
a pair. Halves on their own are refused. -/
def codePoint : Reader Char := do
  let high ← unit16
  if 0xD800 ≤ high ∧ high < 0xDC00 then
    chars ['\\', 'u']
    let low ← unit16
    if 0xDC00 ≤ low ∧ low < 0xE000 then
      pure (Char.ofNat (0x10000 + (high - 0xD800) * 0x400 + (low - 0xDC00)))
    else fail
  else if high.isValidChar then pure (Char.ofNat high)
  else fail

/-- A backslash with what follows it, and the character it stands for. -/
def escape : Reader Char := do
  char '\\'
  match ← satisfying fun _ => true with
  | '"' => pure '"'
  | '\\' => pure '\\'
  | '/' => pure '/'
  | 'b' => pure '\x08'
  | 'f' => pure '\x0C'
  | 'n' => pure '\n'
  | 'r' => pure '\r'
  | 't' => pure '\t'
  | 'u' => codePoint
  | _ => fail

def text : Reader String := do
  char '"'
  let found ← many (satisfying (fun c => ' ' ≤ c && c ≠ '"' && c ≠ '\\') <|> escape)
  char '"'
  pure (String.ofList found)

/-- Appends digits to a number for as long as it fits 64 bits; answers the number
and how many digits were left over. -/
def extend (value : Nat) : List Char → Nat × Nat
  | [] => (value, 0)
  | c :: rest =>
    let longer := value * 10 + numberOf 10 [c]
    if longer < Nat.pow 2 64 then extend longer rest else (value, rest.length + 1)

/-- `value * 10 ^ power`, computed with one operation, or with more where the power
of ten is smaller than the finite numbers reach. -/
def scaled (value : Nat) (power : Int) : Option Float :=
  let base := Decimal.nearest value 0
  let ten (exponent : Int) : Float := Decimal.nearest 1 exponent
  if value = 0 then some 0.0
  else if 308 < power then none
  else if 0 ≤ power then
    let product := base * ten power
    if product.isInf then none else some product
  else if -308 ≤ power then some (base / ten (-power))
  else if -616 ≤ power then some (base / ten 308 / ten (-power - 308))
  else some 0.0

/-- The digits before the point, without needless zeros. -/
def wholeDigits : Reader (List Char) := do
  match ← ahead with
  | some '0' =>
    char '0'
    pure ['0']
  | _ => span1 (isDigitOf 10)

/-- The digits after the point. -/
def fraction : Reader (List Char) := do
  char '.'
  span1 (isDigitOf 10)

def exponent : Reader Int := do
  let _ ← satisfying fun c => c = 'e' || c = 'E'
  let negative ← word "-" true <|> word "+" false <|> pure false
  let value : Int := numberOf 10 (← span1 (isDigitOf 10))
  pure (if negative then -value else value)

/-- A number without point and exponent. -/
def integral (negative : Bool) (digits : List Char) : Option Atom :=
  let value := numberOf 10 digits
  if negative ∧ 0 < value ∧ value ≤ Nat.pow 2 63 then some (.integer (-(value : Int)))
  else if !negative ∧ value < Nat.pow 2 63 then some (.integer value)
  else
    let (significand, dropped) := extend 0 digits
    (scaled significand dropped).map fun size => .real (if negative then -size else size)

def number : Reader Atom := do
  let negative ← word "-" true <|> pure false
  let whole ← wholeDigits
  let places ← perhaps fraction
  let power ← perhaps exponent
  let found :=
    if places.isNone ∧ power.isNone then integral negative whole
    else
      let places := places.getD []
      let (significand, dropped) := extend 0 whole
      let (significand, unused) := extend significand places
      let shift := (dropped : Int) - ((places.length - unused : Nat) : Int)
      (scaled significand (shift + power.getD 0)).map fun size =>
        .real (if negative then -size else size)
  match found with
  | some atom => pure atom
  | none => fail

/-- A value without other values inside it. -/
def atom : Reader Atom :=
  word "null" .nothing <|> word "true" (.boolean true) <|> word "false" (.boolean false)
    <|> (do return .text (← text)) <|> number

def list (item : Reader Datum) : Reader Datum := do
  char '['
  let items ← perhaps (separated1 (char ',') (spaced item))
  let _ ← span isGap
  char ']'
  pure (.list (items.getD []))

def table (item : Reader Datum) : Reader (Keyed Datum) := do
  char '\x7b'
  let entries ← perhaps do
    separated1 (char ',') do
      let name ← spaced text
      char ':'
      let found ← spaced item
      pure (name, found)
  let _ ← span isGap
  char '\x7d'
  pure ((entries.getD []).foldl (fun table (name, found) => table.set name found) [])

/-- A value with at most `depth` lists and tables around each other. -/
def value : (depth : Nat) → Reader Datum
  | 0 => do return .atom (← atom)
  | depth + 1 =>
    (do return .atom (← atom)) <|> list (value depth) <|>
      (do return .table (← table (value depth)))

/-- How deep lists and tables may lie in each other. -/
def depthLimit : Nat := 127

/-- The entries of a document that holds a table. -/
def read? (text : String) : Option (Keyed Datum) :=
  whole (spaced (table (value (depthLimit - 1)))) text.toList

/-- A character as it stands in a text: quotes, backslashes and controls are
escaped. -/
def escaped (c : Char) : String :=
  if c = '"' then "\\\""
  else if c = '\\' then "\\\\"
  else if c < ' ' then
    let digits := Nat.toDigits 16 c.toNat
    "\\u" ++ String.ofList (List.replicate (4 - digits.length) '0' ++ digits)
  else c.toString

def writeText (text : String) : String :=
  "\"" ++ String.join (text.toList.map escaped) ++ "\""

end Admission.Json
