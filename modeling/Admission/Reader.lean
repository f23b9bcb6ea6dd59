/-! # Reading from the front of a text

A reader takes the characters that are left and answers what it read together with
the characters after it, or nothing at all. Readers follow one another in `do`
blocks, and `first <|> second` tries the second reader where the first one fails.

`many` repeats a reader for as long as it succeeds. Each repetition is to take a
character, so the length of the text bounds them.
-/

namespace Admission

/-- Reads a value off the front of the text. -/
abbrev Reader (α : Type) := StateT (List Char) Option α

namespace Reader

variable {α β : Type}

def fail : Reader α := fun _ => none

/-- A character that satisfies a test. -/
def satisfying (test : Char → Bool) : Reader Char
  | c :: rest => if test c then some (c, rest) else none
  | [] => none

def char (wanted : Char) : Reader Unit
  | c :: rest => if c = wanted then some ((), rest) else none
  | [] => none

def chars : (wanted : List Char) → Reader Unit
  | [] => pure ()
  | c :: rest => do
    char c
    chars rest

/-- Exactly this text, in place of which `value` is answered. -/
def word (wanted : String) (value : α) : Reader α := do
  chars wanted.toList
  pure value

/-- As many characters as satisfy a test. -/
def span (test : Char → Bool) : Reader (List Char) :=
  fun text => some (text.takeWhile test, text.dropWhile test)

/-- As many characters as satisfy a test, and at least one. -/
def span1 (test : Char → Bool) : Reader (List Char) := do
  let found ← span test
  if found.isEmpty then fail else pure found

/-- Exactly `count` characters that satisfy a test. -/
def exactly (test : Char → Bool) : (count : Nat) → Reader (List Char)
  | 0 => pure []
  | count + 1 => do
    let c ← satisfying test
    let others ← exactly test count
    pure (c :: others)

/-- What a reader reads, or nothing where it fails. -/
def perhaps (item : Reader α) : Reader (Option α) :=
  (do return some (← item)) <|> pure none

/-- Repeats a reader while it succeeds, at most `bound` times. -/
def manyWithin (item : Reader α) : (bound : Nat) → Reader (List α)
  | 0 => pure []
  | bound + 1 => do
    match ← perhaps item with
    | none => pure []
    | some found => return found :: (← manyWithin item bound)

def many (item : Reader α) : Reader (List α) :=
  fun text => manyWithin item text.length text

/-- At least one item, with separators between them. -/
def separated1 (separator : Reader β) (item : Reader α) : Reader (List α) := do
  let found ← item
  let others ← many do
    let _ ← separator
    item
  pure (found :: others)

/-- The first character that is left, which stays. -/
def ahead : Reader (Option Char) :=
  fun text => some (text.head?, text)

def finish : Reader Unit
  | [] => some ((), [])
  | _ => none

/-- The whole text, with nothing after the value. -/
def whole (reader : Reader α) (text : List Char) : Option α :=
  (reader text).bind fun (value, rest) => if rest.isEmpty then some value else none

/-- The value of a digit in the given radix. -/
def digitValue (radix : Nat) (c : Char) : Option Nat :=
  let value :=
    if '0' ≤ c ∧ c ≤ '9' then some (c.toNat - '0'.toNat)
    else if 'a' ≤ c ∧ c ≤ 'z' then some (c.toNat - 'a'.toNat + 10)
    else if 'A' ≤ c ∧ c ≤ 'Z' then some (c.toNat - 'A'.toNat + 10)
    else none
  value.filter (· < radix)

def isDigitOf (radix : Nat) (c : Char) : Bool :=
  (digitValue radix c).isSome

/-- The number written by `digits`, the most significant first. -/
def numberOf (radix : Nat) (digits : List Char) : Nat :=
  digits.foldl (fun value c => value * radix + (digitValue radix c).getD 0) 0

/-- As many digits as there are: at least one, at most `width` when a width is
given, no needless leading zero unless `zeros` allows it, and a value below
`bound`. -/
def number (radix : Nat) (width : Option Nat) (zeros : Bool) (bound : Nat) : Reader Nat := do
  let digits ← span1 (isDigitOf radix)
  let value := numberOf radix digits
  if width.any (· < digits.length) ∨ (!zeros ∧ digits.head? = some '0' ∧ 1 < digits.length)
      ∨ bound ≤ value then
    fail
  else
    pure value

end Reader

end Admission
