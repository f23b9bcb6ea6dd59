/-! # Numbers in decimal

Whole numbers, and numbers of binary64 with the fewest digits that read back.
-/

namespace Admission.Decimal

/-! ## Whole numbers

A whole number is written with digits and possibly a sign in front; leading zeros
are allowed, blanks are not. A number without a sign for "less than zero" may
still have a plus.
-/

def isDigit (c : Char) : Bool :=
  '0' ≤ c && c ≤ '9'

/-- The value of digits, the most significant first. -/
def valueOf (digits : List Char) : Nat :=
  digits.foldl (fun value c => value * 10 + (c.toNat - '0'.toNat)) 0

/-- At least one digit and nothing else. -/
def digits? (text : List Char) : Option Nat :=
  if text.isEmpty ∨ text.any (fun c => !isDigit c) then none else some (valueOf text)

/-- A number below `bound`, with an optional plus in front. -/
def natural? (bound : Nat) (text : List Char) : Option Nat :=
  let digits :=
    match text with
    | '+' :: rest => rest
    | _ => text
  (digits? digits).filter (· < bound)

/-- A number of at least `-bound` and below `bound`, with an optional sign in
front. -/
def integer? (bound : Nat) (text : List Char) : Option Int :=
  match text with
  | '-' :: rest => ((digits? rest).filter (· ≤ bound)).map fun value => -(value : Int)
  | _ => (natural? bound text).map Int.ofNat

/-! ## The fewest digits that read back

Of the decimals that round to a given binary64 number, the one with the fewest
digits is written, and of several the nearest. The numbers that round to it lie
between the midpoints to its neighbours, midpoints included when its significand
is even. For one digit, two digits and so on, only the two multiples of the power
of ten next to the number can lie there, so those two are tried.

All of this is exact arithmetic on natural numbers.
-/

/-- A finite number above zero and the numbers that round to it, as fractions
with one denominator. -/
structure Rounding where
  value : Nat
  /-- The midpoint to the neighbour below. -/
  low : Nat
  /-- The midpoint to the neighbour above. -/
  high : Nat
  denominator : Nat
  /-- Whether the midpoints round to the number. -/
  closed : Bool
  deriving Repr

namespace Rounding

/-- The number with significand `m` and exponent `q`, that is `m * 2 ^ q`. Below a
power of two the neighbours are closer, unless the exponent is the least. -/
def of (m : Nat) (q : Int) (lowest : Bool) : Rounding :=
  let exponent := q - 2
  let scale := Nat.pow 2 exponent.toNat
  let low := if m = Nat.pow 2 52 ∧ !lowest then 4 * m - 1 else 4 * m - 2
  { value := 4 * m * scale
    low := low * scale
    high := (4 * m + 2) * scale
    denominator := Nat.pow 2 (-exponent).toNat
    closed := m % 2 = 0 }

/-- Whether `c * unit / scale` rounds to the number. -/
def contains (r : Rounding) (c unit scale : Nat) : Bool :=
  if r.closed then r.low * scale ≤ c * unit && c * unit ≤ r.high * scale
  else r.low * scale < c * unit && c * unit < r.high * scale

/-- How often the number must be multiplied by ten until it is at least one, tried
up to `bound` times. -/
def shift (r : Rounding) : (bound power : Nat) → Nat
  | 0, _ => 0
  | bound + 1, power =>
    if r.denominator ≤ r.value * power then 0 else shift r bound (power * 10) + 1

/-- The least exponent of a power of ten above the number. -/
def magnitude (r : Rounding) : Int :=
  if r.denominator ≤ r.value then (Nat.toDigits 10 (r.value / r.denominator)).length
  else 1 - (r.shift 400 1 : Int)

/-- The multiple of `10 ^ exponent` that rounds to the number, where there is
one. Of two it is the nearer; at the same distance the even one. -/
def onGrid (r : Rounding) (exponent : Int) : Option Nat :=
  let unit := r.denominator * Nat.pow 10 exponent.toNat
  let scale := Nat.pow 10 (-exponent).toNat
  let below := r.value * scale / unit
  let above := below + 1
  match r.contains below unit scale, r.contains above unit scale with
  | false, false => none
  | true, false => some below
  | false, true => some above
  | true, true =>
    let down := r.value * scale - below * unit
    let up := above * unit - r.value * scale
    if down < up then some below
    else if up < down then some above
    else if below % 2 = 0 then some below else some above

/-- The first of `count` grids, from the coarsest on, with a number that rounds
right: its multiple and its exponent. -/
def search (r : Rounding) : (count : Nat) → (exponent : Int) → Nat × Int
  | 0, exponent => (r.value / r.denominator, exponent)
  | count + 1, exponent =>
    match r.onGrid exponent with
    | some c => (c, exponent)
    | none => r.search count (exponent - 1)

/-- A coefficient and an exponent of ten with the fewest digits. Seventeen digits
are always enough. -/
def shortest (r : Rounding) : Nat × Int :=
  r.search 17 (r.magnitude - 1)

end Rounding

inductive Kind64 where
  | nan
  | infinite
  | zero
  /-- A number above or below zero: `m * 2 ^ q`. -/
  | finite (m : Nat) (q : Int) (lowest : Bool)
  deriving DecidableEq, Repr

/-- Takes the bits of a number apart: whether the sign is set, and the rest. -/
def classify (bits : UInt64) : Bool × Kind64 :=
  let n := bits.toNat
  let fraction := n % Nat.pow 2 52
  let exponent : Nat := n / Nat.pow 2 52 % Nat.pow 2 11
  let kind :=
    if exponent = 2047 then if fraction = 0 then .infinite else .nan
    else if exponent = 0 then if fraction = 0 then .zero else .finite fraction (-1074) true
    else .finite (fraction + Nat.pow 2 52) ((exponent : Int) - 1075) (exponent = 1)
  (n / Nat.pow 2 63 = 1, kind)

/-! ## Binary64 numbers as text

Numbers are read in the usual notations: a sign, digits with or without a point,
an exponent, and words for infinity and for what is no number, in either case of
letters. They are written with the fewest digits that read back, always in
positional notation.
-/

def infinity : Float := Float.ofBits 0x7FF0000000000000

/-- What is no number. -/
def notANumber : Float := Float.ofBits 0x7FF8000000000000

/-- The binary64 number nearest to `m * 10 ^ e`. Far outside the range of the
finite numbers the power of ten is not needed. -/
def nearest (m : Nat) (e : Int) : Float :=
  if m = 0 then 0.0
  else
    let size := ((Nat.toDigits 10 m).length : Int) + e
    if 310 < size then infinity
    else if size < -330 then 0.0
    else Float.ofScientific m (e < 0) e.natAbs

/-- An exponent: nothing, or a letter, an optional sign and digits to the end. -/
def exponent? (text : List Char) : Option Int :=
  match text with
  | [] => some 0
  | c :: rest =>
    if c = 'e' ∨ c = 'E' then
      match rest with
      | '-' :: digits => (digits? digits).map fun value => -(value : Int)
      | '+' :: digits => (digits? digits).map Int.ofNat
      | _ => (digits? rest).map Int.ofNat
    else none

/-- A number above zero or zero: digits, perhaps a point and more digits, at least
one of them in all, and perhaps an exponent. -/
def magnitude? (text : List Char) : Option Float :=
  let whole := text.takeWhile isDigit
  let rest := text.dropWhile isDigit
  let (fraction, rest) :=
    match rest with
    | '.' :: rest => (rest.takeWhile isDigit, rest.dropWhile isDigit)
    | _ => ([], rest)
  if whole.isEmpty ∧ fraction.isEmpty then none
  else
    (exponent? rest).map fun e =>
      nearest (valueOf (whole ++ fraction)) (e - (fraction.length : Int))

/-- A number without its sign. -/
def unsigned? (text : List Char) : Option Float :=
  let word := String.ofList (text.map Char.toLower)
  if word = "inf" ∨ word = "infinity" then some infinity
  else if word = "nan" then some notANumber
  else magnitude? text

/-- Reads a number; nothing may stand before it or after it. -/
def read? (text : List Char) : Option Float :=
  match text with
  | '-' :: rest => (unsigned? rest).map fun value => -value
  | '+' :: rest => unsigned? rest
  | _ => unsigned? text

/-- The natural number nearest to a number, a half going up, kept below `bound`. What
is below zero, and what is no number, goes to zero. -/
def nearestNatural (bound : Nat) (value : Float) : Nat :=
  match classify value.toBits with
  | (false, .infinite) => bound - 1
  | (false, .finite m q _) =>
    let scale := Nat.pow 2 (-q).toNat
    min (bound - 1) ((2 * m * Nat.pow 2 q.toNat + scale) / (2 * scale))
  | _ => 0

def isZero (value : Float) : Bool :=
  (classify value.toBits).2 == .zero

/-- A coefficient without its trailing zeros, which go into the exponent. At most
`bound` zeros are taken. -/
def trimZeros : (bound c : Nat) → (e : Int) → Nat × Int
  | 0, c, e => (c, e)
  | bound + 1, c, e => if c % 10 = 0 then trimZeros bound (c / 10) (e + 1) else (c, e)

/-- `c * 10 ^ e` in positional notation. -/
def positional (c : Nat) (e : Int) : String :=
  let (c, e) := trimZeros 20 c e
  let digits := Nat.toDigits 10 c
  let zeros (count : Nat) : List Char := List.replicate count '0'
  if 0 ≤ e then String.ofList (digits ++ zeros e.toNat)
  else
    let places := (-e).toNat
    if places < digits.length then
      let (whole, fraction) := digits.splitAt (digits.length - places)
      String.ofList (whole ++ '.' :: fraction)
    else String.ofList ('0' :: '.' :: zeros (places - digits.length) ++ digits)

/-- Writes a number with the fewest digits that read back. -/
def write (value : Float) : String :=
  let (negative, kind) := classify value.toBits
  let sign := if negative then "-" else ""
  match kind with
  | .nan => "NaN"
  | .infinite => sign ++ "inf"
  | .zero => sign ++ "0"
  | .finite m q lowest =>
    let (c, e) := (Rounding.of m q lowest).shortest
    sign ++ positional c e

/-- Writes a number so that it shows a point, as messages about numbers do. -/
def writePointed (value : Float) : String :=
  let text := write value
  if value.isFinite && !text.toList.contains '.' then text ++ ".0" else text

end Admission.Decimal
