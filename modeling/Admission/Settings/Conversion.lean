import Admission.Decimal
import Admission.Settings.Value
import Admission.Text.Characters
import Admission.Text.Quoted

/-! # From values to fields

What a field takes, and what is said about a value that it does not take.
-/

namespace Admission.Settings

/-! ## Mistakes in settings

What can be wrong with settings, and the message for it. A value of the wrong kind
is shown in one of two manners: where a field did not fit, the message tells the
field and the origin; where a whole section did not, it tells neither.
-/

/-- What was found in the place of something else. -/
inductive Found where
  | nothing
  | boolean (value : Bool)
  | integer (value : Int)
  /-- An integer that was already known not to be negative. -/
  | natural (value : Nat)
  | real (value : Float)
  | text (value : String)
  | list
  | table
  deriving Repr

namespace Found

def ofValue : Value → Found
  | .atom _ .nothing => nothing
  | .atom _ (.boolean value) => boolean value
  | .atom _ (.integer value) => integer value
  | .atom _ (.real value) => real value
  | .atom _ (.text value) => text value
  | .list .. => list
  | .table .. => table

/-- A kind of value with the value between marks. -/
def marked (kind shown : String) : String :=
  kind ++ " `" ++ shown ++ "`"

/-- The words for what stood in a field. -/
def inField : Found → String
  | nothing => "unit value"
  | boolean value => marked "boolean" (toString value)
  | integer value => marked "64-bit integer" (toString value)
  | natural value => marked "64-bit unsigned integer" (toString value)
  | real value => marked "floating point" (Decimal.write value)
  | text value => "string " ++ Text.quoted value
  | list => "sequence"
  | table => "map"

/-- The words for what stood in the place of a section. -/
def inSection : Found → String
  | integer value => marked "integer" (toString value)
  | natural value => marked "integer" (toString value)
  | real value => marked "floating point" (Decimal.writePointed value)
  | found => found.inField

end Found

/-- What a field can hold. -/
inductive Expected where
  /-- A number that is not negative. -/
  | natural
  | natural16
  | natural32
  /-- Anything that can be taken for a number. -/
  | integer
  | boolean
  | text
  deriving DecidableEq, Repr

namespace Expected

def words : Expected → String
  | natural => "an unsigned 64 bit or less integer"
  | natural16 => "an unsigned 16 bit integer"
  | natural32 => "an unsigned 32 bit integer"
  | integer => "an integer"
  | boolean => "a boolean"
  | text => "a string"

end Expected

/-- A value that does not fit its field. The origin is left out when the value was
read and only its size is wrong. -/
structure Mismatch where
  found : Found
  expected : Expected
  origin : Option Origin
  deriving Repr

/-- What can be wrong with settings. -/
inductive Mistake where
  /-- The file is not of the form its name says. -/
  | unreadable
  | mistyped (mismatch : Mismatch) (key : String)
  | notASection (found : Found) (expected : Section)
  | unknownFormat (name : String)
  /-- Something else than a name stands for the log format. -/
  | notAFormat
  deriving Repr

namespace Mistake

/-- The message for a mistake; how a file is malformed is not told. -/
def message? : Mistake → Option String
  | unreadable => none
  | mistyped ⟨found, expected, origin⟩ key =>
    let place := (origin.map fun origin => " in " ++ origin.text).getD ""
    some ("invalid type: " ++ found.inField ++ ", expected " ++ expected.words
      ++ Found.marked " for key" key ++ place)
  | notASection found expected =>
    some ("invalid type: " ++ found.inSection ++ ", expected struct " ++ expected.title)
  | unknownFormat name => some ("enum LogFormat does not have variant constructor " ++ name)
  | notAFormat =>
    some ("value of enum LogFormat should be represented by either string or table "
      ++ "with exactly one key")

end Mistake

/-! ## Converting values

A field takes more than values of its own kind. Numbers come from real numbers,
booleans and texts as well; booleans from numbers and words; texts from everything
that is a single value.
-/

/-- The words for yes and no, in any case of letters. -/
def truthOfWord? (text : String) : Option Bool :=
  match Text.lower text with
  | "true" | "on" | "yes" => some true
  | "false" | "off" | "no" => some false
  | _ => none

namespace Value

def mismatch (value : Value) (expected : Expected) : Mismatch :=
  ⟨Found.ofValue value, expected, value.origin⟩

/-- A number of 64 bits without a sign. -/
def toNatural (value : Value) : Except Mismatch Nat :=
  match value with
  | .atom _ (.integer i) => if i < 0 then .error (value.mismatch .natural) else .ok i.toNat
  | .atom _ (.boolean b) => .ok (if b then 1 else 0)
  | .atom _ (.real x) => .ok (Decimal.nearestNatural (Nat.pow 2 64) x)
  | .atom _ (.text s) =>
    match truthOfWord? s with
    | some b => .ok (if b then 1 else 0)
    | none =>
      match Decimal.natural? (Nat.pow 2 64) s.toList with
      | some n => .ok n
      | none => .error (value.mismatch .integer)
  | _ => .error (value.mismatch .integer)

/-- A number below `bound`. -/
def toNaturalBelow (bound : Nat) (expected : Expected) (value : Value) : Except Mismatch Nat :=
  value.toNatural.bind fun n =>
    if n < bound then .ok n else .error ⟨.natural n, expected, none⟩

def toWord16 (value : Value) : Except Mismatch UInt16 :=
  (value.toNaturalBelow (Nat.pow 2 16) .natural16).map Nat.toUInt16

def toWord32 (value : Value) : Except Mismatch UInt32 :=
  (value.toNaturalBelow (Nat.pow 2 32) .natural32).map Nat.toUInt32

def toWord64 (value : Value) : Except Mismatch UInt64 :=
  value.toNatural.map Nat.toUInt64

/-- A boolean. Every number but zero is true, and so is what is no number. -/
def toBool (value : Value) : Except Mismatch Bool :=
  match value with
  | .atom _ (.boolean b) => .ok b
  | .atom _ (.integer i) => .ok (i ≠ 0)
  | .atom _ (.real x) => .ok (!Decimal.isZero x)
  | .atom origin (.text s) =>
    match truthOfWord? s with
    | some b => .ok b
    | none =>
      if s = "1" then .ok true
      else if s = "0" then .ok false
      else .error ⟨.text (Text.lower s), .boolean, origin⟩
  | _ => .error (value.mismatch .boolean)

def toText (value : Value) : Except Mismatch String :=
  match value with
  | .atom _ (.text s) => .ok s
  | .atom _ (.boolean b) => .ok (toString b)
  | .atom _ (.integer i) => .ok (toString i)
  | .atom _ (.real x) => .ok (Decimal.write x)
  | _ => .error (value.mismatch .text)

end Value

end Admission.Settings
