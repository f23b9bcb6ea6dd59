/-! # Text as octets

A text is sent as its octets in UTF-8. Octets that a peer received need not end
between characters. They are shown as text by replacing what is not UTF-8: a lead
octet together with the longest run of octets that could still have continued it
becomes one replacement character.
-/

namespace Admission.Text

/-- A text as octets, in UTF-8. -/
def octets (text : String) : List UInt8 :=
  text.toUTF8.data.toList

/-- A character whose octets are still arriving: the bits so far, how many octets
are owed, and the range of the next one. -/
structure Partial where
  bits : Nat
  owed : Nat
  low : Nat
  high : Nat
  deriving DecidableEq, Repr

/-- The character that stands for octets which are not UTF-8. -/
def replacement : Char := '\uFFFD'

/-- What an octet means between characters: a character of its own, the lead of a
longer one, or nothing that UTF-8 allows. -/
def lead (octet : Nat) : Char ⊕ Option Partial :=
  if octet < 0x80 then .inl (Char.ofNat octet)
  else if octet < 0xC2 then .inr none
  else if octet < 0xE0 then .inr (some ⟨octet - 0xC0, 1, 0x80, 0xBF⟩)
  else if octet = 0xE0 then .inr (some ⟨0, 2, 0xA0, 0xBF⟩)
  else if octet = 0xED then .inr (some ⟨0x0D, 2, 0x80, 0x9F⟩)
  else if octet < 0xF0 then .inr (some ⟨octet - 0xE0, 2, 0x80, 0xBF⟩)
  else if octet = 0xF0 then .inr (some ⟨0, 3, 0x90, 0xBF⟩)
  else if octet < 0xF4 then .inr (some ⟨octet - 0xF0, 3, 0x80, 0xBF⟩)
  else if octet = 0xF4 then .inr (some ⟨4, 3, 0x80, 0x8F⟩)
  else .inr none

/-- The characters an octet completes between characters, and what it leaves
open. -/
def startWith (octet : Nat) : List Char × Option Partial :=
  match lead octet with
  | .inl c => ([c], none)
  | .inr (some opened) => ([], some opened)
  | .inr none => ([replacement], none)

/-- The characters an octet completes after `state`, and what is open then. -/
def octetStep (state : Option Partial) (octet : Nat) : List Char × Option Partial :=
  match state with
  | none => startWith octet
  | some opened =>
    if opened.low ≤ octet ∧ octet ≤ opened.high then
      let bits := opened.bits * 64 + (octet - 0x80)
      if opened.owed = 1 then ([Char.ofNat bits], none)
      else ([], some ⟨bits, opened.owed - 1, 0x80, 0xBF⟩)
    else
      let (found, next) := startWith octet
      (replacement :: found, next)

/-- Octets as characters, from a state between or inside characters. -/
def decodeFrom : Option Partial → List Nat → List Char
  | none, [] => []
  | some _, [] => [replacement]
  | state, octet :: rest =>
    let (found, next) := octetStep state octet
    found ++ decodeFrom next rest

/-- Octets as text, with replacement characters for what is not UTF-8. -/
def decode (octets : List UInt8) : String :=
  String.ofList (decodeFrom none (octets.map UInt8.toNat))

end Admission.Text
