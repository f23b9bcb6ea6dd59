import Admission.Decimal
import Admission.Text.Characters

/-! # Hosts

A setting may name the host to listen on as a URL. What counts of it is the host:
the scheme, the path and the port are left out, and so is white space around the
whole.
-/

namespace Admission.Host

/-- What follows the first `://`, if there is one. -/
def afterScheme? : List Char → Option (List Char)
  | ':' :: '/' :: '/' :: rest => some rest
  | _ :: rest => afterScheme? rest
  | [] => none

def withoutScheme (text : List Char) : List Char :=
  (afterScheme? text).getD text

/-- The part before the first slash. -/
def authority (text : List Char) : List Char :=
  text.takeWhile (· != '/')

/-- The parts before and after the last colon. -/
def splitAtLastColon : List Char → Option (List Char × List Char)
  | [] => none
  | c :: rest =>
    match splitAtLastColon rest with
    | some (before, after) => some (c :: before, after)
    | none => if c = ':' then some ([], rest) else none

/-- Whether a text is a port: a number of 16 bits, with an optional plus and any
number of leading zeros. -/
def isPort (text : List Char) : Bool :=
  (Decimal.natural? 65536 text).isSome

/-- Whether a port may follow this host: the host has no colon, or ends in a
bracket. -/
def takesPort (host : List Char) : Bool :=
  !host.contains ':' || host.getLast? == some ']'

/-- The authority without its port. Colons that do not set off a port stay: they
belong to a bare address of eight groups. -/
def withoutPort (authority : List Char) : List Char :=
  match splitAtLastColon authority with
  | some (host, port) => if takesPort host && isPort port then host else authority
  | none => authority

def ofChars (raw : List Char) : List Char :=
  withoutPort (authority (withoutScheme (Text.trim raw)))

/-- The host that a setting names. -/
def normalize (raw : String) : String :=
  String.ofList (ofChars raw.toList)

end Admission.Host
