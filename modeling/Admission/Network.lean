import Admission.Fault
import Admission.Reader

/-! # The network

Addresses and how they are written, the names that stand for them, and what a machine's network
allows.
-/

namespace Admission

/-! ## Socket addresses

An address is four octets or eight groups of sixteen bits, with a port, and for
the second kind a scope. Reading is strict: an octet has no leading zero, the
longer kind stands in brackets, and nothing may follow. Writing shortens the
longest run of at least two zero groups.
-/

/-- The host part of an address. -/
inductive IpAddress where
  /-- Four octets. -/
  | v4 (a b c d : Nat)
  /-- Eight groups of sixteen bits, the most significant first. -/
  | v6 (groups : List Nat)
  deriving DecidableEq, Repr

/-- A host part with a port; `scope` is zero except for some addresses of eight
groups. -/
structure SocketAddress where
  ip : IpAddress
  port : Nat
  scope : Nat := 0
  deriving DecidableEq, Repr

namespace IpAddress

open Reader

def readV4 : Reader (Nat × Nat × Nat × Nat) := do
  let octet := number 10 (some 3) false 256
  let a ← octet
  char '.'
  let b ← octet
  char '.'
  let c ← octet
  char '.'
  let d ← octet
  pure (a, b, c, d)

/-- A colon before every group but the first. -/
def separated {α : Type} (isFirst : Bool) (reader : Reader α) : Reader α := do
  if !isFirst then char ':'
  reader

/-- Up to `room` groups with colons between them. Where two groups of room are
left, four octets may stand for them; they end the list, and the flag tells of
it. -/
def readGroups : (room : Nat) → (isFirst : Bool) → List Char → List Nat × Bool × List Char
  | 0, _, text => ([], false, text)
  | room + 1, isFirst, text =>
    let octets := if room = 0 then none else separated isFirst readV4 text
    match octets with
    | some ((a, b, c, d), rest) => ([a * 256 + b, c * 256 + d], true, rest)
    | none =>
      match separated isFirst (number 16 (some 4) true 65536) text with
      | none => ([], false, text)
      | some (group, rest) =>
        let (groups, ended, rest) := readGroups room false rest
        (group :: groups, ended, rest)

/-- Eight groups, or fewer with one double colon that stands for at least one
zero group. -/
def readV6 : Reader (List Nat) := fun text =>
  let (head, ended, rest) := readGroups 8 true text
  if head.length = 8 then some (head, rest)
  else if ended then none
  else
    (chars [':', ':'] rest).map fun (_, rest) =>
      let (tail, _, rest) := readGroups (7 - head.length) true rest
      (head ++ List.replicate (8 - head.length - tail.length) 0 ++ tail, rest)

/-- A host part alone, as a listener's setting writes it, without brackets. -/
def parse? (text : String) : Option IpAddress :=
  match whole readV4 text.toList with
  | some (a, b, c, d) => some (.v4 a b c d)
  | none => (whole readV6 text.toList).map .v6

/-- Groups in hexadecimal with colons between them. -/
def writeGroups (groups : List Nat) : String :=
  ":".intercalate (groups.map fun group => String.ofList (Nat.toDigits 16 group))

/-- The first of the longest runs of zero groups: where it starts and how long
it is. -/
def longestZeros (groups : List Nat) : Nat × Nat :=
  let step := fun (state : Nat × Nat × Nat × Nat) (group : Nat) =>
    let (index, current, start, length) := state
    let current := if group = 0 then current + 1 else 0
    if length < current then (index + 1, current, index + 1 - current, current)
    else (index + 1, current, start, length)
  let (_, _, start, length) := groups.foldl step (0, 0, 0, 0)
  (start, length)

def text : IpAddress → String
  | v4 a b c d => s!"{a}.{b}.{c}.{d}"
  | v6 [0, 0, 0, 0, 0, 0xffff, high, low] =>
    s!"::ffff:{high / 256}.{high % 256}.{low / 256}.{low % 256}"
  | v6 groups =>
    let (start, length) := longestZeros groups
    if 1 < length then
      writeGroups (groups.take start) ++ "::" ++ writeGroups (groups.drop (start + length))
    else
      writeGroups groups

end IpAddress

namespace SocketAddress

open Reader

def readPort : Reader Nat := do
  char ':'
  number 10 none true 65536

def readScope : Reader Nat := do
  let scope ← perhaps do
    char '%'
    number 10 none true 4294967296
  pure (scope.getD 0)

/-- Four octets and a port. -/
def readV4 : Reader SocketAddress := do
  let (a, b, c, d) ← IpAddress.readV4
  let port ← readPort
  pure { ip := .v4 a b c d, port }

/-- Eight groups in brackets, with the scope where one is given, and a port. -/
def readV6 : Reader SocketAddress := do
  char '['
  let groups ← IpAddress.readV6
  let scope ← readScope
  char ']'
  let port ← readPort
  pure { ip := .v6 groups, port, scope }

/-- Reads a socket address and nothing else. -/
def parse? (text : String) : Option SocketAddress :=
  (whole readV4 text.toList).orElse fun _ => whole readV6 text.toList

def text (address : SocketAddress) : String :=
  match address.ip with
  | .v4 .. => address.ip.text ++ ":" ++ toString address.port
  | .v6 _ =>
    let scope := if address.scope = 0 then "" else "%" ++ toString address.scope
    "[" ++ address.ip.text ++ scope ++ "]:" ++ toString address.port

end SocketAddress

/-! ## Names -/

/-- What the names of hosts stand for on a machine: for each of them, the first of its addresses
that a listener can be bound to. -/
abbrev Resolver := String → Except IoFault IpAddress

/-- Knows the machine by its own name, and nobody else. -/
def Resolver.loopback : Resolver := fun name =>
  if name = "localhost" then .ok (.v4 127 0 0 1) else .error .unknownHost

/-! ## Listeners and clients

What a machine's network allows: listening needs a port that nobody else listens
on, and a client needs a network that carries connections and somebody who listens.
-/

/-- The network of a machine. -/
structure Network where
  reachable : Bool
  /-- The ports on which somebody listens. -/
  taken : List UInt16 := []
  deriving DecidableEq, Repr

namespace Network

/-- A network that lets listeners listen and carries no connection. -/
def cutOff : Network := { reachable := false }

/-- Listens on a port. Port zero lets the system choose one that is free. -/
def listen (network : Network) (port : UInt16) : Except IoFault Network :=
  if port = 0 then .ok network
  else if network.taken.contains port then .error .addressTaken
  else .ok { network with taken := port :: network.taken }

/-- Whether a client gets through to somebody who may be listening. -/
def connect (network : Network) (listening : Bool) : Except IoFault Unit :=
  if !network.reachable then .error { kind := .networkUnreachable }
  else if listening then .ok ()
  else .error { kind := .connectionRefused }

end Network

end Admission
