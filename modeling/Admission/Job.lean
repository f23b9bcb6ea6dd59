import Admission.Fault
import Admission.Network
import Admission.Text.Utf8

/-! # Jobs and their connections

A job is a connection that was given a number, and what its peer does is a script.
-/

namespace Admission

/-! ## Scripted connections

The peer behind a connection follows a script: for reads, for writes and for the
shutdown it has a list of beats, each a wait of some milliseconds, a stall that
never ends, or an act. A call of the server consumes beats until it meets an act.
The connection keeps a record of what reached the peer.

Each call runs under a limit. A call that is reached exactly at its limit is in
time: `Script.meet` lets a wait pass as long as it fits into what is left.
-/

/-- One beat of a peer's script. -/
inductive Beat (α : Type) where
  /-- The call is pending for so many milliseconds. -/
  | wait (ms : Nat)
  /-- The call is pending for ever. -/
  | stall
  | act (what : α)
  deriving DecidableEq, Repr

/-- What a peer will do, call by call. -/
abbrev Script (α : Type) := List (Beat α)

/-- How a read ends: with an error, or with bytes. No bytes end the stream. -/
inductive ReadAct where
  | fail (kind : IoKind)
  | deliver (count : Nat)
  deriving DecidableEq, Repr

/-- How a single write ends: with an error, or by taking some of the bytes. -/
inductive WriteAct where
  | fail (kind : IoKind)
  | accept (count : Nat)
  deriving DecidableEq, Repr

/-- How a shutdown ends. -/
inductive CloseAct where
  | fail (kind : IoKind)
  | succeed
  deriving DecidableEq, Repr

/-- What became of a connection so far. -/
structure Record where
  written : List UInt8 := []
  /-- Shutdown calls that came to an end, failed ones included. -/
  shutdowns : Nat := 0
  drops : Nat := 0
  /-- Read calls that came to an end, failed ones included. -/
  reads : Nat := 0
  bytesRead : Nat := 0
  deriving DecidableEq, Repr

namespace Record

def closedOnce (record : Record) : Bool :=
  record.shutdowns == 1 && record.drops == 1

def text (record : Record) : String :=
  Text.decode record.written

end Record

/-- A connection: what its peer will still do, and what happened so far. -/
structure Connection where
  reads : Script ReadAct := []
  writes : Script WriteAct := []
  closing : Script CloseAct := []
  record : Record := {}
  deriving DecidableEq, Repr

/-- How a call ended: it did what it was asked for, it met the end of the stream,
it failed, or its limit passed first. -/
inductive Reply where
  | done
  | ended
  | failed
  | late
  deriving DecidableEq, Repr

namespace Script

variable {α : Type}

/-- What a call meets within its limit. -/
inductive Meeting (α : Type) where
  /-- An act, after `took` milliseconds, with the beats behind it. -/
  | reached (what : α) (took : Nat) (rest : Script α)
  /-- The end of the script, after `took` milliseconds. -/
  | spent (took : Nat)
  /-- Neither: the limit passes first, with these beats still to come. -/
  | late (rest : Script α)
  deriving DecidableEq, Repr

def Meeting.after (ms : Nat) : Meeting α → Meeting α
  | reached what took rest => reached what (ms + took) rest
  | spent took => spent (ms + took)
  | late rest => late rest

/-- Follows the script until an act or its end, as long as the waits fit into the
`left` milliseconds. -/
def meet : Script α → (left : Nat) → Meeting α
  | [], _ => .spent 0
  | .wait ms :: rest, left =>
    if ms ≤ left then (meet rest (left - ms)).after ms else .late (.wait ms :: rest)
  | .stall :: rest, _ => .late (.stall :: rest)
  | .act what :: rest, _ => .reached what 0 rest

def waiting : Script α → Nat
  | [] => 0
  | .wait ms :: rest => ms + waiting rest
  | _ :: rest => waiting rest

end Script

/-- A call that has ended: how, after how many milliseconds, and the connection
then. -/
structure Ended where
  reply : Reply
  took : Nat
  conn : Connection
  deriving DecidableEq, Repr

namespace Connection

def dropped (conn : Connection) : Connection :=
  { conn with record := { conn.record with drops := conn.record.drops + 1 } }

/-- The connection after a read that ended, having delivered `count` bytes. -/
def delivered (conn : Connection) (count : Nat) : Connection :=
  { conn with record :=
      { conn.record with
        reads := conn.record.reads + 1
        bytesRead := conn.record.bytesRead + count } }

def took (conn : Connection) (bytes : List UInt8) : Connection :=
  { conn with record := { conn.record with written := conn.record.written ++ bytes } }

def closed (conn : Connection) : Connection :=
  { conn with record := { conn.record with shutdowns := conn.record.shutdowns + 1 } }

/-- What a read act makes of the connection: at most `room` bytes fit, the others
stay for a later read. -/
def readAct (conn : Connection) (room : Nat) : ReadAct → Script ReadAct → Reply × Connection
  | .fail _, rest => (.failed, { conn.delivered 0 with reads := rest })
  | .deliver count, rest =>
    let rest := if room < count then .act (.deliver (count - room)) :: rest else rest
    let given := min room count
    (if given = 0 then .ended else .done, { conn.delivered given with reads := rest })

def closeAct (conn : Connection) : CloseAct → Script CloseAct → Reply × Connection
  | .fail _, rest => (.failed, { conn.closed with closing := rest })
  | .succeed, rest => (.done, { conn.closed with closing := rest })

/-- One read of at most `room` bytes within `limit` milliseconds. A peer whose
script is used up stays silent. -/
def read (conn : Connection) (room limit : Nat) : Ended :=
  match conn.reads.meet limit with
  | .reached what took rest =>
    let (reply, conn) := conn.readAct room what rest
    ⟨reply, took, conn⟩
  | .spent _ => ⟨.late, limit, { conn with reads := [] }⟩
  | .late rest => ⟨.late, limit, { conn with reads := rest }⟩

/-- Whether a write that met this error is tried again at once. -/
def retried (kind : IoKind) : Bool :=
  kind == .interrupted

/-- Writes all the bytes within `left` milliseconds, along the given script. An
interrupted write is tried again; any other error ends the call, and so does a
write that takes nothing. A peer whose script is used up takes everything. -/
def writeAlong (conn : Connection) :
    Script WriteAct → (bytes : List UInt8) → (left : Nat) → Ended
  | script, [], _ => ⟨.done, 0, { conn with writes := script }⟩
  | [], bytes, _ => ⟨.done, 0, { conn.took bytes with writes := [] }⟩
  | .wait ms :: rest, bytes, left =>
    if ms ≤ left then
      let ended := writeAlong conn rest bytes (left - ms)
      { ended with took := ms + ended.took }
    else
      ⟨.late, left, { conn with writes := .wait ms :: rest }⟩
  | .stall :: rest, _, left => ⟨.late, left, { conn with writes := .stall :: rest }⟩
  | .act (.fail kind) :: rest, bytes, left =>
    if retried kind then writeAlong conn rest bytes left
    else ⟨.failed, 0, { conn with writes := rest }⟩
  | .act (.accept count) :: rest, bytes, left =>
    if count = 0 then ⟨.failed, 0, { conn with writes := rest }⟩
    else writeAlong (conn.took (bytes.take count)) rest (bytes.drop count) left

def write (conn : Connection) (bytes : List UInt8) (limit : Nat) : Ended :=
  conn.writeAlong conn.writes bytes limit

/-- One shutdown within `limit` milliseconds. A peer whose script is used up lets
it succeed. -/
def shutdown (conn : Connection) (limit : Nat) : Ended :=
  match conn.closing.meet limit with
  | .reached what took rest =>
    let (reply, conn) := conn.closeAct what rest
    ⟨reply, took, conn⟩
  | .spent took => ⟨.done, took, { conn.closed with closing := [] }⟩
  | .late rest => ⟨.late, limit, { conn with closing := rest }⟩

end Connection

/-! ## Jobs

A job is a connection with a number of its own and, where it is known, the
address of its peer.
-/

/-- What identifies a job. -/
structure Job where
  id : Nat
  peer : Option SocketAddress := none
  deriving DecidableEq, Repr

namespace Job

/-- The head of the long form of a job, up to the instant it was taken in. -/
def longHead (job : Job) : String :=
  let peer :=
    match job.peer with
    | none => "None"
    | some address => "Some(" ++ address.text ++ ")"
  "Job \x7b id: " ++ toString job.id ++ ", peer: " ++ peer ++ ", "

/-- The tail of the long form, after the instant. -/
def longTail : String := ", .. "

end Job

end Admission
