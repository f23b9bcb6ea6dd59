import Admission.Response
import Admission.Task

/-! # Processors

What is done with a connection that was taken in. Every way ends with one
response, one bounded shutdown and one drop. `serve` reads once and answers;
`answer` does not read; a gated processor answers after it was let through.
-/

namespace Admission

/-- Limits that are not settings, in milliseconds. -/
structure Limits where
  /-- For the shutdown at the end of a connection. -/
  close : Nat := 500
  /-- For the response to a refused connection. -/
  reject : Nat := 250
  /-- For the response to a peer that sent no request. -/
  apology : Nat := 1000
  /-- For the response of a processor that does not read. -/
  answer : Nat := 1000
  deriving DecidableEq, Repr

def limits : Limits := {}

/-- The bytes that the one read of a connection may deliver. -/
def readRoom : Nat := 4096

/-- How the processing of a job ended. -/
inductive Outcome where
  | responded
  /-- The peer sent nothing in time. -/
  | readTimedOut
  /-- The peer closed, or reading failed. -/
  | readFailed
  /-- The response was not written completely. -/
  | writeFailed
  deriving DecidableEq, Repr

namespace Outcome

def all : List Outcome := [responded, readTimedOut, readFailed, writeFailed]

/-- Only a complete response is a success. -/
def isSuccess : Outcome → Bool
  | responded => true
  | _ => false

end Outcome

/-- A shutdown under its limit, then the drop. -/
def closeTask : Task Unit :=
  .ask (.shutdown limits.close) fun _ => .drop (.finish ())

/-- Writes a response under a limit and closes the connection, whether or not the
response was written; answers whether it was. -/
def respondTask (response : Response) (limit : Nat) : Task Bool :=
  .ask (.write response.bytes limit) fun reply =>
    closeTask.andThen fun _ => .finish (reply == .done)

/-- Reads once and answers. A read that brings nothing in time is answered with
an apology, and its cause is the outcome. -/
def serveTask (readLimit writeLimit : Nat) : Task Outcome :=
  let apologize (outcome : Outcome) : Task Outcome :=
    (respondTask .requestTimeout limits.apology).andThen fun _ => .finish outcome
  .ask (.read readRoom readLimit) fun
    | .done => (respondTask .ok writeLimit).andThen fun written =>
        .finish (if written then .responded else .writeFailed)
    | .late => apologize .readTimedOut
    | .ended => apologize .readFailed
    | .failed => apologize .readFailed

def answerTask : Task Outcome :=
  (respondTask .ok limits.answer).andThen fun written =>
    .finish (if written then .responded else .writeFailed)

/-- What the workers of a pool do with a job. -/
inductive Handling where
  /-- Reads once and answers, under these limits in milliseconds. -/
  | serve (readLimit writeLimit : Nat)
  | answer
  /-- Answers after it was let through the gate. -/
  | gated
  deriving DecidableEq, Repr

/-- How jobs are handled, and which of them break off. -/
structure Processor where
  handling : Handling
  /-- The jobs whose processing breaks off before anything else. -/
  broken : List Nat := []
  deriving DecidableEq, Repr

namespace Processor

def task (processor : Processor) (id : Nat) : Task Outcome :=
  if processor.broken.contains id then .crash
  else
    match processor.handling with
    | .serve readLimit writeLimit => serveTask readLimit writeLimit
    | .answer => answerTask
    | .gated => .pass answerTask

/-- Whether the processor counts the jobs it starts and finishes. -/
def counts (processor : Processor) : Bool :=
  match processor.handling with
  | .serve .. => false
  | .answer => true
  | .gated => true

end Processor

end Admission
