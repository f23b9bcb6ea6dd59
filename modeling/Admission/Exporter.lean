import Admission.Metrics
import Admission.Network

/-! # The metrics exporter

The exporter answers requests for one path, its endpoint, with the counters as
text. Only `GET` and `HEAD` are served there, and the second one gets no body; other
paths are not found.
-/

namespace Admission

/-- A request, as far as the exporter looks at it. -/
structure ScrapeRequest where
  method : String := "GET"
  /-- The path, possibly with a question mark and what follows. -/
  target : String := "/metrics"
  deriving DecidableEq, Repr

/-- An answer of the exporter. -/
structure ScrapeAnswer where
  status : Nat
  reason : String
  contentType : Option String := none
  /-- The methods that are served, where another one was asked for. -/
  allow : Option String := none
  /-- How many octets the body has, or would have. -/
  contentLength : Nat := 0
  body : String := ""
  deriving DecidableEq, Repr

namespace ScrapeAnswer

/-- The first line of an answer. -/
def statusLine (answer : ScrapeAnswer) : String :=
  "HTTP/1.1 " ++ toString answer.status ++ " " ++ answer.reason

end ScrapeAnswer

inductive EndpointFault where
  | empty
  /-- It does not begin with a slash. -/
  | unrooted
  deriving DecidableEq, Repr

namespace EndpointFault

def message : EndpointFault → String
  | empty => "Paths must start with a `/`. Use \"/\" for root routes"
  | unrooted => "Paths must start with a `/`"

end EndpointFault

/-- The exporter: the path it answers. -/
structure Exporter where
  endpoint : String
  deriving DecidableEq, Repr

namespace Exporter

def at? (endpoint : String) : Except EndpointFault Exporter :=
  match endpoint.toList with
  | [] => .error .empty
  | '/' :: _ => .ok ⟨endpoint⟩
  | _ => .error .unrooted

def contentType : String := "text/plain; version=0.0.4"

def answer (exporter : Exporter) (metrics : Metrics) (request : ScrapeRequest) : ScrapeAnswer :=
  let path := String.ofList (request.target.toList.takeWhile (· ≠ '?'))
  let body := metrics.render
  let found : ScrapeAnswer :=
    { status := 200, reason := "OK", contentType := some contentType,
      contentLength := body.utf8ByteSize }
  if path ≠ exporter.endpoint then { status := 404, reason := "Not Found" }
  else if request.method = "GET" then { found with body }
  else if request.method = "HEAD" then found
  else { status := 405, reason := "Method Not Allowed", allow := some "GET,HEAD" }

/-- The answer to a request that goes over a network. -/
def scrape (exporter : Exporter) (network : Network) (metrics : Metrics)
    (request : ScrapeRequest) : Except IoFault ScrapeAnswer :=
  (network.connect true).map fun _ => exporter.answer metrics request

end Exporter

end Admission
