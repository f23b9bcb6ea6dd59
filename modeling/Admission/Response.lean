/-! # Responses

The server knows five responses and sends nothing else. Each is a whole HTTP
message: a status line, two header lines, and a body whose length is announced,
so a peer can tell a complete response from a cut one.
-/

namespace Admission

/-- What the server can say to a peer. -/
inductive Response where
  | ok
  /-- The peer sent no request in time. -/
  | requestTimeout
  /-- The peer was turned away by the rate limit. -/
  | rateLimited
  /-- Every slot of the pool was taken. -/
  | busy
  /-- The server no longer takes connections. -/
  | shuttingDown
  deriving DecidableEq, Repr

namespace Response

def all : List Response := [ok, requestTimeout, rateLimited, busy, shuttingDown]

def status : Response → Nat
  | ok => 200
  | requestTimeout => 408
  | rateLimited => 429
  | busy => 503
  | shuttingDown => 503

def reason : Response → String
  | ok => "OK"
  | requestTimeout => "Request Timeout"
  | rateLimited => "Too Many Requests"
  | busy => "Service Unavailable"
  | shuttingDown => "Service Unavailable"

/-- The body, which may be empty. -/
def body : Response → String
  | ok => "Hello world !"
  | requestTimeout => ""
  | rateLimited => "Rate limit exceeded"
  | busy => "Server busy, try again later"
  | shuttingDown => "Server shutting down"

def text (response : Response) : String :=
  "HTTP/1.1 " ++ toString response.status ++ " " ++ response.reason
    ++ "\r\nConnection: close\r\nContent-Length: " ++ toString response.body.utf8ByteSize
    ++ "\r\n\r\n" ++ response.body

def bytes (response : Response) : List UInt8 :=
  response.text.toUTF8.toList

end Response

end Admission
