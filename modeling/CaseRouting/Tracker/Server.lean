import CaseRouting.Action
import CaseRouting.Json.Value
import CaseRouting.Text.Utf8

/-!
# The server of the tracker

The tracker is reached by requests over HTTP. What becomes of a request is up to the transport. One
transport leads to a server that has its replies laid out beforehand, one for each request in turn,
and keeps what it received. If it does not listen, it neither replies nor notices.
-/

namespace CaseRouting.Tracker

open Json (Value)

inductive Method where
  | get
  | post
  | put
  deriving DecidableEq

def Method.name : Method → String
  | .get => "GET"
  | .post => "POST"
  | .put => "PUT"

structure Request where
  method : Method
  url : String
  authorization : Option String
  body : Option Value

structure Reply where
  status : Nat
  body : Bytes
  deriving DecidableEq

/-- A way to send a request and to wait for its reply. -/
abbrev Transport (σ : Type) := Request → Action σ Reply

structure Server where
  listening : Bool
  replies : List Reply
  received : List Request

def Reply.isSuccess (r : Reply) : Bool := 200 ≤ r.status && r.status < 300

/-- A header may hold any bytes but control characters other than the tab. -/
def isHeaderText (s : String) : Bool :=
  s.toList.all fun c => c == '\t' || (0x20 ≤ c.toNat && c.toNat ≠ 0x7F)

/-- The way to a server with its replies laid out. -/
def send : Transport Server := fun r => do
  if !(r.authorization.all isHeaderText) then Action.fail (.request .illFormed)
  else
    let server ← Action.get
    if !server.listening then Action.fail (.request (.unsent r.url))
    else
      Action.set { server with
        received := server.received ++ [r]
        replies := server.replies.drop 1 }
      match server.replies with
      | reply :: _ => pure reply
      | [] => Action.fail (.request (.unsent r.url))

/-- The words that go with a status. -/
def reason (status : Nat) : String :=
  match status with
  | 100 => "Continue"
  | 101 => "Switching Protocols"
  | 102 => "Processing"
  | 103 => "Early Hints"
  | 200 => "OK"
  | 201 => "Created"
  | 202 => "Accepted"
  | 203 => "Non Authoritative Information"
  | 204 => "No Content"
  | 205 => "Reset Content"
  | 206 => "Partial Content"
  | 207 => "Multi-Status"
  | 208 => "Already Reported"
  | 226 => "IM Used"
  | 300 => "Multiple Choices"
  | 301 => "Moved Permanently"
  | 302 => "Found"
  | 303 => "See Other"
  | 304 => "Not Modified"
  | 305 => "Use Proxy"
  | 307 => "Temporary Redirect"
  | 308 => "Permanent Redirect"
  | 400 => "Bad Request"
  | 401 => "Unauthorized"
  | 402 => "Payment Required"
  | 403 => "Forbidden"
  | 404 => "Not Found"
  | 405 => "Method Not Allowed"
  | 406 => "Not Acceptable"
  | 407 => "Proxy Authentication Required"
  | 408 => "Request Timeout"
  | 409 => "Conflict"
  | 410 => "Gone"
  | 411 => "Length Required"
  | 412 => "Precondition Failed"
  | 413 => "Payload Too Large"
  | 414 => "URI Too Long"
  | 415 => "Unsupported Media Type"
  | 416 => "Range Not Satisfiable"
  | 417 => "Expectation Failed"
  | 418 => "I'm a teapot"
  | 421 => "Misdirected Request"
  | 422 => "Unprocessable Entity"
  | 423 => "Locked"
  | 424 => "Failed Dependency"
  | 425 => "Too Early"
  | 426 => "Upgrade Required"
  | 428 => "Precondition Required"
  | 429 => "Too Many Requests"
  | 431 => "Request Header Fields Too Large"
  | 451 => "Unavailable For Legal Reasons"
  | 500 => "Internal Server Error"
  | 501 => "Not Implemented"
  | 502 => "Bad Gateway"
  | 503 => "Service Unavailable"
  | 504 => "Gateway Timeout"
  | 505 => "HTTP Version Not Supported"
  | 506 => "Variant Also Negotiates"
  | 507 => "Insufficient Storage"
  | 508 => "Loop Detected"
  | 510 => "Not Extended"
  | 511 => "Network Authentication Required"
  | _ => "<unknown status code>"

def statusText (status : Nat) : String := toString status ++ " " ++ reason status

end CaseRouting.Tracker
