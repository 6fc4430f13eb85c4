import Holdfast.Http.Header
import Holdfast.Http.Target
import Holdfast.Json.Basic

/-!
# Requests and responses

What a caller sends and what comes back.
-/

namespace Holdfast.Http

/-- A request. -/
structure Request where
  method : String := "GET"
  target : Target
  headers : Headers := []
  body : String := ""
  /-- Is it a handshake on a transport that can become a live connection? -/
  handshake : Bool := false

/-- Why something is no request. -/
inductive Malformed where
  | target
  | header
  deriving DecidableEq

namespace Request

/-- A request with the given target and fields, if they are well formed. -/
def read (method target : String) (headers : Headers) (body : String) (handshake : Bool) :
    Except Malformed Request :=
  match Target.read? target with
  | none => .error .target
  | some target =>
    if headers.areValid then .ok { method, target, headers, body, handshake } else .error .header

/-- The longest body that is read, in octets. -/
def maxBody : Nat := 2097152

/-- Do the fields ask for a live connection? -/
def asksForConnection (r : Request) : Bool :=
  ((r.headers.get? "connection").map (·.toLower)).any (fun s => (s.splitOn "upgrade").length ≠ 1) &&
    r.headers.reads "upgrade" "websocket" &&
    r.headers.get? "sec-websocket-version" = some "13" &&
    (r.headers.get? "sec-websocket-key").isSome

end Request

/-- The content of a response. -/
inductive Body where
  | empty
  | text (s : String)
  | json (j : Json)

/-- A response. -/
structure Response where
  status : Nat
  body : Body := .empty

/-- A JSON response. -/
def Response.json (status : Nat) (fields : List (String × Json)) : Response :=
  ⟨status, .json (.record fields)⟩

/-- A response that gives a reason in one word. -/
def Response.reason (status : Nat) (reason : String) : Response :=
  .json status [("error", .text reason)]

end Holdfast.Http
