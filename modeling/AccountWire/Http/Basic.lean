import AccountWire.Url.Basic

/-!
# Requests and responses

What travels between a client and a server, as data: a request with its method, URL and body, and
a response with its status and body.  How a request gets to its server is left to a `Transport`,
which answers a request or reports that it could not be sent, and keeps a state of its own.
-/

namespace AccountWire.Http

/-- The methods that the client uses. -/
inductive Method where
  | get | post | patch | delete
deriving DecidableEq, Repr

/-- The name of a method. -/
def Method.text : Method → String
  | .get => "GET"
  | .post => "POST"
  | .patch => "PATCH"
  | .delete => "DELETE"

/-- A request that is ready to be sent. -/
structure Request where
  method : Method
  url : Url
  contentType : Option String
  body : Bytes

/-- A response. -/
structure Response where
  status : Nat
  body : Bytes

/-- Whether the status tells of success. -/
def Response.isSuccess (r : Response) : Bool := 200 ≤ r.status && r.status ≤ 299

/-- Whether responses with a status never have a body. -/
def isBodiless (status : Nat) : Bool := status = 204 || status = 304

/-- Whether a response with a status announces another one. -/
def isInformational (status : Nat) : Bool := 100 ≤ status && status ≤ 199

/-- A way to get requests answered; `none` when a request cannot be sent.  One call stands for one
request that is handed to the HTTP client below: when a response sends it elsewhere, the client
follows within the same call, and the answer is the response that it ends with. -/
abbrev Transport (σ : Type) := Request → σ → Option Response × σ

/-- The transport that cannot send anything. -/
def Transport.offline {σ : Type} : Transport σ := fun _ s => (none, s)

/-- A backend that follows a script: the responses that are left, and the requests so far, latest
first. -/
structure Script where
  responses : List Response
  received : List Request

/-- The response of a script that has run out. -/
def Script.exhausted : Response :=
  ⟨500, Utf8.ofString "\x7b\"error\":\x7b\"message\":\"SCRIPT_EXHAUSTED\"\x7d\x7d"⟩

/-- The transport to a scripted backend: the n-th request gets the n-th response. -/
def Script.transport : Transport Script := fun request s =>
  let response := s.responses.headD exhausted
  let response := if isBodiless response.status then { response with body := [] } else response
  (some response, ⟨s.responses.drop 1, request :: s.received⟩)

end AccountWire.Http
