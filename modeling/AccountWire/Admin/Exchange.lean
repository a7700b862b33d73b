import AccountWire.Admin.Client
import AccountWire.Http.Basic
import AccountWire.Json.Printer
import AccountWire.Json.Record

/-!
# One request and what its response means

Every operation of the client is a *plan*: either an error, found before anything is sent, or an
`Exchange`, which is one request together with the reading of a successful response.  `run` is the
only place where a request meets a transport, so an operation sends at most one request and sends
none when its plan is an error.

A response that tells of failure is read in one way for all operations: as the code that the
backend gives, which is the first word of its message, or as the whole body when there is none.
-/

namespace AccountWire.Admin

open Http (Request Response Transport)

/-- Takes a check of an argument as a step of a plan. -/
def accept {α : Type} (check : Except Rejection α) : Except Error α :=
  check.mapError .invalidArgument

/-- A request and the reading of the body of a successful response. -/
structure Exchange (α : Type) where
  request : Request
  interpret : Bytes → Except Error α

/-- The message of an error body. -/
def errorMessage? (body : Bytes) : Option String := do
  let envelope ← (← Json.Tree.ofBytes? body).fields? ["error"]
  envelope.require? "error" fun t => do
    let error ← t.fields? ["message"]
    error.text? "message"

/-- The first word of a message: what stands before the first blank or colon. -/
def firstWord (message : String) : String :=
  String.ofList (message.toList.takeWhile fun c => !(c = ' ' || c = ':'))

/-- The code of a failed response. -/
def errorCode (body : Bytes) : String :=
  match errorMessage? body with
  | some message =>
    if firstWord message = "" then Utf8.toStringLossy body else firstWord message
  | none => Utf8.toStringLossy body

namespace Exchange

variable {α β : Type}

/-- What the operation answers, given the response. -/
def conclude (x : Exchange α) (r : Response) : Except Error α :=
  if r.isSuccess then x.interpret r.body else .error (.backend r.status (errorCode r.body))

/-- The exchange for an address, if a request for it can be made: the address must be a URL with
a host.  User name and password do not stay in the URL of a request. -/
def plan (method : Http.Method) (address : String) (query : List Query.Pair)
    (body : Option Json) (interpret : Bytes → Except Error α) : Except Error (Exchange α) :=
  match Url.parse address with
  | .error _ => .error (.transport none)
  | .ok url =>
    if !url.hasHost then .error (.transport (some url.text))
    else
      let url := if url.credentials?.isSome then url.withoutUserinfo else url
      .ok {
        request := {
          method := method
          url := url.addQuery query
          contentType := body.map fun _ => "application/json"
          body := body.elim [] Json.bytes }
        interpret := interpret }

/-- Reads a body as a record. -/
def readBody (read : Json.Tree → Option α) (body : Bytes) : Except Error α :=
  match (Json.Tree.ofBytes? body).bind read with
  | some a => .ok a
  | none => .error .unreadable

/-- Reads a body that only has to be a JSON text. -/
def ignoreBody (body : Bytes) : Except Error Unit := readBody (fun _ => some ()) body

end Exchange

/-- Carries a plan out over a transport. -/
def run {α σ : Type} (plan : Except Error (Exchange α)) (send : Transport σ) (s : σ) :
    Except Error α × σ :=
  match plan with
  | .error e => (.error e, s)
  | .ok x =>
    match send x.request s with
    | (none, s) => (.error (.transport (some x.request.url.text)), s)
    | (some r, s) => (x.conclude r, s)

end AccountWire.Admin
