import AccountWire.Echo.Captured
import AccountWire.Echo.Configuration
import AccountWire.Http.Basic

/-!
# The echo server

An echo server answers every request with one canned response and logs the request.  A request
whose body cannot be read is not logged; it is answered with status 500, and the first such failure
is kept until it is asked for.  The server is a state, and `handle` is its one step.

Requests reach the server over a `Link`.  When the link is down no request arrives, and the server
stays as it is.
-/

namespace AccountWire.Echo

open Http (Headers)

/-- A request as it arrives, its body absent when it cannot be read to the end. -/
structure Received where
  method : String
  target : String
  /-- Header fields in order of receipt, names as spelled. -/
  headers : List (String × Bytes)
  body : Option Bytes

/-- A response with its header fields. -/
structure Reply where
  status : Nat
  headers : Headers
  body : Bytes
deriving DecidableEq, Repr

/-! ### What is kept of a request -/

/-- A target without its fragment, its path, and its query. -/
structure Target where
  uri : String
  path : String
  query : Option String
deriving DecidableEq, Repr

/-- Cuts a path and a query apart. -/
def splitQuery (cs : List Char) : String × Option String :=
  match Split.atFirst? (· == '?') cs with
  | some (path, query) => (String.ofList path, some (String.ofList query))
  | none => (String.ofList cs, none)

/-- What stands after the scheme and the host of an absolute target. -/
def afterHost? : List Char → Option (List Char × List Char)
  | ':' :: '/' :: '/' :: r =>
    some (':' :: '/' :: '/' :: r.takeWhile (fun c => !(c = '/' || c = '?')),
      r.dropWhile (fun c => !(c = '/' || c = '?')))
  | [] => none
  | c :: r => (afterHost? r).map fun (before, after) => (c :: before, after)

/-- The parts of a target: a path, perhaps with a query; the star; an absolute URL, whose empty
path is the root; or a bare host, which has no path. -/
def Target.ofText (text : String) : Target :=
  let cs := text.toList.takeWhile (· ≠ '#')
  match cs with
  | '/' :: _ | ['*'] =>
    let (path, query) := splitQuery cs
    ⟨String.ofList cs, path, query⟩
  | _ =>
    match afterHost? cs with
    | some (host, rest) =>
      let rest := if rest.head? = some '/' then rest else '/' :: rest
      let (path, query) := splitQuery rest
      ⟨String.ofList (host ++ rest), path, query⟩
    | none => ⟨String.ofList cs, "", none⟩

/-- A value without the blanks around it. -/
def trimValue (value : Bytes) : Bytes :=
  let isBlank (b : UInt8) : Bool := b = 0x20 || b = 0x09
  ((value.dropWhile isBlank).reverse.dropWhile isBlank).reverse

/-- Sets the value of a name. -/
def setHeader (name value : String) : List (String × String) → List (String × String)
  | [] => [(name, value)]
  | (k, v) :: r => if k = name then (name, value) :: r else (k, v) :: setHeader name value r

/-- The header fields that are kept: of each name the last value that can be read. -/
def keptHeaders (fields : List (String × Bytes)) : List (String × String) :=
  fields.foldl (fun kept (name, value) =>
    match Http.readableValue? (trimValue value) with
    | some text => setHeader (lowercase name) text kept
    | none => kept) []

/-- What is kept of a request with the given body at a place in the log. -/
def Received.capture (r : Received) (index : Nat) (body : Bytes) : Captured :=
  let target := Target.ofText r.target
  ⟨index, r.method, target.uri, target.path, target.query, keptHeaders r.headers, body⟩

/-! ### The server -/

/-- A running echo server. -/
structure Server where
  configuration : Configuration
  /-- The requests so far, in order of arrival. -/
  log : List Captured
  /-- The first failure that was not reported yet. -/
  failure : Option Error
deriving DecidableEq, Repr

namespace Server

/-- A server that has not seen a request. -/
def start (c : Configuration) : Server := ⟨c, [], none⟩

/-- The canned response. -/
def reply (s : Server) : Reply :=
  ⟨s.configuration.status, s.configuration.headers, s.configuration.body⟩

/-- The response to a request whose body could not be read. -/
def failureReply : Reply := ⟨500, [], []⟩

/-- Handles a request. -/
def handle (s : Server) (r : Received) : Reply × Server :=
  match r.body with
  | some body => (s.reply, { s with log := s.log ++ [r.capture s.log.length body] })
  | none =>
    (failureReply, { s with failure := some (s.failure.getD (.invalidBody s.log.length)) })

/-- The request at a place in the log. -/
def request? (s : Server) (index : Nat) : Option Captured := s.log[index]?

/-- The latest request. -/
def lastRequest? (s : Server) : Option Captured := s.log.getLast?

/-- The body of the latest request. -/
def lastBody? (s : Server) : Option Bytes := s.lastRequest?.map (·.body)

/-- The number of requests so far. -/
def requestCount (s : Server) : Nat := s.log.length

/-- Reports the first failure, once. -/
def ensureHealthy (s : Server) : Except Error Unit × Server :=
  match s.failure with
  | some e => (.error e, { s with failure := none })
  | none => (.ok (), s)

/-- Starts another server at the address of this one. -/
def startBeside (_ : Server) : Except Error Server := .error (.io .addrInUse)

end Server

/-! ### Requests over a link -/

/-- Whether requests reach the server. -/
inductive Link where
  | up
  | down
deriving DecidableEq, Repr

/-- The status of a connection that goes on in another protocol. -/
def switchingProtocols : Nat := 101

/-- Whether a reply to a request with a method goes out without its body. -/
def Reply.isBare (r : Reply) (method : String) : Bool :=
  method = "HEAD" || Http.isBodiless r.status || r.status = switchingProtocols ||
    method = "CONNECT" && 200 ≤ r.status && r.status ≤ 299

/-- A reply as the sender of a request with a method sees it.  A status that announces another reply
cannot be sent, as there is no other one: an error goes out in its place, with nothing of the
reply.  Only the status for another protocol is sent as it is. -/
def Reply.seenBy (r : Reply) (method : String) : Reply :=
  if Http.isInformational r.status && r.status ≠ switchingProtocols then ⟨500, [], []⟩
  else { r with headers := r.headers.byName, body := if r.isBare method then [] else r.body }

/-- Sends a request over a link; no reply when it does not arrive. -/
def Server.exchange (s : Server) : Link → Received → Option Reply × Server
  | .down, _ => (none, s)
  | .up, r =>
    let (reply, s) := s.handle r
    (some (reply.seenBy r.method), s)

/-- The header fields that come with a request of the client. -/
def requestHeaders (r : Http.Request) : List (String × Bytes) :=
  (r.contentType.elim [] fun t => [("content-type", Utf8.ofString t)]) ++
    [("accept", Utf8.ofString "*/*"),
      ("host", Utf8.ofString
        ((r.url.authority.bind (·.host)).elim "" Url.Host.text ++
          ((r.url.authority.bind (·.port)).elim "" fun p => ":" ++ toString p)))] ++
    (if r.contentType.isSome then
      [("content-length", Utf8.ofString (toString r.body.length))] else [])

/-- A request of the client as it arrives. -/
def receivedOf (r : Http.Request) : Received :=
  ⟨r.method.text, r.url.target, requestHeaders r, some r.body⟩

/-- The transport to an echo server over a link. -/
def Server.transport (link : Link) : Http.Transport Server := fun r s =>
  match s.exchange link (receivedOf r) with
  | (some reply, s) => (some ⟨reply.status, reply.body⟩, s)
  | (none, s) => (none, s)

end AccountWire.Echo
