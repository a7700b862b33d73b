import AccountWire.Echo.Server

/-!
# Sessions with an echo server

A session is a list of actions on one echo server, each with its answer.  After the server was
closed or dropped there is nothing left to act on; whether something listens at its address can
still be asked.
-/

namespace AccountWire.Echo

/-- An action on a server. -/
inductive Action where
  | send (r : Received)
  /-- Sends a request and does not wait for the reply. -/
  | sendOff (r : Received)
  | requestCount
  | requests
  | request (index : Nat)
  | lastRequest
  | lastBody
  | url (path : String)
  | baseUrl
  | startBeside
  | ensureHealthy
  | close
  | drop
  | connect

/-- The answer to an action. -/
inductive Answer where
  /-- The reply, or nothing when the request could not be sent. -/
  | reply (r : Option Reply)
  | sent
  | count (n : Nat)
  | log (rs : List Captured)
  | captured (r : Option Captured)
  | body (bs : Option Bytes)
  | text (s : String)
  | address (ip : Http.IpAddress)
  | outcome (r : Except Error Unit)
  | dropped
  | connected (b : Bool)
  /-- There is no server any more. -/
  | closed

/-- Acts on a running server; afterwards there may be none. -/
def Server.act (link : Link) (s : Server) : Action → Answer × Option Server
  | .send r =>
    let (reply, s) := s.exchange link r
    (.reply reply, some s)
  | .sendOff r => (.sent, some (s.exchange link r).2)
  | .requestCount => (.count s.requestCount, some s)
  | .requests => (.log s.log, some s)
  | .request index => (.captured (s.request? index), some s)
  | .lastRequest => (.captured s.lastRequest?, some s)
  | .lastBody => (.body s.lastBody?, some s)
  | .url path => (.text path, some s)
  | .baseUrl => (.address s.configuration.bindAddress.ip, some s)
  | .startBeside => (.outcome (s.startBeside.map fun _ => ()), some s)
  | .ensureHealthy =>
    let (r, s) := s.ensureHealthy
    (.outcome r, some s)
  | .close => (.outcome s.ensureHealthy.1, none)
  | .drop => (.dropped, none)
  | .connect => (.connected (link = .up), some s)

/-- Acts on a server that may be gone. -/
def act (link : Link) : Option Server → Action → Answer × Option Server
  | some s, a => s.act link a
  | none, .connect => (.connected false, none)
  | none, _ => (.closed, none)

/-- The answers to a list of actions. -/
def session (link : Link) : Option Server → List Action → List Answer
  | _, [] => []
  | s, a :: r =>
    let (answer, s) := act link s a
    answer :: session link s r

end AccountWire.Echo
