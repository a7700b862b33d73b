import AccountWire.Echo.Error
import AccountWire.Http.Headers
import AccountWire.Http.SocketAddress

/-!
# How an echo server answers

An echo server gives every request one canned response.  `Options` leave out what is to have its
default; `Configuration.ofOptions` checks them, the status first and then the header fields in
their order, each name before its value.
-/

namespace AccountWire.Echo

open Http (Headers SocketAddress)

/-- What may be set about an echo server. -/
structure Options where
  statusCode : Option Nat
  headers : Option (List (String × String))
  bindAddress : Option SocketAddress

/-- What an echo server answers, and where. -/
structure Configuration where
  body : Bytes
  status : Nat
  headers : Headers
  bindAddress : SocketAddress
deriving DecidableEq, Repr

/-- The status unless another is set. -/
def defaultStatus : Nat := 200

/-- The header fields unless others are set. -/
def defaultHeaders : Headers := [("content-type", Utf8.ofString "application/json")]

/-- A status code has three digits. -/
def checkStatus (code : Nat) : Except Error Nat :=
  if 100 ≤ code ∧ code ≤ 999 then .ok code else .error (.invalidStatusCode code)

/-- A header field with its name in lower case. -/
def headerField (field : String × String) : Except Error (String × Bytes) :=
  let name := lowercase field.1
  let value := Utf8.ofString field.2
  if !Http.isHeaderName name then .error .invalidHeaderName
  else if !Http.isHeaderValue value then .error .invalidHeaderValue
  else .ok (name, value)

namespace Configuration

/-- The configuration with all defaults. -/
def json (body : Bytes) : Configuration :=
  ⟨body, defaultStatus, defaultHeaders, .anyLocal⟩

/-- The configuration that options describe. -/
def ofOptions (body : Bytes) (o : Options) : Except Error Configuration := do
  let status ← o.statusCode.elim (.ok defaultStatus) checkStatus
  let headers ← o.headers.elim (.ok defaultHeaders) (·.mapM headerField)
  return ⟨body, status, headers, o.bindAddress.getD .anyLocal⟩

end Configuration

end AccountWire.Echo
