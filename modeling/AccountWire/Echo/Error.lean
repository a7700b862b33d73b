/-!
# Why checking a client fails

The tools that record and check a client's requests have failures of their own, apart from the
mismatches that they find.
-/

namespace AccountWire.Echo

/-- What the system refused. -/
inductive IoKind where
  | notFound
  | isADirectory
  | addrInUse
deriving DecidableEq, Repr

/-- Why a tool fails. -/
inductive Error where
  | io (kind : IoKind)
  | invalidStatusCode (code : Nat)
  | invalidHeaderName
  | invalidHeaderValue
  /-- The body of the request that would have had this index could not be read. -/
  | invalidBody (index : Nat)
  | notJson
  | unresolvedPlaceholder (name : String)
deriving DecidableEq, Repr

/-- The words for a failure; those of the system and of a reader are their own. -/
def Error.message : Error → String
  | .io _ => "IoError"
  | .invalidStatusCode code => "The status code " ++ toString code ++ " is invalid"
  | .invalidHeaderName => "Invalid header name: invalid HTTP header name"
  | .invalidHeaderValue => "Invalid header value: failed to parse header value"
  | .invalidBody index => "Invalid body in request #" ++ toString index
  | .notJson => "JSON error"
  | .unresolvedPlaceholder name => "The path template has no value for \x7b" ++ name ++ "\x7d"

end AccountWire.Echo
