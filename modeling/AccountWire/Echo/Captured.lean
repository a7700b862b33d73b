import AccountWire.Echo.Error
import AccountWire.Http.Headers
import AccountWire.Json.Tree
import AccountWire.Url.Query

/-!
# Captured requests

A captured request is what an echo server keeps of a request: its place in the log, method,
target, header fields and body.  Of several values of a header field it keeps the last one that
can be read.
-/

namespace AccountWire.Echo

/-- A request as an echo server keeps it. -/
structure Captured where
  /-- The place in the log. -/
  index : Nat
  method : String
  /-- The target as received. -/
  uri : String
  path : String
  query : Option String
  /-- Header fields by name in lower case, each name once. -/
  headers : List (String × String)
  body : Bytes
deriving DecidableEq, Repr

namespace Captured

/-- The body as text. -/
def bodyText (r : Captured) : String := Utf8.toStringLossy r.body

/-- The body as a JSON value. -/
def json (r : Captured) : Except Error Json :=
  match Json.ofBytes? r.body with
  | some v => .ok v
  | none => .error .notJson

/-- The value of the header field of a name, whatever its case. -/
def header? (r : Captured) (name : String) : Option String :=
  (r.headers.find? (·.1 == lowercase name)).map (·.2)

/-- The parameters of the query in their order. -/
def queryPairs (r : Captured) : List Query.Pair := r.query.elim [] Query.decodeString

/-- The value of the first parameter of a name. -/
def queryParam? (r : Captured) (name : String) : Option String :=
  (r.queryPairs.find? (·.1 == name)).map (·.2)

/-- The query with its parameters in ascending order of their names. -/
def canonicalQuery (r : Captured) : String :=
  Query.encodeString (Query.sortByName r.queryPairs)

end Captured

end AccountWire.Echo
