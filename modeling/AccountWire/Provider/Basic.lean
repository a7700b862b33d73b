import AccountWire.Admin.Exchange
import AccountWire.Listing.Walk

/-!
# What the two kinds of provider configurations share

The id of a configuration begins with the mark of its kind, `oidc.` or `saml.`, and is one segment
of a path.  A change is sent together with a *mask*: the dotted paths of all its leaves, so that
the backend leaves everything else alone.
-/

namespace AccountWire.Provider

open Admin (Client Error Exchange Rejection)

/-- The most configurations of a page. -/
def maxListedConfigs : Nat := 100

/-- Whether a character would end the path segment of an id or be read as an escape in it. -/
def isUnsafeInId (c : Char) : Bool := c = '/' || c = '?' || c = '#' || c = '%'

/-- An id is its kind's mark and at least one more character, none of which ends a segment. -/
def checkId (mark id : String) : Except Rejection Unit :=
  if !mark.toList.isPrefixOf id.toList ∨ id.toList.length = mark.toList.length then
    .error (.unmarkedConfigId id mark)
  else if id.toList.any isUnsafeInId then .error (.unsafeConfigId id)
  else .ok ()

/-- A field is an absolute URL with a host. -/
def checkUrl (field value : String) : Except Rejection Unit :=
  if Url.namesHost value then .ok () else .error (.badUrl field value)

/-- There is at least one certificate, and none is empty. -/
def checkCertificates (certificates : List String) : Except Rejection Unit :=
  if certificates = [] ∨ certificates.contains "" then .error .badCertificates else .ok ()

/-- The value of a display name in a change: an empty one is removed. -/
def displayNameValue (name : String) : Json := if name = "" then .null else .str name

/-- The value of a list of certificates. -/
def certificatesValue (certificates : List String) : Json :=
  .arr (certificates.map fun c => .object [("x509Certificate", .str c)])

/-- An object of the fields that have a value; absent when none has. -/
def presentObject? (fields : List (String × Option Json)) : Option Json :=
  match Json.Members.ofPresent fields with
  | [] => none
  | ms => some (.obj ms)

/-- The id of a configuration: the last segment of its resource name. -/
def idOfName (name : String) : String :=
  match Split.atLast? (· == '/') name.toList with
  | some (_, id) => String.ofList id
  | none => name

/-! ### Masks -/

mutual

/-- The dotted paths of the leaves of an object, in the order of its members.  A member that is an
object with members is no leaf; its own leaves are. -/
def leaves : Json.Members → List String
  | [] => []
  | (name, v) :: r =>
    (match leavesBelow? v with
      | some paths => paths.map fun path => name ++ "." ++ path
      | none => [name]) ++ leaves r

/-- The leaves of an object with members. -/
def leavesBelow? : Json → Option (List String)
  | .obj (m :: ms) => some (leaves (m :: ms))
  | _ => none

end

/-- Puts a text before the first one that is not less. -/
def insertText (s : String) : List String → List String
  | [] => [s]
  | t :: r => if t < s then t :: insertText s r else s :: t :: r

/-- Texts in ascending order, repetitions kept. -/
def sortTexts : List String → List String
  | [] => []
  | s :: r => insertText s (sortTexts r)

/-- The mask of a change: the paths of its leaves in ascending order. -/
def updateMask (ms : Json.Members) : List String := sortTexts (leaves ms)

/-- The parameter that carries a mask. -/
def maskParameter (ms : Json.Members) : Query.Pair :=
  ("updateMask", Outline.joinWith "," (updateMask ms))

/-! ### Requests -/

/-- A page's parameters: its size, and its token unless it is the first page. -/
def pageParameters (token : String) : List Query.Pair :=
  ("pageSize", toString maxListedConfigs) :: if token = "" then [] else [("pageToken", token)]

end AccountWire.Provider
