import AccountWire.Admin.Exchange
import AccountWire.Listing.Walk
import AccountWire.User.Attributes
import AccountWire.User.Record

/-!
# Operations on users

Each operation is a plan: its arguments checked, its request, and the reading of its response.
-/

namespace AccountWire.User

open Admin (Client Error Exchange Rejection accept checkNonEmpty)

/-! ### Look-up -/

/-- The users of a response. -/
def usersOfTree? (t : Json.Tree) : Option (List StoredUser) := do
  let fs ← t.fields? ["users"]
  fs.list? "users" StoredUser.ofTree?

/-- The first user of a look-up's response. -/
def interpretLookup (body : Bytes) : Except Error Record := do
  match ← Exchange.readBody usersOfTree? body with
  | [] => throw .userNotFound
  | user :: _ => return (← user.export).record

/-- Looks up the user whose field has a value. -/
def lookup (c : Client) (field value : String) : Except Error (Exchange Record) :=
  Exchange.plan .post (c.userUrl "/accounts:lookup") []
    (some (.object [(field, .arr [.str value])])) interpretLookup

/-- Looks up a user by id. -/
def byUid (c : Client) (uid : String) : Except Error (Exchange Record) := do
  accept (checkUid uid)
  lookup c "localId" uid

/-- Looks up a user by email address. -/
def byEmail (c : Client) (email : String) : Except Error (Exchange Record) := do
  accept (checkEmail email)
  lookup c "email" email

/-- Looks up a user by phone number. -/
def byPhoneNumber (c : Client) (number : String) : Except Error (Exchange Record) := do
  accept (checkPhoneNumber number)
  lookup c "phoneNumber" number

/-! ### Creation and change -/

/-- A text that must not be empty, or else the response tells of a failure. -/
def nonEmptyOr (a : Admin.Anomaly) (text : String) : Except Error String :=
  if text = "" then .error (.unexpectedResponse a) else .ok text

/-- The one field of a response that has nothing else. -/
def soleText? (field : String) (t : Json.Tree) : Option String := do
  let fs ← t.fields? [field]
  fs.require? field Json.Tree.text?

/-- Creates a user and answers with its id. -/
def create (c : Client) (user : NewUser) : Except Error (Exchange String) := do
  let members ← accept user.request
  Exchange.plan .post (c.userUrl "/accounts") [] (some (.obj members)) fun body => do
    nonEmptyOr .noUserCreated (← Exchange.readBody (soleText? "localId") body)

/-- Sends a change of a user. -/
def sendChange (c : Client) (members : Json.Members) : Except Error (Exchange Unit) :=
  Exchange.plan .post (c.userUrl "/accounts:update") [] (some (.obj members)) Exchange.ignoreBody

/-- Changes a user. -/
def update (c : Client) (uid : String) (change : UserChange) : Except Error (Exchange Unit) := do
  accept (checkUid uid)
  let members ← accept change.request
  sendChange c (members.insert "localId" (.str uid))

/-- Makes all refresh tokens void that a user got before `now`, in seconds. -/
def revokeRefreshTokens (c : Client) (now : Int) (uid : String) : Except Error (Exchange Unit) := do
  accept (checkUid uid)
  sendChange c (Json.Members.ofPairs
    [("localId", .str uid), ("validSince", .str (String.ofList (Json.printInt now)))])

/-- Replaces the custom claims of a user; without claims, clears them. -/
def setCustomClaims (c : Client) (uid : String) (claims : Option Json.Members) :
    Except Error (Exchange Unit) := do
  accept (checkUid uid)
  let text ← accept (claimsText (claims.getD []))
  sendChange c (Json.Members.ofPairs [("localId", .str uid), ("customAttributes", .str text)])

/-- Deletes a user. -/
def delete (c : Client) (uid : String) : Except Error (Exchange Unit) := do
  accept (checkUid uid)
  Exchange.plan .post (c.userUrl "/accounts:delete") [] (some (.object [("localId", .str uid)]))
    Exchange.ignoreBody

/-! ### Session cookies -/

/-- A span of time in nanoseconds. -/
structure Span where
  nanoseconds : Nat
deriving DecidableEq, Repr

/-- The span of so many seconds. -/
def Span.ofSeconds (n : Nat) : Span := ⟨n * 1000000000⟩

/-- The whole seconds of a span. -/
def Span.seconds (d : Span) : Nat := d.nanoseconds / 1000000000

/-- A session cookie is valid for five minutes to fourteen days. -/
def checkCookieSpan (d : Span) : Except Rejection Unit :=
  if d.nanoseconds < (Span.ofSeconds (5 * 60)).nanoseconds ∨
      (Span.ofSeconds (14 * 24 * 60 * 60)).nanoseconds < d.nanoseconds then
    .error .badCookieDuration
  else .ok ()

/-- Exchanges an id token for a session cookie that is valid for a span of time. -/
def sessionCookie (c : Client) (idToken : String) (span : Span) :
    Except Error (Exchange String) := do
  accept (checkNonEmpty "id token" idToken)
  accept (checkCookieSpan span)
  Exchange.plan .post (c.userUrl ":createSessionCookie") []
    (some (.object [("idToken", .str idToken), ("validDuration", .ofWord (.ofNat span.seconds))]))
    fun body => do
      nonEmptyOr .noSessionCookie (← Exchange.readBody (soleText? "sessionCookie") body)

/-! ### Listing -/

/-- The most users of a page. -/
def maxListedUsers : Nat := 1000

/-- A page of stored users. -/
def pageOfTree? (t : Json.Tree) : Option (Listing.Page StoredUser) := do
  let fs ← t.fields? ["users", "nextPageToken"]
  return ⟨← fs.list? "users" StoredUser.ofTree?, ← fs.text? "nextPageToken"⟩

/-- A page of users as shown, if all of them can be shown. -/
def interpretPage (body : Bytes) : Except Error (Listing.Page ExportedUser) := do
  let page ← Exchange.readBody pageOfTree? body
  return ⟨← page.items.mapM (·.export), page.nextPageToken⟩

/-- Asks for the page of users at a token; the empty token is the first page. -/
def page (c : Client) (token : String) : Except Error (Exchange (Listing.Page ExportedUser)) :=
  Exchange.plan .get (c.userUrl "/accounts:batchGet")
    (("maxResults", toString maxListedUsers) ::
      if token = "" then [] else [("nextPageToken", token)])
    none interpretPage

end AccountWire.User
