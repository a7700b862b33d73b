import AccountWire.User.Check

/-!
# Attributes of new and changed users

`NewUser` holds what a new user is created with and `UserChange` what is changed in an existing
one; a field that is absent is left alone.  `request` checks the fields in a fixed order and makes
the members of the request body of those that are there.

In a change, an empty display name or photo URL removes that attribute and an empty phone number
removes the phone provider; other fields are set.
-/

namespace AccountWire.User

open Admin (Rejection checkNonEmpty)

/-- The attributes of a new user. -/
structure NewUser where
  uid : Option String
  email : Option String
  phoneNumber : Option String
  displayName : Option String
  photoUrl : Option String
  password : Option String
  emailVerified : Option Bool
  disabled : Option Bool
deriving DecidableEq, Repr

/-- Checks the fields of a new user. -/
def NewUser.check (u : NewUser) : Except Rejection Unit := do
  u.uid.forM checkUid
  u.email.forM checkEmail
  u.phoneNumber.forM checkPhoneNumber
  u.displayName.forM (checkNonEmpty "display name")
  u.photoUrl.forM (checkNonEmpty "photo url")
  u.password.forM checkPassword

/-- The members of a new user's request. -/
def NewUser.members (u : NewUser) : Json.Members :=
  Json.Members.ofPresent
    [("localId", u.uid.map .str), ("email", u.email.map .str),
      ("phoneNumber", u.phoneNumber.map .str), ("displayName", u.displayName.map .str),
      ("photoUrl", u.photoUrl.map .str), ("password", u.password.map .str),
      ("emailVerified", u.emailVerified.map .bool), ("disabled", u.disabled.map .bool)]

/-- The body of a new user's request. -/
def NewUser.request (u : NewUser) : Except Rejection Json.Members := do
  u.check
  return u.members

/-- What is changed in a user. -/
structure UserChange where
  email : Option String
  phoneNumber : Option String
  displayName : Option String
  photoUrl : Option String
  password : Option String
  emailVerified : Option Bool
  disabled : Option Bool
  customClaims : Option Json.Members

/-- A value to set, unless it is absent or empty. -/
def toSet? (field : Option String) : Option String := field.filter (· ≠ "")

/-- The attributes that a change removes. -/
def UserChange.removedAttributes (u : UserChange) : List String :=
  (if u.displayName = some "" then ["DISPLAY_NAME"] else []) ++
    (if u.photoUrl = some "" then ["PHOTO_URL"] else [])

/-- A list of texts, absent when empty. -/
def textList? (l : List String) : Option Json :=
  if l = [] then none else some (.arr (l.map .str))

/-- The body of a change's request. -/
def UserChange.request (u : UserChange) : Except Rejection Json.Members := do
  (toSet? u.phoneNumber).forM checkPhoneNumber
  u.email.forM checkEmail
  u.password.forM checkPassword
  let claims ← u.customClaims.mapM claimsText
  let members := Json.Members.ofPresent
    [("displayName", (toSet? u.displayName).map .str),
      ("photoUrl", (toSet? u.photoUrl).map .str),
      ("deleteAttribute", textList? u.removedAttributes),
      ("deleteProvider", if u.phoneNumber = some "" then some (.arr [.str "phone"]) else none),
      ("phoneNumber", (toSet? u.phoneNumber).map .str),
      ("email", u.email.map .str), ("password", u.password.map .str),
      ("emailVerified", u.emailVerified.map .bool), ("disabled", u.disabled.map .bool),
      ("customAttributes", claims.map .str)]
  if members.isEmpty then throw .emptyUserChange
  return members

end AccountWire.User
