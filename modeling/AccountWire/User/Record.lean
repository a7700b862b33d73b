import AccountWire.Admin.Error
import AccountWire.Json.Printer
import AccountWire.Json.Record

/-!
# Users as the backend stores them, and as they are shown

The backend keeps a user as a flat record of texts (`StoredUser`): custom claims as a JSON text,
points in time as decimal numbers.  `StoredUser.export` makes of it a record with claims and
numbers (`ExportedUser`), or says which text cannot be read; the texts are tried in a fixed order,
claims first.
-/

namespace AccountWire.User

open Admin (Error)
open Json (Tree)

/-! ### Records -/

/-- What a user is known by, to the project or to one identity provider. -/
structure Profile where
  uid : String
  displayName : String
  email : String
  phoneNumber : String
  photoUrl : String
  providerId : String
deriving DecidableEq, Repr

/-- Points in time of a user's life, in milliseconds; zero when there was none. -/
structure Metadata where
  creationTimestamp : Int
  lastLogInTimestamp : Int
deriving DecidableEq, Repr

/-- A user. -/
structure Record where
  profile : Profile
  customClaims : Option Json.Members
  disabled : Bool
  emailVerified : Bool
  providers : List Profile
  /-- Tokens from before this point in time, in milliseconds, are void. -/
  tokensValidAfter : Int
  metadata : Metadata
  tenantId : String

/-- A user together with the password material. -/
structure ExportedUser where
  record : Record
  passwordHash : String
  passwordSalt : String

/-- Whether two sets of custom claims are equal. -/
def sameClaims : Option Json.Members → Option Json.Members → Bool
  | none, none => true
  | some a, some b => Json.sameMembers a b
  | _, _ => false

/-- Whether two users are equal, field by field. -/
def Record.same (a b : Record) : Bool :=
  a.profile == b.profile && sameClaims a.customClaims b.customClaims &&
    a.disabled == b.disabled && a.emailVerified == b.emailVerified &&
    a.providers == b.providers && a.tokensValidAfter == b.tokensValidAfter &&
    a.metadata == b.metadata && a.tenantId == b.tenantId

/-- Whether two exported users are equal, field by field. -/
def ExportedUser.same (a b : ExportedUser) : Bool :=
  a.record.same b.record && a.passwordHash == b.passwordHash && a.passwordSalt == b.passwordSalt

instance : BEq ExportedUser := ⟨ExportedUser.same⟩

instance : Outline Profile where
  outline p := Outline.record "UserInfo"
    [("uid", outline p.uid), ("display_name", outline p.displayName), ("email", outline p.email),
      ("phone_number", outline p.phoneNumber), ("photo_url", outline p.photoUrl),
      ("provider_id", outline p.providerId)]

instance : Outline Metadata where
  outline m := Outline.record "UserMetadata"
    [("creation_timestamp", outline m.creationTimestamp),
      ("last_log_in_timestamp", outline m.lastLogInTimestamp)]

/-- The outline of custom claims. -/
def outlineClaims : Option Json.Members → String
  | none => "None"
  | some ms => "Some(" ++ ms.outlineText ++ ")"

instance : Outline Record where
  outline r := Outline.record "UserRecord"
    [("user_info", outline r.profile), ("custom_claims", outlineClaims r.customClaims),
      ("disabled", outline r.disabled), ("email_verified", outline r.emailVerified),
      ("provider_user_info", outline r.providers),
      ("tokens_valid_after_millis", outline r.tokensValidAfter),
      ("metadata", outline r.metadata), ("tenant_id", outline r.tenantId)]

instance : Outline ExportedUser where
  outline u := Outline.record "ExportedUserRecord"
    [("user_record", outline u.record), ("password_hash", outline u.passwordHash),
      ("password_salt", outline u.passwordSalt)]

/-! ### Stored users -/

/-- What an identity provider says about a user, as stored. -/
structure StoredProvider where
  providerId : String
  displayName : String
  photoUrl : String
  email : String
  phoneNumber : String
  rawId : String
deriving DecidableEq, Repr

/-- A user as stored. -/
structure StoredUser where
  localId : String
  displayName : String
  email : String
  phoneNumber : String
  photoUrl : String
  emailVerified : Bool
  disabled : Bool
  providers : List StoredProvider
  passwordHash : String
  passwordSalt : String
  /-- Seconds, as a decimal number. -/
  validSince : String
  /-- Milliseconds, as a decimal number. -/
  createdAt : String
  lastLoginAt : String
  customAttributes : String
  tenantId : String
deriving DecidableEq, Repr

/-- Reads what an identity provider says about a user. -/
def StoredProvider.ofTree? (t : Tree) : Option StoredProvider := do
  let fs ← t.fields? ["providerId", "displayName", "photoUrl", "email", "phoneNumber", "rawId"]
  return {
    providerId := ← fs.text? "providerId"
    displayName := ← fs.text? "displayName"
    photoUrl := ← fs.text? "photoUrl"
    email := ← fs.text? "email"
    phoneNumber := ← fs.text? "phoneNumber"
    rawId := ← fs.text? "rawId" }

/-- Reads a stored user. -/
def StoredUser.ofTree? (t : Tree) : Option StoredUser := do
  let fs ← t.fields? ["localId", "displayName", "email", "phoneNumber", "photoUrl",
    "emailVerified", "disabled", "providerUserInfo", "passwordHash", "salt", "validSince",
    "createdAt", "lastLoginAt", "customAttributes", "tenantId"]
  return {
    localId := ← fs.text? "localId"
    displayName := ← fs.text? "displayName"
    email := ← fs.text? "email"
    phoneNumber := ← fs.text? "phoneNumber"
    photoUrl := ← fs.text? "photoUrl"
    emailVerified := ← fs.flag? "emailVerified"
    disabled := ← fs.flag? "disabled"
    providers := ← fs.list? "providerUserInfo" StoredProvider.ofTree?
    passwordHash := ← fs.text? "passwordHash"
    passwordSalt := ← fs.text? "salt"
    validSince := ← fs.text? "validSince"
    createdAt := ← fs.text? "createdAt"
    lastLoginAt := ← fs.text? "lastLoginAt"
    customAttributes := ← fs.text? "customAttributes"
    tenantId := ← fs.text? "tenantId" }

/-! ### Export -/

/-- The provider that stands for the project itself. -/
def projectProvider : String := "firebase"

/-- What the backend shows instead of a hash that the caller may not see. -/
def redactedHash : String := "UkVEQUNURUQ="

/-- The number of decimal digits, if there is at least one and nothing else. -/
def decimal? (cs : List Char) : Option Nat :=
  if cs = [] then none
  else
    cs.foldlM (fun n c =>
      if '0' ≤ c ∧ c ≤ '9' then some (10 * n + (c.toNat - '0'.toNat)) else none) 0

/-- Whether an integer fits a signed word. -/
def fitsWord (n : Int) : Bool := -0x8000000000000000 ≤ n && n < 0x8000000000000000

/-- The integer of a text: an optional sign, then digits; it must fit a signed word. -/
def integer? (s : String) : Option Int := do
  let n : Int ←
    match s.toList with
    | '-' :: r => (decimal? r).map fun n => -(n : Int)
    | '+' :: r => (decimal? r).map fun n => (n : Int)
    | cs => (decimal? cs).map fun n => (n : Int)
  if fitsWord n then some n else none

/-- The point in time that a field holds, zero when the field is empty. -/
def timestamp (field value : String) : Except Error Int :=
  if value = "" then .ok 0
  else
    match integer? value with
    | some n => .ok n
    | none => .error (.unexpectedResponse (.badTimestamp field value))

/-- The custom claims that a text holds; no claims when it is empty or holds none. -/
def claimsOfText (text : String) : Except Error (Option Json.Members) :=
  if text = "" then .ok none
  else
    match Json.membersOfBytes? (Utf8.ofString text) with
    | none => .error .unreadable
    | some [] => .ok none
    | some claims => .ok (some claims)

/-- Seconds as milliseconds, if they still fit a word. -/
def toMillis (text : String) (seconds : Int) : Except Error Int :=
  if fitsWord (seconds * 1000) then .ok (seconds * 1000)
  else .error (.unexpectedResponse (.timestampOutOfRange text))

/-- What an identity provider says about a user, as shown. -/
def StoredProvider.export (p : StoredProvider) : Profile :=
  ⟨p.rawId, p.displayName, p.email, p.phoneNumber, p.photoUrl, p.providerId⟩

/-- A stored user as shown. -/
def StoredUser.export (u : StoredUser) : Except Error ExportedUser := do
  let claims ← claimsOfText u.customAttributes
  let validSince ← timestamp "validSince" u.validSince
  let tokensValidAfter ← toMillis u.validSince validSince
  let creation ← timestamp "createdAt" u.createdAt
  let lastLogIn ← timestamp "lastLoginAt" u.lastLoginAt
  return {
    record := {
      profile :=
        ⟨u.localId, u.displayName, u.email, u.phoneNumber, u.photoUrl, projectProvider⟩
      customClaims := claims
      disabled := u.disabled
      emailVerified := u.emailVerified
      providers := u.providers.map (·.export)
      tokensValidAfter := tokensValidAfter
      metadata := ⟨creation, lastLogIn⟩
      tenantId := u.tenantId }
    passwordHash := if u.passwordHash = redactedHash then "" else u.passwordHash
    passwordSalt := u.passwordSalt }

end AccountWire.User
