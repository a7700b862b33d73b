import AccountWire.Text.Outline
import AccountWire.Url.Basic

/-!
# Why an operation fails

An operation fails before it sends anything, because the client is not configured or an argument
is unacceptable; or because its request cannot be sent; or because of what comes back.  Errors name
the cause, and `message` has the words for each.
-/

namespace AccountWire.Admin

/-- What is wrong with an argument. -/
inductive Rejection where
  | emptyTenantId
  | badUid
  | malformedEmail (email : String)
  | badPhoneNumber
  | shortPassword
  /-- The field must not be empty. -/
  | emptyField (field : String)
  | reservedClaim (name : String)
  | oversizedClaims
  | emptyUserChange
  | emptyProviderChange
  /-- The id does not begin with the mark of its kind, or is nothing but the mark. -/
  | unmarkedConfigId (id mark : String)
  /-- The id would not stay one segment of a path. -/
  | unsafeConfigId (id : String)
  /-- The field is no URL with a host. -/
  | badUrl (field value : String)
  | badContinueUrl (value : String)
  | badCertificates
  | badUserCount
  | emptyHashAlgorithm
  | missingHashConfig
  | badCookieDuration
deriving DecidableEq, Repr

/-- The words for a rejection. -/
def Rejection.message : Rejection → String
  | .emptyTenantId => "tenant id must be a non-empty string"
  | .badUid => "uid must be a non-empty string with no more than 128 characters"
  | .malformedEmail email => "malformed email string: " ++ quoted email
  | .badPhoneNumber => "phone number must be a valid, E.164 compliant identifier"
  | .shortPassword => "password must be at least 6 characters long"
  | .emptyField field => field ++ " must be a non-empty string"
  | .reservedClaim name => "claim " ++ quoted name ++ " is reserved and must not be set"
  | .oversizedClaims => "serialized custom claims must not exceed 1000 characters"
  | .emptyUserChange => "update parameters must not be empty"
  | .emptyProviderChange => "no parameters specified in the update request"
  | .unmarkedConfigId id mark =>
    "invalid provider config id: " ++ quoted id ++ "; must start with " ++ quoted mark
  | .unsafeConfigId id =>
    "invalid provider config id: " ++ quoted id ++ "; must not contain '/', '?', '#' or '%'"
  | .badUrl field value => "failed to parse " ++ field ++ ": " ++ quoted value
  | .badContinueUrl value => "malformed url string: " ++ quoted value
  | .badCertificates => "X509Certificates must be a non-empty list of non-empty strings"
  | .badUserCount => "users list must not be empty or contain more than 1000 users"
  | .emptyHashAlgorithm => "hash algorithm must be a non-empty string"
  | .missingHashConfig => "hash config is required when importing users with passwords"
  | .badCookieDuration => "expiry duration must be between 5 minutes and 14 days"

/-- A field is not empty. -/
def checkNonEmpty (field value : String) : Except Rejection Unit :=
  if value = "" then .error (.emptyField field) else .ok ()

/-- What is wrong with a response that could be read. -/
inductive Anomaly where
  | noUserCreated
  | noSessionCookie
  | badTimestamp (field value : String)
  | timestampOutOfRange (value : String)
deriving DecidableEq, Repr

/-- The words for an anomaly. -/
def Anomaly.message : Anomaly → String
  | .noUserCreated => "failed to create new user"
  | .noSessionCookie => "failed to create session cookie"
  | .badTimestamp field value => field ++ " is not a timestamp: " ++ quoted value
  | .timestampOutOfRange value => "validSince is out of range: " ++ quoted value

/-- Why an operation fails. -/
inductive Error where
  /-- The client has no project id. -/
  | emptyProjectId
  /-- The endpoint of the client is no URL. -/
  | badEndpoint (e : Url.ParseError)
  | invalidArgument (r : Rejection)
  | userNotFound
  /-- The backend refused the request. -/
  | backend (status : Nat) (code : String)
  | unexpectedResponse (a : Anomaly)
  /-- The request could not be sent; `none` when there was not even a URL for it. -/
  | transport (url : Option String)
  /-- The response could not be read. -/
  | unreadable
deriving DecidableEq, Repr

/-- The words for an error. -/
def Error.message : Error → String
  | .emptyProjectId => "Invalid configuration: project id must be a non-empty string"
  | .badEndpoint e => "URL parse error: " ++ e.message
  | .invalidArgument r => "Invalid argument: " ++ r.message
  | .userNotFound => "No user record found for the given identifier"
  | .backend status code => "Backend responded with status " ++ toString status ++ ": " ++ code
  | .unexpectedResponse a => "Unexpected response: " ++ a.message
  | .transport _ => "HTTP request failed"
  | .unreadable => "JSON error"

end AccountWire.Admin
