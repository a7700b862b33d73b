import AccountWire.Admin.Error
import AccountWire.Json.Printer
import AccountWire.Text.Split

/-!
# Checks on the arguments of user operations

Each check accepts an argument or rejects it with its reason.  Lengths of names and passwords count
characters; the length of custom claims counts the octets of their JSON text.
-/

namespace AccountWire.User

open Admin (Rejection)

/-- The most characters of a user id. -/
def maxUidLength : Nat := 128

/-- The fewest characters of a password. -/
def minPasswordLength : Nat := 6

/-- The most octets of the custom claims' JSON text. -/
def maxClaimsSize : Nat := 1000

/-- Claims that the backend sets itself. -/
def reservedClaims : List String :=
  ["acr", "amr", "at_hash", "aud", "auth_time", "azp", "cnf", "c_hash", "exp", "firebase",
    "iat", "iss", "jti", "nbf", "nonce", "sub"]

/-- A user id has 1 to 128 characters. -/
def checkUid (uid : String) : Except Rejection Unit :=
  if uid = "" ∨ maxUidLength < uid.length then .error .badUid else .ok ()

/-- Whether a text has exactly one `@`, neither first nor last. -/
def isEmail (cs : List Char) : Bool :=
  match Split.atFirst? (· == '@') cs with
  | some (name, domain) => name ≠ [] && domain ≠ [] && !domain.contains '@'
  | none => false

/-- An email address has exactly one `@`, neither first nor last. -/
def checkEmail (email : String) : Except Rejection Unit :=
  if isEmail email.toList then .ok () else .error (.malformedEmail email)

/-- A phone number begins with a plus sign and has a digit. -/
def checkPhoneNumber (number : String) : Except Rejection Unit :=
  if number.toList.head? = some '+' ∧ number.toList.any (fun c => '0' ≤ c && c ≤ '9') then .ok ()
  else .error .badPhoneNumber

/-- A password has at least six characters. -/
def checkPassword (password : String) : Except Rejection Unit :=
  if password.length < minPasswordLength then .error .shortPassword else .ok ()

/-- The text in which custom claims are stored: their JSON text, if no claim is reserved and the
text is not too long. -/
def claimsText (claims : Json.Members) : Except Rejection String :=
  match claims.find? (fun c => reservedClaims.contains c.1) with
  | some (name, _) => .error (.reservedClaim name)
  | none =>
    if maxClaimsSize < (Json.obj claims).bytes.length then .error .oversizedClaims
    else .ok (Json.obj claims).text

end AccountWire.User
