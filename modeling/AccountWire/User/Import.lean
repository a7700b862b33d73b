import AccountWire.Text.Base64Url
import AccountWire.User.Operations

/-!
# Importing users

An import brings up to a thousand users in one request, with their password hashes if it says how
these were made.  The response lists the users that could not be imported.
-/

namespace AccountWire.User

open Admin (Client Error Exchange Rejection accept)

/-- The most users of an import. -/
def maxImportedUsers : Nat := 1000

/-- A user to import. -/
structure ImportedUser where
  uid : String
  email : Option String
  displayName : Option String
  phoneNumber : Option String
  photoUrl : Option String
  emailVerified : Option Bool
  disabled : Option Bool
  passwordHash : Option Bytes
  passwordSalt : Option Bytes
  customClaims : Option Json.Members

/-- How password hashes were made.  Keys are sent as they are given. -/
structure HashConfig where
  algorithm : String
  signerKey : Option String
  saltSeparator : Option String
  rounds : Option UInt32
  memoryCost : Option UInt32
deriving DecidableEq, Repr

/-- The value of octets, written with letters. -/
def octetsValue (bs : Bytes) : Json := .str (Base64Url.encodeString bs)

/-- A user as an import sends it. -/
def ImportedUser.request (u : ImportedUser) : Except Rejection Json := do
  checkUid u.uid
  u.email.forM checkEmail
  u.phoneNumber.forM checkPhoneNumber
  let claims ← u.customClaims.mapM claimsText
  return .obj (Json.Members.ofPresent
    [("localId", some (.str u.uid)), ("email", u.email.map .str),
      ("displayName", u.displayName.map .str), ("phoneNumber", u.phoneNumber.map .str),
      ("photoUrl", u.photoUrl.map .str), ("emailVerified", u.emailVerified.map .bool),
      ("disabled", u.disabled.map .bool), ("passwordHash", u.passwordHash.map octetsValue),
      ("salt", u.passwordSalt.map octetsValue), ("customAttributes", claims.map .str)])

/-- The members by which an import says how hashes were made. -/
def HashConfig.fields (h : HashConfig) : List (String × Option Json) :=
  [("hashAlgorithm", some (.str h.algorithm)), ("signerKey", h.signerKey.map .str),
    ("saltSeparator", h.saltSeparator.map .str),
    ("rounds", h.rounds.map fun n => .ofWord n.toUInt64),
    ("memoryCost", h.memoryCost.map fun n => .ofWord n.toUInt64)]

/-- Checks the hash configuration of an import: its algorithm has a name, and it is there when
some user has a hash. -/
def checkHash (users : List ImportedUser) : Option HashConfig → Except Rejection Unit
  | some h => if h.algorithm = "" then .error .emptyHashAlgorithm else .ok ()
  | none =>
    if users.any (·.passwordHash.isSome) then .error .missingHashConfig else .ok ()

/-- The body of an import's request. -/
def importRequest (users : List ImportedUser) (hash : Option HashConfig) :
    Except Rejection Json.Members := do
  if users.isEmpty ∨ maxImportedUsers < users.length then throw .badUserCount
  checkHash users hash
  let values ← users.mapM (·.request)
  return Json.Members.ofPresent
    ((hash.elim [] HashConfig.fields) ++ [("users", some (.arr values))])

/-- A user that could not be imported: its place in the import, and the reason. -/
structure ImportFault where
  index : Nat
  reason : String
deriving DecidableEq, Repr

/-- What became of an import. -/
structure ImportResult where
  successCount : Nat
  failureCount : Nat
  faults : List ImportFault
deriving DecidableEq, Repr

/-- Reads a fault. -/
def ImportFault.ofTree? (t : Json.Tree) : Option ImportFault := do
  let fs ← t.fields? ["index", "message"]
  return ⟨← fs.count? "index", ← fs.text? "message"⟩

/-- The faults of an import's response. -/
def faultsOfTree? (t : Json.Tree) : Option (List ImportFault) := do
  let fs ← t.fields? ["error"]
  fs.list? "error" ImportFault.ofTree?

/-- The result of an import of `count` users with the given faults. -/
def ImportResult.ofFaults (count : Nat) (faults : List ImportFault) : ImportResult :=
  ⟨count - faults.length, faults.length, faults⟩

/-- Imports users. -/
def importUsers (c : Client) (users : List ImportedUser) (hash : Option HashConfig) :
    Except Error (Exchange ImportResult) := do
  let members ← accept (importRequest users hash)
  Exchange.plan .post (c.userUrl "/accounts:batchCreate") [] (some (.obj members)) fun body =>
    return .ofFaults users.length (← Exchange.readBody faultsOfTree? body)

end AccountWire.User
