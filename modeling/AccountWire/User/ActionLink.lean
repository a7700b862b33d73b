import AccountWire.User.Operations

/-!
# Links in emails

A user gets a link by email to verify the address, to reset the password or to sign in.  The
settings of a link say where it leads and how apps treat it; the request holds them beside the
link's kind and the address.
-/

namespace AccountWire.User

open Admin (Client Error Exchange Rejection accept checkNonEmpty)

/-- How an Android app treats a link. -/
structure AndroidSettings where
  packageName : String
  minimumVersion : Option String
  installApp : Bool
deriving DecidableEq, Repr

/-- Where a link leads and how apps treat it. -/
structure LinkSettings where
  /-- An absolute URL with a host. -/
  url : String
  handleCodeInApp : Bool
  dynamicLinkDomain : Option String
  iosBundleId : Option String
  android : Option AndroidSettings
deriving DecidableEq, Repr

/-- What a link is for. -/
inductive LinkKind where
  | emailVerification
  | passwordReset
  | emailSignIn
deriving DecidableEq, Repr

/-- The word for a kind of link in requests. -/
def LinkKind.requestType : LinkKind → String
  | .emailVerification => "VERIFY_EMAIL"
  | .passwordReset => "PASSWORD_RESET"
  | .emailSignIn => "EMAIL_SIGNIN"

/-- Checks the settings of a link. -/
def LinkSettings.check (s : LinkSettings) : Except Rejection Unit := do
  if !Url.namesHost s.url then throw (.badContinueUrl s.url)
  s.android.forM fun a => checkNonEmpty "Android package name" a.packageName

/-- The members by which a request says how a link is treated. -/
def LinkSettings.fields (s : LinkSettings) : List (String × Option Json) :=
  [("continueUrl", some (.str s.url)), ("canHandleCodeInApp", some (.bool s.handleCodeInApp)),
    ("dynamicLinkDomain", s.dynamicLinkDomain.map .str),
    ("iOSBundleId", s.iosBundleId.map .str),
    ("androidPackageName", s.android.map fun a => .str a.packageName),
    ("androidInstallApp", s.android.map fun a => .bool a.installApp),
    ("androidMinimumVersion", s.android.bind fun a => a.minimumVersion.map .str)]

/-- The body of a link's request. -/
def linkRequest (kind : LinkKind) (email : String) (settings : Option LinkSettings) :
    Except Rejection Json.Members := do
  checkEmail email
  settings.forM LinkSettings.check
  return Json.Members.ofPresent
    ([("requestType", some (.str kind.requestType)), ("email", some (.str email)),
      ("returnOobLink", some (.bool true))] ++ settings.elim [] LinkSettings.fields)

/-- Asks for a link. -/
def link (c : Client) (kind : LinkKind) (email : String) (settings : Option LinkSettings) :
    Except Error (Exchange String) := do
  let members ← accept (linkRequest kind email settings)
  Exchange.plan .post (c.userUrl "/accounts:sendOobCode") [] (some (.obj members))
    (Exchange.readBody (soleText? "oobLink"))

/-- Asks for a link that verifies an email address. -/
def emailVerificationLink (c : Client) (email : String) (settings : Option LinkSettings) :
    Except Error (Exchange String) :=
  link c .emailVerification email settings

/-- Asks for a link that resets a password. -/
def passwordResetLink (c : Client) (email : String) (settings : Option LinkSettings) :
    Except Error (Exchange String) :=
  link c .passwordReset email settings

/-- Asks for a link that signs in; it always has settings. -/
def emailSignInLink (c : Client) (email : String) (settings : LinkSettings) :
    Except Error (Exchange String) :=
  link c .emailSignIn email (some settings)

end AccountWire.User
