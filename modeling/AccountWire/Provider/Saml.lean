import AccountWire.Provider.Basic

/-!
# SAML providers

A provider is stored in two nested parts, one for the identity provider and one for the service
that relies on it; here its fields stand side by side.
-/

namespace AccountWire.Provider

open Admin (Client Error Exchange Rejection accept checkNonEmpty)

/-- A SAML provider. -/
structure Saml where
  id : String
  displayName : String
  enabled : Bool
  idpEntityId : String
  ssoUrl : String
  requestSigningEnabled : Bool
  x509Certificates : List String
  rpEntityId : String
  callbackUrl : String
deriving DecidableEq, Repr

instance : Outline Saml where
  outline p := Outline.record "SamlProviderConfig"
    [("id", outline p.id), ("display_name", outline p.displayName),
      ("enabled", outline p.enabled), ("idp_entity_id", outline p.idpEntityId),
      ("sso_url", outline p.ssoUrl),
      ("request_signing_enabled", outline p.requestSigningEnabled),
      ("x509_certificates", outline p.x509Certificates),
      ("rp_entity_id", outline p.rpEntityId), ("callback_url", outline p.callbackUrl)]

namespace Saml

/-- The part of a stored provider that is about the identity provider. -/
structure IdpPart where
  entityId : String
  ssoUrl : String
  signRequest : Bool
  certificates : List String

/-- The part of a stored provider that is about the relying service. -/
structure SpPart where
  entityId : String
  callbackUri : String

/-- Reads a certificate. -/
def certificateOfTree? (t : Json.Tree) : Option String := do
  let fs ← t.fields? ["x509Certificate"]
  fs.text? "x509Certificate"

/-- Reads the part about the identity provider. -/
def IdpPart.ofTree? (t : Json.Tree) : Option IdpPart := do
  let fs ← t.fields? ["idpEntityId", "ssoUrl", "signRequest", "idpCertificates"]
  return ⟨← fs.text? "idpEntityId", ← fs.text? "ssoUrl", ← fs.flag? "signRequest",
    ← fs.list? "idpCertificates" certificateOfTree?⟩

/-- Reads the part about the relying service. -/
def SpPart.ofTree? (t : Json.Tree) : Option SpPart := do
  let fs ← t.fields? ["spEntityId", "callbackUri"]
  return ⟨← fs.text? "spEntityId", ← fs.text? "callbackUri"⟩

/-- Reads a provider; its id is the last segment of its name. -/
def ofTree? (t : Json.Tree) : Option Saml := do
  let fs ← t.fields? ["name", "displayName", "enabled", "idpConfig", "spConfig"]
  let name ← fs.text? "name"
  let displayName ← fs.text? "displayName"
  let enabled ← fs.flag? "enabled"
  let idp ← fs.get? "idpConfig" IdpPart.ofTree? ⟨"", "", false, []⟩
  let sp ← fs.get? "spConfig" SpPart.ofTree? ⟨"", ""⟩
  return {
    id := idOfName name
    displayName := displayName
    enabled := enabled
    idpEntityId := idp.entityId
    ssoUrl := idp.ssoUrl
    requestSigningEnabled := idp.signRequest
    x509Certificates := idp.certificates
    rpEntityId := sp.entityId
    callbackUrl := sp.callbackUri }

/-- The mark of ids. -/
def mark : String := "saml."

/-- The resource of all providers of this kind. -/
def collection : String := "/inboundSamlConfigs"

/-- A provider to create. -/
structure New where
  id : String
  displayName : Option String
  enabled : Option Bool
  idpEntityId : String
  ssoUrl : String
  requestSigningEnabled : Option Bool
  x509Certificates : List String
  rpEntityId : String
  callbackUrl : String
deriving DecidableEq, Repr

/-- The body of a new provider's request. -/
def New.request (p : New) : Except Rejection Json.Members := do
  checkId mark p.id
  checkNonEmpty "IDPEntityID" p.idpEntityId
  checkUrl "SSOURL" p.ssoUrl
  checkCertificates p.x509Certificates
  checkNonEmpty "RPEntityID" p.rpEntityId
  checkUrl "CallbackURL" p.callbackUrl
  let idp := Json.Members.ofPresent
    [("idpEntityId", some (.str p.idpEntityId)), ("ssoUrl", some (.str p.ssoUrl)),
      ("idpCertificates", some (certificatesValue p.x509Certificates)),
      ("signRequest", p.requestSigningEnabled.map .bool)]
  let sp := Json.Members.ofPresent
    [("spEntityId", some (.str p.rpEntityId)), ("callbackUri", some (.str p.callbackUrl))]
  return Json.Members.ofPresent
    [("displayName", p.displayName.map .str), ("enabled", p.enabled.map .bool),
      ("idpConfig", some (.obj idp)), ("spConfig", some (.obj sp))]

/-- What is changed in a provider.  An empty display name is removed. -/
structure Change where
  displayName : Option String
  enabled : Option Bool
  idpEntityId : Option String
  ssoUrl : Option String
  requestSigningEnabled : Option Bool
  x509Certificates : Option (List String)
  rpEntityId : Option String
  callbackUrl : Option String
deriving DecidableEq, Repr

/-- The body of a change's request. -/
def Change.request (p : Change) : Except Rejection Json.Members := do
  p.idpEntityId.forM (checkNonEmpty "IDPEntityID")
  p.ssoUrl.forM (checkUrl "SSOURL")
  p.x509Certificates.forM checkCertificates
  p.rpEntityId.forM (checkNonEmpty "RPEntityID")
  p.callbackUrl.forM (checkUrl "CallbackURL")
  let idp := presentObject?
    [("idpEntityId", p.idpEntityId.map .str), ("ssoUrl", p.ssoUrl.map .str),
      ("signRequest", p.requestSigningEnabled.map .bool),
      ("idpCertificates", p.x509Certificates.map certificatesValue)]
  let sp := presentObject?
    [("spEntityId", p.rpEntityId.map .str), ("callbackUri", p.callbackUrl.map .str)]
  let members := Json.Members.ofPresent
    [("displayName", p.displayName.map displayNameValue), ("enabled", p.enabled.map .bool),
      ("idpConfig", idp), ("spConfig", sp)]
  if members.isEmpty then throw .emptyProviderChange
  return members

/-- The address of a provider. -/
def address (c : Client) (id : String) : String := c.providerUrl (collection ++ "/" ++ id)

/-- Looks up a provider. -/
def get (c : Client) (id : String) : Except Error (Exchange Saml) := do
  accept (checkId mark id)
  Exchange.plan .get (address c id) [] none (Exchange.readBody ofTree?)

/-- Creates a provider. -/
def create (c : Client) (p : New) : Except Error (Exchange Saml) := do
  let members ← accept p.request
  Exchange.plan .post (c.providerUrl collection) [("inboundSamlConfigId", p.id)]
    (some (.obj members)) (Exchange.readBody ofTree?)

/-- Changes a provider. -/
def update (c : Client) (id : String) (p : Change) : Except Error (Exchange Saml) := do
  accept (checkId mark id)
  let members ← accept p.request
  Exchange.plan .patch (address c id) [maskParameter members] (some (.obj members))
    (Exchange.readBody ofTree?)

/-- Deletes a provider. -/
def delete (c : Client) (id : String) : Except Error (Exchange Unit) := do
  accept (checkId mark id)
  Exchange.plan .delete (address c id) [] none Exchange.ignoreBody

/-- Reads a page of providers. -/
def pageOfTree? (t : Json.Tree) : Option (Listing.Page Saml) := do
  let fs ← t.fields? ["inboundSamlConfigs", "nextPageToken"]
  return ⟨← fs.list? "inboundSamlConfigs" ofTree?, ← fs.text? "nextPageToken"⟩

/-- Asks for the page of providers at a token; the empty token is the first page. -/
def page (c : Client) (token : String) : Except Error (Exchange (Listing.Page Saml)) :=
  Exchange.plan .get (c.providerUrl collection) (pageParameters token) none
    (Exchange.readBody pageOfTree?)

end Saml

end AccountWire.Provider
