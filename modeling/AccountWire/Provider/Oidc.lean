import AccountWire.Provider.Basic

/-!
# OpenID Connect providers
-/

namespace AccountWire.Provider

open Admin (Client Error Exchange Rejection accept checkNonEmpty)

/-- An OpenID Connect provider. -/
structure Oidc where
  id : String
  displayName : String
  enabled : Bool
  clientId : String
  issuer : String
deriving DecidableEq, Repr

instance : Outline Oidc where
  outline p := Outline.record "OidcProviderConfig"
    [("id", outline p.id), ("display_name", outline p.displayName),
      ("enabled", outline p.enabled), ("client_id", outline p.clientId),
      ("issuer", outline p.issuer)]

/-- Reads a provider; its id is the last segment of its name. -/
def Oidc.ofTree? (t : Json.Tree) : Option Oidc := do
  let fs ← t.fields? ["name", "displayName", "enabled", "clientId", "issuer"]
  return {
    id := idOfName (← fs.text? "name")
    displayName := ← fs.text? "displayName"
    enabled := ← fs.flag? "enabled"
    clientId := ← fs.text? "clientId"
    issuer := ← fs.text? "issuer" }

namespace Oidc

/-- The mark of ids. -/
def mark : String := "oidc."

/-- The resource of all providers of this kind. -/
def collection : String := "/oauthIdpConfigs"

/-- A provider to create. -/
structure New where
  id : String
  displayName : Option String
  enabled : Option Bool
  clientId : String
  issuer : String
deriving DecidableEq, Repr

/-- The body of a new provider's request. -/
def New.request (p : New) : Except Rejection Json.Members := do
  checkId mark p.id
  checkNonEmpty "ClientID" p.clientId
  checkUrl "Issuer" p.issuer
  return Json.Members.ofPresent
    [("displayName", p.displayName.map .str), ("enabled", p.enabled.map .bool),
      ("clientId", some (.str p.clientId)), ("issuer", some (.str p.issuer))]

/-- What is changed in a provider.  An empty display name is removed. -/
structure Change where
  displayName : Option String
  enabled : Option Bool
  clientId : Option String
  issuer : Option String
deriving DecidableEq, Repr

/-- The body of a change's request. -/
def Change.request (p : Change) : Except Rejection Json.Members := do
  p.clientId.forM (checkNonEmpty "ClientID")
  p.issuer.forM (checkUrl "Issuer")
  let members := Json.Members.ofPresent
    [("displayName", p.displayName.map displayNameValue), ("enabled", p.enabled.map .bool),
      ("clientId", p.clientId.map .str), ("issuer", p.issuer.map .str)]
  if members.isEmpty then throw .emptyProviderChange
  return members

/-- The address of a provider. -/
def address (c : Client) (id : String) : String := c.providerUrl (collection ++ "/" ++ id)

/-- Looks up a provider. -/
def get (c : Client) (id : String) : Except Error (Exchange Oidc) := do
  accept (checkId mark id)
  Exchange.plan .get (address c id) [] none (Exchange.readBody ofTree?)

/-- Creates a provider. -/
def create (c : Client) (p : New) : Except Error (Exchange Oidc) := do
  let members ← accept p.request
  Exchange.plan .post (c.providerUrl collection) [("oauthIdpConfigId", p.id)]
    (some (.obj members)) (Exchange.readBody ofTree?)

/-- Changes a provider. -/
def update (c : Client) (id : String) (p : Change) : Except Error (Exchange Oidc) := do
  accept (checkId mark id)
  let members ← accept p.request
  Exchange.plan .patch (address c id) [maskParameter members] (some (.obj members))
    (Exchange.readBody ofTree?)

/-- Deletes a provider. -/
def delete (c : Client) (id : String) : Except Error (Exchange Unit) := do
  accept (checkId mark id)
  Exchange.plan .delete (address c id) [] none Exchange.ignoreBody

/-- Reads a page of providers. -/
def pageOfTree? (t : Json.Tree) : Option (Listing.Page Oidc) := do
  let fs ← t.fields? ["oauthIdpConfigs", "nextPageToken"]
  return ⟨← fs.list? "oauthIdpConfigs" ofTree?, ← fs.text? "nextPageToken"⟩

/-- Asks for the page of providers at a token; the empty token is the first page. -/
def page (c : Client) (token : String) : Except Error (Exchange (Listing.Page Oidc)) :=
  Exchange.plan .get (c.providerUrl collection) (pageParameters token) none
    (Exchange.readBody pageOfTree?)

end Oidc

end AccountWire.Provider
