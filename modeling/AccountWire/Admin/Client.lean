import AccountWire.Admin.Error
import AccountWire.Url.Parser

/-!
# The client

A client manages the resources of one project, or of one tenant of a project.  It knows two
endpoints, one for users and one for provider configurations; the resources of a client lie below
`/projects/` and the project's id, and those of a tenant below `/tenants/` and the tenant's id.
-/

namespace AccountWire.Admin

/-- The endpoint for users unless the configuration names another. -/
def defaultUserEndpoint : String := "https://identitytoolkit.googleapis.com/v1"

/-- The endpoint for provider configurations unless the configuration names another. -/
def defaultProviderEndpoint : String := "https://identitytoolkit.googleapis.com/v2"

/-- What a client is made from. -/
structure Configuration where
  projectId : String
  /-- Replaces both endpoints. -/
  endpoint : Option String

/-- A client of the identity backend. -/
structure Client where
  projectId : String
  tenantId : Option String
  userEndpoint : String
  providerEndpoint : String
deriving DecidableEq, Repr

/-- A text without the slashes at its end. -/
def trimSlashes (s : String) : String :=
  String.ofList ((s.toList.reverse.dropWhile (· = '/')).reverse)

namespace Client

/-- A client for a whole project. -/
def create (c : Configuration) : Except Error Client :=
  if c.projectId = "" then .error .emptyProjectId
  else
    match c.endpoint with
    | none => .ok ⟨c.projectId, none, defaultUserEndpoint, defaultProviderEndpoint⟩
    | some endpoint =>
      match Url.parse endpoint with
      | .error e => .error (.badEndpoint e)
      | .ok _ => .ok ⟨c.projectId, none, trimSlashes endpoint, trimSlashes endpoint⟩

/-- The client for one tenant of the same project. -/
def forTenant (c : Client) (tenantId : String) : Except Error Client :=
  if tenantId = "" then .error (.invalidArgument .emptyTenantId)
  else .ok { c with tenantId := some tenantId }

/-- What every resource of the client lies below. -/
def base (c : Client) (endpoint : String) : String :=
  endpoint ++ "/projects/" ++ c.projectId ++ c.tenantId.elim "" ("/tenants/" ++ ·)

/-- The address of a user resource, which brings its own slash or colon. -/
def userUrl (c : Client) (resource : String) : String := c.base c.userEndpoint ++ resource

/-- The address of a provider resource, which brings its own slash. -/
def providerUrl (c : Client) (resource : String) : String :=
  c.base c.providerEndpoint ++ resource

end Client

end AccountWire.Admin
