import AccountWire.Echo.Fixture
import AccountWire.Echo.ListingContract
import AccountWire.Echo.PathTemplate
import AccountWire.Echo.Session
import AccountWire.Provider.Oidc
import AccountWire.Provider.Saml
import AccountWire.User.ActionLink
import AccountWire.User.Import
import AccountWire.Proofs.Listing.Stream
import AccountWire.Proofs.Text.Split
import AccountWire.Proofs.Text.Utf8
import AccountWire.Proofs.Url.Percent
import AccountWire.Proofs.Url.Path
import AccountWire.Proofs.Url.Reading
import AccountWire.Proofs.Url.Opening
import AccountWire.Proofs.Admin.Endpoint
import AccountWire.Proofs.Admin.Operation
import AccountWire.Proofs.Provider.ConfigId
import AccountWire.Proofs.Admin.TenantScope
import AccountWire.Proofs.Url.Query
import AccountWire.Proofs.Json.Building
import AccountWire.Proofs.Json.Rereading
import AccountWire.Proofs.Json.Patch
import AccountWire.Proofs.Provider.Mask
import AccountWire.Proofs.Provider.Update
import AccountWire.Proofs.Json.Spelling
import AccountWire.Proofs.Json.Depth
import AccountWire.Proofs.Provider.Creation
import AccountWire.Proofs.User.Claims
import AccountWire.Proofs.Echo.ListingContract
import AccountWire.Proofs.Echo.Arrival
import AccountWire.Proofs.Echo.ListingPages
import AccountWire.Proofs.Listing.Settling
import AccountWire.Proofs.Listing.Resumption
import AccountWire.Proofs.Admin.Acceptance
import AccountWire.Proofs.Admin.Outcome
import AccountWire.Proofs.Admin.OwnParameters
import AccountWire.Proofs.Echo.CapturedParameters
import AccountWire.Proofs.Echo.CaptureLog
import AccountWire.Proofs.Json.Grammar
import AccountWire.Proofs.Json.Rearrangement
import AccountWire.Proofs.Json.Recognition
import AccountWire.Proofs.Admin.ResponseShape
import AccountWire.Proofs.Admin.ErrorCode
import AccountWire.Proofs.Admin.Route
import AccountWire.Proofs.Admin.EndpointUse
import AccountWire.Proofs.Admin.Origin
import AccountWire.Proofs.Echo.PathTemplate
import AccountWire.Proofs.Echo.ResourcePaths
import AccountWire.Proofs.Echo.CanonicalQuery
import AccountWire.Proofs.User.Change
import AccountWire.Proofs.User.Replacement
import AccountWire.Proofs.User.Import
import AccountWire.Proofs.User.ImportResult
import AccountWire.Proofs.Provider.MaskOrder
import AccountWire.Proofs.Echo.Placeholders
import AccountWire.Proofs.User.Export
import AccountWire.Proofs.Listing.Pages
import AccountWire.Proofs.Listing.Laziness
import AccountWire.Proofs.User.Listing
import AccountWire.Proofs.Json.Equality
import AccountWire.Proofs.Echo.CapturedHeaders
import AccountWire.Proofs.Echo.FieldCheck
import AccountWire.Proofs.Echo.Options
import AccountWire.Proofs.User.Creation
import AccountWire.Proofs.User.ActionLink
