import AccountWire.Proofs.Admin.Checks
import AccountWire.Proofs.Admin.Endpoint
import AccountWire.Proofs.Url.Query
import AccountWire.Provider.Oidc
import AccountWire.Provider.Saml
import AccountWire.User.ActionLink
import AccountWire.User.Import

/-!
# All operations of a client

The operations of a client have one thing in common: the arguments are refused, or a request is
planned for the address of a resource below the base of the client (`request_plannedAt`).  What
that request's path is depends on its address alone (`PlannedAt.path_of_ok`), and whether there is
a request depends on whether the address is a URL (`PlannedAt.ok_of_parse`).
-/

namespace AccountWire.Admin

open Http (Request Method)

/-! ### Arguments that were let through -/

/-- An accepted argument is one that its check has let through. -/
theorem of_accept_eq_ok {α : Type} {check : Except Rejection α} {a : α}
    (h : accept check = .ok a) : check = .ok a := by
  cases check with
  | error reason => exact absurd h (by simp [accept, Except.mapError])
  | ok b => exact congrArg _ (Except.ok.inj h)

/-- A body is sent when it has members. -/
theorem of_unless_empty {ms ns : Json.Members} {e : Rejection}
    (h : (if ns.isEmpty then Except.error e else Except.ok ns) = .ok ms) : ms = ns ∧ ms ≠ [] := by
  split at h
  · exact absurd h (by simp)
  · next hne =>
    obtain rfl := Except.ok.inj h
    exact ⟨rfl, by simpa using hne⟩

/-! ### Planning -/

/-- The request of an exchange that is planned for an address. -/
def planned (method : Method) (address : String) (query : List Query.Pair) (body : Option Json) :
    Except Error Request :=
  (Exchange.plan method address query body Exchange.ignoreBody).map (·.request)

/-- Whether the arguments of an operation are refused. -/
def Refused (r : Except Error Request) : Prop := ∃ reason, r = .error (.invalidArgument reason)

instance (r : Except Error Request) : Decidable (Refused r) :=
  decidable_of_iff ((match r with | .error (.invalidArgument _) => true | _ => false) = true) (by
    unfold Refused
    split <;> simp_all)

/-- The arguments are refused, or a request is planned for the address. -/
def PlannedAt (address : String) (r : Except Error Request) : Prop :=
  Refused r ∨ ∃ method query body, r = planned method address query body

/-- The request of a plan does not depend on how the response is read. -/
theorem plan_map_request {α : Type} (method : Method) (address : String)
    (query : List Query.Pair) (body : Option Json) (interpret : Bytes → Except Error α) :
    (Exchange.plan method address query body interpret).map (·.request) =
      planned method address query body := by
  unfold planned Exchange.plan
  cases Url.parse address with
  | error e => rfl
  | ok url =>
      dsimp only
      split <;> rfl

/-- A plan on its own is made for its address. -/
theorem plannedAt_plan {α : Type} (method : Method) (address : String) (query : List Query.Pair)
    (body : Option Json) (interpret : Bytes → Except Error α) :
    PlannedAt address ((Exchange.plan method address query body interpret).map (·.request)) :=
  Or.inr ⟨method, query, body, plan_map_request method address query body interpret⟩

/-- A plan on its own refuses nothing. -/
theorem plan_not_refused {α : Type} (method : Method) (address : String)
    (query : List Query.Pair) (body : Option Json) (interpret : Bytes → Except Error α) :
    ¬ Refused ((Exchange.plan method address query body interpret).map (·.request)) := by
  rintro ⟨reason, h⟩
  unfold Exchange.plan at h
  cases hu : Url.parse address with
  | error e => simp [hu, Except.map] at h
  | ok url =>
      simp only [hu] at h
      split at h <;> simp [Except.map] at h

/-- A check of an argument refuses it or lets the plan go on. -/
theorem plannedAt_accept_bind {α β : Type} {address : String} {check : Except Rejection β}
    {next : β → Except Error (Exchange α)}
    (hnext : ∀ b, PlannedAt address ((next b).map (·.request))) :
    PlannedAt address ((accept check >>= next).map (·.request)) := by
  cases check with
  | error reason => exact Or.inl ⟨reason, rfl⟩
  | ok b => exact hnext b

/-- The URL that a request for an address goes to: user name and password are left out. -/
def sentUrl (u : Url) : Url := if u.credentials?.isSome then u.withoutUserinfo else u

/-- Leaving out user name and password keeps the path. -/
@[simp] theorem path_sentUrl (u : Url) : (sentUrl u).path = u.path := by
  unfold sentUrl
  split <;> rfl

@[simp] theorem query_sentUrl (u : Url) : (sentUrl u).query = u.query := by
  unfold sentUrl
  split <;> rfl

/-- A planned request goes to its address, with its parameters added. -/
theorem planned_url {method : Method} {address : String} {query : List Query.Pair}
    {body : Option Json} {req : Request} (h : planned method address query body = .ok req) :
    ∃ u, Url.parse address = .ok u ∧ req.url = (sentUrl u).addQuery query := by
  unfold planned Exchange.plan at h
  cases hu : Url.parse address with
  | error e => simp [hu, Except.map] at h
  | ok u =>
      refine ⟨u, rfl, ?_⟩
      simp only [hu] at h
      split at h
      · cases h
      · simp only [Except.map, Except.ok.injEq] at h
        subst h
        rfl

/-- **The plan for an address** that is a URL with a host. -/
theorem plan_of_parse {α : Type} (method : Method) {address : String} (query : List Query.Pair)
    (body : Option Json) (interpret : Bytes → Except Error α) {u : Url}
    (hu : Url.parse address = .ok u) (hhost : u.hasHost = true) :
    Exchange.plan method address query body interpret =
      .ok ⟨⟨method, (sentUrl u).addQuery query, body.map fun _ => "application/json",
        body.elim [] Json.bytes⟩, interpret⟩ := by
  simp only [Exchange.plan, hu, hhost, Bool.not_true, Bool.false_eq_true, if_false, sentUrl]

/-- **What a plan sends** to an address that is a URL with a host: the parameters come after those
of the address, and the body is the value's text. -/
theorem exists_plan {α : Type} (method : Method) {address : String} (query : List Query.Pair)
    (body : Option Json) (interpret : Bytes → Except Error α) {u : Url}
    (hu : Url.parse address = .ok u) (hhost : u.hasHost = true) :
    ∃ x, Exchange.plan method address query body interpret = .ok x ∧
      x.request.url.parameters = u.parameters ++ query ∧
      x.request.body = body.elim [] Json.bytes := by
  unfold Exchange.plan
  simp only [hu, hhost, Bool.not_true, Bool.false_eq_true, if_false]
  refine ⟨_, rfl, ?_, rfl⟩
  rw [Url.parameters_addQuery]
  split <;> rfl

/-- What is planned sends the text of its body and reads responses as it was told to. -/
theorem of_plan_eq_ok {α : Type} {method : Method} {address : String} {query : List Query.Pair}
    {body : Option Json} {interpret : Bytes → Except Error α} {x : Exchange α}
    (h : Exchange.plan method address query body interpret = .ok x) :
    x.request.body = body.elim [] Json.bytes ∧ x.interpret = interpret := by
  unfold Exchange.plan at h
  cases hu : Url.parse address with
  | error e => simp [hu] at h
  | ok u =>
      simp only [hu] at h
      split at h
      · cases h
      · obtain rfl := Except.ok.inj h
        exact ⟨rfl, rfl⟩

/-- A status that tells of failure is reported with the code of the body. -/
theorem Exchange.conclude_of_failed {α : Type} (x : Exchange α) {r : Http.Response}
    (h : r.status < 200 ∨ 299 < r.status) :
    x.conclude r = .error (.backend r.status (errorCode r.body)) := by
  refine if_neg ?_
  simp only [Http.Response.isSuccess, Bool.and_eq_true, decide_eq_true_eq]
  omega

/-- A request that is answered with success gives what its exchange reads in the body. -/
theorem run_of_success {α σ : Type} {x : Exchange α} {send : Http.Transport σ} {s s' : σ}
    {r : Http.Response} (hsend : send x.request s = (some r, s')) (hsuccess : r.isSuccess = true) :
    run (.ok x) send s = (x.interpret r.body, s') := by
  rw [run, hsend]
  exact congrArg (·, s') (if_pos hsuccess)

/-- A request can be made for an address that is a URL with a host. -/
theorem planned_ok (method : Method) {address : String} (query : List Query.Pair)
    (body : Option Json) {u : Url} (hu : Url.parse address = .ok u) (hhost : u.hasHost = true) :
    ∃ req, planned method address query body = .ok req := by
  obtain ⟨x, hx, -⟩ := exists_plan method query body Exchange.ignoreBody hu hhost
  exact ⟨x.request, by rw [planned, hx]; rfl⟩

namespace PlannedAt

variable {address : String} {r : Except Error Request}

/-- A request goes to its address, with parameters added. -/
theorem url_of_ok (h : PlannedAt address r) {req : Request} (hr : r = .ok req) :
    ∃ u query, Url.parse address = .ok u ∧ req.url = (sentUrl u).addQuery query := by
  rcases h with ⟨reason, h⟩ | ⟨method, query, body, h⟩
  · rw [hr] at h
    cases h
  · obtain ⟨u, hu, hurl⟩ := planned_url (h.symm.trans hr)
    exact ⟨u, query, hu, hurl⟩

/-- A request keeps the path of its address. -/
theorem path_of_ok (h : PlannedAt address r) {req : Request} (hr : r = .ok req) :
    ∃ u, Url.parse address = .ok u ∧ req.url.path = u.path := by
  obtain ⟨u, query, hu, hurl⟩ := h.url_of_ok hr
  exact ⟨u, hu, by rw [hurl, Url.path_addQuery, path_sentUrl]⟩

/-- Arguments that are not refused are sent if the address is a URL with a host. -/
theorem ok_of_parse (h : PlannedAt address r) (hr : ¬ Refused r) {u : Url}
    (hu : Url.parse address = .ok u) (hhost : u.hasHost = true) : ∃ req, r = .ok req := by
  rcases h with h | ⟨method, query, body, h⟩
  · exact absurd h hr
  · rw [h]
    exact planned_ok method query body hu hhost

end PlannedAt

/-! ### The operations -/

/-- The two kinds of provider configurations. -/
inductive ProviderKind where
  | oidc
  | saml
deriving DecidableEq, Repr

/-- The mark of the ids of a kind. -/
def ProviderKind.mark : ProviderKind → String
  | .oidc => Provider.Oidc.mark
  | .saml => Provider.Saml.mark

/-- The path segment below which the configurations of a kind lie. -/
def ProviderKind.collection : ProviderKind → String
  | .oidc => "oauthIdpConfigs"
  | .saml => "inboundSamlConfigs"

/-- The operations of a client with their arguments.  A listing is asked for one page at a
time. -/
inductive Operation where
  | byUid (uid : String)
  | byEmail (email : String)
  | byPhoneNumber (number : String)
  | createUser (user : User.NewUser)
  | updateUser (uid : String) (change : User.UserChange)
  | revokeRefreshTokens (now : Int) (uid : String)
  | setCustomClaims (uid : String) (claims : Option Json.Members)
  | deleteUser (uid : String)
  | importUsers (users : List User.ImportedUser) (hash : Option User.HashConfig)
  | sessionCookie (idToken : String) (span : User.Span)
  | emailVerificationLink (email : String) (settings : Option User.LinkSettings)
  | passwordResetLink (email : String) (settings : Option User.LinkSettings)
  | emailSignInLink (email : String) (settings : User.LinkSettings)
  | userPage (token : String)
  | getOidc (id : String)
  | createOidc (provider : Provider.Oidc.New)
  | updateOidc (id : String) (change : Provider.Oidc.Change)
  | deleteOidc (id : String)
  | oidcPage (token : String)
  | getSaml (id : String)
  | createSaml (provider : Provider.Saml.New)
  | updateSaml (id : String) (change : Provider.Saml.Change)
  | deleteSaml (id : String)
  | samlPage (token : String)

namespace Operation

/-- The request of an operation. -/
def request (c : Client) : Operation → Except Error Request
  | .byUid uid => (User.byUid c uid).map (·.request)
  | .byEmail email => (User.byEmail c email).map (·.request)
  | .byPhoneNumber number => (User.byPhoneNumber c number).map (·.request)
  | .createUser user => (User.create c user).map (·.request)
  | .updateUser uid change => (User.update c uid change).map (·.request)
  | .revokeRefreshTokens now uid => (User.revokeRefreshTokens c now uid).map (·.request)
  | .setCustomClaims uid claims => (User.setCustomClaims c uid claims).map (·.request)
  | .deleteUser uid => (User.delete c uid).map (·.request)
  | .importUsers users hash => (User.importUsers c users hash).map (·.request)
  | .sessionCookie idToken span => (User.sessionCookie c idToken span).map (·.request)
  | .emailVerificationLink email settings =>
    (User.emailVerificationLink c email settings).map (·.request)
  | .passwordResetLink email settings => (User.passwordResetLink c email settings).map (·.request)
  | .emailSignInLink email settings => (User.emailSignInLink c email settings).map (·.request)
  | .userPage token => (User.page c token).map (·.request)
  | .getOidc id => (Provider.Oidc.get c id).map (·.request)
  | .createOidc provider => (Provider.Oidc.create c provider).map (·.request)
  | .updateOidc id change => (Provider.Oidc.update c id change).map (·.request)
  | .deleteOidc id => (Provider.Oidc.delete c id).map (·.request)
  | .oidcPage token => (Provider.Oidc.page c token).map (·.request)
  | .getSaml id => (Provider.Saml.get c id).map (·.request)
  | .createSaml provider => (Provider.Saml.create c provider).map (·.request)
  | .updateSaml id change => (Provider.Saml.update c id change).map (·.request)
  | .deleteSaml id => (Provider.Saml.delete c id).map (·.request)
  | .samlPage token => (Provider.Saml.page c token).map (·.request)

/-- The kind and the id of the configuration that an operation is about. -/
def config? : Operation → Option (ProviderKind × String)
  | .getOidc id | .updateOidc id _ | .deleteOidc id => some (.oidc, id)
  | .getSaml id | .updateSaml id _ | .deleteSaml id => some (.saml, id)
  | _ => none

/-- The service that an operation uses. -/
def service : Operation → Service
  | .getOidc _ | .createOidc _ | .updateOidc _ _ | .deleteOidc _ | .oidcPage _ => .providers
  | .getSaml _ | .createSaml _ | .updateSaml _ _ | .deleteSaml _ | .samlPage _ => .providers
  | _ => .users

/-- What an operation appends to the last segment of its client's base. -/
def verb : Operation → String
  | .sessionCookie _ _ => ":createSessionCookie"
  | _ => ""

/-- The segments of an operation's own resource. -/
def segments : Operation → List String
  | .byUid _ | .byEmail _ | .byPhoneNumber _ => ["accounts:lookup"]
  | .createUser _ => ["accounts"]
  | .updateUser _ _ | .revokeRefreshTokens _ _ | .setCustomClaims _ _ => ["accounts:update"]
  | .deleteUser _ => ["accounts:delete"]
  | .importUsers _ _ => ["accounts:batchCreate"]
  | .sessionCookie _ _ => []
  | .emailVerificationLink _ _ | .passwordResetLink _ _ | .emailSignInLink _ _ =>
    ["accounts:sendOobCode"]
  | .userPage _ => ["accounts:batchGet"]
  | .createOidc _ | .oidcPage _ => [ProviderKind.oidc.collection]
  | .createSaml _ | .samlPage _ => [ProviderKind.saml.collection]
  | .getOidc id | .updateOidc id _ | .deleteOidc id => [ProviderKind.oidc.collection, id]
  | .getSaml id | .updateSaml id _ | .deleteSaml id => [ProviderKind.saml.collection, id]

/-- What an operation appends to the base of its client. -/
def resource (op : Operation) : String := op.verb ++ String.join (op.segments.map ("/" ++ ·))

/-- The address of an operation's resource. -/
def address (c : Client) (op : Operation) : String :=
  c.base (c.endpoint op.service) ++ op.resource

/-- The resource of one configuration is its id below the collection of its kind. -/
theorem resource_of_config? {op : Operation} {kind : ProviderKind} {id : String}
    (h : op.config? = some (kind, id)) :
    op.segments = [kind.collection, id] ∧ op.resource = "/" ++ kind.collection ++ "/" ++ id := by
  have hjoin : "" ++ String.join ([kind.collection, id].map ("/" ++ ·)) =
      "/" ++ kind.collection ++ "/" ++ id := by
    simp only [String.join, List.map_cons, List.map_nil, List.foldl_cons, List.foldl_nil,
      String.empty_append, String.append_assoc]
  cases op <;> cases h
  all_goals exact ⟨rfl, hjoin⟩

/-- The resource of an OpenID Connect provider is its id below the collection. -/
theorem oidc_resource {op : Operation} {id : String} (h : op.config? = some (.oidc, id)) :
    op.resource = Provider.Oidc.collection ++ "/" ++ id := by
  have hcollection : "/" ++ ProviderKind.oidc.collection = Provider.Oidc.collection := rfl
  rw [(resource_of_config? h).2, hcollection]

theorem saml_resource {op : Operation} {id : String} (h : op.config? = some (.saml, id)) :
    op.resource = Provider.Saml.collection ++ "/" ++ id := by
  have hcollection : "/" ++ ProviderKind.saml.collection = Provider.Saml.collection := rfl
  rw [(resource_of_config? h).2, hcollection]

variable {c : Client}

/-- An operation on users is planned for its address. -/
theorem plannedAt_users {α : Type} {op : Operation} (hservice : op.service = .users)
    {s : String} (hs : op.resource = s) (method : Method) (query : List Query.Pair)
    (body : Option Json) (interpret : Bytes → Except Error α) :
    PlannedAt (op.address c)
      ((Exchange.plan method (c.userUrl s) query body interpret).map (·.request)) := by
  have haddress : op.address c = c.userUrl s := by rw [address, hservice, hs]; rfl
  rw [haddress]
  exact plannedAt_plan _ _ _ _ _

theorem plannedAt_providers {α : Type} {op : Operation} (hservice : op.service = .providers)
    {s : String} (hs : op.resource = s) (method : Method) (query : List Query.Pair)
    (body : Option Json) (interpret : Bytes → Except Error α) :
    PlannedAt (op.address c)
      ((Exchange.plan method (c.providerUrl s) query body interpret).map (·.request)) := by
  have haddress : op.address c = c.providerUrl s := by rw [address, hservice, hs]; rfl
  rw [haddress]
  exact plannedAt_plan _ _ _ _ _

/-- **Every operation asks for its own resource, or refuses its arguments.** -/
theorem request_plannedAt (c : Client) (op : Operation) :
    PlannedAt (op.address c) (op.request c) := by
  cases op with
  | byUid uid => exact plannedAt_accept_bind fun _ => plannedAt_users rfl rfl _ _ _ _
  | byEmail email => exact plannedAt_accept_bind fun _ => plannedAt_users rfl rfl _ _ _ _
  | byPhoneNumber number => exact plannedAt_accept_bind fun _ => plannedAt_users rfl rfl _ _ _ _
  | createUser user => exact plannedAt_accept_bind fun _ => plannedAt_users rfl rfl _ _ _ _
  | updateUser uid change =>
      exact plannedAt_accept_bind fun _ => plannedAt_accept_bind fun _ =>
        plannedAt_users rfl rfl _ _ _ _
  | revokeRefreshTokens now uid =>
      exact plannedAt_accept_bind fun _ => plannedAt_users rfl rfl _ _ _ _
  | setCustomClaims uid claims =>
      exact plannedAt_accept_bind fun _ => plannedAt_accept_bind fun _ =>
        plannedAt_users rfl rfl _ _ _ _
  | deleteUser uid => exact plannedAt_accept_bind fun _ => plannedAt_users rfl rfl _ _ _ _
  | importUsers users hash =>
      exact plannedAt_accept_bind fun _ => plannedAt_users rfl rfl _ _ _ _
  | sessionCookie idToken span =>
      exact plannedAt_accept_bind fun _ => plannedAt_accept_bind fun _ =>
        plannedAt_users rfl rfl _ _ _ _
  | emailVerificationLink email settings =>
      exact plannedAt_accept_bind fun _ => plannedAt_users rfl rfl _ _ _ _
  | passwordResetLink email settings =>
      exact plannedAt_accept_bind fun _ => plannedAt_users rfl rfl _ _ _ _
  | emailSignInLink email settings =>
      exact plannedAt_accept_bind fun _ => plannedAt_users rfl rfl _ _ _ _
  | userPage token =>
      unfold request User.page
      exact plannedAt_users rfl rfl _ _ _ _
  | getOidc id =>
      exact plannedAt_accept_bind fun _ =>
        plannedAt_providers rfl (oidc_resource rfl) _ _ _ _
  | createOidc provider =>
      exact plannedAt_accept_bind fun _ => plannedAt_providers rfl rfl _ _ _ _
  | updateOidc id change =>
      exact plannedAt_accept_bind fun _ => plannedAt_accept_bind fun _ =>
        plannedAt_providers rfl (oidc_resource rfl) _ _ _ _
  | deleteOidc id =>
      exact plannedAt_accept_bind fun _ =>
        plannedAt_providers rfl (oidc_resource rfl) _ _ _ _
  | oidcPage token =>
      unfold request Provider.Oidc.page
      exact plannedAt_providers rfl rfl _ _ _ _
  | getSaml id =>
      exact plannedAt_accept_bind fun _ =>
        plannedAt_providers rfl (saml_resource rfl) _ _ _ _
  | createSaml provider =>
      exact plannedAt_accept_bind fun _ => plannedAt_providers rfl rfl _ _ _ _
  | updateSaml id change =>
      exact plannedAt_accept_bind fun _ => plannedAt_accept_bind fun _ =>
        plannedAt_providers rfl (saml_resource rfl) _ _ _ _
  | deleteSaml id =>
      exact plannedAt_accept_bind fun _ =>
        plannedAt_providers rfl (saml_resource rfl) _ _ _ _
  | samlPage token =>
      unfold request Provider.Saml.page
      exact plannedAt_providers rfl rfl _ _ _ _

/-- An address is an endpoint, what the client is for, and the operation's own resource. -/
theorem address_eq_ofList (c : Client) (op : Operation) :
    op.address c = String.ofList
      ((c.endpoint op.service).toList ++ '/' :: (c.scope ++ op.resource.toList)) := by
  rw [← String.toList_inj, String.toList_ofList, address, String.toList_append, Client.toList_base,
    List.append_assoc, List.cons_append]

/-- An address is the endpoint and something behind a slash. -/
theorem exists_address_eq (c : Client) (op : Operation) :
    ∃ q, op.address c = String.ofList ((c.endpoint op.service).toList ++ '/' :: q) :=
  ⟨_, address_eq_ofList c op⟩

section

variable {op : Operation} {scheme : String} {authority rest : List Char}

/-- Requests can be made for all addresses that begin with an endpoint, or for none. -/
theorem request_of_continues
    (hopens : Url.Opens (c.endpoint op.service).toList scheme authority rest)
    (hcontinues : ∃ u, Url.parse (c.endpoint op.service ++ "/") = .ok u)
    (haccepted : ¬ Refused (op.request c)) : ∃ req, op.request c = .ok req := by
  obtain ⟨u, hu⟩ := hcontinues
  obtain ⟨q, hq⟩ := exists_address_eq c op
  rw [continued_eq] at hu
  obtain ⟨u', hu', hhost⟩ := hopens.parse_of_parse hu q
  rw [← hq] at hu'
  exact (request_plannedAt c op).ok_of_parse haccepted hu' hhost

/-- If one request can be made, addresses below the endpoint are URLs. -/
theorem continues_of_request
    (hopens : Url.Opens (c.endpoint op.service).toList scheme authority rest)
    {req : Request} (hreq : op.request c = .ok req) :
    ∃ u, Url.parse (c.endpoint op.service ++ "/") = .ok u := by
  obtain ⟨u, hu, -⟩ := (request_plannedAt c op).path_of_ok hreq
  obtain ⟨q, hq⟩ := exists_address_eq c op
  rw [hq] at hu
  obtain ⟨u', hu', -⟩ := hopens.parse_of_parse hu []
  exact ⟨u', by rw [continued_eq, hu']⟩

end

end Operation

end AccountWire.Admin
