import AccountWire.Proofs.Admin.Origin
import AccountWire.Proofs.Admin.Route
import AccountWire.Proofs.Echo.CapturedParameters
import AccountWire.Proofs.Echo.PathTemplate

/-!
# Captured paths and resource templates

The path of a request is made twice: the client glues its address together and the parser reads it,
and a template of the resource is expanded with the same ids.  For an endpoint that is an origin
with plain segments and any number of slashes after it (`endpointAt`), and for plain names, the path
that an echo server captures is the endpoint's and then the expanded template
(`captured_path_expands_template`).
-/

namespace AccountWire.Url.Path

theorem text_append (ss tt : List String) :
    (Path.segments (ss ++ tt)).text = (Path.segments ss).text ++ (Path.segments tt).text := by
  rw [← String.toList_inj, String.toList_append, text, text, text, toList_join, toList_join,
    toList_join, List.map_append, List.flatMap_append]

end AccountWire.Url.Path

namespace AccountWire.Admin

open Echo (PathTemplate TemplatePart)

/-! ### Templates of operations -/

namespace Operation

/-- The template of an operation's own resource. -/
def resourceTemplate : Operation → String
  | .byUid _ | .byEmail _ | .byPhoneNumber _ => "/accounts:lookup"
  | .createUser _ => "/accounts"
  | .updateUser _ _ | .revokeRefreshTokens _ _ | .setCustomClaims _ _ => "/accounts:update"
  | .deleteUser _ => "/accounts:delete"
  | .importUsers _ _ => "/accounts:batchCreate"
  | .sessionCookie _ _ => ":createSessionCookie"
  | .emailVerificationLink _ _ | .passwordResetLink _ _ | .emailSignInLink _ _ =>
    "/accounts:sendOobCode"
  | .userPage _ => "/accounts:batchGet"
  | .createOidc _ | .oidcPage _ => "/oauthIdpConfigs"
  | .createSaml _ | .samlPage _ => "/inboundSamlConfigs"
  | .getOidc _ | .updateOidc _ _ | .deleteOidc _ => "/oauthIdpConfigs/\x7bconfig\x7d"
  | .getSaml _ | .updateSaml _ _ | .deleteSaml _ => "/inboundSamlConfigs/\x7bconfig\x7d"

/-- The template of an operation of a client for a project or for a tenant. -/
def template (op : Operation) (forTenant : Bool) : PathTemplate :=
  ⟨"/projects/\x7bproject\x7d" ++ (if forTenant then "/tenants/\x7btenant\x7d" else "") ++
    op.resourceTemplate⟩

/-- The values that a template is expanded with: the project, the tenant if there is one, and the
id of the configuration if the operation is about one. -/
def templateValues (projectId : String) (tenantId : Option String) (op : Operation) :
    List (String × String) :=
  ("project", projectId) :: tenantId.toList.map ("tenant", ·) ++
    op.config?.toList.map fun q => ("config", q.2)

/-- The parts of the template of an operation's own resource. -/
def resourceParts (op : Operation) : List TemplatePart :=
  match op.config? with
  | none => TemplatePart.literals op.resource
  | some (kind, _) =>
    TemplatePart.literals ("/" ++ kind.collection ++ "/") ++ [.placeholder "config".toList]

/-- The parts of the template of an operation. -/
def templateParts (op : Operation) (forTenant : Bool) : List TemplatePart :=
  TemplatePart.literals "/projects/" ++ [.placeholder "project".toList] ++
    (if forTenant then TemplatePart.literals "/tenants/" ++ [.placeholder "tenant".toList]
      else []) ++
    op.resourceParts

/-- The template of a resource without a configuration is the resource. -/
theorem resourceTemplate_of_none {op : Operation} (h : op.config? = none) :
    op.resourceTemplate = op.resource := by
  cases op <;> first | rfl | cases h

/-- The template of a configuration's resource has a placeholder for the id. -/
theorem resourceTemplate_of_some {op : Operation} {kind : ProviderKind} {id : String}
    (h : op.config? = some (kind, id)) :
    op.resourceTemplate = "/" ++ kind.collection ++ "/" ++ "\x7bconfig\x7d" := by
  cases op <;> cases h <;> rfl

/-- There is no bracket in a resource without a configuration. -/
theorem bracket_not_mem_resource {op : Operation} (h : op.config? = none) :
    '\x7b' ∉ op.resource.toList := by
  rw [← resourceTemplate_of_none h]
  cases op <;> first | (cases h; done) | (simp only [resourceTemplate]; decide)

/-- The parts of a resource write its template. -/
theorem text_resourceParts (op : Operation) :
    TemplatePart.text op.resourceParts = op.resourceTemplate := by
  have hconfig : ∀ kind : ProviderKind, TemplatePart.text
      (TemplatePart.literals ("/" ++ kind.collection ++ "/") ++ [.placeholder "config".toList]) =
        "/" ++ kind.collection ++ "/" ++ "\x7bconfig\x7d" := by
    intro kind
    cases kind <;> decide
  unfold resourceParts
  cases hop : op.config? with
  | none => exact (TemplatePart.text_literals _).trans (resourceTemplate_of_none hop).symm
  | some q => exact (hconfig q.1).trans (resourceTemplate_of_some hop).symm

/-- The template of an operation is made of its parts. -/
theorem template_eq (op : Operation) (forTenant : Bool) :
    op.template forTenant = PathTemplate.ofParts (op.templateParts forTenant) := by
  have hproject : TemplatePart.text (TemplatePart.literals "/projects/" ++
      [.placeholder "project".toList]) = "/projects/\x7bproject\x7d" := by decide
  have htenant : TemplatePart.text (if forTenant then TemplatePart.literals "/tenants/" ++
      [.placeholder "tenant".toList] else []) =
        if forTenant then "/tenants/\x7btenant\x7d" else "" := by
    cases forTenant <;> decide
  have hparts : TemplatePart.text (op.templateParts forTenant) = "/projects/\x7bproject\x7d" ++
      (if forTenant then "/tenants/\x7btenant\x7d" else "") ++ op.resourceTemplate := by
    unfold templateParts
    rw [TemplatePart.text_append, TemplatePart.text_append]
    -- rewriting would compare the texts of all parts with each other
    exact congrArg₂ (· ++ ·) (congrArg₂ (· ++ ·) hproject htenant) (text_resourceParts op)
  exact congrArg PathTemplate.mk hparts.symm

/-- The parts of an operation's template can be read back. -/
theorem templateParts_isReadable (op : Operation) (forTenant : Bool) :
    ∀ p ∈ op.templateParts forTenant, p.IsReadable := by
  have happend : ∀ {s : String} {name : List Char}, '\x7b' ∉ s.toList →
      (TemplatePart.placeholder name).IsReadable →
      ∀ p ∈ TemplatePart.literals s ++ [.placeholder name], p.IsReadable := by
    intro s name hs hname p hp
    rcases List.mem_append.mp hp with hp | hp
    · exact TemplatePart.literals_isReadable hs p hp
    · rw [List.mem_singleton.mp hp]
      exact hname
  intro p hp
  rcases List.mem_append.mp hp with hp | hp
  · rcases List.mem_append.mp hp with hp | hp
    · exact happend (by decide) (by decide) p hp
    · cases forTenant with
      | false => cases hp
      | true => exact happend (by decide) (by decide) p hp
  · unfold resourceParts at hp
    cases hop : op.config? with
    | none =>
        rw [hop] at hp
        exact TemplatePart.literals_isReadable (bracket_not_mem_resource hop) p hp
    | some q =>
        obtain ⟨kind, id⟩ := q
        rw [hop] at hp
        refine happend ?_ (by decide) p hp
        cases kind <;> decide

/-! ### Values -/

section

variable (projectId : String) (tenantId : Option String) (op : Operation)

/-- The placeholder of the project stands for its id. -/
theorem valueOf_project :
    PathTemplate.valueOf? (op.templateValues projectId tenantId) "project" = some projectId := by
  cases tenantId <;> cases hop : op.config? <;>
    simp [PathTemplate.valueOf?, templateValues, hop]

theorem valueOf_tenant (tenantId : String) :
    PathTemplate.valueOf? (op.templateValues projectId (some tenantId)) "tenant" =
      some tenantId := by
  cases hop : op.config? <;> simp [PathTemplate.valueOf?, templateValues, hop]

theorem valueOf_config {kind : ProviderKind} {id : String} (hop : op.config? = some (kind, id)) :
    PathTemplate.valueOf? (op.templateValues projectId tenantId) "config" = some id := by
  simp [PathTemplate.valueOf?, templateValues, hop]

end

/-- The template of a resource expands to the resource. -/
theorem expands_resourceParts (projectId : String) (tenantId : Option String) (op : Operation) :
    PathTemplate.Expands (op.templateValues projectId tenantId) op.resourceParts op.resource := by
  unfold resourceParts
  cases hop : op.config? with
  | none => exact .literals _ _
  | some q =>
      obtain ⟨kind, id⟩ := q
      rw [(resource_of_config? hop).2]
      exact (PathTemplate.Expands.literals _ _).append
        (.placeholder (valueOf_config projectId tenantId op hop))

/-- The path of a route is an address without an endpoint. -/
theorem text_route (c : Client) (op : Operation) :
    (Url.Path.segments (op.route c)).text = c.base "" ++ op.resource := by
  rw [← String.toList_inj, Url.Path.text, Url.toList_join, ← routeText_eq, String.toList_append,
    Client.toList_base, String.toList_empty, List.nil_append, List.cons_append]
  rfl

/-- An address is the endpoint and the path of its route. -/
theorem address_eq_route (c : Client) (op : Operation) :
    op.address c = c.endpoint op.service ++ (Url.Path.segments (op.route c)).text := by
  rw [text_route, address, Client.base, Client.base, String.empty_append]
  simp only [String.append_assoc]

/-- **The template of an operation expands to its route.** -/
theorem expand_template (c : Client) (op : Operation) :
    (op.template c.tenantId.isSome).expand (op.templateValues c.projectId c.tenantId) =
      .ok (Url.Path.segments (op.route c)).text := by
  have hproject := valueOf_project c.projectId c.tenantId op
  have hscope : PathTemplate.Expands (op.templateValues c.projectId c.tenantId)
      (if c.tenantId.isSome then TemplatePart.literals "/tenants/" ++
        [.placeholder "tenant".toList] else []) (c.tenantId.elim "" ("/tenants/" ++ ·)) := by
    cases c.tenantId with
    | none => exact .literals _ ""
    | some tenantId =>
        exact (PathTemplate.Expands.literals _ _).append
          (.placeholder (valueOf_tenant c.projectId op tenantId))
  rw [template_eq, text_route, Client.base, String.empty_append]
  exact ((((PathTemplate.Expands.literals _ _).append (.placeholder hproject)).append hscope).append
    (expands_resourceParts c.projectId c.tenantId op)).expand_ofParts
      (op.templateParts_isReadable _)

end Operation

/-! ### Routes below an origin -/

/-- An id of letters, digits, hyphens and low lines. -/
structure IsName (s : String) : Prop where
  ne_empty : s ≠ ""
  chars : ∀ ch ∈ s.toList, isNameChar ch = true

theorem IsName.isWord {s : String} (h : IsName s) : IsWord s.toList := .of_name h.ne_empty h.chars

/-- An operation whose configuration, if it has one, has the mark of its kind and a name as its
id. -/
def Operation.HasNamedConfig (op : Operation) : Prop :=
  ∀ kind id, op.config? = some (kind, id) → ∃ name, id = kind.mark ++ name ∧ IsName name

/-- The mark and a name make an id of letters, digits, dots, hyphens and low lines. -/
theorem Operation.HasNamedConfig.hasWordId {op : Operation} (h : op.HasNamedConfig) :
    op.HasWordId := by
  intro kind id hop ch hch
  obtain ⟨name, rfl, hname⟩ := h kind id hop
  rw [String.toList_append, List.mem_append] at hch
  rcases hch with hch | hch
  · have hmark : (kind.mark.toList.all fun d => isNameChar d || d == '.') = true := by
      cases kind <;> decide
    simpa using List.all_eq_true.mp hmark ch hch
  · exact Or.inl (hname.chars ch hch)

/-- A word is a segment that the parser leaves alone. -/
theorem IsWord.isPathSegment {s : String} (h : IsWord s.toList) : IsPathSegment s where
  ne_empty := by simpa using h.ne_nil
  isAddressSegment := h.isAddressSegment
  written_eq := written_toList h

section

variable {c : Client} {op : Operation}

/-- With names for ids, all segments of a route are words. -/
theorem Operation.route_isWord (hproject : IsName c.projectId)
    (htenant : ∀ t ∈ c.tenantId, IsName t) (hconfig : op.HasNamedConfig)
    (haccepts : op.Accepts) : ∀ s ∈ op.route c, IsWord s.toList := by
  have hprojects := Admin.isWord_projects
  have htenants := Admin.isWord_tenants
  have hsegments := segments_isWord hconfig.hasWordId
    (Operation.not_refused_iff (c := c).mpr haccepts)
  intro s hs
  rcases List.mem_append.mp hs with hs | hs
  · rcases mem_scopeSegments hs with rfl | rfl | rfl | rfl | ⟨tenantId, ht, rfl⟩
    · exact hprojects
    · exact hproject.isWord
    · exact isWord_append_verb hproject.isWord
    · exact htenants
    · exact isWord_append_verb (htenant tenantId ht).isWord
  · exact hsegments s hs

/-- **The path of an address** below an origin: the endpoint's segments and then the route. -/
theorem exists_parse_address {origin : String} {ss : List String} (horigin : IsOrigin origin)
    (hss : ∀ s ∈ ss, IsPathSegment s)
    (hendpoint : c.endpoint op.service = origin ++ (Url.Path.segments ss).text)
    (hproject : IsName c.projectId) (htenant : ∀ t ∈ c.tenantId, IsName t)
    (hconfig : op.HasNamedConfig) (haccepts : op.Accepts) :
    ∃ v, Url.parse (op.address c) = .ok v ∧ v.scheme = "http" ∧
      v.path = .segments (ss ++ op.route c) := by
  have hroute := op.route_isWord hproject htenant hconfig haccepts
  have hsegments : ∀ s ∈ ss ++ op.route c, IsPathSegment s := by
    intro s hs
    rcases List.mem_append.mp hs with hs | hs
    · exact hss s hs
    · exact (hroute s hs).isPathSegment
  have hne : ss ++ op.route c ≠ [] := by
    obtain ⟨below, hbelow, -⟩ := op.exists_route_eq c
    simp [hbelow]
  have haddress : op.address c = origin ++ (Url.Path.segments (ss ++ op.route c)).text := by
    rw [Operation.address_eq_route, hendpoint, Url.Path.text_append, String.append_assoc]
  rw [haddress]
  exact horigin.exists_parse hne hsegments

end

end AccountWire.Admin

namespace AccountWire.Echo

open Admin (Client IsName IsOrigin IsPathSegment IsWord Operation endpointAt)

/-! ### Captured paths -/

/-- **One operation over a transport that captures requests**: the captured path is the path of the
operation's address. -/
theorem Captures.run_operation {σ : Type} {send : Http.Transport σ} {log : σ → List Captured}
    (hsend : Captures send log) {c : Client} {op : Operation} (haccepts : op.Accepts) {v : Url}
    (hv : Url.parse (op.address c) = .ok v) (hspecial : Url.schemeKind v.scheme = .special)
    (s : σ) :
    ∃ r, log (Admin.run (op.plan c) send s).2 = log s ++ [r] ∧ r.path = v.path.text := by
  obtain ⟨hhost, hplain⟩ := Url.of_parse_special hv hspecial
  have hplanned := Operation.request_plannedAt c op
  obtain ⟨req, hreq⟩ := hplanned.ok_of_parse (Operation.not_refused_iff.mpr haccepts) hv hhost
  obtain ⟨v', query, hv', hurl⟩ := hplanned.url_of_ok hreq
  obtain rfl : v = v' := Except.ok.inj (hv.symm.trans hv')
  rw [Operation.request_eq_plan] at hreq
  cases hplan : op.plan c with
  | error e =>
      rw [hplan] at hreq
      cases hreq
  | ok x =>
      rw [hplan] at hreq
      obtain rfl : x.request = req := Except.ok.inj hreq
      refine ⟨_, hsend.log_run x s, ?_⟩
      have hpath := (capture_receivedOf (r := x.request)
        (by rw [hurl]; exact hplain.sentUrl.addQuery query) (log s).length x.request.body).1
      rw [hpath, hurl, Url.path_addQuery, Admin.path_sentUrl]

/-- **Captured paths are expanded templates.**  For an endpoint that is an origin with plain segments
and any number of slashes after it, and names for project and tenants, there is a client for any
chain of tenants, it is the client for the last one, and an echo server captures one request of every
operation whose arguments are accepted and whose configuration, if it has one, is named: its path
is the endpoint's and then the operation's template, expanded with the ids. -/
theorem captured_path_expands_template {origin projectId : String} {ss tenants : List String}
    (n : Nat) (horigin : IsOrigin origin) (hss : ∀ s ∈ ss, IsPathSegment s)
    (hproject : IsName projectId) (htenants : ∀ t ∈ tenants, t ≠ "")
    (hlast : ∀ t ∈ tenants.getLast?, IsName t) :
    ∃ p c, Client.create ⟨projectId, some (endpointAt origin ss n)⟩ = .ok p ∧
      tenants.foldlM Client.forTenant p = .ok c ∧
      (∀ t ∈ tenants.getLast?, p.forTenant t = .ok c) ∧
      ∀ op : Operation, op.Accepts → op.HasNamedConfig → ∀ s : Server, ∃ r path,
        (op.template tenants.getLast?.isSome).expand
          (op.templateValues projectId tenants.getLast?) = .ok path ∧
        (Admin.run (op.plan c) (Server.transport .up) s).2.log = s.log ++ [r] ∧
        r.path = (Url.Path.segments ss).text ++ path := by
  have hcreate := Admin.create_endpointAt horigin hss n hproject.ne_empty
  refine ⟨_, _, hcreate, Admin.foldlM_forTenant htenants _, ?_, ?_⟩
  · intro t ht
    rw [Option.mem_def.mp ht]
    exact if_neg (hlast t ht).ne_empty
  · rw [Option.or_none]
    intro op haccepts hconfig s
    let c : Client := ⟨projectId, tenants.getLast?, origin ++ (Url.Path.segments ss).text,
      origin ++ (Url.Path.segments ss).text⟩
    have hendpoint : c.endpoint op.service = origin ++ (Url.Path.segments ss).text := by
      cases op.service <;> rfl
    obtain ⟨v, hv, hscheme, hpath⟩ := Admin.exists_parse_address (c := c) horigin hss hendpoint
      hproject hlast hconfig haccepts
    obtain ⟨r, hlog, hr⟩ := captures_server.run_operation haccepts hv (by rw [hscheme]; decide) s
    refine ⟨r, _, op.expand_template c, hlog, ?_⟩
    rw [hr, hpath, Url.Path.text_append]

/-- The look-up of the tenant `t`, reached over the tenant `a`, at an endpoint with slashes at its
end. -/
theorem captured_lookup_path : ∃ p c, Client.create ⟨"p", some "http://h/v1//"⟩ = .ok p ∧
    ["a", "t"].foldlM Client.forTenant p = .ok c ∧ ∀ s : Server, ∃ r,
      (Admin.run ((Operation.byUid "u").plan c) (Server.transport .up) s).2.log = s.log ++ [r] ∧
        r.path = "/v1/projects/p/tenants/t/accounts:lookup" := by
  have horigin : IsOrigin "http://h" := by
    refine ⟨⟨_, rfl, by decide +kernel, by decide +kernel, by decide +kernel, by decide +kernel⟩, ?_⟩
    intro ch hch
    have hlast : "http://h".toList.getLast? = some 'h' := by decide +kernel
    rw [hlast] at hch
    obtain rfl := Option.some.inj hch
    decide
  have hsegment : IsPathSegment "v1" := IsWord.isPathSegment (by decide +kernel)
  have hname : ∀ s ∈ ["p", "t"], IsName s := by
    have hchars : ∀ s ∈ ["p", "t"], s ≠ "" ∧ s.toList.all Admin.isNameChar = true := by
      decide +kernel
    exact fun s hs => ⟨(hchars s hs).1, List.all_eq_true.mp (hchars s hs).2⟩
  have hconfig : (Operation.byUid "u").HasNamedConfig := by
    intro kind id hop
    cases hop
  have hexpanded : ((Operation.byUid "u").template true).expand
      ((Operation.byUid "u").templateValues "p" (some "t")) =
        .ok "/projects/p/tenants/t/accounts:lookup" := by decide +kernel
  obtain ⟨p, c, hcreate, hchain, -, hcaptured⟩ :=
    @captured_path_expands_template "http://h" "p" ["v1"] ["a", "t"] 2 horigin
      (List.forall_mem_singleton.mpr hsegment) (hname "p" (by simp)) (by decide)
      (by simpa using hname "t" (by simp))
  refine ⟨p, c, hcreate, hchain, ?_⟩
  intro s
  obtain ⟨r, path, hexpand, hlog, hr⟩ :=
    hcaptured (.byUid "u") ⟨by decide, by decide⟩ hconfig s
  obtain rfl : path = "/projects/p/tenants/t/accounts:lookup" :=
    Except.ok.inj (hexpand.symm.trans hexpanded)
  exact ⟨r, hlog, hr⟩

end AccountWire.Echo
