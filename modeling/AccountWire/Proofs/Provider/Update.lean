import AccountWire.Echo.Captured
import AccountWire.Proofs.Admin.OwnParameters
import AccountWire.Proofs.Provider.ConfigId
import AccountWire.Proofs.Provider.Fields

/-!
# A change is a patch

A change of a provider travels as a mask and a body.  Mask and body are a patch of the stored
document: every path of the mask is there in the body, every leaf of the body is in the mask exactly
once, and the document that was patched reads as the provider that was stored, the fields that the
change has replaced and all others kept (`update_request_patches`).
-/

namespace AccountWire.Provider

open Admin (Client ClientOf Configuration Error Exchange Operation ProviderKind of_bind_eq_ok
  of_unless_empty)
open Json (Tree)

/-! ### The providers after a change -/

/-- A provider after a change. -/
def Oidc.Change.applied (p : Oidc.Change) (old : Oidc) : Oidc where
  id := old.id
  displayName := p.displayName.getD old.displayName
  enabled := p.enabled.getD old.enabled
  clientId := p.clientId.getD old.clientId
  issuer := p.issuer.getD old.issuer

/-- A provider after a change. -/
def Saml.Change.applied (p : Saml.Change) (old : Saml) : Saml where
  id := old.id
  displayName := p.displayName.getD old.displayName
  enabled := p.enabled.getD old.enabled
  idpEntityId := p.idpEntityId.getD old.idpEntityId
  ssoUrl := p.ssoUrl.getD old.ssoUrl
  requestSigningEnabled := p.requestSigningEnabled.getD old.requestSigningEnabled
  x509Certificates := p.x509Certificates.getD old.x509Certificates
  rpEntityId := p.rpEntityId.getD old.rpEntityId
  callbackUrl := p.callbackUrl.getD old.callbackUrl

/-! ### The fields of a change -/

/-- The fields of a change's body. -/
def Oidc.Change.fields (p : Oidc.Change) : List (String × Option Json) :=
  [("displayName", p.displayName.map displayNameValue), ("enabled", p.enabled.map .bool),
    ("clientId", p.clientId.map .str), ("issuer", p.issuer.map .str)]

/-- The fields of the part about the identity provider. -/
def Saml.Change.idpFields (p : Saml.Change) : List (String × Option Json) :=
  [("idpEntityId", p.idpEntityId.map .str), ("ssoUrl", p.ssoUrl.map .str),
    ("signRequest", p.requestSigningEnabled.map .bool),
    ("idpCertificates", p.x509Certificates.map certificatesValue)]

/-- The fields of the part about the relying service. -/
def Saml.Change.spFields (p : Saml.Change) : List (String × Option Json) :=
  [("spEntityId", p.rpEntityId.map .str), ("callbackUri", p.callbackUrl.map .str)]

/-- The fields of a change's body. -/
def Saml.Change.fields (p : Saml.Change) : List (String × Option Json) :=
  [("displayName", p.displayName.map displayNameValue), ("enabled", p.enabled.map .bool),
    ("idpConfig", presentObject? p.idpFields), ("spConfig", presentObject? p.spFields)]

/-! ### Accepted changes -/

/-- The body of a change that is accepted. -/
theorem Oidc.Change.request_ok {p : Oidc.Change} {ms : Json.Members} (h : p.request = .ok ms) :
    ms = Json.Members.ofPresent p.fields ∧ ms ≠ [] := by
  obtain ⟨-, -, h⟩ := of_bind_eq_ok h
  obtain ⟨-, -, h⟩ := of_bind_eq_ok h
  exact of_unless_empty h

/-- The body of a change that is accepted. -/
theorem Saml.Change.request_ok {p : Saml.Change} {ms : Json.Members} (h : p.request = .ok ms) :
    ms = Json.Members.ofPresent p.fields ∧ ms ≠ [] := by
  obtain ⟨-, -, h⟩ := of_bind_eq_ok h
  obtain ⟨-, -, h⟩ := of_bind_eq_ok h
  obtain ⟨-, -, h⟩ := of_bind_eq_ok h
  obtain ⟨-, -, h⟩ := of_bind_eq_ok h
  obtain ⟨-, -, h⟩ := of_bind_eq_ok h
  exact of_unless_empty h

/-- All fields of a change can be in a patch. -/
theorem Oidc.Change.isField (p : Oidc.Change) : ∀ f ∈ p.fields, IsField f := by
  simp only [fields, List.forall_mem_cons]
  exact ⟨isField_map rfl isSetting_displayName _,
    isField_map rfl isSetting_bool _, isField_map rfl isSetting_str _,
    isField_map rfl isSetting_str _, by simp⟩

/-- All fields about the identity provider can be in a patch. -/
theorem Saml.Change.isField_idp (p : Saml.Change) : ∀ f ∈ p.idpFields, IsField f := by
  simp only [idpFields, List.forall_mem_cons]
  exact ⟨isField_map rfl isSetting_str _, isField_map rfl isSetting_str _,
    isField_map rfl isSetting_bool _, isField_map rfl isSetting_certificates _,
    by simp⟩

theorem Saml.Change.isField_sp (p : Saml.Change) : ∀ f ∈ p.spFields, IsField f := by
  simp only [spFields, List.forall_mem_cons]
  exact ⟨isField_map rfl isSetting_str _, isField_map rfl isSetting_str _,
    by simp⟩

/-- All fields of a change can be in a patch, both parts among them. -/
theorem Saml.Change.isField (p : Saml.Change) : ∀ f ∈ p.fields, IsField f := by
  simp only [fields, List.forall_mem_cons]
  exact ⟨isField_map rfl isSetting_displayName _,
    isField_map rfl isSetting_bool _, isField_presentObject? rfl p.isField_idp,
    isField_presentObject? rfl p.isField_sp, by simp⟩

/-! ### What a record reads after a patch -/

section Patched

variable {α : Type} {ms : Json.Members} {paths : List (List String)} {t : Tree} {k : String}
  {read : Tree → Option α} {absent old new : α}

/-- **A field that a change has is replaced**, and one that it has not stays. -/
theorem field?_patch (hascend : ms.Pairwise (·.1 < ·.1)) (hpaths : paths.Perm (leafPaths ms))
    {o : Option α} {write : α → Json} (hget : Json.Members.get? k ms = o.map write)
    (hwrite : ∀ a, StandsFor read absent (write a) a)
    (hold : t.field? k read absent = some old) :
    (Tree.patch paths (Json.obj ms).toTree t).field? k read absent = some (o.getD old) := by
  cases o with
  | none =>
      rw [Tree.field?, valuesOf_patch_absent hascend hpaths hget]
      exact hold
  | some a =>
      obtain ⟨hleaf, hread⟩ := hwrite a
      rw [Tree.field?, valuesOf_patch_leaf hascend hpaths hget hleaf]
      exact hread

/-- **A part is patched as a whole is.** -/
theorem field?_patch_part (hascend : ms.Pairwise (·.1 < ·.1)) (hpaths : paths.Perm (leafPaths ms))
    {fields : List (String × Option Json)}
    (hget : Json.Members.get? k ms = presentObject? fields)
    (hobject : ∀ s ∈ t.valuesOf k, s.IsObject) (habsent : read (.obj []) = some absent)
    (hold : t.field? k read absent = some old)
    (hpart : ∀ (inner : List (List String)) (s : Tree),
      inner.Perm (leafPaths (Json.Members.ofPresent fields)) → s.IsObject → read s = some old →
      read (Tree.patch inner (Json.obj (Json.Members.ofPresent fields)).toTree s) = some new) :
    (Tree.patch paths (Json.obj ms).toTree t).field? k read absent = some new := by
  have hstored : ((t.valuesOf k).head?.getD (.obj [])).IsObject ∧
      read ((t.valuesOf k).head?.getD (.obj [])) = some old := by
    rw [Tree.field?] at hold
    rcases hvalues : t.valuesOf k with _ | ⟨s, _ | ⟨u, r⟩⟩
    · rw [hvalues] at hold
      exact ⟨⟨[], rfl⟩, habsent.trans hold⟩
    · rw [hvalues] at hold hobject
      refine ⟨hobject s List.mem_cons_self, ?_⟩
      simpa [Tree.readOne, Function.comp_def] using hold
    · rw [hvalues] at hold
      exact absurd hold (by simp [Tree.readOne])
  cases hfields : Json.Members.ofPresent fields with
  | nil =>
      rw [presentObject?, hfields] at hget
      have hsame := hpart [] _ (by rw [hfields]; exact List.Perm.refl _) hstored.1 hstored.2
      rw [Tree.field?, valuesOf_patch_absent hascend hpaths hget]
      rw [Tree.patch, List.foldl_nil, hstored.2] at hsame
      exact hold.trans hsame
  | cons m r =>
      rw [presentObject?, hfields] at hget
      obtain ⟨inner, hinner, hvalues⟩ :=
        valuesOf_patch_object (t := t) hascend hpaths (List.cons_ne_nil m r) hget
      rw [hfields] at hpart
      rw [Tree.field?, hvalues, Tree.readOne, hpart inner _ hinner hstored.1 hstored.2]
      rfl

end Patched

/-! ### Patched providers -/

/-- **A patched OpenID Connect provider** reads as the change says. -/
theorem Oidc.Change.ofTree?_patch (p : Oidc.Change) {paths : List (List String)}
    (hpaths : paths.Perm (leafPaths (Json.Members.ofPresent p.fields))) {stored : Tree}
    (hobject : stored.IsObject) {old : Oidc} (hold : Oidc.ofTree? stored = some old) :
    Oidc.ofTree? (Tree.patch paths (Json.obj (Json.Members.ofPresent p.fields)).toTree stored) =
      some (p.applied old) := by
  obtain ⟨hnamed, hname, hdisplay, henabled, hclient, hissuer⟩ :=
    (Oidc.ofTree?_iff hobject).mp hold
  obtain ⟨name, hname, hid⟩ := Option.map_eq_some_iff.mp hname
  have hascend := Json.Members.pairwise_ofPresent p.fields
  have hnodup : (p.fields.map (·.1)).Nodup := by
    show ["displayName", "enabled", "clientId", "issuer"].Nodup
    decide
  have hget := fun k => Json.Members.get?_ofPresent k hnodup
  have hne := ne_nil_of_perm hpaths
  rw [Oidc.ofTree?_iff (Tree.isObject_patch _ hne hobject)]
  refine ⟨Tree.isNamed_patch _ hne hnamed, ?_, ?_, ?_, ?_, ?_⟩
  · have hkept := field?_patch (o := none) hascend hpaths (hget "name") standsFor_str hname
    rw [hkept]
    exact congrArg some hid
  · exact field?_patch hascend hpaths (hget "displayName") standsFor_displayName hdisplay
  · exact field?_patch hascend hpaths (hget "enabled") standsFor_bool henabled
  · exact field?_patch hascend hpaths (hget "clientId") standsFor_str hclient
  · exact field?_patch hascend hpaths (hget "issuer") standsFor_str hissuer

/-- A patched part about the identity provider. -/
theorem Saml.Change.idpPart_patch (p : Saml.Change) {paths : List (List String)}
    (hpaths : paths.Perm (leafPaths (Json.Members.ofPresent p.idpFields))) {stored : Tree}
    (hobject : stored.IsObject) {old : Saml} (hold : IdpPart.ofTree? stored = some old.idpPart) :
    IdpPart.ofTree?
      (Tree.patch paths (Json.obj (Json.Members.ofPresent p.idpFields)).toTree stored) =
        some (p.applied old).idpPart := by
  obtain ⟨hnamed, hentity, hsso, hsign, hcertificates⟩ := (IdpPart.ofTree?_iff hobject).mp hold
  have hascend := Json.Members.pairwise_ofPresent p.idpFields
  have hnodup : (p.idpFields.map (·.1)).Nodup := by
    show ["idpEntityId", "ssoUrl", "signRequest", "idpCertificates"].Nodup
    decide
  have hget := fun k => Json.Members.get?_ofPresent k hnodup
  have hne := ne_nil_of_perm hpaths
  rw [IdpPart.ofTree?_iff (Tree.isObject_patch _ hne hobject)]
  refine ⟨Tree.isNamed_patch _ hne hnamed, ?_, ?_, ?_, ?_⟩
  · exact field?_patch hascend hpaths (hget "idpEntityId") standsFor_str hentity
  · exact field?_patch hascend hpaths (hget "ssoUrl") standsFor_str hsso
  · exact field?_patch hascend hpaths (hget "signRequest") standsFor_bool hsign
  · exact field?_patch hascend hpaths (hget "idpCertificates") standsFor_certificates hcertificates

/-- A patched part about the relying service. -/
theorem Saml.Change.spPart_patch (p : Saml.Change) {paths : List (List String)}
    (hpaths : paths.Perm (leafPaths (Json.Members.ofPresent p.spFields))) {stored : Tree}
    (hobject : stored.IsObject) {old : Saml} (hold : SpPart.ofTree? stored = some old.spPart) :
    SpPart.ofTree?
      (Tree.patch paths (Json.obj (Json.Members.ofPresent p.spFields)).toTree stored) =
        some (p.applied old).spPart := by
  obtain ⟨hnamed, hentity, hcallback⟩ := (SpPart.ofTree?_iff hobject).mp hold
  have hascend := Json.Members.pairwise_ofPresent p.spFields
  have hnodup : (p.spFields.map (·.1)).Nodup := by
    show ["spEntityId", "callbackUri"].Nodup
    decide
  have hget := fun k => Json.Members.get?_ofPresent k hnodup
  have hne := ne_nil_of_perm hpaths
  rw [SpPart.ofTree?_iff (Tree.isObject_patch _ hne hobject)]
  refine ⟨Tree.isNamed_patch _ hne hnamed, ?_, ?_⟩
  · exact field?_patch hascend hpaths (hget "spEntityId") standsFor_str hentity
  · exact field?_patch hascend hpaths (hget "callbackUri") standsFor_str hcallback

/-- **A patched SAML provider** reads as the change says. -/
theorem Saml.Change.ofTree?_patch (p : Saml.Change) {paths : List (List String)}
    (hpaths : paths.Perm (leafPaths (Json.Members.ofPresent p.fields))) {stored : Tree}
    (hobject : stored.IsObject)
    (hparts : ∀ name ∈ ["idpConfig", "spConfig"], ∀ s ∈ stored.valuesOf name, s.IsObject)
    {old : Saml} (hold : Saml.ofTree? stored = some old) :
    Saml.ofTree? (Tree.patch paths (Json.obj (Json.Members.ofPresent p.fields)).toTree stored) =
      some (p.applied old) := by
  obtain ⟨hnamed, hname, hdisplay, henabled, hidp, hsp⟩ := (Saml.ofTree?_iff hobject).mp hold
  obtain ⟨name, hname, hid⟩ := Option.map_eq_some_iff.mp hname
  have hascend := Json.Members.pairwise_ofPresent p.fields
  have hnodup : (p.fields.map (·.1)).Nodup := by
    show ["displayName", "enabled", "idpConfig", "spConfig"].Nodup
    decide
  have hget := fun k => Json.Members.get?_ofPresent k hnodup
  have hne := ne_nil_of_perm hpaths
  rw [Saml.ofTree?_iff (Tree.isObject_patch _ hne hobject)]
  refine ⟨Tree.isNamed_patch _ hne hnamed, ?_, ?_, ?_, ?_, ?_⟩
  · have hkept := field?_patch (o := none) hascend hpaths (hget "name") standsFor_str hname
    rw [hkept]
    exact congrArg some hid
  · exact field?_patch hascend hpaths (hget "displayName") standsFor_displayName hdisplay
  · exact field?_patch hascend hpaths (hget "enabled") standsFor_bool henabled
  · refine field?_patch_part hascend hpaths (hget "idpConfig") (hparts _ (by simp)) rfl hidp ?_
    exact fun inner s hinner hs hread => p.idpPart_patch hinner hs hread
  · refine field?_patch_part hascend hpaths (hget "spConfig") (hparts _ (by simp)) rfl hsp ?_
    exact fun inner s hinner hs hread => p.spPart_patch hinner hs hread

/-! ### The request of a change -/

/-- A captured request carries a patch, a mask and a body, behind the parameters `own` that its
address has by itself.  `read` is how a stored document reads, `parts` are the members that must be
objects in it if they are there, and `change` is what the patch does to the provider.  An address
with a mask of its own hides the one that is added. -/
structure CarriesPatch {α : Type} (r : Echo.Captured) (own : List Query.Pair) (mask : String)
    (body : Tree) (read : Tree → Option α) (parts : List String) (change : α → α) : Prop where
  parameters : r.queryPairs = own ++ [("updateMask", mask)]
  parameter : r.queryParam? "updateMask" =
    ((own.find? (·.1 == "updateMask")).map (·.2)).or (some mask)
  content : Tree.ofBytes? r.body = some body
  /-- Every path of the mask is there in the body. -/
  masked : ∀ path ∈ maskPaths mask, (body.at? path).isSome = true
  /-- Every leaf of the body is in the mask exactly once. -/
  leaves : ∀ path, body.isLeafAt path = true → (maskPaths mask).count path = 1
  /-- A patched document reads as the provider that was stored, changed. -/
  reads : ∀ stored old, stored.IsObject →
    (∀ name ∈ parts, ∀ s ∈ stored.valuesOf name, s.IsObject) → read stored = some old →
    read (Tree.patch (maskPaths mask) body stored) = some (change old)

/-- Behind an address without parameters the mask is what the parameter of its name says. -/
theorem CarriesPatch.queryParam?_eq {α : Type} {r : Echo.Captured} {mask : String} {body : Tree}
    {read : Tree → Option α} {parts : List String} {change : α → α}
    (h : CarriesPatch r [] mask body read parts change) : r.queryParam? "updateMask" = some mask :=
  h.parameter

section

variable {config : Configuration} {c : Client} {id : String} {u : Url}

/-- The address of a configuration has no parameters of its own exactly when the ids of the client add
none: there is no mark in an accepted id. -/
theorem parameters_of_config? (hc : ClientOf config c) (hhttp : config.IsHttp) {op : Operation}
    {kind : ProviderKind} (hop : op.config? = some (kind, id))
    (hid : checkId kind.mark id = .ok ()) (hu : Url.parse (op.address c) = .ok u) :
    u.parameters = [] ↔ c.AddsNoParameters := by
  have hresource : op.resource.toList = '/' :: kind.collection.toList ++ '/' :: id.toList := by
    rw [(Operation.resource_of_config? hop).2]
    simp only [String.toList_append, List.append_assoc]
    rfl
  have hcollection : ∀ ch ∈ kind.collection.toList, Url.endsPath ch = false := by
    have hall : kind.collection.toList.all (! Url.endsPath ·) = true := by
      cases kind <;> decide
    simpa using hall
  have hmarks : ∀ ch ∈ id.toList, Url.endsPath ch = false := by
    intro ch hch
    obtain ⟨-, hquery, hfragment, -⟩ := (acceptedId_of_checkId hid).ne_of_mem hch
    simp [Url.endsPath, hquery, hfragment]
  have hslash : Url.endsPath '/' = false := rfl
  refine Operation.parameters_eq_nil_iff hc hhttp ?_ ?_ hu
  · rw [hresource]
    simp only [List.cons_append, List.forall_mem_cons, List.forall_mem_append]
    exact ⟨hslash, hcollection, hslash, hmarks⟩
  · rw [hresource]
    exact List.mem_cons_self

/-- **A change of an OpenID Connect provider has its mask to itself** exactly when the ids of the client
add no parameters to its addresses. -/
theorem Oidc.parameters_address (hc : ClientOf config c) (hhttp : config.IsHttp)
    (hid : checkId mark id = .ok ()) (hu : Url.parse (address c id) = .ok u) :
    u.parameters = [] ↔ c.AddsNoParameters := by
  have hop : (Operation.getOidc id).config? = some (.oidc, id) := rfl
  have haddress : (Operation.getOidc id).address c = address c id := by
    rw [Operation.address, Operation.oidc_resource hop]
    rfl
  exact parameters_of_config? hc hhttp hop hid (haddress ▸ hu)

/-- **A change of a SAML provider has its mask to itself** exactly when the ids of the client add no
parameters to its addresses. -/
theorem Saml.parameters_address (hc : ClientOf config c) (hhttp : config.IsHttp)
    (hid : checkId mark id = .ok ()) (hu : Url.parse (address c id) = .ok u) :
    u.parameters = [] ↔ c.AddsNoParameters := by
  have hop : (Operation.getSaml id).config? = some (.saml, id) := rfl
  have haddress : (Operation.getSaml id).address c = address c id := by
    rw [Operation.address, Operation.saml_resource hop]
    rfl
  exact parameters_of_config? hc hhttp hop hid (haddress ▸ hu)

end

/-- **The body and the mask of fields are a patch**, when what it does to a provider is known. -/
theorem exists_carriesPatch {α β : Type} {address : String} {u : Url}
    (hu : Url.parse address = .ok u) (hhost : u.hasHost = true)
    (interpret : Bytes → Except Error β) {fields : List (String × Option Json)}
    (hfields : ∀ f ∈ fields, IsField f) (hne : Json.Members.ofPresent fields ≠ [])
    {read : Tree → Option α} {parts : List String} {change : α → α}
    (hpatch : ∀ paths stored old, paths.Perm (leafPaths (Json.Members.ofPresent fields)) →
      stored.IsObject → (∀ name ∈ parts, ∀ s ∈ stored.valuesOf name, s.IsObject) →
      read stored = some old →
      read (Tree.patch paths (Json.obj (Json.Members.ofPresent fields)).toTree stored) =
        some (change old)) :
    ∃ x, Exchange.plan .patch address [maskParameter (Json.Members.ofPresent fields)]
        (some (.obj (Json.Members.ofPresent fields))) interpret = .ok x ∧
      ∀ r : Echo.Captured, r.query = x.request.url.query → r.body = x.request.body →
        ∃ mask body, CarriesPatch r u.parameters mask body read parts change := by
  obtain ⟨x, hx, hquery, hbody⟩ :=
    Admin.exists_plan .patch [maskParameter (Json.Members.ofPresent fields)]
      (some (.obj (Json.Members.ofPresent fields))) interpret hu hhost
  have hsetting := isSetting_ofPresent hfields
  have hperm := maskPaths_perm hne hsetting.plainNames
  have hpaths : pathsOf (.obj (Json.Members.ofPresent fields)) =
      leafPaths (Json.Members.ofPresent fields) := by
    cases h : Json.Members.ofPresent fields with
    | nil => exact absurd h hne
    | cons m ms => rfl
  refine ⟨x, hx, ?_⟩
  intro r hr hrbody
  have hpairs : r.queryPairs =
      u.parameters ++ [maskParameter (Json.Members.ofPresent fields)] := by
    rw [Echo.Captured.queryPairs, hr]
    exact hquery
  refine ⟨(maskParameter (Json.Members.ofPresent fields)).2,
    (Json.obj (Json.Members.ofPresent fields)).toTree, hpairs, ?_, ?_, ?_, ?_, ?_⟩
  · rw [Echo.Captured.queryParam?, hpairs, List.find?_append, Option.map_or]
    rfl
  · rw [hrbody, hbody]
    exact Json.Tree.ofBytes?_bytes hsetting.integral
  · intro path hpath
    have hleaf := isLeafAt_of_mem_pathsOf hsetting.ordered (hpaths ▸ hperm.mem_iff.mp hpath)
    exact Tree.isSome_at?_of_isLeafAt hleaf
  · intro path hpath
    rw [hperm.count_eq, ← hpaths, count_pathsOf hsetting.ordered, if_pos hpath]
  · exact fun stored old hobject hparts hold => hpatch _ stored old hperm hobject hparts hold

/-- **A change travels as a patch.**  Whenever a change is accepted, the id is, and the address of
the provider is a URL with a host, a request is made, and its mask and its body are the patch that
changes the fields that the change has and keeps the id and all others.  The addresses of a client over
HTTP have no parameters, and so no mask that could hide this one, exactly when its ids add none. -/
theorem update_request_patches (c : Client) (id : String) :
    (∀ (p : Oidc.Change) (ms : Json.Members) (u : Url), p.request = .ok ms →
      checkId Oidc.mark id = .ok () → Url.parse (Oidc.address c id) = .ok u → u.hasHost = true →
      ∃ x, Oidc.update c id p = .ok x ∧
        ∀ r : Echo.Captured, r.query = x.request.url.query → r.body = x.request.body →
          ∃ mask body, CarriesPatch r u.parameters mask body Oidc.ofTree? [] p.applied) ∧
    (∀ (p : Saml.Change) (ms : Json.Members) (u : Url), p.request = .ok ms →
      checkId Saml.mark id = .ok () → Url.parse (Saml.address c id) = .ok u → u.hasHost = true →
      ∃ x, Saml.update c id p = .ok x ∧
        ∀ r : Echo.Captured, r.query = x.request.url.query → r.body = x.request.body →
          ∃ mask body, CarriesPatch r u.parameters mask body Saml.ofTree?
            ["idpConfig", "spConfig"] p.applied) ∧
    ∀ (config : Configuration) (u : Url), ClientOf config c → config.IsHttp →
      (checkId Oidc.mark id = .ok () ∧ Url.parse (Oidc.address c id) = .ok u) ∨
        (checkId Saml.mark id = .ok () ∧ Url.parse (Saml.address c id) = .ok u) →
      (u.parameters = [] ↔ c.AddsNoParameters) := by
  refine ⟨?_, ?_, ?_⟩
  · intro p ms u hrequest hid hu hhost
    obtain ⟨rfl, hne⟩ := Oidc.Change.request_ok hrequest
    have hplan : Oidc.update c id p =
        Exchange.plan .patch (Oidc.address c id) [maskParameter (Json.Members.ofPresent p.fields)]
          (some (.obj (Json.Members.ofPresent p.fields))) (Exchange.readBody Oidc.ofTree?) := by
      simp only [Oidc.update, Admin.accept, hid, hrequest, Except.mapError, bind, Except.bind]
    rw [hplan]
    apply exists_carriesPatch hu hhost _ p.isField hne
    exact fun _ _ _ hpaths hobject _ hold => p.ofTree?_patch hpaths hobject hold
  · intro p ms u hrequest hid hu hhost
    obtain ⟨rfl, hne⟩ := Saml.Change.request_ok hrequest
    have hplan : Saml.update c id p =
        Exchange.plan .patch (Saml.address c id) [maskParameter (Json.Members.ofPresent p.fields)]
          (some (.obj (Json.Members.ofPresent p.fields))) (Exchange.readBody Saml.ofTree?) := by
      simp only [Saml.update, Admin.accept, hid, hrequest, Except.mapError, bind, Except.bind]
    rw [hplan]
    apply exists_carriesPatch hu hhost _ p.isField hne
    exact fun _ _ _ hpaths hobject hparts hold => p.ofTree?_patch hpaths hobject hparts hold
  · rintro config u hc hhttp (⟨hid, hu⟩ | ⟨hid, hu⟩)
    · exact Oidc.parameters_address hc hhttp hid hu
    · exact Saml.parameters_address hc hhttp hid hu

/-- A change that empties the display name and sets half of one part. -/
theorem update_half_part_patches :
    ∃ x mask body, Saml.update ⟨"p", none, "http://h", "http://h"⟩ "saml.b"
        ⟨some "", none, some "e", none, some true, none, none, none⟩ = .ok x ∧
      CarriesPatch ⟨0, "PATCH", "", "", x.request.url.query, [], x.request.body⟩ [] mask body
        Saml.ofTree? ["idpConfig", "spConfig"]
        (Saml.Change.applied ⟨some "", none, some "e", none, some true, none, none, none⟩) ∧
      Echo.Captured.queryParam? ⟨0, "PATCH", "", "", x.request.url.query, [], x.request.body⟩
        "updateMask" = some mask := by
  have haddress : (Url.parse (Saml.address ⟨"p", none, "http://h", "http://h"⟩ "saml.b")).toOption =
      some ⟨"http", some ⟨"", none, some (.domain "h"), none⟩,
        .segments ["projects", "p", "inboundSamlConfigs", "saml.b"], none, none⟩ := by
    decide +kernel
  have hparse := Admin.eq_ok_of_toOption haddress
  obtain ⟨x, hx, hpatch⟩ := (update_request_patches _ _).2.1
    ⟨some "", none, some "e", none, some true, none, none, none⟩ _ _ rfl rfl hparse rfl
  obtain ⟨mask, body, hcarries⟩ :=
    hpatch ⟨0, "PATCH", "", "", x.request.url.query, [], x.request.body⟩ rfl rfl
  exact ⟨x, mask, body, hx, hcarries, hcarries.queryParam?_eq⟩

end AccountWire.Provider
