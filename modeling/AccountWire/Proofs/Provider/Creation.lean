import AccountWire.Proofs.Json.Spelling
import AccountWire.Proofs.Provider.ConfigId
import AccountWire.Proofs.Provider.Fields

/-!
# What is created is read back

A new provider is sent as an object, and the backend answers with the object under a name that ends
in the provider's id.  The writer and the reader of providers name the members of this object apart
from each other; here they meet (`Oidc.New.ofTree?_of_spells`, `Saml.New.ofTree?_of_spells`).  A
creation that is answered in this way gives the provider that was asked for, with the fields that
were left open empty or false (`created_is_read_back`).
-/

namespace AccountWire.Provider

open Admin (Client Exchange of_bind_eq_ok)
open Http (Response Transport)
open Json (Tree)

/-! ### The providers after their creation -/

/-- The provider that comes of a new one. -/
def Oidc.New.created (p : Oidc.New) : Oidc where
  id := p.id
  displayName := p.displayName.getD ""
  enabled := p.enabled.getD false
  clientId := p.clientId
  issuer := p.issuer

/-- The provider that comes of a new one. -/
def Saml.New.created (p : Saml.New) : Saml where
  id := p.id
  displayName := p.displayName.getD ""
  enabled := p.enabled.getD false
  idpEntityId := p.idpEntityId
  ssoUrl := p.ssoUrl
  requestSigningEnabled := p.requestSigningEnabled.getD false
  x509Certificates := p.x509Certificates
  rpEntityId := p.rpEntityId
  callbackUrl := p.callbackUrl

/-- A body that echoes an object: a text of the object with one member more, its name. -/
def Echoes (ms : Json.Members) (name : String) (body : Bytes) : Prop :=
  ∃ t, Tree.ofBytes? body = some t ∧ t.Spells (.obj (ms.insert "name" (.str name)))

/-! ### The fields of a new provider -/

/-- The fields of a new provider's body. -/
def Oidc.New.fields (p : Oidc.New) : List (String × Option Json) :=
  [("displayName", p.displayName.map .str), ("enabled", p.enabled.map .bool),
    ("clientId", some (.str p.clientId)), ("issuer", some (.str p.issuer))]

/-- The fields of the part about the identity provider. -/
def Saml.New.idpFields (p : Saml.New) : List (String × Option Json) :=
  [("idpEntityId", some (.str p.idpEntityId)), ("ssoUrl", some (.str p.ssoUrl)),
    ("idpCertificates", some (certificatesValue p.x509Certificates)),
    ("signRequest", p.requestSigningEnabled.map .bool)]

/-- The fields of the part about the relying service. -/
def Saml.New.spFields (p : Saml.New) : List (String × Option Json) :=
  [("spEntityId", some (.str p.rpEntityId)), ("callbackUri", some (.str p.callbackUrl))]

/-- The fields of a new provider's body. -/
def Saml.New.fields (p : Saml.New) : List (String × Option Json) :=
  [("displayName", p.displayName.map .str), ("enabled", p.enabled.map .bool),
    ("idpConfig", some (.obj (Json.Members.ofPresent p.idpFields))),
    ("spConfig", some (.obj (Json.Members.ofPresent p.spFields)))]

/-- The body of a new provider that is accepted. -/
theorem Oidc.New.request_ok {p : Oidc.New} {ms : Json.Members} (h : p.request = .ok ms) :
    checkId mark p.id = .ok () ∧ ms = Json.Members.ofPresent p.fields := by
  obtain ⟨⟨⟩, hid, h⟩ := of_bind_eq_ok h
  obtain ⟨-, -, h⟩ := of_bind_eq_ok h
  obtain ⟨-, -, h⟩ := of_bind_eq_ok h
  exact ⟨hid, (Except.ok.inj h).symm⟩

/-- The body of a new provider that is accepted. -/
theorem Saml.New.request_ok {p : Saml.New} {ms : Json.Members} (h : p.request = .ok ms) :
    checkId mark p.id = .ok () ∧ ms = Json.Members.ofPresent p.fields := by
  obtain ⟨⟨⟩, hid, h⟩ := of_bind_eq_ok h
  obtain ⟨-, -, h⟩ := of_bind_eq_ok h
  obtain ⟨-, -, h⟩ := of_bind_eq_ok h
  obtain ⟨-, -, h⟩ := of_bind_eq_ok h
  obtain ⟨-, -, h⟩ := of_bind_eq_ok h
  obtain ⟨-, -, h⟩ := of_bind_eq_ok h
  exact ⟨hid, (Except.ok.inj h).symm⟩

/-! ### Reading an echo -/

/-- The id is the last segment of a name that ends in it. -/
theorem idOfName_append {id : String} (hid : AcceptedId id) (folder : String) :
    idOfName (folder ++ "/" ++ id) = id := by
  have hlast : Split.atLast? (· == '/') (folder ++ "/" ++ id).toList =
      some (folder.toList, id.toList) := by
    have hparts : (folder ++ "/" ++ id).toList = folder.toList ++ '/' :: id.toList := by
      rw [String.toList_append, String.toList_append, List.append_assoc]
      rfl
    rw [hparts]
    refine Split.atLast?_of_forall rfl ?_
    intro c hc
    exact beq_eq_false_iff_ne.mpr (hid.ne_of_mem hc).1
  simp only [idOfName, hlast, String.ofList_toList]

/-- **Lists of certificates** are read as they were written, in order. -/
theorem items?_certificates {t : Tree} {certificates : List String}
    (h : t.Spells (certificatesValue certificates)) :
    t.items? Saml.certificateOfTree? = some certificates := by
  obtain ⟨ts, rfl, hitems⟩ := h
  refine Json.mapM_of_spellItems ?_ hitems
  intro c _ u hu
  have hfield : u.field? "x509Certificate" Tree.text? "" = some c :=
    hu.field?_of_get? (Json.Members.pairwise_ofPairs _) rfl fun v hv => hv.text?
  obtain ⟨fs, hfields, hget⟩ := hu.fields? ["x509Certificate"]
  rw [Saml.certificateOfTree?, hfields, Option.bind_eq_bind, Option.bind_some, Json.Fields.text?,
    hget]
  exact hfield

/-- The members of an echo ascend. -/
theorem pairwise_echo (fields : List (String × Option Json)) (name : String) :
    ((Json.Members.ofPresent fields).insert "name" (.str name)).Pairwise (·.1 < ·.1) :=
  Json.Members.pairwise_insert _ _ (Json.Members.pairwise_ofPresent fields)

/-- The members of an echo are the name and the fields that were sent. -/
theorem get?_echo {fields : List (String × Option Json)} (hnodup : (fields.map (·.1)).Nodup)
    (name k : String) :
    ((Json.Members.ofPresent fields).insert "name" (.str name)).get? k =
      if "name" = k then some (.str name) else (fields.find? (·.1 == k)).bind (·.2) := by
  rw [Json.Members.get?_insert, Json.Members.get?_ofPresent k hnodup]

/-- **An echo of an OpenID Connect provider** reads as the provider that was sent. -/
theorem Oidc.New.ofTree?_of_spells (p : Oidc.New) (hid : AcceptedId p.id) {folder : String}
    {t : Tree} (ht : t.Spells (.obj ((Json.Members.ofPresent p.fields).insert "name"
      (.str (folder ++ "/" ++ p.id))))) : Oidc.ofTree? t = some p.created := by
  have hascend := pairwise_echo p.fields (folder ++ "/" ++ p.id)
  have hnodup : (p.fields.map (·.1)).Nodup := by
    show ["displayName", "enabled", "clientId", "issuer"].Nodup
    decide
  have hget := get?_echo hnodup (folder ++ "/" ++ p.id)
  have hname : t.field? "name" Tree.text? "" = some (folder ++ "/" ++ p.id) :=
    ht.field?_of_get? hascend (hget "name") fun u hu => hu.text?
  rw [Oidc.ofTree?_iff ht.isObject]
  refine ⟨ht.isNamed, ?_, ?_, ?_, ?_, ?_⟩
  · rw [hname, Option.map_some, idOfName_append hid]
    rfl
  · exact ht.field? hascend (hget "displayName") fun _ _ u hu => hu.text?
  · exact ht.field? hascend (hget "enabled") fun _ _ u hu => hu.flag?
  · exact ht.field?_of_get? hascend (hget "clientId") fun u hu => hu.text?
  · exact ht.field?_of_get? hascend (hget "issuer") fun u hu => hu.text?

/-- The part about the identity provider reads as it was sent. -/
theorem Saml.New.idpPart_of_spells (p : Saml.New) {t : Tree}
    (ht : t.Spells (.obj (Json.Members.ofPresent p.idpFields))) :
    IdpPart.ofTree? t = some p.created.idpPart := by
  have hascend := Json.Members.pairwise_ofPresent p.idpFields
  have hnodup : (p.idpFields.map (·.1)).Nodup := by
    show ["idpEntityId", "ssoUrl", "idpCertificates", "signRequest"].Nodup
    decide
  have hget := fun k => Json.Members.get?_ofPresent k hnodup
  rw [IdpPart.ofTree?_iff ht.isObject]
  refine ⟨ht.isNamed, ?_, ?_, ?_, ?_⟩
  · exact ht.field?_of_get? hascend (hget "idpEntityId") fun u hu => hu.text?
  · exact ht.field?_of_get? hascend (hget "ssoUrl") fun u hu => hu.text?
  · exact ht.field? hascend (hget "signRequest") fun _ _ u hu => hu.flag?
  · exact ht.field?_of_get? hascend (hget "idpCertificates") fun u hu => items?_certificates hu

/-- The part about the relying service reads as it was sent. -/
theorem Saml.New.spPart_of_spells (p : Saml.New) {t : Tree}
    (ht : t.Spells (.obj (Json.Members.ofPresent p.spFields))) :
    SpPart.ofTree? t = some p.created.spPart := by
  have hascend := Json.Members.pairwise_ofPresent p.spFields
  have hnodup : (p.spFields.map (·.1)).Nodup := by
    show ["spEntityId", "callbackUri"].Nodup
    decide
  have hget := fun k => Json.Members.get?_ofPresent k hnodup
  rw [SpPart.ofTree?_iff ht.isObject]
  refine ⟨ht.isNamed, ?_, ?_⟩
  · exact ht.field?_of_get? hascend (hget "spEntityId") fun u hu => hu.text?
  · exact ht.field?_of_get? hascend (hget "callbackUri") fun u hu => hu.text?

/-- **An echo of a SAML provider** reads as the provider that was sent. -/
theorem Saml.New.ofTree?_of_spells (p : Saml.New) (hid : AcceptedId p.id) {folder : String}
    {t : Tree} (ht : t.Spells (.obj ((Json.Members.ofPresent p.fields).insert "name"
      (.str (folder ++ "/" ++ p.id))))) : Saml.ofTree? t = some p.created := by
  have hascend := pairwise_echo p.fields (folder ++ "/" ++ p.id)
  have hnodup : (p.fields.map (·.1)).Nodup := by
    show ["displayName", "enabled", "idpConfig", "spConfig"].Nodup
    decide
  have hget := get?_echo hnodup (folder ++ "/" ++ p.id)
  have hname : t.field? "name" Tree.text? "" = some (folder ++ "/" ++ p.id) :=
    ht.field?_of_get? hascend (hget "name") fun u hu => hu.text?
  rw [Saml.ofTree?_iff ht.isObject]
  refine ⟨ht.isNamed, ?_, ?_, ?_, ?_, ?_⟩
  · rw [hname, Option.map_some, idOfName_append hid]
    rfl
  · exact ht.field? hascend (hget "displayName") fun _ _ u hu => hu.text?
  · exact ht.field? hascend (hget "enabled") fun _ _ u hu => hu.flag?
  · exact ht.field?_of_get? hascend (hget "idpConfig") fun u hu => p.idpPart_of_spells hu
  · exact ht.field?_of_get? hascend (hget "spConfig") fun u hu => p.spPart_of_spells hu

/-! ### Creations -/

/-- **A creation that is answered by an echo** gives what the echo reads as. -/
theorem exists_creation {α : Type} {address : String} {u : Url} (hu : Url.parse address = .ok u)
    (hhost : u.hasHost = true) (query : List Query.Pair) (ms : Json.Members) {name : String}
    {read : Tree → Option α} {a : α}
    (hread : ∀ t : Tree, t.Spells (.obj (ms.insert "name" (.str name))) → read t = some a) :
    ∃ x, Exchange.plan .post address query (some (.obj ms)) (Exchange.readBody read) = .ok x ∧
      x.request.body = (Json.obj ms).bytes ∧
      ∀ {σ : Type} (send : Transport σ) (s s' : σ) (r : Response),
        send x.request s = (some r, s') → r.isSuccess = true → Echoes ms name r.body →
        Admin.run (Exchange.plan .post address query (some (.obj ms)) (Exchange.readBody read))
          send s = (.ok a, s') := by
  refine ⟨_, Admin.plan_of_parse _ _ _ _ hu hhost, rfl, ?_⟩
  intro σ send s s' r hsend hsuccess hecho
  obtain ⟨t, hbody, ht⟩ := hecho
  have hanswer : Exchange.readBody read r.body = .ok a := by
    rw [Exchange.readBody, hbody, Option.bind_some, hread t ht]
  rw [Admin.plan_of_parse _ _ _ _ hu hhost, Admin.run_of_success hsend hsuccess]
  exact congrArg (·, s') hanswer

/-- **What is created is read back.**  Whenever a new provider is accepted and the address of its
collection is a URL with a host, a request is made that carries the provider's fields; and if the
response is a success and echoes these fields under a name that ends in the id, the answer is the
provider with these fields, those that were left open empty or false. -/
theorem created_is_read_back (c : Client) (folder : String) :
    (∀ (p : Oidc.New) (ms : Json.Members) (u : Url), p.request = .ok ms →
      Url.parse (c.providerUrl Oidc.collection) = .ok u → u.hasHost = true →
      ∃ x, Oidc.create c p = .ok x ∧ x.request.body = (Json.obj ms).bytes ∧
        ∀ {σ : Type} (send : Transport σ) (s s' : σ) (r : Response),
          send x.request s = (some r, s') → r.isSuccess = true →
          Echoes ms (folder ++ "/" ++ p.id) r.body →
          Admin.run (Oidc.create c p) send s = (.ok p.created, s')) ∧
    ∀ (p : Saml.New) (ms : Json.Members) (u : Url), p.request = .ok ms →
      Url.parse (c.providerUrl Saml.collection) = .ok u → u.hasHost = true →
      ∃ x, Saml.create c p = .ok x ∧ x.request.body = (Json.obj ms).bytes ∧
        ∀ {σ : Type} (send : Transport σ) (s s' : σ) (r : Response),
          send x.request s = (some r, s') → r.isSuccess = true →
          Echoes ms (folder ++ "/" ++ p.id) r.body →
          Admin.run (Saml.create c p) send s = (.ok p.created, s') := by
  constructor
  · intro p ms u hrequest hu hhost
    obtain ⟨hid, rfl⟩ := Oidc.New.request_ok hrequest
    have haccepted : AcceptedId p.id := @acceptedId_of_checkId .oidc _ hid
    have hplan : Oidc.create c p = Exchange.plan .post (c.providerUrl Oidc.collection)
        [("oauthIdpConfigId", p.id)] (some (.obj (Json.Members.ofPresent p.fields)))
        (Exchange.readBody Oidc.ofTree?) := by
      simp only [Oidc.create, Admin.accept, hrequest, Except.mapError, bind, Except.bind]
    rw [hplan]
    exact exists_creation hu hhost _ _ fun t ht => p.ofTree?_of_spells haccepted ht
  · intro p ms u hrequest hu hhost
    obtain ⟨hid, rfl⟩ := Saml.New.request_ok hrequest
    have haccepted : AcceptedId p.id := @acceptedId_of_checkId .saml _ hid
    have hplan : Saml.create c p = Exchange.plan .post (c.providerUrl Saml.collection)
        [("inboundSamlConfigId", p.id)] (some (.obj (Json.Members.ofPresent p.fields)))
        (Exchange.readBody Saml.ofTree?) := by
      simp only [Saml.create, Admin.accept, hrequest, Except.mapError, bind, Except.bind]
    rw [hplan]
    exact exists_creation hu hhost _ _ fun t ht => p.ofTree?_of_spells haccepted ht

/-- A provider with two certificates and a display name that is escaped; whether it is enabled is
left open. -/
theorem create_two_certificates_echoed :
    let c : Client := ⟨"p", none, "http://h", "http://h"⟩
    let p : Saml.New := ⟨"saml.b", some "\"\n", none, "e", "http://i/sso", some true, ["x", "y"],
      "r", "http://h/back"⟩
    ∃ x ms, Saml.create c p = .ok x ∧ x.request.body = (Json.obj ms).bytes ∧
      Admin.run (Saml.create c p) (fun _ s => (some ⟨200, (Json.obj (Json.Members.insert "name"
        (.str "projects/p/inboundSamlConfigs/saml.b") ms)).bytes⟩, s)) () =
        (.ok ⟨"saml.b", "\"\n", false, "e", "http://i/sso", true, ["x", "y"], "r", "http://h/back"⟩,
          ()) := by
  intro c p
  obtain ⟨ms, hrequest⟩ := Admin.exists_eq_ok
    (show p.request.toOption.isSome = true by decide +kernel)
  have hms := (Saml.New.request_ok hrequest).2
  have hparse : Url.parse (c.providerUrl Saml.collection) =
      .ok ⟨"http", some ⟨"", none, some (.domain "h"), none⟩,
        .segments ["projects", "p", "inboundSamlConfigs"], none, none⟩ :=
    Admin.eq_ok_of_toOption (by decide +kernel)
  obtain ⟨x, hx, hbody, hrun⟩ :=
    (created_is_read_back c "projects/p/inboundSamlConfigs").2 p ms _ hrequest hparse rfl
  subst hms
  exact ⟨x, _, hx, hbody, hrun _ _ _ _ rfl rfl (Json.exists_spelling (by decide +kernel))⟩

end AccountWire.Provider
