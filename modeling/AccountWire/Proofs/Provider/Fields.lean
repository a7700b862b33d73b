import AccountWire.Proofs.Provider.Mask
import AccountWire.Provider.Oidc
import AccountWire.Provider.Saml

/-!
# Bodies and documents of providers, field by field

A body is made of fields.  When their names are plain and their values settings, the body can be
written, masked and read back (`isSetting_ofPresent`).  A stored document reads as a provider when
each of the provider's fields is what the document holds under its name (`Oidc.ofTree?_iff`,
`Saml.ofTree?_iff`).
-/

namespace AccountWire.Provider

open Json (Tree)

/-! ### Settings -/

/-- A value that is read back when it is written, and whose mask is. -/
structure IsSetting (v : Json) : Prop where
  ordered : v.isOrdered = true
  integral : v.isExact = true
  plainNames : hasPlainNames v = true

theorem isSetting_null : IsSetting .null := ⟨rfl, rfl, rfl⟩

theorem isSetting_bool (b : Bool) : IsSetting (.bool b) := ⟨rfl, rfl, rfl⟩

theorem isSetting_str (s : String) : IsSetting (.str s) := ⟨rfl, rfl, rfl⟩

/-- A list of settings is a setting. -/
theorem isSetting_arr {vs : List Json} (h : ∀ v ∈ vs, IsSetting v) : IsSetting (.arr vs) :=
  ⟨Json.isOrdered_arr.mpr fun v hv => (h v hv).ordered,
    Json.isExact_arr.mpr fun v hv => (h v hv).integral,
    hasPlainNames_arr.mpr fun v hv => (h v hv).plainNames⟩

/-- A field of a plain name whose value, if there is one, is a setting. -/
def IsField (f : String × Option Json) : Prop :=
  isPlainName f.1 = true ∧ ∀ v, f.2 = some v → IsSetting v

/-- A field that may be absent is one if its value is a setting. -/
theorem isField_map {β : Type} {name : String} {write : β → Json} (hname : isPlainName name = true)
    (hwrite : ∀ b, IsSetting (write b)) (o : Option β) : IsField (name, o.map write) := by
  refine ⟨hname, ?_⟩
  intro v hv
  obtain ⟨b, -, rfl⟩ := Option.map_eq_some_iff.mp hv
  exact hwrite b

/-- Fields make a setting. -/
theorem isSetting_ofPresent {fields : List (String × Option Json)}
    (h : ∀ f ∈ fields, IsField f) : IsSetting (.obj (Json.Members.ofPresent fields)) := by
  have hmember : ∀ m ∈ Json.Members.ofPresent fields, isPlainName m.1 = true ∧ IsSetting m.2 := by
    intro m hm
    obtain ⟨hname, hvalue⟩ := h _ (Json.Members.mem_of_mem_ofPresent hm)
    exact ⟨hname, hvalue _ rfl⟩
  exact ⟨Json.isOrdered_obj.mpr
      ⟨Json.Members.pairwise_ofPresent _, fun m hm => (hmember m hm).2.ordered⟩,
    Json.isExact_obj.mpr fun m hm => (hmember m hm).2.integral,
    hasPlainNames_obj.mpr
      ⟨fun m hm => (hmember m hm).1, fun m hm => (hmember m hm).2.plainNames⟩⟩

/-- A part of fields is a field. -/
theorem isField_presentObject? {name : String} {fields : List (String × Option Json)}
    (hname : isPlainName name = true) (h : ∀ f ∈ fields, IsField f) :
    IsField (name, presentObject? fields) := by
  refine ⟨hname, ?_⟩
  intro v hv
  have hobj : v = .obj (Json.Members.ofPresent fields) := by
    simp only [presentObject?] at hv
    split at hv
    · exact absurd hv (by simp)
    · exact (Option.some.inj hv).symm
  exact hobj ▸ isSetting_ofPresent h

theorem isSetting_displayName (name : String) : IsSetting (displayNameValue name) := by
  rw [displayNameValue]
  split
  · exact isSetting_null
  · exact isSetting_str name

theorem isSetting_certificates (certificates : List String) :
    IsSetting (certificatesValue certificates) := by
  apply isSetting_arr
  intro v hv
  obtain ⟨c, -, rfl⟩ := List.mem_map.mp hv
  have hfield : IsField ("x509Certificate", (some c).map .str) :=
    isField_map rfl isSetting_str _
  exact isSetting_ofPresent fun f hf => List.mem_singleton.mp hf ▸ hfield

/-! ### Leaves and what they are read as -/

/-- A leaf of a body stands for what a record reads once the leaf was taken over. -/
def StandsFor {α : Type} (read : Tree → Option α) (absent : α) (v : Json) (a : α) : Prop :=
  pathsOf v = [[]] ∧ (Tree.readOne read (takenOver v)).map (·.getD absent) = some a

/-- A text stands for itself. -/
theorem standsFor_str (s : String) : StandsFor Tree.text? "" (.str s) s := by
  refine ⟨rfl, ?_⟩
  simp [takenOver, Tree.readOne, Json.toTree, Tree.text?, Json.stringText?_textParts]

theorem standsFor_bool (b : Bool) : StandsFor Tree.flag? false (.bool b) b := ⟨rfl, rfl⟩

/-- An empty display name is removed and then read as empty. -/
theorem standsFor_displayName (name : String) :
    StandsFor Tree.text? "" (displayNameValue name) name := by
  rw [displayNameValue]
  split
  · next h => exact h ▸ ⟨rfl, rfl⟩
  · exact standsFor_str name

/-- The list of a provider's certificates stands for them. -/
theorem standsFor_certificates (certificates : List String) :
    StandsFor (Tree.items? Saml.certificateOfTree?) [] (certificatesValue certificates)
      certificates := by
  have hone : ∀ c : String,
      Saml.certificateOfTree? (Json.object [("x509Certificate", .str c)]).toTree = some c := by
    intro c
    have hfields : (Json.object [("x509Certificate", .str c)]).toTree.fields?
        ["x509Certificate"] =
        some [("x509Certificate", .string (Json.textParts c))] := by
      show Json.nameMembers? [(Json.textParts "x509Certificate", .string (Json.textParts c))] = _
      rw [Tree.nameMembers?_cons, Json.stringText?_textParts]
      rfl
    have htext : Json.Fields.text? [("x509Certificate", .string (Json.textParts c))]
        "x509Certificate" = Json.stringText? (Json.textParts c) := by
      simp [Json.Fields.text?, Json.Fields.get?, Json.Fields.find?, Tree.text?, Function.comp_def]
    rw [Saml.certificateOfTree?, hfields]
    exact htext.trans (Json.stringText?_textParts c)
  have hread : ∀ cs : List String,
      (Json.toTrees (cs.map fun c => Json.object [("x509Certificate", .str c)])).mapM
        Saml.certificateOfTree? = some cs := by
    intro cs
    induction cs with
    | nil => rfl
    | cons c cs ih =>
        rw [List.map_cons, Json.toTrees, List.mapM_cons, hone, ih]
        rfl
  refine ⟨rfl, ?_⟩
  simp [takenOver, certificatesValue, Tree.readOne, Json.toTree, Tree.items?, hread]

/-! ### Reading providers field by field -/

/-- **A provider is read field by field**, the absent ones as empty. -/
theorem Oidc.ofTree?_iff {t : Tree} (h : t.IsObject) {p : Oidc} :
    Oidc.ofTree? t = some p ↔ t.isNamed = true ∧
      (t.field? "name" Tree.text? "").map idOfName = some p.id ∧
      t.field? "displayName" Tree.text? "" = some p.displayName ∧
      t.field? "enabled" Tree.flag? false = some p.enabled ∧
      t.field? "clientId" Tree.text? "" = some p.clientId ∧
      t.field? "issuer" Tree.text? "" = some p.issuer := by
  obtain ⟨id, displayName, enabled, clientId, issuer⟩ := p
  rcases Tree.fields?_of_isObject h ["name", "displayName", "enabled", "clientId", "issuer"] with
    ⟨hfields, hnamed⟩ | ⟨fs, hfields, hnamed, hget⟩
  · simp [Oidc.ofTree?, hfields, hnamed]
  · simp only [Oidc.ofTree?, hfields, hnamed, Json.Fields.text?, Json.Fields.flag?, hget,
      Option.bind_eq_bind, Option.bind_some, Option.bind_eq_some_iff, Option.map_eq_some_iff,
      Option.pure_def, Option.some.injEq, Oidc.mk.injEq]
    constructor
    · rintro ⟨name, hname, _, hd, _, he, _, hc, _, hi, rfl, rfl, rfl, rfl, rfl⟩
      exact ⟨trivial, ⟨name, hname, rfl⟩, hd, he, hc, hi⟩
    · rintro ⟨-, ⟨name, hname, rfl⟩, hd, he, hc, hi⟩
      exact ⟨name, hname, _, hd, _, he, _, hc, _, hi, rfl, rfl, rfl, rfl, rfl⟩

namespace Saml

/-- The part of a provider that is about the identity provider. -/
def idpPart (p : Saml) : IdpPart :=
  ⟨p.idpEntityId, p.ssoUrl, p.requestSigningEnabled, p.x509Certificates⟩

/-- The part of a provider that is about the relying service. -/
def spPart (p : Saml) : SpPart := ⟨p.rpEntityId, p.callbackUrl⟩

/-- The part about the identity provider is read field by field, the absent ones as empty. -/
theorem IdpPart.ofTree?_iff {t : Tree} (h : t.IsObject) {p : IdpPart} :
    IdpPart.ofTree? t = some p ↔ t.isNamed = true ∧
      t.field? "idpEntityId" Tree.text? "" = some p.entityId ∧
      t.field? "ssoUrl" Tree.text? "" = some p.ssoUrl ∧
      t.field? "signRequest" Tree.flag? false = some p.signRequest ∧
      t.field? "idpCertificates" (Tree.items? certificateOfTree?) [] = some p.certificates := by
  obtain ⟨entityId, ssoUrl, signRequest, certificates⟩ := p
  rcases Tree.fields?_of_isObject h ["idpEntityId", "ssoUrl", "signRequest", "idpCertificates"]
    with ⟨hfields, hnamed⟩ | ⟨fs, hfields, hnamed, hget⟩
  · simp [IdpPart.ofTree?, hfields, hnamed]
  · simp only [IdpPart.ofTree?, hfields, hnamed, Json.Fields.text?, Json.Fields.flag?,
      Json.Fields.list?, hget, Option.bind_eq_bind, Option.bind_some, Option.bind_eq_some_iff,
      Option.pure_def, Option.some.injEq, IdpPart.mk.injEq]
    constructor
    · rintro ⟨_, he, _, hs, _, hr, _, hc, rfl, rfl, rfl, rfl⟩
      exact ⟨trivial, he, hs, hr, hc⟩
    · rintro ⟨-, he, hs, hr, hc⟩
      exact ⟨_, he, _, hs, _, hr, _, hc, rfl, rfl, rfl, rfl⟩

theorem SpPart.ofTree?_iff {t : Tree} (h : t.IsObject) {p : SpPart} :
    SpPart.ofTree? t = some p ↔ t.isNamed = true ∧
      t.field? "spEntityId" Tree.text? "" = some p.entityId ∧
      t.field? "callbackUri" Tree.text? "" = some p.callbackUri := by
  obtain ⟨entityId, callbackUri⟩ := p
  rcases Tree.fields?_of_isObject h ["spEntityId", "callbackUri"] with
    ⟨hfields, hnamed⟩ | ⟨fs, hfields, hnamed, hget⟩
  · simp [SpPart.ofTree?, hfields, hnamed]
  · simp only [SpPart.ofTree?, hfields, hnamed, Json.Fields.text?, hget, Option.bind_eq_bind,
      Option.bind_some, Option.bind_eq_some_iff, Option.pure_def, Option.some.injEq,
      SpPart.mk.injEq]
    constructor
    · rintro ⟨_, he, _, hc, rfl, rfl⟩
      exact ⟨trivial, he, hc⟩
    · rintro ⟨-, he, hc⟩
      exact ⟨_, he, _, hc, rfl, rfl⟩

/-- **A provider is read field by field**, those of its parts too, the absent ones as empty. -/
theorem ofTree?_iff {t : Tree} (h : t.IsObject) {p : Saml} :
    ofTree? t = some p ↔ t.isNamed = true ∧
      (t.field? "name" Tree.text? "").map idOfName = some p.id ∧
      t.field? "displayName" Tree.text? "" = some p.displayName ∧
      t.field? "enabled" Tree.flag? false = some p.enabled ∧
      t.field? "idpConfig" IdpPart.ofTree? ⟨"", "", false, []⟩ = some p.idpPart ∧
      t.field? "spConfig" SpPart.ofTree? ⟨"", ""⟩ = some p.spPart := by
  obtain ⟨id, displayName, enabled, idpEntityId, ssoUrl, signs, certificates, rpEntityId,
    callbackUrl⟩ := p
  rcases Tree.fields?_of_isObject h ["name", "displayName", "enabled", "idpConfig", "spConfig"]
    with ⟨hfields, hnamed⟩ | ⟨fs, hfields, hnamed, hget⟩
  · simp [ofTree?, hfields, hnamed]
  · simp only [ofTree?, hfields, hnamed, Json.Fields.text?, Json.Fields.flag?, hget,
      Option.bind_eq_bind, Option.bind_some, Option.bind_eq_some_iff, Option.map_eq_some_iff,
      Option.pure_def, Option.some.injEq, Saml.mk.injEq, idpPart, spPart]
    constructor
    · rintro ⟨name, hname, _, hd, _, he, idp, hidp, sp, hsp, rfl, rfl, rfl, rfl, rfl, rfl, rfl,
        rfl, rfl⟩
      exact ⟨trivial, ⟨name, hname, rfl⟩, hd, he, hidp, hsp⟩
    · rintro ⟨-, ⟨name, hname, rfl⟩, hd, he, hidp, hsp⟩
      exact ⟨name, hname, _, hd, _, he, _, hidp, _, hsp, rfl, rfl, rfl, rfl, rfl, rfl, rfl, rfl,
        rfl⟩

end Saml

end AccountWire.Provider
