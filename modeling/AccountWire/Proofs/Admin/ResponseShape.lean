import AccountWire.Proofs.Admin.Outcome
import AccountWire.Proofs.Json.Grammar
import AccountWire.Proofs.Json.Rearrangement

/-!
# What the answers of an operation depend on

A backend is free in how it writes a response: in which order the members of an object stand, and
what else it puts beside them.  Each reader of responses has a `Shape`, which names the fields of
its records and is respected by it; `Operation.shape` is the shape of an operation's response.

Whatever a backend changes that the shape does not see, the operation answers the same
(`answer_ignores_rearrangement`).  A member that is added must have a name that is a text: with half
of a surrogate pair for a name, the response cannot be read (`unpaired_name_unreadable`).
-/

namespace AccountWire.User

open Json (Respects Shape respects_record respects_whole)

def StoredProvider.shape : Shape :=
  .record [("providerId", .whole), ("displayName", .whole), ("photoUrl", .whole),
    ("email", .whole), ("phoneNumber", .whole), ("rawId", .whole)]

def StoredUser.shape : Shape :=
  .record [("localId", .whole), ("displayName", .whole), ("email", .whole),
    ("phoneNumber", .whole), ("photoUrl", .whole), ("emailVerified", .whole),
    ("disabled", .whole), ("providerUserInfo", .list StoredProvider.shape),
    ("passwordHash", .whole), ("salt", .whole), ("validSince", .whole), ("createdAt", .whole),
    ("lastLoginAt", .whole), ("customAttributes", .whole), ("tenantId", .whole)]

/-- The shape of a look-up's response. -/
def usersShape : Shape := .record [("users", .list StoredUser.shape)]

/-- The shape of a page of users. -/
def pageShape : Shape := .record [("users", .list StoredUser.shape), ("nextPageToken", .whole)]

/-- The shape of a response that has one field. -/
def soleShape (field : String) : Shape := .record [(field, .whole)]

def ImportFault.shape : Shape := .record [("index", .whole), ("message", .whole)]

/-- The shape of an import's response. -/
def faultsShape : Shape := .record [("error", .list ImportFault.shape)]

/-- No edit of its shape changes how a stored login method is read. -/
theorem respects_storedProvider : Respects StoredProvider.shape StoredProvider.ofTree? := by
  refine respects_record fun fs fs' h => ?_
  simp (disch := simp [List.lookup_cons]) only [h.text?]

/-- No edit of its shape changes how a stored user is read. -/
theorem respects_storedUser : Respects StoredUser.shape StoredUser.ofTree? := by
  refine respects_record fun fs fs' h => ?_
  rw [h.list? rfl respects_storedProvider]
  simp (disch := simp [List.lookup_cons]) only [h.text?, h.flag?]

/-- No edit of their shape changes how the users of a look-up are read. -/
theorem respects_users : Respects usersShape usersOfTree? :=
  respects_record fun _ _ h => h.list? rfl respects_storedUser

/-- No edit of its shape changes how a page of users is read. -/
theorem respects_page : Respects pageShape pageOfTree? := by
  refine respects_record fun fs fs' h => ?_
  rw [h.list? rfl respects_storedUser, h.text? (by rfl : List.lookup "nextPageToken" _ = _)]

theorem respects_soleText (field : String) : Respects (soleShape field) (soleText? field) :=
  respects_record fun _ _ h => h.require? (by simp) (respects_whole _)

theorem respects_importFault : Respects ImportFault.shape ImportFault.ofTree? := by
  refine respects_record fun fs fs' h => ?_
  simp (disch := simp [List.lookup_cons]) only [h.text?, h.count?]

theorem respects_faults : Respects faultsShape faultsOfTree? :=
  respects_record fun _ _ h => h.list? rfl respects_importFault

end AccountWire.User

namespace AccountWire.Provider

open Json (Respects Shape respects_record)

def Oidc.shape : Shape :=
  .record [("name", .whole), ("displayName", .whole), ("enabled", .whole), ("clientId", .whole),
    ("issuer", .whole)]

/-- The shape of a page of providers. -/
def Oidc.pageShape : Shape :=
  .record [("oauthIdpConfigs", .list Oidc.shape), ("nextPageToken", .whole)]

/-- No edit of its shape changes how a provider is read. -/
theorem Oidc.respects_ofTree : Respects Oidc.shape Oidc.ofTree? := by
  refine respects_record fun fs fs' h => ?_
  simp (disch := simp [List.lookup_cons]) only [h.text?, h.flag?]

theorem Oidc.respects_page : Respects Oidc.pageShape Oidc.pageOfTree? := by
  refine respects_record fun fs fs' h => ?_
  rw [h.list? rfl Oidc.respects_ofTree, h.text? (by rfl : List.lookup "nextPageToken" _ = _)]

namespace Saml

def certificateShape : Shape := .record [("x509Certificate", .whole)]

def IdpPart.shape : Shape :=
  .record [("idpEntityId", .whole), ("ssoUrl", .whole), ("signRequest", .whole),
    ("idpCertificates", .list certificateShape)]

def SpPart.shape : Shape := .record [("spEntityId", .whole), ("callbackUri", .whole)]

def shape : Shape :=
  .record [("name", .whole), ("displayName", .whole), ("enabled", .whole),
    ("idpConfig", IdpPart.shape), ("spConfig", SpPart.shape)]

/-- The shape of a page of providers. -/
def pageShape : Shape := .record [("inboundSamlConfigs", .list shape), ("nextPageToken", .whole)]

theorem respects_certificate : Respects certificateShape certificateOfTree? :=
  respects_record fun _ _ h => h.text? rfl

theorem respects_idpPart : Respects IdpPart.shape IdpPart.ofTree? := by
  refine respects_record fun fs fs' h => ?_
  rw [h.list? rfl respects_certificate]
  simp (disch := simp [List.lookup_cons]) only [h.text?, h.flag?]

theorem respects_spPart : Respects SpPart.shape SpPart.ofTree? := by
  refine respects_record fun fs fs' h => ?_
  simp (disch := simp [List.lookup_cons]) only [h.text?]

/-- No edit of its shape changes how a provider is read. -/
theorem respects_ofTree : Respects shape ofTree? := by
  refine respects_record fun fs fs' h => ?_
  rw [h.get? rfl respects_idpPart, h.get? rfl respects_spPart]
  simp (disch := simp [List.lookup_cons]) only [h.text?, h.flag?]

/-- No edit of its shape changes how a page of providers is read. -/
theorem respects_page : Respects pageShape pageOfTree? := by
  refine respects_record fun fs fs' h => ?_
  rw [h.list? rfl respects_ofTree, h.text? (by rfl : List.lookup "nextPageToken" _ = _)]

end Saml

end AccountWire.Provider

namespace AccountWire.Admin

open Http (Transport)
open Json (Rearranged Respects Shape Tree)

/-! ### Reading a body -/

/-- Whether bodies are read alike that write trees of which the one is a rearrangement of the
other. -/
def Overlooks {α : Type} (shape : Shape) (interpret : Bytes → Except Error α) : Prop :=
  ∀ t t' body body', Rearranged shape t t' → t.IsDocument body → t'.IsDocument body' →
    interpret body = interpret body'

/-- What no edit of a shape changes is read alike from bodies that are rearranged. -/
theorem overlooks_readBody {α : Type} {shape : Shape} {read : Tree → Option α}
    (h : Respects shape read) : Overlooks shape (Exchange.readBody read) := by
  intro t t' body body' ht hbody hbody'
  rw [Exchange.readBody, Exchange.readBody, hbody.ofBytes?, hbody'.ofBytes?, Option.bind_some,
    Option.bind_some, h.rearranged ht]

/-- What is done with a result later does not see the rearrangement either. -/
theorem Overlooks.bind {α β : Type} {shape : Shape} {interpret : Bytes → Except Error α}
    (h : Overlooks shape interpret) (next : α → Except Error β) :
    Overlooks shape fun body => interpret body >>= next := by
  intro t t' body body' ht hbody hbody'
  simp only [h t t' body body' ht hbody hbody']

/-! ### Plans -/

/-- Whether an exchange that is planned reads bodies as `reads` says. -/
def PlansReading {α : Type} (reads : (Bytes → Except Error α) → Prop)
    (plan : Except Error (Exchange α)) : Prop := ∀ x, plan = .ok x → reads x.interpret

section

variable {α β : Type} {reads : (Bytes → Except Error α) → Prop}

/-- A plan on its own reads as it was told to. -/
theorem PlansReading.plan {interpret : Bytes → Except Error α} (h : reads interpret)
    (method : Http.Method) (address : String) (query : List Query.Pair) (body : Option Json) :
    PlansReading reads (Exchange.plan method address query body interpret) := by
  intro x hx
  rw [(of_plan_eq_ok hx).2]
  exact h

/-- A check before a plan does not change how it reads. -/
theorem PlansReading.bind {check : Except Error β} {next : β → Except Error (Exchange α)}
    (h : ∀ b, PlansReading reads (next b)) : PlansReading reads (check >>= next) := by
  intro x hx
  obtain ⟨b, -, hb⟩ := of_bind_eq_ok hx
  exact h b x hb

end

namespace Operation

/-- The shape of an operation's response. -/
def shape : Operation → Shape
  | .byUid _ | .byEmail _ | .byPhoneNumber _ => User.usersShape
  | .createUser _ => User.soleShape "localId"
  | .sessionCookie _ _ => User.soleShape "sessionCookie"
  | .emailVerificationLink _ _ | .passwordResetLink _ _ | .emailSignInLink _ _ =>
    User.soleShape "oobLink"
  | .importUsers _ _ => User.faultsShape
  | .userPage _ => User.pageShape
  | .getOidc _ | .createOidc _ | .updateOidc _ _ => Provider.Oidc.shape
  | .oidcPage _ => Provider.Oidc.pageShape
  | .getSaml _ | .createSaml _ | .updateSaml _ _ => Provider.Saml.shape
  | .samlPage _ => Provider.Saml.pageShape
  | .updateUser _ _ | .revokeRefreshTokens _ _ | .setCustomClaims _ _ | .deleteUser _ => .whole
  | .deleteOidc _ | .deleteSaml _ => .whole

/-- **Every operation overlooks what its shape does not see.** -/
theorem plan_overlooks (c : Client) (op : Operation) :
    PlansReading (Overlooks op.shape) (op.plan c) := by
  have hlookup : Overlooks User.usersShape User.interpretLookup :=
    (overlooks_readBody User.respects_users).bind _
  have hsole : ∀ field, Overlooks (User.soleShape field)
      (Exchange.readBody (User.soleText? field)) :=
    fun field => overlooks_readBody (User.respects_soleText field)
  have hpage : Overlooks User.pageShape User.interpretPage :=
    (overlooks_readBody User.respects_page).bind _
  have hignore : Overlooks .whole Exchange.ignoreBody :=
    overlooks_readBody (Json.respects_whole _)
  have hoidc := overlooks_readBody Provider.Oidc.respects_ofTree
  have hsaml := overlooks_readBody Provider.Saml.respects_ofTree
  cases op with
  | byUid uid | byEmail email | byPhoneNumber number =>
      exact .bind fun _ => .plan hlookup _ _ _ _
  | createUser user => exact .bind fun _ => .plan ((hsole _).bind _) _ _ _ _
  | updateUser uid change => exact .bind fun _ => .bind fun _ => .plan hignore _ _ _ _
  | revokeRefreshTokens now uid => exact .bind fun _ => .plan hignore _ _ _ _
  | setCustomClaims uid claims => exact .bind fun _ => .bind fun _ => .plan hignore _ _ _ _
  | deleteUser uid => exact .bind fun _ => .plan hignore _ _ _ _
  | importUsers users hash =>
      exact .bind fun _ => .plan ((overlooks_readBody User.respects_faults).bind _) _ _ _ _
  | sessionCookie idToken span =>
      exact .bind fun _ => .bind fun _ => .plan ((hsole _).bind _) _ _ _ _
  | emailVerificationLink email settings | passwordResetLink email settings
  | emailSignInLink email settings => exact .bind fun _ => .plan (hsole _) _ _ _ _
  | userPage token => exact .plan hpage _ _ _ _
  | getOidc id => exact .bind fun _ => .plan hoidc _ _ _ _
  | createOidc provider => exact .bind fun _ => .plan hoidc _ _ _ _
  | updateOidc id change => exact .bind fun _ => .bind fun _ => .plan hoidc _ _ _ _
  | oidcPage token => exact .plan (overlooks_readBody Provider.Oidc.respects_page) _ _ _ _
  | getSaml id => exact .bind fun _ => .plan hsaml _ _ _ _
  | createSaml provider => exact .bind fun _ => .plan hsaml _ _ _ _
  | updateSaml id change => exact .bind fun _ => .bind fun _ => .plan hsaml _ _ _ _
  | samlPage token => exact .plan (overlooks_readBody Provider.Saml.respects_page) _ _ _ _
  | deleteOidc id | deleteSaml id => exact .bind fun _ => .plan hignore _ _ _ _

/-- **What the shape of a response does not see makes no difference.**  When two bodies write
trees of which the one is a rearrangement of the other, an operation that is answered with success
by the one or the other has the same result. -/
theorem answer_ignores_rearrangement (c : Client) (op : Operation) {t t' : Tree}
    {body body' : Bytes} (ht : Rearranged op.shape t t') (hbody : t.IsDocument body)
    (hbody' : t'.IsDocument body') {status : Nat} (hstatus : 200 ≤ status ∧ status ≤ 299)
    {σ τ : Type} {send : Transport σ} {send' : Transport τ} {s : σ} {s' : τ}
    (hsend : ∀ request, (send request s).1 = some ⟨status, body⟩)
    (hsend' : ∀ request, (send' request s').1 = some ⟨status, body'⟩) :
    (run (op.plan c) send s).1 = (run (op.plan c) send' s').1 := by
  have hsuccess : ∀ body, Http.Response.isSuccess ⟨status, body⟩ = true := by
    intro body
    simp [Http.Response.isSuccess, hstatus]
  cases hplan : op.plan c with
  | error e => rfl
  | ok x =>
      have hread := op.plan_overlooks c x hplan t t' body body' ht hbody hbody'
      have hfirst : send x.request s = (some ⟨status, body⟩, (send x.request s).2) := by
        rw [← hsend x.request]
      have hsecond : send' x.request s' = (some ⟨status, body'⟩, (send' x.request s').2) := by
        rw [← hsend' x.request]
      rw [run_of_success hfirst (hsuccess body), run_of_success hsecond (hsuccess body')]
      exact hread

/-- The id that a client reads in the response to the creation of a user. -/
def createdId (response : String) : Except Error String :=
  (run (plan ⟨"p", none, "http://h", "http://h"⟩
      (.createUser ⟨none, none, none, none, none, none, none, none⟩)) Http.Script.transport
    ⟨[⟨200, Utf8.ofString response⟩], []⟩).1

/-- The member that a backend adds may be nested, and may come first. -/
theorem added_member_overlooked :
    createdId "\x7b\"localId\":\"u\"\x7d" =
      createdId "\x7b\"x\":[[]],\"localId\":\"u\"\x7d" := by
  have hname : Json.IsStringText (Json.textParts "localId") _ :=
    Json.isStringText_plain (show ∀ b ∈ Utf8.ofString "localId", _ by decide +kernel)
  have huser : (Tree.string (Json.textParts "u")).IsText _ :=
    Json.isStringText_plain (show ∀ b ∈ Utf8.ofString "u", _ by decide +kernel)
  have hadded : Json.IsStringText (Json.textParts "x") _ :=
    Json.isStringText_plain (show ∀ b ∈ Utf8.ofString "x", _ by decide +kernel)
  have hnested : (Tree.arr [.arr []]).IsText _ :=
    Json.isText_arr (Json.areItemsText_singleton (Json.isText_arr Json.areBlanks_nil))
  have hcreated := Json.areMembersText_singleton hname huser
  have hinserted : ∀ m t, Json.Edit (User.soleShape "localId") (.obj ([m] ++ []))
      (.obj ([m] ++ [(Json.textParts "x", t)])) :=
    fun _ _ => .inserted (Json.stringText?_textParts "x") rfl
  refine answer_ignores_rearrangement _ (.createUser _) ?_
    (Json.isDocument_of_isText (Json.isText_obj hcreated) (by decide +kernel))
    (Json.isDocument_of_isText (Json.isText_obj (Json.areMembersText_cons hadded hnested hcreated))
      (by decide +kernel))
    (by decide) (fun _ => rfl) (fun _ => rfl)
  exact (Relation.ReflTransGen.single (hinserted _ _)).tail (.permuted (.swap _ _ _))

/-- **A member whose name is no text is not overlooked**: half of a surrogate pair may be written
for a name, and then it is the name of no field. -/
theorem unpaired_name_unreadable :
    (Tree.obj [(Json.textParts "localId", .string (Json.textParts "u"))]).IsDocument
      (Utf8.ofString "\x7b\"localId\":\"u\"\x7d") ∧
    (Tree.obj [(Json.textParts "localId", .string (Json.textParts "u")),
      ([.unit 0xD800], .arr [])]).IsDocument
      (Utf8.ofString "\x7b\"localId\":\"u\",\"\\ud800\":[]\x7d") ∧
    Json.stringText? [.unit 0xD800] ≠ some "localId" ∧
    createdId "\x7b\"localId\":\"u\"\x7d" = .ok "u" ∧
    createdId "\x7b\"localId\":\"u\",\"\\ud800\":[]\x7d" =
      .error .unreadable := by
  have hname : Json.IsStringText (Json.textParts "localId") _ :=
    Json.isStringText_plain (show ∀ b ∈ Utf8.ofString "localId", _ by decide +kernel)
  have huser : (Tree.string (Json.textParts "u")).IsText _ :=
    Json.isStringText_plain (show ∀ b ∈ Utf8.ofString "u", _ by decide +kernel)
  have hunit : Json.StringPart.IsText (.unit 0xD800) (Utf8.ofString "\\ud800") :=
    ⟨_, _, _, _, 13, 8, 0, 0, (by decide : Json.hexOctet? (Json.octet 'd') = _),
      (by decide : Json.hexOctet? (Json.octet '8') = _),
      (by decide : Json.hexOctet? (Json.octet '0') = _),
      (by decide : Json.hexOctet? (Json.octet '0') = _), rfl, by decide +kernel⟩
  have hunpaired : Json.IsStringText [.unit 0xD800] _ := ⟨_, ⟨_, _, hunit, rfl, rfl⟩, rfl⟩
  have hadded := Json.areMembersText_singleton hunpaired
    (Json.isText_arr Json.areBlanks_nil : (Tree.arr []).IsText _)
  refine ⟨Json.isDocument_of_isText (Json.isText_obj (Json.areMembersText_singleton hname huser))
      (by decide +kernel),
    Json.isDocument_of_isText (Json.isText_obj (Json.areMembersText_cons hname huser hadded))
      (by decide +kernel), by decide, by decide +kernel, by decide +kernel⟩

end Operation

end AccountWire.Admin
