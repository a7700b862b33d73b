import AccountWire.Proofs.Provider.Update
import AccountWire.Proofs.User.Claims

/-!
# Which arguments an operation accepts

The checks of an operation are made one after another, each with its own reason to refuse.  Here
the arguments that come through are described without the checks and without their order:
`Operation.Accepts` says for every operation what its arguments have to be.  `Passes` is the bridge
between the two; it takes a sequence of checks apart (`passes_andThen`, `passes_forM`,
`passes_mapM`), and every check has one lemma that says what passes it.  A check with one reason to
refuse has another lemma that says when it does.
-/

namespace AccountWire.Admin

/-- A field that must not be empty. -/
theorem passes_checkNonEmpty {field value : String} :
    Passes (checkNonEmpty field value) ↔ value ≠ "" := by
  rw [checkNonEmpty, passes_refuse, and_iff_left (passes_ok ())]

/-- A text that must not be empty is refused with the name of its field. -/
theorem checkNonEmpty_eq_error_iff {field value : String} {e : Rejection} :
    checkNonEmpty field value = .error e ↔ ¬ value ≠ "" ∧ e = .emptyField field :=
  eq_error_iff_of_passes passes_checkNonEmpty fun _ => eq_of_refuse

/-- A body without members is not sent. -/
theorem passes_unless_empty {fields : List (String × Option Json)} {e : Rejection} :
    Passes (if (Json.Members.ofPresent fields).isEmpty then .error e
      else .ok (Json.Members.ofPresent fields)) ↔ ¬ ∀ f ∈ fields, f.2 = none := by
  rw [passes_refuse, and_iff_left (passes_ok _), List.isEmpty_iff, Json.Members.ofPresent_eq_nil]

end AccountWire.Admin

namespace AccountWire.Url

/-- The text of an absolute URL with a host. -/
def Locates (s : String) : Prop := ∃ u, parse s = .ok u ∧ u.hasHost = true

/-- A text names a host exactly when it is an absolute URL with one. -/
theorem namesHost_iff {s : String} : namesHost s = true ↔ Locates s := by
  unfold namesHost Locates
  cases parse s <;> simp

end AccountWire.Url

/-! ### What users are described with -/

namespace AccountWire.User

open Admin (Passes Rejection eq_error_iff_of_passes eq_of_admit eq_of_refuse passes_andThen passes_bind
  passes_checkNonEmpty passes_forM passes_map passes_mapM passes_mapM_option passes_unless_empty
  passes_ok passes_pure passes_refuse)

/-- A user id has 1 to 128 characters. -/
def IsUid (uid : String) : Prop := uid ≠ "" ∧ uid.length ≤ 128

/-- An email address is a name, an `@` and a domain, neither of them empty or with another `@`. -/
def IsEmail (email : String) : Prop :=
  ∃ name domain, email.toList = name ++ '@' :: domain ∧ name ≠ [] ∧ domain ≠ [] ∧
    '@' ∉ name ∧ '@' ∉ domain

/-- A phone number begins with a plus sign and has a digit. -/
def IsPhoneNumber (number : String) : Prop :=
  number.toList.head? = some '+' ∧ ∃ c ∈ number.toList, '0' ≤ c ∧ c ≤ '9'

/-- A password has at least six characters. -/
def IsPassword (password : String) : Prop := 6 ≤ password.length

/-- Claims of which the backend sets none itself, with a JSON text of at most 1000 octets. -/
def AreClaims (claims : Json.Members) : Prop :=
  (∀ c ∈ claims, c.1 ∉ reservedClaims) ∧ (Json.obj claims).bytes.length ≤ 1000

/-- The check of an id lets exactly the ids through. -/
theorem passes_checkUid {uid : String} : Passes (checkUid uid) ↔ IsUid uid := by
  rw [checkUid, passes_refuse, and_iff_left (passes_ok ()), not_or, Nat.not_lt]
  rfl

/-- All ids are refused with the same reason. -/
theorem checkUid_eq_error_iff {uid : String} {e : Rejection} :
    checkUid uid = .error e ↔ ¬ IsUid uid ∧ e = .badUid :=
  eq_error_iff_of_passes passes_checkUid fun _ => eq_of_refuse

/-- The checker of email addresses finds exactly the email addresses. -/
theorem isEmail_iff {email : String} : isEmail email.toList = true ↔ IsEmail email := by
  have hat : ∀ {cs : List Char}, '@' ∉ cs ↔ ∀ c ∈ cs, (c == '@') = false := by
    intro cs
    simp only [beq_eq_false_iff_ne]
    exact ⟨fun h c hc heq => h (heq ▸ hc), fun h hmem => h _ hmem rfl⟩
  constructor
  · intro h
    unfold isEmail at h
    split at h
    · next name domain hsplit =>
      obtain ⟨sign, hsign, hlist, hno⟩ := Split.atFirst?_append hsplit
      obtain rfl : sign = '@' := eq_of_beq hsign
      obtain ⟨⟨hname, hdomain⟩, hno'⟩ : (name ≠ [] ∧ domain ≠ []) ∧ '@' ∉ domain := by simpa using h
      exact ⟨name, domain, hlist, hname, hdomain, hat.mpr hno, hno'⟩
    · cases h
  · rintro ⟨name, domain, hlist, hname, hdomain, hno, hno'⟩
    have hsplit := Split.atFirst?_cons_of_forall (r := domain) (hat.mp hno) (beq_self_eq_true '@')
    rw [isEmail, hlist, hsplit]
    simp [hname, hdomain, hno']

/-- The check of an email address lets exactly the email addresses through. -/
theorem passes_checkEmail {email : String} : Passes (checkEmail email) ↔ IsEmail email := by
  rw [← isEmail_iff]
  unfold checkEmail
  cases isEmail email.toList <;> simp

/-- An email address is refused with the address as it was given. -/
theorem checkEmail_eq_error_iff {email : String} {e : Rejection} :
    checkEmail email = .error e ↔ ¬ IsEmail email ∧ e = .malformedEmail email :=
  eq_error_iff_of_passes passes_checkEmail fun _ => eq_of_admit

/-- The check of a phone number lets exactly the phone numbers through. -/
theorem passes_checkPhoneNumber {number : String} :
    Passes (checkPhoneNumber number) ↔ IsPhoneNumber number := by
  unfold checkPhoneNumber IsPhoneNumber
  split
  · next h => simpa using h
  · next h => simpa using h

/-- All phone numbers are refused with the same reason. -/
theorem checkPhoneNumber_eq_error_iff {number : String} {e : Rejection} :
    checkPhoneNumber number = .error e ↔ ¬ IsPhoneNumber number ∧ e = .badPhoneNumber :=
  eq_error_iff_of_passes passes_checkPhoneNumber fun _ => eq_of_admit

/-- The check of a password lets exactly the passwords through. -/
theorem passes_checkPassword {password : String} :
    Passes (checkPassword password) ↔ IsPassword password := by
  rw [checkPassword, passes_refuse, and_iff_left (passes_ok ()), Nat.not_lt]
  rfl

/-- All passwords are refused with the same reason. -/
theorem checkPassword_eq_error_iff {password : String} {e : Rejection} :
    checkPassword password = .error e ↔ ¬ IsPassword password ∧ e = .shortPassword :=
  eq_error_iff_of_passes passes_checkPassword fun _ => eq_of_refuse

/-- Claims have a text exactly when none is reserved and the text is not too long. -/
theorem passes_claimsText {claims : Json.Members} :
    Passes (claimsText claims) ↔ AreClaims claims := by
  unfold claimsText AreClaims
  cases hfind : claims.find? (fun c => reservedClaims.contains c.1) with
  | some c =>
      have hmem := List.mem_of_find?_eq_some hfind
      have hreserved := List.find?_some hfind
      simp only [List.contains_iff_mem] at hreserved
      simp only [Admin.not_passes_error, false_iff]
      exact fun h => h.1 c hmem hreserved
  | none =>
      rw [List.find?_eq_none] at hfind
      simp only [List.contains_iff_mem] at hfind
      rw [passes_refuse, and_iff_left (passes_ok _), Nat.not_lt, and_iff_right hfind]
      rfl

/-- Claims that replace others; without any, there is nothing to refuse. -/
theorem passes_replacement {claims : Option Json.Members} :
    Passes (claimsText (claims.getD [])) ↔ ∀ c ∈ claims, AreClaims c := by
  rw [passes_claimsText]
  cases claims with
  | some claims => simp
  | none =>
      have hempty : AreClaims [] := ⟨by simp, by decide⟩
      simp [hempty]

/-! ### Users -/

/-- What a new user may be. -/
structure NewUser.Valid (u : NewUser) : Prop where
  uid : ∀ uid ∈ u.uid, IsUid uid
  email : ∀ email ∈ u.email, IsEmail email
  phoneNumber : ∀ number ∈ u.phoneNumber, IsPhoneNumber number
  displayName : ∀ name ∈ u.displayName, name ≠ ""
  photoUrl : ∀ url ∈ u.photoUrl, url ≠ ""
  password : ∀ password ∈ u.password, IsPassword password

/-- A user is created exactly if all that is said of it is as it has to be. -/
theorem NewUser.passes_request {u : NewUser} : Passes u.request ↔ u.Valid := by
  rw [request, passes_andThen, and_iff_left (passes_pure _), check]
  simp only [passes_andThen, passes_forM, passes_checkUid, passes_checkEmail,
    passes_checkPhoneNumber, passes_checkNonEmpty, passes_checkPassword]
  exact ⟨fun ⟨h₁, h₂, h₃, h₄, h₅, h₆⟩ => ⟨h₁, h₂, h₃, h₄, h₅, h₆⟩,
    fun ⟨h₁, h₂, h₃, h₄, h₅, h₆⟩ => ⟨h₁, h₂, h₃, h₄, h₅, h₆⟩⟩

/-- The change that leaves all attributes alone. -/
def UserChange.nothing : UserChange := ⟨none, none, none, none, none, none, none, none⟩

/-- What a change of a user may be.  An empty phone number stands for its removal. -/
structure UserChange.Valid (u : UserChange) : Prop where
  phoneNumber : ∀ number ∈ u.phoneNumber, number ≠ "" → IsPhoneNumber number
  email : ∀ email ∈ u.email, IsEmail email
  password : ∀ password ∈ u.password, IsPassword password
  customClaims : ∀ claims ∈ u.customClaims, AreClaims claims
  changes : u ≠ .nothing

/-- The claims of a change have a text when there are any. -/
theorem claims_of_mapM {given : Option Json.Members} {texts : Option String}
    (h : given.mapM claimsText = .ok texts) : texts = none ↔ given = none := by
  rw [claims_sent h, Option.map_eq_none_iff]

/-- No field has a value exactly in the change that changes nothing. -/
theorem UserChange.fields_eq_none_iff {u : UserChange} {claims : Option String}
    (hclaims : claims = none ↔ u.customClaims = none) :
    (∀ f ∈ u.fields claims, f.2 = none) ↔ u = .nothing := by
  obtain ⟨email, phoneNumber, displayName, photoUrl, password, emailVerified, disabled,
    customClaims⟩ := u
  have hset : ∀ field : Option String, toSet? field = none ↔ field = none ∨ field = some "" := by
    intro field
    cases field <;> simp [toSet?, Option.filter]
  have hremoved : textList? (removedAttributes ⟨email, phoneNumber, displayName, photoUrl, password,
      emailVerified, disabled, customClaims⟩) = none ↔
      displayName ≠ some "" ∧ photoUrl ≠ some "" := by
    simp [textList?, removedAttributes]
  have hphone : (if phoneNumber = some "" then some (Json.arr [.str "phone"]) else none) = none ↔
      phoneNumber ≠ some "" := by simp
  simp only [fields, nothing, List.forall_mem_cons, hset, hremoved, hphone, hclaims,
    Option.map_eq_none_iff, mk.injEq, List.not_mem_nil, false_implies, implies_true, and_true]
  constructor
  · rintro ⟨hname, hphoto, ⟨hname', hphoto'⟩, hnumber', hnumber, hemail, hrest⟩
    exact ⟨hemail, hnumber.resolve_right hnumber', hname.resolve_right hname',
      hphoto.resolve_right hphoto', hrest⟩
  · rintro ⟨rfl, rfl, rfl, rfl, hrest⟩
    simpa using hrest

/-- A change of a user is made exactly if it changes something and all of it is as it has to be. -/
theorem UserChange.passes_request {u : UserChange} : Passes u.request ↔ u.Valid := by
  have hphone : (∀ number ∈ toSet? u.phoneNumber, IsPhoneNumber number) ↔
      ∀ number ∈ u.phoneNumber, number ≠ "" → IsPhoneNumber number := by
    simp [toSet?, Option.filter_eq_some_iff, and_imp]
  have hbody : Passes (u.customClaims.mapM claimsText >>= fun claims =>
      if (Json.Members.ofPresent (u.fields claims)).isEmpty then .error .emptyUserChange
      else .ok (Json.Members.ofPresent (u.fields claims))) ↔
      (∀ claims ∈ u.customClaims, AreClaims claims) ∧ u ≠ .nothing := by
    simp only [passes_bind, passes_unless_empty, ← passes_claimsText, ← passes_mapM_option]
    constructor
    · rintro ⟨texts, htexts, hne⟩
      exact ⟨⟨texts, htexts⟩, fun hu => hne ((fields_eq_none_iff (claims_of_mapM htexts)).mpr hu)⟩
    · rintro ⟨⟨texts, htexts⟩, hne⟩
      exact ⟨texts, htexts, fun hu => hne ((fields_eq_none_iff (claims_of_mapM htexts)).mp hu)⟩
  have hrequest : u.request = ((toSet? u.phoneNumber).forM checkPhoneNumber >>= fun _ =>
      u.email.forM checkEmail >>= fun _ => u.password.forM checkPassword >>= fun _ =>
      u.customClaims.mapM claimsText >>= fun claims =>
      if (Json.Members.ofPresent (u.fields claims)).isEmpty then .error .emptyUserChange
      else .ok (Json.Members.ofPresent (u.fields claims))) := rfl
  rw [hrequest, passes_andThen, passes_andThen, passes_andThen, hbody]
  simp only [passes_forM, passes_checkPhoneNumber, passes_checkEmail, passes_checkPassword, hphone]
  exact ⟨fun ⟨h₁, h₂, h₃, h₄, h₅⟩ => ⟨h₁, h₂, h₃, h₄, h₅⟩,
    fun ⟨h₁, h₂, h₃, h₄, h₅⟩ => ⟨h₁, h₂, h₃, h₄, h₅⟩⟩

/-- What an imported user may be. -/
structure ImportedUser.Valid (u : ImportedUser) : Prop where
  uid : IsUid u.uid
  email : ∀ email ∈ u.email, IsEmail email
  phoneNumber : ∀ number ∈ u.phoneNumber, IsPhoneNumber number
  customClaims : ∀ claims ∈ u.customClaims, AreClaims claims

/-- A user is imported exactly if all that is said of it is as it has to be. -/
theorem ImportedUser.passes_request {u : ImportedUser} : Passes u.request ↔ u.Valid := by
  simp only [request, passes_andThen, passes_map, passes_forM, passes_mapM_option,
    passes_checkUid, passes_checkEmail, passes_checkPhoneNumber, passes_claimsText]
  exact ⟨fun ⟨h₁, h₂, h₃, h₄⟩ => ⟨h₁, h₂, h₃, h₄⟩, fun ⟨h₁, h₂, h₃, h₄⟩ => ⟨h₁, h₂, h₃, h₄⟩⟩

/-- What an import may be: 1 to 1000 users, and a hash algorithm if any of them has a hash. -/
structure ValidImport (users : List ImportedUser) (hash : Option HashConfig) : Prop where
  nonEmpty : users ≠ []
  bounded : users.length ≤ 1000
  algorithm : ∀ h ∈ hash, h.algorithm ≠ ""
  hashed : hash = none → ∀ u ∈ users, u.passwordHash = none
  valid : ∀ u ∈ users, u.Valid

/-- The account of the hashes names its algorithm, and may be left out if there are no hashes. -/
theorem passes_checkHash {users : List ImportedUser} {hash : Option HashConfig} :
    Passes (checkHash users hash) ↔ (∀ h ∈ hash, h.algorithm ≠ "") ∧
      (hash = none → ∀ u ∈ users, u.passwordHash = none) := by
  cases hash with
  | some h => simp [checkHash, passes_refuse]
  | none => simp [checkHash, passes_refuse]

/-- An import is made exactly if its number of users, its hashes and all its users are as they have
to be. -/
theorem passes_importRequest {users : List ImportedUser} {hash : Option HashConfig} :
    Passes (importRequest users hash) ↔ ValidImport users hash := by
  have hcount : ¬ (users.isEmpty ∨ maxImportedUsers < users.length) ↔
      users ≠ [] ∧ users.length ≤ 1000 := by
    rw [not_or, List.isEmpty_iff, Nat.not_lt]
    rfl
  refine passes_refuse.trans ?_
  rw [hcount, passes_andThen, passes_map, passes_checkHash, passes_mapM]
  simp only [ImportedUser.passes_request]
  exact ⟨fun ⟨⟨h₁, h₂⟩, ⟨h₃, h₄⟩, h₅⟩ => ⟨h₁, h₂, h₃, h₄, h₅⟩,
    fun ⟨h₁, h₂, h₃, h₄, h₅⟩ => ⟨⟨h₁, h₂⟩, ⟨h₃, h₄⟩, h₅⟩⟩

/-! ### Links and cookies -/

/-- What the settings of a link may be. -/
structure LinkSettings.Valid (s : LinkSettings) : Prop where
  url : Url.Locates s.url
  android : ∀ a ∈ s.android, a.packageName ≠ ""

/-- Settings of a link pass exactly if their URL and their app are as they have to be. -/
theorem LinkSettings.passes_check {s : LinkSettings} : Passes s.check ↔ s.Valid := by
  refine passes_refuse.trans ?_
  simp only [passes_forM, passes_checkNonEmpty, Bool.not_eq_true', Bool.not_eq_false,
    Url.namesHost_iff]
  exact ⟨fun ⟨h₁, h₂⟩ => ⟨h₁, h₂⟩, fun ⟨h₁, h₂⟩ => ⟨h₁, h₂⟩⟩

/-- A link is asked for exactly if the address and the settings are as they have to be. -/
theorem passes_linkRequest {kind : LinkKind} {email : String} {settings : Option LinkSettings} :
    Passes (linkRequest kind email settings) ↔ IsEmail email ∧ ∀ s ∈ settings, s.Valid := by
  simp only [linkRequest, passes_andThen, passes_checkEmail, passes_forM,
    LinkSettings.passes_check, passes_pure, and_true]

/-- A session cookie lives for five minutes to fourteen days. -/
def IsCookieSpan (span : Span) : Prop :=
  5 * 60 * 1000000000 ≤ span.nanoseconds ∧ span.nanoseconds ≤ 14 * 24 * 60 * 60 * 1000000000

/-- The check of a cookie's span lets exactly the spans of cookies through. -/
theorem passes_checkCookieSpan {span : Span} :
    Passes (checkCookieSpan span) ↔ IsCookieSpan span := by
  rw [checkCookieSpan, passes_refuse, and_iff_left (passes_ok ()), not_or, Nat.not_lt, Nat.not_lt]
  rfl

end AccountWire.User

/-! ### What provider configurations are described with -/

namespace AccountWire.Provider

open Admin (Passes ProviderKind passes_andThen passes_checkNonEmpty passes_forM passes_ok
  passes_pure passes_refuse passes_unless_empty)

/-- The id of a configuration: the mark of its kind and more, with none of the four characters that
have a meaning in URLs. -/
structure IsConfigId (kind : ProviderKind) (id : String) : Prop where
  marked : kind.mark.toList <+: id.toList
  longer : id ≠ kind.mark
  safe : ∀ ch ∈ id.toList, ch ≠ '/' ∧ ch ≠ '?' ∧ ch ≠ '#' ∧ ch ≠ '%'

/-- A list of certificates that may be stored. -/
def AreCertificates (certificates : List String) : Prop :=
  certificates ≠ [] ∧ "" ∉ certificates

/-- The check of a configuration's id lets exactly the ids of its kind through. -/
theorem passes_checkId (kind : ProviderKind) {id : String} :
    Passes (checkId kind.mark id) ↔ IsConfigId kind id := by
  have hmarked : ¬ (!kind.mark.toList.isPrefixOf id.toList ∨
      id.toList.length = kind.mark.toList.length) ↔
      kind.mark.toList <+: id.toList ∧ id ≠ kind.mark := by
    rw [not_or, Bool.not_eq_true', Bool.not_eq_false, List.isPrefixOf_iff_prefix]
    refine and_congr_right fun hmark => not_congr ⟨fun hlength => ?_, fun h => by rw [h]⟩
    exact String.toList_inj.mp (hmark.eq_of_length hlength.symm).symm
  have hsafe : ¬ id.toList.any isUnsafeInId = true ↔
      ∀ ch ∈ id.toList, ch ≠ '/' ∧ ch ≠ '?' ∧ ch ≠ '#' ∧ ch ≠ '%' := by
    simp [isUnsafeInId, and_assoc]
  rw [checkId, passes_refuse, passes_refuse, hmarked, hsafe, and_iff_left (passes_ok ())]
  constructor
  · rintro ⟨⟨hmark, hlonger⟩, hchars⟩
    exact ⟨hmark, hlonger, hchars⟩
  · rintro ⟨hmark, hlonger, hchars⟩
    exact ⟨⟨hmark, hlonger⟩, hchars⟩

/-- The check of a URL lets exactly the absolute URLs with a host through. -/
theorem passes_checkUrl {field value : String} :
    Passes (checkUrl field value) ↔ Url.Locates value := by
  rw [checkUrl, ← Url.namesHost_iff]
  cases Url.namesHost value <;> simp

/-- The check of certificates lets lists through that are not empty, and whose certificates are
not. -/
theorem passes_checkCertificates {certificates : List String} :
    Passes (checkCertificates certificates) ↔ AreCertificates certificates := by
  rw [checkCertificates, passes_refuse, and_iff_left (passes_ok ()), not_or,
    List.contains_iff_mem]
  rfl

/-- What a new OpenID Connect provider may be. -/
structure Oidc.New.Valid (p : Oidc.New) : Prop where
  id : IsConfigId .oidc p.id
  clientId : p.clientId ≠ ""
  issuer : Url.Locates p.issuer

/-- A provider is created exactly if all that is said of it is as it has to be. -/
theorem Oidc.New.passes_request {p : Oidc.New} : Passes p.request ↔ p.Valid := by
  simp only [request, passes_andThen, passes_checkNonEmpty, passes_checkUrl]
  rw [and_iff_left (passes_pure _)]
  exact ⟨fun ⟨h₁, h₂, h₃⟩ => ⟨(passes_checkId .oidc).mp h₁, h₂, h₃⟩,
    fun ⟨h₁, h₂, h₃⟩ => ⟨(passes_checkId .oidc).mpr h₁, h₂, h₃⟩⟩

/-- The change that leaves all fields alone. -/
def Oidc.Change.nothing : Oidc.Change := ⟨none, none, none, none⟩

/-- What a change of an OpenID Connect provider may be. -/
structure Oidc.Change.Valid (p : Oidc.Change) : Prop where
  clientId : ∀ id ∈ p.clientId, id ≠ ""
  issuer : ∀ url ∈ p.issuer, Url.Locates url
  changes : p ≠ .nothing

/-- No field has a value exactly in the change that changes nothing. -/
theorem Oidc.Change.fields_eq_none_iff {p : Oidc.Change} :
    (∀ f ∈ p.fields, f.2 = none) ↔ p = .nothing := by
  obtain ⟨displayName, enabled, clientId, issuer⟩ := p
  simp [fields, nothing]

/-- A change is made exactly if it changes something and all of it is as it has to be. -/
theorem Oidc.Change.passes_request {p : Oidc.Change} : Passes p.request ↔ p.Valid := by
  have hrequest : p.request = (p.clientId.forM (Admin.checkNonEmpty "ClientID") >>= fun _ =>
      p.issuer.forM (checkUrl "Issuer") >>= fun _ =>
      if (Json.Members.ofPresent p.fields).isEmpty then .error .emptyProviderChange
      else .ok (Json.Members.ofPresent p.fields)) := rfl
  rw [hrequest, passes_andThen, passes_andThen, passes_unless_empty, fields_eq_none_iff]
  simp only [passes_forM, passes_checkNonEmpty, passes_checkUrl]
  exact ⟨fun ⟨h₁, h₂, h₃⟩ => ⟨h₁, h₂, h₃⟩, fun ⟨h₁, h₂, h₃⟩ => ⟨h₁, h₂, h₃⟩⟩

/-- What a new SAML provider may be. -/
structure Saml.New.Valid (p : Saml.New) : Prop where
  id : IsConfigId .saml p.id
  idpEntityId : p.idpEntityId ≠ ""
  ssoUrl : Url.Locates p.ssoUrl
  certificates : AreCertificates p.x509Certificates
  rpEntityId : p.rpEntityId ≠ ""
  callbackUrl : Url.Locates p.callbackUrl

/-- A provider is created exactly if all that is said of it is as it has to be. -/
theorem Saml.New.passes_request {p : Saml.New} : Passes p.request ↔ p.Valid := by
  simp only [request, passes_andThen, passes_checkNonEmpty, passes_checkUrl,
    passes_checkCertificates]
  rw [and_iff_left (passes_pure _)]
  exact ⟨fun ⟨h₁, h₂, h₃, h₄, h₅, h₆⟩ => ⟨(passes_checkId .saml).mp h₁, h₂, h₃, h₄, h₅, h₆⟩,
    fun ⟨h₁, h₂, h₃, h₄, h₅, h₆⟩ => ⟨(passes_checkId .saml).mpr h₁, h₂, h₃, h₄, h₅, h₆⟩⟩

/-- The change that leaves all fields alone. -/
def Saml.Change.nothing : Saml.Change := ⟨none, none, none, none, none, none, none, none⟩

/-- What a change of a SAML provider may be. -/
structure Saml.Change.Valid (p : Saml.Change) : Prop where
  idpEntityId : ∀ id ∈ p.idpEntityId, id ≠ ""
  ssoUrl : ∀ url ∈ p.ssoUrl, Url.Locates url
  certificates : ∀ certificates ∈ p.x509Certificates, AreCertificates certificates
  rpEntityId : ∀ id ∈ p.rpEntityId, id ≠ ""
  callbackUrl : ∀ url ∈ p.callbackUrl, Url.Locates url
  changes : p ≠ .nothing

/-- A part is left out exactly when none of its fields has a value. -/
theorem presentObject?_eq_none {fields : List (String × Option Json)} :
    presentObject? fields = none ↔ ∀ f ∈ fields, f.2 = none := by
  rw [← Json.Members.ofPresent_eq_nil, presentObject?]
  cases Json.Members.ofPresent fields <;> simp

/-- No field of either part has a value exactly in the change that changes nothing. -/
theorem Saml.Change.fields_eq_none_iff {p : Saml.Change} :
    (∀ f ∈ p.fields, f.2 = none) ↔ p = .nothing := by
  obtain ⟨displayName, enabled, idpEntityId, ssoUrl, requestSigningEnabled, x509Certificates,
    rpEntityId, callbackUrl⟩ := p
  simp only [fields, nothing, List.forall_mem_cons, presentObject?_eq_none]
  simp [idpFields, spFields, and_assoc]

/-- A change is made exactly if it changes something and all of it is as it has to be. -/
theorem Saml.Change.passes_request {p : Saml.Change} : Passes p.request ↔ p.Valid := by
  have hrequest : p.request = (p.idpEntityId.forM (Admin.checkNonEmpty "IDPEntityID") >>= fun _ =>
      p.ssoUrl.forM (checkUrl "SSOURL") >>= fun _ =>
      p.x509Certificates.forM checkCertificates >>= fun _ =>
      p.rpEntityId.forM (Admin.checkNonEmpty "RPEntityID") >>= fun _ =>
      p.callbackUrl.forM (checkUrl "CallbackURL") >>= fun _ =>
      if (Json.Members.ofPresent p.fields).isEmpty then .error .emptyProviderChange
      else .ok (Json.Members.ofPresent p.fields)) := rfl
  rw [hrequest, passes_andThen, passes_andThen, passes_andThen, passes_andThen, passes_andThen,
    passes_unless_empty, fields_eq_none_iff]
  simp only [passes_forM, passes_checkNonEmpty, passes_checkUrl, passes_checkCertificates]
  exact ⟨fun ⟨h₁, h₂, h₃, h₄, h₅, h₆⟩ => ⟨h₁, h₂, h₃, h₄, h₅, h₆⟩,
    fun ⟨h₁, h₂, h₃, h₄, h₅, h₆⟩ => ⟨h₁, h₂, h₃, h₄, h₅, h₆⟩⟩

end AccountWire.Provider

/-! ### What operations accept -/

namespace AccountWire.Admin.Operation

/-- What the arguments of an operation have to be. -/
def Accepts : Operation → Prop
  | .byUid uid => User.IsUid uid
  | .byEmail email => User.IsEmail email
  | .byPhoneNumber number => User.IsPhoneNumber number
  | .createUser user => user.Valid
  | .updateUser uid change => User.IsUid uid ∧ change.Valid
  | .revokeRefreshTokens _ uid => User.IsUid uid
  | .setCustomClaims uid claims => User.IsUid uid ∧ ∀ c ∈ claims, User.AreClaims c
  | .deleteUser uid => User.IsUid uid
  | .importUsers users hash => User.ValidImport users hash
  | .sessionCookie idToken span => idToken ≠ "" ∧ User.IsCookieSpan span
  | .emailVerificationLink email settings | .passwordResetLink email settings =>
    User.IsEmail email ∧ ∀ s ∈ settings, s.Valid
  | .emailSignInLink email settings => User.IsEmail email ∧ settings.Valid
  | .getOidc id | .deleteOidc id => Provider.IsConfigId .oidc id
  | .createOidc provider => provider.Valid
  | .updateOidc id change => Provider.IsConfigId .oidc id ∧ change.Valid
  | .getSaml id | .deleteSaml id => Provider.IsConfigId .saml id
  | .createSaml provider => provider.Valid
  | .updateSaml id change => Provider.IsConfigId .saml id ∧ change.Valid
  | .userPage _ | .oidcPage _ | .samlPage _ => True

end AccountWire.Admin.Operation
