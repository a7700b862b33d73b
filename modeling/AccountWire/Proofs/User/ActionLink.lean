import AccountWire.Proofs.Admin.Outcome
import AccountWire.Proofs.Json.Body

/-!
# What a request for a link says

Three operations ask for a link in an email (`LinkCall`).  Their bodies hold the same three members,
and the settings of the link beside them, those of an app on Android among these (`LinkCall.IsBody`).
No name is used twice, and what is absent leaves no trace, so the octets of a body determine the
operation, the address and the settings (`link_requests_are_unambiguous`); the URL is among them as it
was given.
-/

namespace AccountWire.User

open Admin (Client ClientOf Error Exchange of_bind_eq_ok)
open Http (Transport)
open Json (Rereads)
open Json.Members (get?)

/-- A call for a link.  A link that signs in always has settings. -/
inductive LinkCall where
  | emailVerification (email : String) (settings : Option LinkSettings)
  | passwordReset (email : String) (settings : Option LinkSettings)
  | emailSignIn (email : String) (settings : LinkSettings)
deriving DecidableEq, Repr

namespace LinkCall

/-- What the link is for. -/
def kind : LinkCall → LinkKind
  | .emailVerification _ _ => .emailVerification
  | .passwordReset _ _ => .passwordReset
  | .emailSignIn _ _ => .emailSignIn

/-- The address to which the link is sent. -/
def email : LinkCall → String
  | .emailVerification email _ | .passwordReset email _ | .emailSignIn email _ => email

/-- The settings of the link, if there are any. -/
def settings : LinkCall → Option LinkSettings
  | .emailVerification _ settings | .passwordReset _ settings => settings
  | .emailSignIn _ settings => some settings

/-- The word by which a request tells what its link is for. -/
def word : LinkCall → String
  | .emailVerification _ _ => "VERIFY_EMAIL"
  | .passwordReset _ _ => "PASSWORD_RESET"
  | .emailSignIn _ _ => "EMAIL_SIGNIN"

/-- The operation that a call is for. -/
def plan (c : Client) : LinkCall → Except Error (Exchange String)
  | .emailVerification email settings => emailVerificationLink c email settings
  | .passwordReset email settings => passwordResetLink c email settings
  | .emailSignIn email settings => emailSignInLink c email settings

/-- What a call for a link may be. -/
def Valid (l : LinkCall) : Prop := IsEmail l.email ∧ ∀ s ∈ l.settings, s.Valid

/-- The members of a call's body: three that are always there, and those of the settings. -/
structure IsBody (l : LinkCall) (ms : Json.Members) : Prop where
  requestType : get? "requestType" ms = some (.str l.word)
  email : get? "email" ms = some (.str l.email)
  returnOobLink : get? "returnOobLink" ms = some (.bool true)
  /-- The URL is not changed in any way. -/
  continueUrl : get? "continueUrl" ms = l.settings.map fun s => .str s.url
  canHandleCodeInApp : get? "canHandleCodeInApp" ms = l.settings.map fun s => .bool s.handleCodeInApp
  dynamicLinkDomain : get? "dynamicLinkDomain" ms =
    l.settings.bind fun s => s.dynamicLinkDomain.map .str
  iOSBundleId : get? "iOSBundleId" ms = l.settings.bind fun s => s.iosBundleId.map .str
  androidPackageName : get? "androidPackageName" ms =
    (l.settings.bind (·.android)).map fun a => .str a.packageName
  androidInstallApp : get? "androidInstallApp" ms =
    (l.settings.bind (·.android)).map fun a => .bool a.installApp
  androidMinimumVersion : get? "androidMinimumVersion" ms =
    (l.settings.bind (·.android)).bind fun a => a.minimumVersion.map .str
  ordered : ms.Pairwise (·.1 < ·.1)
  bare : l.settings = none → ∀ m ∈ ms, m.1 ∈ ["requestType", "email", "returnOobLink"]
  others : ∀ m ∈ ms, m.1 ∈ ["requestType", "email", "returnOobLink", "continueUrl",
    "canHandleCodeInApp", "dynamicLinkDomain", "iOSBundleId", "androidPackageName",
    "androidInstallApp", "androidMinimumVersion"]

theorem plan_eq (c : Client) (l : LinkCall) : l.plan c = link c l.kind l.email l.settings := by
  cases l <;> rfl

/-- The word of a call is the one that its link is asked for with. -/
theorem word_eq (l : LinkCall) : l.word = l.kind.requestType := by
  cases l <;> rfl

/-- A call is known by what its link is for, its address and its settings. -/
theorem eq_iff {l l' : LinkCall} :
    l = l' ↔ l.kind = l'.kind ∧ l.email = l'.email ∧ l.settings = l'.settings := by
  cases l <;> cases l' <;> simp [kind, email, settings]

end LinkCall

/-! ### Fields -/

/-- The fields that tell of an app on Android. -/
def androidFields (android : Option AndroidSettings) : List (String × Option Json) :=
  [("androidPackageName", android.map fun a => .str a.packageName),
    ("androidInstallApp", android.map fun a => .bool a.installApp),
    ("androidMinimumVersion", android.bind fun a => a.minimumVersion.map .str)]

/-- The fields that tell of settings.  They stand there also when nothing is told, so that all calls
have fields of the same names. -/
def settingsFields (settings : Option LinkSettings) : List (String × Option Json) :=
  [("continueUrl", settings.map fun s => .str s.url),
    ("canHandleCodeInApp", settings.map fun s => .bool s.handleCodeInApp),
    ("dynamicLinkDomain", settings.bind fun s => s.dynamicLinkDomain.map .str),
    ("iOSBundleId", settings.bind fun s => s.iosBundleId.map .str)] ++
  androidFields (settings.bind (·.android))

/-- The fields of an Android app determine it, and whether there is one. -/
theorem androidFields_inj {a a' : Option AndroidSettings} :
    androidFields a = androidFields a' ↔ a = a' := by
  cases a with
  | none => cases a' <;> simp [androidFields]
  | some a =>
      cases a' with
      | none => simp [androidFields]
      | some a' =>
          cases a
          cases a'
          simp [androidFields, Json.map_str_inj, and_comm]

/-- Settings are there when their URL is, and an app when its name is. -/
theorem settingsFields_inj {s s' : Option LinkSettings} :
    settingsFields s = settingsFields s' ↔ s = s' := by
  cases s with
  | none => cases s' <;> simp [settingsFields]
  | some s =>
      cases s' with
      | none => simp [settingsFields]
      | some s' =>
          cases s
          cases s'
          simp [settingsFields, Json.map_str_inj, androidFields_inj]

/-- Links of different kinds are asked for with different words. -/
theorem LinkKind.requestType_inj {k k' : LinkKind} : k.requestType = k'.requestType ↔ k = k' := by
  cases k <;> cases k' <;> decide

namespace LinkCall

variable {c : Client} {l l' : LinkCall}

/-- The fields that every call has. -/
def fixedFields (l : LinkCall) : List (String × Option Json) :=
  [("requestType", some (.str l.kind.requestType)), ("email", some (.str l.email)),
    ("returnOobLink", some (.bool true))]

/-- The fields of a call's body. -/
def fields (l : LinkCall) : List (String × Option Json) := l.fixedFields ++ settingsFields l.settings

/-- No field of a call comes twice. -/
theorem nodup_fields (l : LinkCall) : (l.fields.map (·.1)).Nodup := by
  show ["requestType", "email", "returnOobLink", "continueUrl", "canHandleCodeInApp",
    "dynamicLinkDomain", "iOSBundleId", "androidPackageName", "androidInstallApp",
    "androidMinimumVersion"].Nodup
  decide

/-- All fields of a call are read back. -/
theorem rereads_fields (l : LinkCall) : ∀ f ∈ l.fields, ∀ v ∈ f.2, Rereads 0 v := by
  simp only [fields, fixedFields, settingsFields, androidFields, List.cons_append, List.nil_append,
    List.forall_mem_cons]
  exact ⟨.of_map .str (some _), .of_map .str (some _), .of_map .bool (some true),
    .of_map (fun _ => .str _) _, .of_map (fun _ => .bool _) _, .of_bind fun _ => .of_map .str _,
    .of_bind fun _ => .of_map .str _, .of_map (fun _ => .str _) _, .of_map (fun _ => .bool _) _,
    .of_bind fun _ => .of_map .str _, by simp⟩

/-- **The fields of a call determine it.** -/
theorem fields_inj : l.fields = l'.fields ↔ l = l' := by
  simp only [fields, fixedFields, List.cons_append, List.nil_append, List.cons.injEq, Prod.mk.injEq,
    Option.some.injEq, Json.str.injEq, true_and, LinkKind.requestType_inj, settingsFields_inj, eq_iff]

/-- Fields without a value make no member. -/
theorem ofPresent_fields (l : LinkCall) : Json.Members.ofPresent l.fields =
    Json.Members.ofPresent (l.fixedFields ++ l.settings.elim [] LinkSettings.fields) := by
  rw [fields]
  cases l.settings <;> rfl

/-- **The members of a call** tell what its link is for, its address and its settings. -/
theorem isBody_fields (l : LinkCall) : l.IsBody (Json.Members.ofPresent l.fields) := by
  have hget := Json.Members.get?_of_mem l.nodup_fields
  simp only [fields, fixedFields, settingsFields, androidFields, List.cons_append, List.nil_append,
    List.forall_mem_cons] at hget
  obtain ⟨htype, hemail, hreturn, hurl, hhandle, hdomain, hbundle, hpackage, hinstall, hversion, -⟩ :=
    hget
  have hword : get? "requestType" (Json.Members.ofPresent l.fields) = some (.str l.word) := by
    rw [word_eq]
    exact htype
  refine ⟨hword, hemail, hreturn, hurl, hhandle, hdomain, hbundle, hpackage, hinstall, hversion,
    Json.Members.pairwise_ofPresent _, ?_, fun _ hm => Json.Members.name_mem_of_mem_ofPresent hm⟩
  intro hnone m hm
  rw [ofPresent_fields, hnone] at hm
  exact Json.Members.name_mem_of_mem_ofPresent hm

/-! ### Requests -/

/-- The members of an accepted call. -/
theorem linkRequest_ok {ms : Json.Members}
    (h : linkRequest l.kind l.email l.settings = .ok ms) : ms = Json.Members.ofPresent l.fields := by
  obtain ⟨-, -, h⟩ := of_bind_eq_ok h
  obtain ⟨-, -, h⟩ := of_bind_eq_ok h
  rw [ofPresent_fields]
  exact (Except.ok.inj h).symm

/-- A call is refused exactly if it is not as it has to be. -/
theorem refused_iff : (∃ reason, l.plan c = .error (.invalidArgument reason)) ↔ ¬ l.Valid := by
  rw [plan_eq, Valid, ← passes_linkRequest, Admin.not_passes_iff]
  exact exists_congr fun _ => Admin.accept_plan_refused_iff

/-- There is a request exactly if the call is as it has to be and its address is a URL with a
host. -/
theorem exists_plan_iff : (∃ x, l.plan c = .ok x) ↔
    l.Valid ∧ Url.Locates (c.userUrl "/accounts:sendOobCode") := by
  rw [plan_eq, Valid, ← passes_linkRequest]
  exact Admin.exists_accept_plan_iff

/-- The body of a request is made of the fields of its call. -/
theorem of_plan_eq_ok {x : Exchange String} (h : l.plan c = .ok x) :
    x.request.body = (Json.obj (Json.Members.ofPresent l.fields)).bytes := by
  rw [plan_eq] at h
  obtain ⟨ms, hms, hbody⟩ := Admin.of_accept_plan_eq_ok h
  obtain rfl := linkRequest_ok hms
  exact hbody

end LinkCall

/-- **Requests for links are unambiguous.**  A call is sent exactly when its address and its settings
are as they have to be and there is a place to send it to, which a client without an endpoint of its
own always has; it is refused, and nothing is sent, exactly when they are not.  The body of what is
sent holds the three members that every call has, and those of the settings if there are any.  It is
read back, and another call that is sent has the same octets only if it is the same operation with the
same address and the same settings. -/
theorem link_requests_are_unambiguous {σ : Type} (c : Client) (send : Transport σ) (s : σ)
    (l : LinkCall) :
    ((Admin.run (l.plan c) send.recorded (s, [])).2.2 ≠ [] ↔
      l.Valid ∧ Url.Locates (c.userUrl "/accounts:sendOobCode")) ∧
    (∀ projectId, ClientOf ⟨projectId, none⟩ c →
      Url.Locates (c.userUrl "/accounts:sendOobCode")) ∧
    ((∃ reason, Admin.run (l.plan c) send.recorded (s, []) =
      (.error (.invalidArgument reason), s, [])) ↔ ¬ l.Valid) ∧
    ∀ x, l.plan c = .ok x →
      (∃ ms, Json.ofBytes? x.request.body = some (.obj ms) ∧ l.IsBody ms) ∧
      ∀ c' l' x', l'.plan c' = .ok x' → (x.request.body = x'.request.body ↔ l = l') := by
  refine ⟨?_, fun _ hc => hc.locates_default _, ?_, ?_⟩
  · rw [Admin.sent_iff, LinkCall.exists_plan_iff]
  · simp only [Admin.refused_unsent_iff, LinkCall.refused_iff]
  · intro x hx
    have hbody := LinkCall.of_plan_eq_ok hx
    refine ⟨⟨_, ?_, l.isBody_fields⟩, ?_⟩
    · rw [hbody]
      exact Json.ofBytes?_bytes_ofPresent l.rereads_fields (by decide)
    · intro c' l' x' hx'
      rw [hbody, LinkCall.of_plan_eq_ok hx', ← LinkCall.fields_inj]
      exact Json.bytes_ofPresent_inj rfl l.nodup_fields l.rereads_fields l'.rereads_fields (by decide)

/-- A link that signs in, one with the same settings that resets the password, and one whose URL is
another spelling. -/
theorem spelling_of_url_is_told :
    let c : Client := ⟨"p", none, "http://h", "http://h"⟩
    let settings : LinkSettings :=
      ⟨"HTTP://H", false, some "", none, some ⟨"a\"b", some "", true⟩⟩
    let l : LinkCall := .emailSignIn "u@h" settings
    let respelt : LinkCall := .emailSignIn "u@h" { settings with url := "http://h/" }
    ∃ x x' x'', l.plan c = .ok x ∧ (LinkCall.passwordReset "u@h" (some settings)).plan c = .ok x' ∧
      respelt.plan c = .ok x'' ∧
      (∃ ms, Json.ofBytes? x.request.body = some (.obj ms) ∧ l.IsBody ms) ∧
      x.request.body ≠ x'.request.body ∧ x.request.body ≠ x''.request.body := by
  intro c settings l respelt
  obtain ⟨x, hx⟩ := Admin.exists_eq_ok (show (l.plan c).toOption.isSome = true by decide +kernel)
  obtain ⟨x', hx'⟩ := Admin.exists_eq_ok (show
    ((LinkCall.passwordReset "u@h" (some settings)).plan c).toOption.isSome = true by decide +kernel)
  obtain ⟨x'', hx''⟩ := Admin.exists_eq_ok
    (show (respelt.plan c).toOption.isSome = true by decide +kernel)
  let noAnswer : Transport Unit := fun _ s => (none, s)
  obtain ⟨hbody, hinj⟩ := (link_requests_are_unambiguous c noAnswer () l).2.2.2 x hx
  refine ⟨x, x', x'', hx, hx', hx'', hbody, ?_, ?_⟩
  · exact fun hsame => absurd ((hinj c _ x' hx').mp hsame) (by decide)
  · exact fun hsame => absurd ((hinj c _ x'' hx'').mp hsame) (by decide)

end AccountWire.User
