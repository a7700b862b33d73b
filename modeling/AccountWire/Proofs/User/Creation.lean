import AccountWire.Proofs.Admin.Outcome
import AccountWire.Proofs.Json.Body

/-!
# Which new users are sent

A new user is refused for the first of its flaws: an attribute that is given and is not as it has to
be (`NewUser.flaws`).  Without a flaw it is sent, and the body has one member for each attribute that
is given and no others (`NewUser.IsBody`): an attribute that is given as false is not one that is left
out.  The octets of the body therefore determine the user (`new_user_is_sent_or_refused`).
-/

namespace AccountWire.User

open Admin (Client ClientOf Flaw IsFirst Rejection andThen_eq_error_iff forM_eq_error_iff
  forall_not_flaw_iff isFirst_cons not_isFirst_nil of_bind_eq_ok)
open Http (Transport)
open Json (Rereads)
open Json.Members (get?)

/-- What may be wrong with a new user, in the order in which it is told. -/
def NewUser.flaws (u : NewUser) : List (Rejection → Prop) :=
  [Flaw u.uid IsUid fun _ => .badUid,
    Flaw u.email IsEmail .malformedEmail,
    Flaw u.phoneNumber IsPhoneNumber fun _ => .badPhoneNumber,
    Flaw u.displayName (· ≠ "") fun _ => .emptyField "display name",
    Flaw u.photoUrl (· ≠ "") fun _ => .emptyField "photo url",
    Flaw u.password IsPassword fun _ => .shortPassword]

/-- The members of a new user's body: one for each attribute that is given. -/
structure NewUser.IsBody (u : NewUser) (ms : Json.Members) : Prop where
  localId : get? "localId" ms = u.uid.map .str
  email : get? "email" ms = u.email.map .str
  phoneNumber : get? "phoneNumber" ms = u.phoneNumber.map .str
  displayName : get? "displayName" ms = u.displayName.map .str
  photoUrl : get? "photoUrl" ms = u.photoUrl.map .str
  password : get? "password" ms = u.password.map .str
  emailVerified : get? "emailVerified" ms = u.emailVerified.map .bool
  disabled : get? "disabled" ms = u.disabled.map .bool
  ordered : ms.Pairwise (·.1 < ·.1)
  others : ∀ m ∈ ms, m.1 ∈ ["localId", "email", "phoneNumber", "displayName", "photoUrl", "password",
    "emailVerified", "disabled"]

namespace NewUser

variable {u u' : NewUser} {ms : Json.Members} {reason : Rejection}

/-! ### Refusals -/

/-- **The checks of a new user** are made in the order of its flaws. -/
theorem request_eq_error_iff : u.request = .error reason ↔ IsFirst u.flaws reason := by
  simp only [request, check, bind_assoc]
  refine andThen_eq_error_iff (forM_eq_error_iff checkUid_eq_error_iff) ?_
  refine andThen_eq_error_iff (forM_eq_error_iff checkEmail_eq_error_iff) ?_
  refine andThen_eq_error_iff (forM_eq_error_iff checkPhoneNumber_eq_error_iff) ?_
  refine andThen_eq_error_iff (forM_eq_error_iff Admin.checkNonEmpty_eq_error_iff) ?_
  refine andThen_eq_error_iff (forM_eq_error_iff Admin.checkNonEmpty_eq_error_iff) ?_
  refine andThen_eq_error_iff (forM_eq_error_iff checkPassword_eq_error_iff) ?_
  -- When all checks have passed, nothing is left that could fail.
  exact iff_of_false (fun h => by cases h) not_isFirst_nil

/-! ### Bodies -/

/-- The fields of a new user's body. -/
def fields (u : NewUser) : List (String × Option Json) :=
  [("localId", u.uid.map .str), ("email", u.email.map .str),
    ("phoneNumber", u.phoneNumber.map .str), ("displayName", u.displayName.map .str),
    ("photoUrl", u.photoUrl.map .str), ("password", u.password.map .str),
    ("emailVerified", u.emailVerified.map .bool), ("disabled", u.disabled.map .bool)]

/-- No field of a new user comes twice. -/
theorem nodup_fields (u : NewUser) : (u.fields.map (·.1)).Nodup := by
  show ["localId", "email", "phoneNumber", "displayName", "photoUrl", "password", "emailVerified",
    "disabled"].Nodup
  decide

/-- All fields of a new user are read back. -/
theorem rereads_fields (u : NewUser) : ∀ f ∈ u.fields, ∀ v ∈ f.2, Rereads 0 v := by
  simp only [fields, List.forall_mem_cons]
  exact ⟨.of_map .str _, .of_map .str _, .of_map .str _, .of_map .str _, .of_map .str _,
    .of_map .str _, .of_map .bool _, .of_map .bool _, by simp⟩

/-- **The members of a new user** tell each attribute that is given. -/
theorem isBody_fields (u : NewUser) : u.IsBody (Json.Members.ofPresent u.fields) := by
  have hget := Json.Members.get?_of_mem u.nodup_fields
  simp only [fields, List.forall_mem_cons] at hget
  obtain ⟨huid, hemail, hphone, hname, hphoto, hpassword, hverified, hdisabled, -⟩ := hget
  exact ⟨huid, hemail, hphone, hname, hphoto, hpassword, hverified, hdisabled,
    Json.Members.pairwise_ofPresent _, fun _ hm => Json.Members.name_mem_of_mem_ofPresent hm⟩

/-- The fields of a new user determine it. -/
theorem fields_inj : u.fields = u'.fields ↔ u = u' := by
  cases u
  cases u'
  simp only [fields, List.cons.injEq, Prod.mk.injEq, mk.injEq, Json.map_str_inj, Json.map_bool_inj,
    true_and, and_true]

/-- The body of an accepted creation is made of the fields of the user. -/
theorem request_ok (h : u.request = .ok ms) : ms = Json.Members.ofPresent u.fields := by
  obtain ⟨-, -, h⟩ := of_bind_eq_ok h
  exact (Except.ok.inj h).symm

end NewUser

/-! ### What is sent -/

/-- **A new user is sent as it is given, or refused.**  Its body is made exactly when each attribute
that is given is as it has to be; otherwise it is refused for its first flaw, and nothing is sent.  A
request needs a place to go to besides, which a client without an endpoint of its own always has.  What
is sent is one member for each attribute that is given, it is read back, and another new user that is
accepted has the same octets only if it is the same user. -/
theorem new_user_is_sent_or_refused {σ : Type} (c : Client) (send : Transport σ) (s : σ)
    (u : NewUser) :
    ((∃ ms, u.request = .ok ms) ↔ u.Valid) ∧
    (∀ reason, u.request = .error reason ↔ IsFirst u.flaws reason) ∧
    (∀ reason, IsFirst u.flaws reason ↔ Admin.run (create c u) send.recorded (s, []) =
      (.error (.invalidArgument reason), s, [])) ∧
    ((Admin.run (create c u) send.recorded (s, [])).2.2 ≠ [] ↔
      u.Valid ∧ Url.Locates (c.userUrl "/accounts")) ∧
    (∀ projectId, ClientOf ⟨projectId, none⟩ c → Url.Locates (c.userUrl "/accounts")) ∧
    ∀ ms, u.request = .ok ms →
      (∀ x, create c u = .ok x → x.request.body = (Json.obj ms).bytes) ∧
      Json.ofBytes? (Json.obj ms).bytes = some (.obj ms) ∧ u.IsBody ms ∧
      ∀ u' ms', u'.request = .ok ms' →
        ((Json.obj ms).bytes = (Json.obj ms').bytes ↔ u = u') := by
  have hrefused : ∀ reason, create c u = .error (.invalidArgument reason) ↔
      u.request = .error reason := fun _ => Admin.accept_plan_refused_iff
  have hplanned : (∃ x, create c u = .ok x) ↔
      Admin.Passes u.request ∧ Url.Locates (c.userUrl "/accounts") := Admin.exists_accept_plan_iff
  refine ⟨NewUser.passes_request, fun _ => NewUser.request_eq_error_iff, ?_, ?_,
    fun _ hc => hc.locates_default _, ?_⟩
  · intro reason
    rw [Admin.refused_unsent_iff, hrefused, NewUser.request_eq_error_iff]
  · rw [Admin.sent_iff, hplanned, NewUser.passes_request]
  · intro ms hms
    obtain rfl := NewUser.request_ok hms
    refine ⟨?_, ?_, u.isBody_fields, ?_⟩
    · intro x hx
      obtain ⟨ms', hms', hbody⟩ := Admin.of_accept_plan_eq_ok hx
      rw [hbody, NewUser.request_ok hms']
      rfl
    · exact Json.ofBytes?_bytes_ofPresent u.rereads_fields (by decide)
    · intro u' ms' hms'
      rw [NewUser.request_ok hms', ← NewUser.fields_inj]
      exact Json.bytes_ofPresent_inj rfl u.nodup_fields u.rereads_fields u'.rereads_fields (by decide)

/-- An id of 128 letters and a password of six, all of two octets, are accepted; a password of five
such letters is a flaw, but an empty name is told before it.  An attribute that is false is sent. -/
theorem letters_of_two_octets_sent :
    let c : Client := ⟨"p", none, "http://h", "http://h"⟩
    let u : NewUser := ⟨some (String.ofList (List.replicate 128 'ß')), some "ß@h", some "+x1", none,
      none, some "пароль", none, some false⟩
    let flawed := { u with displayName := some "", photoUrl := some "", password := some "парол" }
    let noAnswer : Transport Unit := fun _ s => (none, s)
    ∃ ms ms', u.request = .ok ms ∧ { u with disabled := none }.request = .ok ms' ∧ u.IsBody ms ∧
      (Json.obj ms).bytes ≠ (Json.obj ms').bytes ∧
      IsFirst flawed.flaws (.emptyField "display name") ∧
      Admin.run (create c flawed) noAnswer.recorded ((), []) =
        (.error (.invalidArgument (.emptyField "display name")), (), []) := by
  intro c u flawed noAnswer
  have huid : IsUid (String.ofList (List.replicate 128 'ß')) :=
    ⟨by simp, by rw [String.length_ofList, List.length_replicate]⟩
  have hemail : IsEmail "ß@h" := isEmail_iff.mp (by decide +kernel)
  have hphone : IsPhoneNumber "+x1" := passes_checkPhoneNumber.mp ⟨(), by decide +kernel⟩
  have hpassword : IsPassword "пароль" := show 6 ≤ "пароль".length by decide +kernel
  have hvalid : ∀ disabled, { u with disabled := disabled }.Valid := by
    intro disabled
    exact ⟨by simpa [u] using huid, by simpa [u] using hemail, by simpa [u] using hphone, by simp [u],
      by simp [u], by simpa [u] using hpassword⟩
  have hfirst : IsFirst flawed.flaws (.emptyField "display name") := by
    rw [NewUser.flaws, isFirst_cons, isFirst_cons, isFirst_cons, isFirst_cons, forall_not_flaw_iff,
      forall_not_flaw_iff, forall_not_flaw_iff]
    exact Or.inr ⟨(hvalid none).uid, Or.inr ⟨(hvalid none).email,
      Or.inr ⟨(hvalid none).phoneNumber, Or.inl ⟨"", rfl, by simp, rfl⟩⟩⟩⟩
  obtain ⟨haccepted, -, -, -, -, htold⟩ := new_user_is_sent_or_refused c noAnswer () u
  obtain ⟨ms, hms⟩ := haccepted.mpr (hvalid _)
  obtain ⟨ms', hms'⟩ := (new_user_is_sent_or_refused c noAnswer () { u with disabled := none }).1.mpr
    (hvalid none)
  obtain ⟨-, -, hbody, hinj⟩ := htold ms hms
  obtain ⟨-, -, hunsent, -⟩ := new_user_is_sent_or_refused c noAnswer () flawed
  refine ⟨ms, ms', hms, hms', hbody, ?_, hfirst, (hunsent _).mp hfirst⟩
  intro hsame
  have hdisabled : u.disabled = none := congrArg (·.disabled) ((hinj _ ms' hms').mp hsame)
  exact absurd hdisabled (by decide)

end AccountWire.User
