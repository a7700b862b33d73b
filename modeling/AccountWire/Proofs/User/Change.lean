import AccountWire.Proofs.Admin.Outcome
import AccountWire.Proofs.Json.Body

/-!
# What the body of a change says

A change says of each attribute of a user that it is left alone, set or removed.  Its body has these
effects and no others (`UserChange.IsBody`): an attribute that is set stands under its own name, the
ones that are removed are listed together, and what is left alone leaves no trace.  Since every effect
is seen, the octets of the body determine the user and the change (`change_is_told_by_body`); of custom
claims they determine the text.
-/

namespace AccountWire.User

open Admin (Client Exchange of_bind_eq_ok of_unless_empty)
open Json (Rereads)
open Json.Members (get?)

/-! ### Bodies -/

/-- A change as it is sent: of the claims, only their text. -/
def UserChange.sent (u : UserChange) : UserChange × Option String :=
  ({ u with customClaims := none }, u.customClaims.map sentClaims)

/-- A member holds the text of a field, unless there is no text or it is empty. -/
def Sets (ms : Json.Members) (name : String) (field : Option String) : Prop :=
  ∀ v, get? name ms = some v ↔ ∃ text, field = some text ∧ text ≠ "" ∧ v = .str text

/-- The members of a change's body: one effect for each field that is there. -/
structure UserChange.IsBody (u : UserChange) (uid : String) (ms : Json.Members) : Prop where
  localId : get? "localId" ms = some (.str uid)
  displayName : Sets ms "displayName" u.displayName
  photoUrl : Sets ms "photoUrl" u.photoUrl
  phoneNumber : Sets ms "phoneNumber" u.phoneNumber
  /-- The attributes that are empty are listed in this order, each once. -/
  removed : ∃ marks : List String, marks.Sublist ["DISPLAY_NAME", "PHOTO_URL"] ∧
    ("DISPLAY_NAME" ∈ marks ↔ u.displayName = some "") ∧
    ("PHOTO_URL" ∈ marks ↔ u.photoUrl = some "") ∧
    get? "deleteAttribute" ms = if marks = [] then none else some (.arr (marks.map .str))
  /-- An empty phone number removes its provider. -/
  unlinked : get? "deleteProvider" ms =
    if u.phoneNumber = some "" then some (.arr [.str "phone"]) else none
  email : get? "email" ms = u.email.map .str
  password : get? "password" ms = u.password.map .str
  emailVerified : get? "emailVerified" ms = u.emailVerified.map .bool
  disabled : get? "disabled" ms = u.disabled.map .bool
  customClaims : get? "customAttributes" ms = u.customClaims.map fun c => .str (sentClaims c)
  ordered : ms.Pairwise (·.1 < ·.1)
  others : ∀ m ∈ ms, m.1 ∈ ["displayName", "photoUrl", "deleteAttribute", "deleteProvider",
    "phoneNumber", "email", "password", "emailVerified", "disabled", "customAttributes", "localId"]

namespace UserChange

/-- The fields of the body of a change. -/
def bodyFields (u : UserChange) (uid : String) : List (String × Option Json) :=
  u.fields (u.customClaims.map sentClaims) ++ [("localId", some (.str uid))]

/-- No field of a change comes twice. -/
theorem nodup_bodyFields (u : UserChange) (uid : String) :
    ((u.bodyFields uid).map (·.1)).Nodup := by
  show ["displayName", "photoUrl", "deleteAttribute", "deleteProvider", "phoneNumber", "email",
    "password", "emailVerified", "disabled", "customAttributes", "localId"].Nodup
  decide

/-- The fields of a body are there or not, and read back. -/
theorem rereads_bodyFields (u : UserChange) (uid : String) :
    ∀ f ∈ u.bodyFields uid, ∀ v ∈ f.2, Rereads 1 v := by
  have hlist : ∀ (l : List String), ∀ v ∈ textList? l, Rereads 1 v := by
    intro l v hv
    unfold textList? at hv
    split at hv
    · cases hv
    · obtain rfl := Option.some.inj hv
      exact .texts l
  have hphone : ∀ v ∈ (if u.phoneNumber = some "" then some (Json.arr [.str "phone"]) else none),
      Rereads 1 v := by
    intro v hv
    split at hv
    · obtain rfl := Option.some.inj hv
      exact .texts ["phone"]
    · cases hv
  have huid : ∀ v ∈ some (Json.str uid), Rereads 1 v := .of_map .str (some uid)
  simp only [bodyFields, fields, List.cons_append, List.nil_append, List.forall_mem_cons]
  exact ⟨.of_map .str _, .of_map .str _, hlist _, hphone, .of_map .str _, .of_map .str _,
    .of_map .str _, .of_map .bool _, .of_map .bool _, .of_map .str _, huid, by simp⟩

/-! ### What a body has -/

/-- An attribute is removed exactly if the change sets it to the empty text. -/
theorem mem_removedAttributes (u : UserChange) :
    ("DISPLAY_NAME" ∈ u.removedAttributes ↔ u.displayName = some "") ∧
      ("PHOTO_URL" ∈ u.removedAttributes ↔ u.photoUrl = some "") := by
  unfold removedAttributes
  by_cases hname : u.displayName = some "" <;> by_cases hphoto : u.photoUrl = some "" <;>
    simp [hname, hphoto]

/-- Only the display name and the photo can be removed, and in this order. -/
theorem removedAttributes_sublist (u : UserChange) :
    u.removedAttributes.Sublist ["DISPLAY_NAME", "PHOTO_URL"] := by
  unfold removedAttributes
  split <;> split <;> decide

/-- A text is set exactly if the change has it and it is not empty. -/
theorem toSet?_eq_some_iff {field : Option String} {text : String} :
    toSet? field = some text ↔ field = some text ∧ text ≠ "" := by
  simp [toSet?, Option.filter_eq_some_iff]

/-- What is found under the name of a field is what the change sets. -/
theorem sets_of_get? {ms : Json.Members} {name : String} {field : Option String}
    (h : get? name ms = (toSet? field).map .str) : Sets ms name field := by
  intro v
  rw [h, Option.map_eq_some_iff]
  simp only [toSet?_eq_some_iff, and_assoc, @eq_comm _ v]

/-- **The members of a change's body** have the effects of its fields and no others. -/
theorem isBody_bodyFields (u : UserChange) (uid : String) :
    u.IsBody uid (Json.Members.ofPresent (u.bodyFields uid)) := by
  have hget := Json.Members.get?_of_mem (u.nodup_bodyFields uid)
  simp only [bodyFields, fields, List.cons_append, List.nil_append, List.forall_mem_cons] at hget
  obtain ⟨hname, hphoto, hremoved, hunlinked, hphone, hemail, hpassword, hverified, hdisabled,
    hclaims, huid, -⟩ := hget
  refine ⟨huid, sets_of_get? hname, sets_of_get? hphoto, sets_of_get? hphone, ?_, hunlinked, hemail,
    hpassword, hverified, hdisabled, ?_, Json.Members.pairwise_ofPresent _,
    fun _ hm => Json.Members.name_mem_of_mem_ofPresent hm⟩
  · exact ⟨u.removedAttributes, u.removedAttributes_sublist, u.mem_removedAttributes.1,
      u.mem_removedAttributes.2, hremoved⟩
  · exact hclaims.trans (Option.map_map ..)

/-! ### What a body tells -/

/-- Lists of texts are told by their members, the empty one by having none. -/
theorem textList?_inj {l l' : List String} : textList? l = textList? l' ↔ l = l' := by
  have hmap : l.map Json.str = l'.map Json.str ↔ l = l' :=
    List.map_inj_right fun a b h => Json.str.inj h
  by_cases hl : l = [] <;> by_cases hl' : l' = [] <;> simp [textList?, hl, hl', hmap, eq_comm]

/-- A field is known when it is known whether it is empty, and its text when it is not. -/
theorem eq_of_toSet? {a b : Option String} (hset : toSet? a = toSet? b)
    (hempty : a = some "" ↔ b = some "") : a = b := by
  apply Option.ext
  intro text
  by_cases htext : text = ""
  · -- The empty text is not among those to set.
    rw [htext]
    exact hempty
  · have hiff : ∀ o : Option String, o = some text ↔ toSet? o = some text := by
      intro o
      rw [toSet?_eq_some_iff, and_iff_left htext]
    rw [hiff a, hiff b, hset]

/-- The fields of a change determine whose it is and all that is sent of it. -/
theorem bodyFields_inj {u u' : UserChange} {uid uid' : String} :
    u.bodyFields uid = u'.bodyFields uid' ↔ uid = uid' ∧ u.sent = u'.sent := by
  have hunlinked : ∀ {a b : Option String},
      ((if a = some "" then some (Json.arr [.str "phone"]) else none) =
        if b = some "" then some (Json.arr [.str "phone"]) else none) ↔
        (a = some "" ↔ b = some "") := by
    intro a b
    by_cases ha : a = some "" <;> by_cases hb : b = some "" <;> simp [ha, hb]
  simp only [bodyFields, fields, List.cons_append, List.nil_append, List.cons.injEq, Prod.mk.injEq,
    true_and, and_true, Json.map_str_inj, Json.map_bool_inj, textList?_inj, hunlinked,
    Option.some.injEq, Json.str.injEq]
  constructor
  · rintro ⟨hname, hphoto, hremoved, hphoneEmpty, hphone, hemail, hpassword, hverified, hdisabled,
      hclaims, huid⟩
    -- Whether a name or a photo is empty is told by the list of what is removed.
    have hnameEmpty : u.displayName = some "" ↔ u'.displayName = some "" := by
      rw [← u.mem_removedAttributes.1, hremoved, u'.mem_removedAttributes.1]
    have hphotoEmpty : u.photoUrl = some "" ↔ u'.photoUrl = some "" := by
      rw [← u.mem_removedAttributes.2, hremoved, u'.mem_removedAttributes.2]
    refine ⟨huid, ?_⟩
    simp only [sent, eq_of_toSet? hname hnameEmpty, eq_of_toSet? hphoto hphotoEmpty,
      eq_of_toSet? hphone hphoneEmpty, hemail, hpassword, hverified, hdisabled, hclaims]
  · rintro ⟨rfl, hsent⟩
    simp only [sent, Prod.mk.injEq, mk.injEq, and_true] at hsent
    obtain ⟨⟨hemail, hphone, hname, hphoto, hpassword, hverified, hdisabled⟩, hclaims⟩ := hsent
    simp only [removedAttributes, hemail, hphone, hname, hphoto, hpassword, hverified, hdisabled,
      hclaims, and_self]

/-! ### Requests -/

/-- The members of an accepted change, and the id that is put to them. -/
theorem request_ok {u : UserChange} {ms : Json.Members} (h : u.request = .ok ms) (uid : String) :
    ms.insert "localId" (.str uid) = Json.Members.ofPresent (u.bodyFields uid) := by
  obtain ⟨-, -, h⟩ := of_bind_eq_ok h
  obtain ⟨-, -, h⟩ := of_bind_eq_ok h
  obtain ⟨-, -, h⟩ := of_bind_eq_ok h
  obtain ⟨texts, htexts, h⟩ := of_bind_eq_ok h
  obtain ⟨rfl, -⟩ : ms = Json.Members.ofPresent (u.fields texts) ∧ ms ≠ [] := of_unless_empty h
  rw [Json.Members.insert_ofPresent, claims_sent htexts, bodyFields]

end UserChange

/-- What an accepted change sends. -/
theorem update_eq {c : Client} {uid : String} {u : UserChange} (huid : IsUid uid) (hu : u.Valid) :
    update c uid u = sendChange c (Json.Members.ofPresent (u.bodyFields uid)) := by
  obtain ⟨⟨⟩, hcheck⟩ := passes_checkUid.mpr huid
  obtain ⟨ms, hms⟩ := UserChange.passes_request.mpr hu
  rw [update, hcheck, Admin.accept_ok_bind, hms, Admin.accept_ok_bind, UserChange.request_ok hms]

/-- A change is refused exactly if the id or the change is not as it has to be. -/
theorem refused_update_iff {c : Client} {uid : String} {u : UserChange} :
    (∃ reason, update c uid u = .error (.invalidArgument reason)) ↔ ¬ (IsUid uid ∧ u.Valid) := by
  rcases Admin.Operation.plan_guarded c (.updateUser uid u) with ⟨hnot, hplan⟩ | ⟨haccepts, -⟩
  · exact iff_of_true hplan hnot
  · rw [update_eq haccepts.1 haccepts.2]
    refine iff_of_false ?_ (fun h => h haccepts)
    rintro ⟨reason, h⟩
    obtain ⟨url, hurl⟩ := Admin.of_plan_eq_error h
    cases hurl

/-- The body of a request is made of the fields of its change. -/
theorem of_update_eq_ok {c : Client} {uid : String} {u : UserChange} {x : Exchange Unit}
    (h : update c uid u = .ok x) :
    x.request.body = (Json.obj (Json.Members.ofPresent (u.bodyFields uid))).bytes := by
  have haccepts : IsUid uid ∧ u.Valid := by
    by_contra hnot
    obtain ⟨reason, hreason⟩ := refused_update_iff.mpr hnot
    cases hreason.symm.trans h
  rw [update_eq haccepts.1 haccepts.2] at h
  exact body_of_sendChange h

/-- **The body of a change says what is changed**, and whose.  A change is refused exactly when its
user id or one of its fields is not as it has to be, or when all fields are absent; otherwise its body
has one effect for each field that is there.  The body is read back, and another call that is accepted
has the same octets only for the same user and the same change, claims compared by their text. -/
theorem change_is_told_by_body (c : Client) (uid : String) (u : UserChange) :
    ((∃ reason, update c uid u = .error (.invalidArgument reason)) ↔
      ¬ IsUid uid ∨ (∃ number, u.phoneNumber = some number ∧ number ≠ "" ∧ ¬ IsPhoneNumber number) ∨
      (∃ email, u.email = some email ∧ ¬ IsEmail email) ∨
      (∃ password, u.password = some password ∧ ¬ IsPassword password) ∨
      (∃ claims, u.customClaims = some claims ∧ ¬ AreClaims claims) ∨ u = .nothing) ∧
    ((¬ ∃ reason, update c uid u = .error (.invalidArgument reason)) →
      ∃ ms, update c uid u = sendChange c ms ∧ u.IsBody uid ms) ∧
    ∀ x, update c uid u = .ok x →
      (∃ ms, Json.ofBytes? x.request.body = some (.obj ms) ∧ u.IsBody uid ms) ∧
      ∀ c' uid' u' x', update c' uid' u' = .ok x' →
        (x.request.body = x'.request.body ↔ uid = uid' ∧ u.sent = u'.sent) := by
  refine ⟨?_, ?_, ?_⟩
  · rw [refused_update_iff]
    constructor
    · intro hnot
      by_contra hfine
      simp only [not_or, not_exists, not_and, not_not] at hfine
      obtain ⟨huid, hphone, hemail, hpassword, hclaims, hchanges⟩ := hfine
      exact hnot ⟨huid, hphone, hemail, hpassword, hclaims, hchanges⟩
    · rintro hflaw ⟨huid, hu⟩
      rcases hflaw with h | ⟨number, hnumber, hne, h⟩ | ⟨email, hemail, h⟩ |
        ⟨password, hpassword, h⟩ | ⟨claims, hclaims, h⟩ | h
      · exact h huid
      · exact h (hu.phoneNumber number hnumber hne)
      · exact h (hu.email email hemail)
      · exact h (hu.password password hpassword)
      · exact h (hu.customClaims claims hclaims)
      · exact hu.changes h
  · intro hnot
    obtain ⟨huid, hu⟩ := not_not.mp (mt refused_update_iff.mpr hnot)
    exact ⟨_, update_eq huid hu, u.isBody_bodyFields uid⟩
  · intro x hx
    have hbody := of_update_eq_ok hx
    refine ⟨⟨_, ?_, u.isBody_bodyFields uid⟩, ?_⟩
    · rw [hbody]
      exact Json.ofBytes?_bytes_ofPresent (u.rereads_bodyFields uid) (by decide)
    · intro c' uid' u' x' hx'
      rw [hbody, of_update_eq_ok hx', ← UserChange.bodyFields_inj]
      exact Json.bytes_ofPresent_inj rfl (u.nodup_bodyFields uid) (u.rereads_bodyFields uid)
        (u'.rereads_bodyFields uid') (by decide)

/-- A change that removes a name and a phone number, and one that leaves the name alone. -/
theorem removed_name_is_told :
    let c : Client := ⟨"p", none, "http://h", "http://h"⟩
    let u : UserChange := ⟨none, some "", some "", some "a\"b", none, some true, none, some []⟩
    ∃ x x', update c "u" u = .ok x ∧ update c "u" { u with displayName := none } = .ok x' ∧
      (∃ ms, Json.ofBytes? x.request.body = some (.obj ms) ∧ u.IsBody "u" ms) ∧
      x.request.body ≠ x'.request.body := by
  intro c u
  obtain ⟨x, hx⟩ := Admin.exists_eq_ok
    (show (update c "u" u).toOption.isSome = true by decide +kernel)
  obtain ⟨x', hx'⟩ := Admin.exists_eq_ok
    (show (update c "u" { u with displayName := none }).toOption.isSome = true by decide +kernel)
  obtain ⟨hbody, hinj⟩ := (change_is_told_by_body c "u" u).2.2 x hx
  refine ⟨x, x', hx, hx', hbody, ?_⟩
  intro hsame
  have hsent := ((hinj c "u" _ x' hx').mp hsame).2
  have hname : u.displayName = none := congrArg (·.1.displayName) hsent
  exact absurd hname (by decide)

end AccountWire.User
