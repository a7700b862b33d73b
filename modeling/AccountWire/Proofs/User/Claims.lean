import AccountWire.Proofs.Admin.Operation
import AccountWire.Proofs.Json.Depth

/-!
# Custom claims that are sent and shown again

Claims travel as a JSON text inside a user, whoever sends them: `setCustomClaims`, `update` and
`importUsers` make the text with the same check.  When the user is shown, the text is read, with a
limit on the depth of values that the check does not have.  So claims that are accepted are shown
again exactly when they are not too deep (`accepted_claims_shown_iff`); claims that are too deep
make every record that holds them unreadable, and with it every look-up and every page.
-/

namespace AccountWire.User

open Admin (Client Exchange of_accept_eq_ok of_bind_eq_ok of_unless_empty)

/-! ### What becomes of claims -/

/-- Claims as they are shown: absent when there are none. -/
def shownClaims : Json.Members → Option Json.Members
  | [] => none
  | claims => some claims

/-- A stored user whose points in time can be shown. -/
def HasTimes (u : StoredUser) : Prop :=
  ∃ since millis creation lastLogIn, timestamp "validSince" u.validSince = .ok since ∧
    toMillis u.validSince since = .ok millis ∧ timestamp "createdAt" u.createdAt = .ok creation ∧
    timestamp "lastLoginAt" u.lastLoginAt = .ok lastLogIn

/-- All users that hold the text are shown, with the claims. -/
def ShownAs (text : String) (claims : Json.Members) : Prop :=
  ∀ u : StoredUser, u.customAttributes = text → HasTimes u →
    ∃ shown, u.export = .ok shown ∧ shown.record.customClaims = shownClaims claims

/-- No user that holds the text can be shown. -/
def Unreadable (text : String) : Prop :=
  ∀ u : StoredUser, u.customAttributes = text → u.export = .error .unreadable

/-- An object of a request has a text of claims. -/
def HoldsClaims (ms : Json.Members) (text : String) : Prop :=
  Json.Members.get? "customAttributes" ms = some (.str text)

/-- Accepted claims are shown again exactly when they are not too deep; otherwise their text is
unreadable. -/
def ShownIfShallow (text : String) (claims : Json.Members) : Prop :=
  (ShownAs text claims ↔ (Json.obj claims).depth ≤ Json.maxDepth) ∧
    (Json.maxDepth < (Json.obj claims).depth → Unreadable text)

/-! ### Reading the text of claims -/

theorem ofString_text (v : Json) : Utf8.ofString v.text = v.bytes := by
  rw [Utf8.ofString, Json.text, String.toList_ofList, Json.bytes]

/-- The text of accepted claims is the text of their object. -/
theorem text_of_claimsText {claims : Json.Members} {text : String}
    (h : claimsText claims = .ok text) : text = (Json.obj claims).text := by
  unfold claimsText at h
  split at h
  · cases h
  · split at h
    · cases h
    · exact (Except.ok.inj h).symm

variable {claims : Json.Members}

/-- **The text of an object is read as the object**, or not at all. -/
theorem claimsOfText_text (hordered : (Json.obj claims).isOrdered = true)
    (hexact : (Json.obj claims).isExact = true) :
    claimsOfText (Json.obj claims).text =
      if (Json.obj claims).depth ≤ Json.maxDepth then .ok (shownClaims claims)
      else .error .unreadable := by
  have hne : (Json.obj claims).text ≠ "" := by
    intro h
    have htext : (Json.obj claims).text.toList = "".toList := by rw [h]
    rw [Json.text, String.toList_ofList, Json.print] at htext
    exact absurd htext (by simp)
  rw [claimsOfText, if_neg hne, ofString_text, Json.membersOfBytes?,
    Json.ofBytes?_bytes hordered hexact]
  by_cases hdepth : (Json.obj claims).depth ≤ Json.maxDepth
  · rw [if_pos hdepth, if_pos hdepth]
    cases claims <;> rfl
  · rw [if_neg hdepth, if_neg hdepth]

/-- A stored user is shown with the claims that are read from it. -/
theorem export_of_claims {u : StoredUser} {shown : Option Json.Members} (htimes : HasTimes u)
    (h : claimsOfText u.customAttributes = .ok shown) :
    ∃ e, u.export = .ok e ∧ e.record.customClaims = shown := by
  obtain ⟨since, millis, creation, lastLogIn, hsince, hmillis, hcreation, hlogin⟩ := htimes
  simp only [StoredUser.export, h, hsince, hmillis, hcreation, hlogin, bind, Except.bind]
  exact ⟨_, rfl, rfl⟩

/-- A stored user is not shown if its claims cannot be read. -/
theorem export_of_unreadable {u : StoredUser}
    (h : claimsOfText u.customAttributes = .error .unreadable) :
    u.export = .error .unreadable := by
  simp only [StoredUser.export, h, bind, Except.bind]

/-- A user without points in time. -/
def timeless (text : String) : StoredUser :=
  ⟨"", "", "", "", "", false, false, [], "", "", "", "", "", text, ""⟩

theorem hasTimes_timeless (text : String) : HasTimes (timeless text) :=
  ⟨0, 0, 0, 0, rfl, rfl, rfl, rfl⟩

/-- **The fate of accepted claims** depends on their depth. -/
theorem shownIfShallow (hordered : (Json.obj claims).isOrdered = true)
    (hexact : (Json.obj claims).isExact = true) {text : String}
    (htext : claimsText claims = .ok text) : ShownIfShallow text claims := by
  have hread := claimsOfText_text hordered hexact
  rw [← text_of_claimsText htext] at hread
  have hdeep : Json.maxDepth < (Json.obj claims).depth → Unreadable text := by
    rintro hdepth u rfl
    rw [if_neg (by omega)] at hread
    exact export_of_unreadable hread
  refine ⟨⟨?_, ?_⟩, hdeep⟩
  · intro hshown
    by_contra hdepth
    obtain ⟨e, he, -⟩ := hshown (timeless text) rfl (hasTimes_timeless text)
    rw [hdeep (by omega) (timeless text) rfl] at he
    exact absurd he (by simp)
  · rintro hdepth u rfl htimes
    rw [if_pos hdepth] at hread
    exact export_of_claims htimes hread

/-- A look-up of a user that cannot be shown fails. -/
theorem interpretLookup_unreadable {body : Bytes} {text : String} {u : StoredUser}
    {others : List StoredUser} (hunreadable : Unreadable text)
    (hbody : Exchange.readBody usersOfTree? body = .ok (u :: others))
    (hu : u.customAttributes = text) : interpretLookup body = .error .unreadable := by
  simp only [interpretLookup, hbody, hunreadable u hu, bind, Except.bind]

/-- A page with a user that cannot be shown fails as a whole. -/
theorem interpretPage_unreadable {body : Bytes} {text : String} {u : StoredUser}
    {page : Listing.Page StoredUser} (hunreadable : Unreadable text)
    (hbody : Exchange.readBody pageOfTree? body = .ok page) (hu : u ∈ page.items)
    (htext : u.customAttributes = text) : ∀ shown, interpretPage body ≠ .ok shown := by
  intro shown h
  obtain ⟨page', hpage, h⟩ := of_bind_eq_ok h
  obtain rfl := Except.ok.inj (hbody.symm.trans hpage)
  obtain ⟨users, husers, -⟩ := of_bind_eq_ok h
  obtain ⟨i, hi⟩ := List.getElem?_of_mem hu
  obtain ⟨e, -, he⟩ := Admin.getElem?_of_mapM_eq_ok husers hi
  rw [hunreadable u htext] at he
  cases he

/-! ### Sending claims -/

/-- The body of a request for a change has the members of the change. -/
theorem body_of_sendChange {c : Client} {members : Json.Members} {x : Exchange Unit}
    (h : sendChange c members = .ok x) : x.request.body = (Json.obj members).bytes :=
  (Admin.of_plan_eq_ok h).1

/-- Claims that are set are sent as their text. -/
theorem setCustomClaims_sends {c : Client} {uid : String} {given : Option Json.Members}
    {x : Exchange Unit} (h : setCustomClaims c uid given = .ok x) :
    ∃ ms text, x.request.body = (Json.obj ms).bytes ∧ claimsText (given.getD []) = .ok text ∧
      HoldsClaims ms text := by
  obtain ⟨-, -, h⟩ := of_bind_eq_ok h
  obtain ⟨text, htext, h⟩ := of_bind_eq_ok h
  refine ⟨_, text, body_of_sendChange h, of_accept_eq_ok htext, ?_⟩
  have hnodup : ["localId", "customAttributes"].Nodup := by decide
  exact Json.Members.get?_ofPairs _ hnodup

/-- Claims that may be absent are checked if they are there. -/
theorem exists_text {given : Option Json.Members} {texts : Option String}
    (h : given.mapM claimsText = .ok texts) (hclaims : given = some claims) :
    ∃ text, claimsText claims = .ok text ∧ texts = some text := by
  subst hclaims
  rw [Option.mapM_some] at h
  cases htext : claimsText claims with
  | error reason => rw [htext] at h; cases h
  | ok text =>
      rw [htext] at h
      exact ⟨text, rfl, (Except.ok.inj h).symm⟩

/-- The text in which claims are sent. -/
def sentClaims (claims : Json.Members) : String := (Json.obj claims).text

/-- Claims that pass their check are sent as their text. -/
theorem claims_sent {given : Option Json.Members} {texts : Option String}
    (h : given.mapM claimsText = .ok texts) : texts = given.map sentClaims := by
  cases given with
  | none => exact (Except.ok.inj h).symm
  | some claims =>
      obtain ⟨text, htext, rfl⟩ := exists_text h rfl
      rw [text_of_claimsText htext, Option.map_some, sentClaims]

/-- The fields of a change's body, given the text of its claims. -/
def UserChange.fields (u : UserChange) (claims : Option String) : List (String × Option Json) :=
  [("displayName", (toSet? u.displayName).map .str),
    ("photoUrl", (toSet? u.photoUrl).map .str),
    ("deleteAttribute", textList? u.removedAttributes),
    ("deleteProvider", if u.phoneNumber = some "" then some (.arr [.str "phone"]) else none),
    ("phoneNumber", (toSet? u.phoneNumber).map .str),
    ("email", u.email.map .str), ("password", u.password.map .str),
    ("emailVerified", u.emailVerified.map .bool), ("disabled", u.disabled.map .bool),
    ("customAttributes", claims.map .str)]

/-- Claims of a change are sent as their text. -/
theorem update_sends {c : Client} {uid : String} {change : UserChange} {x : Exchange Unit}
    (hclaims : change.customClaims = some claims) (h : update c uid change = .ok x) :
    ∃ ms text, x.request.body = (Json.obj ms).bytes ∧ claimsText claims = .ok text ∧
      HoldsClaims ms text := by
  obtain ⟨-, -, h⟩ := of_bind_eq_ok h
  obtain ⟨members, hmembers, h⟩ := of_bind_eq_ok h
  have hrequest := of_accept_eq_ok hmembers
  obtain ⟨-, -, hrequest⟩ := of_bind_eq_ok hrequest
  obtain ⟨-, -, hrequest⟩ := of_bind_eq_ok hrequest
  obtain ⟨-, -, hrequest⟩ := of_bind_eq_ok hrequest
  obtain ⟨texts, htexts, hrequest⟩ := of_bind_eq_ok hrequest
  obtain ⟨text, htext, rfl⟩ := exists_text htexts hclaims
  obtain ⟨rfl, -⟩ : members = Json.Members.ofPresent (change.fields (some text)) ∧ members ≠ [] :=
    of_unless_empty hrequest
  refine ⟨_, text, body_of_sendChange h, htext, ?_⟩
  rw [HoldsClaims, Json.Members.get?_insert, if_neg (by decide), Json.Members.get?_ofPresent]
  · rfl
  · show ["displayName", "photoUrl", "deleteAttribute", "deleteProvider", "phoneNumber", "email",
      "password", "emailVerified", "disabled", "customAttributes"].Nodup
    decide

/-- Claims of an imported user are sent as their text. -/
theorem ImportedUser.request_sends {user : ImportedUser} {v : Json}
    (hclaims : user.customClaims = some claims) (h : user.request = .ok v) :
    ∃ us text, v = .obj us ∧ claimsText claims = .ok text ∧ HoldsClaims us text := by
  obtain ⟨-, -, h⟩ := of_bind_eq_ok h
  obtain ⟨-, -, h⟩ := of_bind_eq_ok h
  obtain ⟨-, -, h⟩ := of_bind_eq_ok h
  obtain ⟨texts, htexts, h⟩ := of_bind_eq_ok h
  obtain ⟨text, htext, rfl⟩ := exists_text htexts hclaims
  refine ⟨_, text, (Except.ok.inj h).symm, htext, ?_⟩
  rw [HoldsClaims, Json.Members.get?_ofPresent]
  · rfl
  · show ["localId", "email", "displayName", "phoneNumber", "photoUrl", "emailVerified", "disabled",
      "passwordHash", "salt", "customAttributes"].Nodup
    decide

/-- Each user of an import is sent at its place. -/
theorem importUsers_sends {c : Client} {users : List ImportedUser} {hash : Option HashConfig}
    {x : Exchange ImportResult} {i : Nat} {user : ImportedUser} (hi : users[i]? = some user)
    (h : importUsers c users hash = .ok x) :
    ∃ ms vs v, x.request.body = (Json.obj ms).bytes ∧
      Json.Members.get? "users" ms = some (.arr vs) ∧ vs[i]? = some v ∧ user.request = .ok v := by
  obtain ⟨members, hmembers, h⟩ := of_bind_eq_ok h
  have hrequest := of_accept_eq_ok hmembers
  rw [importRequest] at hrequest
  split at hrequest
  · obtain ⟨_, hthrow, -⟩ := of_bind_eq_ok hrequest
    cases hthrow
  · obtain ⟨-, -, hrequest⟩ := of_bind_eq_ok hrequest
    obtain ⟨vs, hvs, hrequest⟩ := of_bind_eq_ok hrequest
    obtain rfl := Except.ok.inj hrequest
    obtain ⟨v, hv, hone⟩ := Admin.getElem?_of_mapM_eq_ok hvs hi
    refine ⟨_, vs, v, (Admin.of_plan_eq_ok h).1, ?_, hv, hone⟩
    rw [Json.Members.get?_ofPresent]
    · cases hash <;> rfl
    · cases hash with
      | none =>
          show ["users"].Nodup
          decide
      | some hash =>
          show ["hashAlgorithm", "signerKey", "saltSeparator", "rounds", "memoryCost",
            "users"].Nodup
          decide

/-- **Accepted claims are shown again exactly when they are not too deep.**  The claims are any
object of integers, texts, truth values and nulls, in arrays and objects of any depth.  Whichever
operation sends them, its request holds their text; and users that hold this text are shown with the
claims if the depth is within the limit of reading, and cannot be shown at all if it is not. -/
theorem accepted_claims_shown_iff (c : Client) (hordered : (Json.obj claims).isOrdered = true)
    (hexact : (Json.obj claims).isExact = true) :
    (∀ uid given x, Option.getD given [] = claims → setCustomClaims c uid given = .ok x →
      ∃ ms text, x.request.body = (Json.obj ms).bytes ∧ HoldsClaims ms text ∧
        ShownIfShallow text claims) ∧
    (∀ uid (change : UserChange) x, change.customClaims = some claims →
      update c uid change = .ok x →
      ∃ ms text, x.request.body = (Json.obj ms).bytes ∧ HoldsClaims ms text ∧
        ShownIfShallow text claims) ∧
    ∀ (users : List ImportedUser) hash x (i : Nat) user, users[i]? = some user →
      user.customClaims = some claims → importUsers c users hash = .ok x →
      ∃ (ms : Json.Members) (vs : List Json) (us : Json.Members) (text : String),
        x.request.body = (Json.obj ms).bytes ∧
        Json.Members.get? "users" ms = some (.arr vs) ∧ vs[i]? = some (.obj us) ∧
        HoldsClaims us text ∧ ShownIfShallow text claims := by
  refine ⟨?_, ?_, ?_⟩
  · rintro uid given x rfl h
    obtain ⟨ms, text, hbody, htext, hholds⟩ := setCustomClaims_sends h
    exact ⟨ms, text, hbody, hholds, shownIfShallow hordered hexact htext⟩
  · intro uid change x hclaims h
    obtain ⟨ms, text, hbody, htext, hholds⟩ := update_sends hclaims h
    exact ⟨ms, text, hbody, hholds, shownIfShallow hordered hexact htext⟩
  · intro users hash x i user hi hclaims h
    obtain ⟨ms, vs, v, hbody, husers, hv, hone⟩ := importUsers_sends hi h
    obtain ⟨us, text, rfl, htext, hholds⟩ := ImportedUser.request_sends hclaims hone
    exact ⟨ms, vs, us, text, hbody, husers, hv, hholds, shownIfShallow hordered hexact htext⟩

/-- Claims that are set, with an escape in a name and an integer beyond the signed words. -/
theorem plain_claims_shown :
    let claims : Json.Members := [("a\"", .arr [.bool true, .null, .ofWord 18446744073709551615])]
    ∃ x ms text, setCustomClaims ⟨"p", none, "http://h", "http://h"⟩ "u" (some claims) = .ok x ∧
      x.request.body = (Json.obj ms).bytes ∧ HoldsClaims ms text ∧ ShownAs text claims := by
  intro claims
  obtain ⟨x, hset⟩ := Admin.exists_eq_ok
    (show (setCustomClaims ⟨"p", none, "http://h", "http://h"⟩ "u" (some claims)).toOption.isSome =
      true by decide +kernel)
  have hordered : (Json.obj claims).isOrdered = true := by decide
  have hexact : (Json.obj claims).isExact = true := by decide
  obtain ⟨ms, text, hbody, hholds, hfate⟩ :=
    (accepted_claims_shown_iff ⟨"p", none, "http://h", "http://h"⟩ hordered hexact).1
      "u" (some claims) x rfl hset
  exact ⟨x, ms, text, hset, hbody, hholds, hfate.1.mpr (by decide)⟩

/-- Arrays inside one another. -/
def nestedArrays : Nat → Json
  | 0 => .arr []
  | n + 1 => .arr [nestedArrays n]

/-- The response to a look-up of a user that has nothing but claims. -/
def lookupBody (uid text : String) : Json :=
  .obj [("users", .arr [.obj [("customAttributes", .str text), ("localId", .str uid)]])]

/-- The fields of that user, as they are found. -/
def lookupFields (uid text : String) : Json.Fields :=
  [("customAttributes", .string (Json.textParts text)), ("localId", .string (Json.textParts uid))]

/-- A user of a look-up has its id and its claims, and nothing else. -/
theorem get?_lookupFields (uid text : String) :
    (lookupFields uid text).get? "localId" Json.Tree.text? "" = some uid ∧
      (lookupFields uid text).get? "customAttributes" Json.Tree.text? "" = some text ∧
      ∀ {α : Type} (read : Json.Tree → Option α) (absent : α) (k : String),
        k ≠ "localId" → k ≠ "customAttributes" →
        (lookupFields uid text).get? k read absent = some absent := by
  refine ⟨?_, ?_, ?_⟩
  · simp [lookupFields, Json.Fields.get?, Json.Fields.find?, Json.Tree.text?,
      Json.stringText?_textParts]
  · simp [lookupFields, Json.Fields.get?, Json.Fields.find?, Json.Tree.text?,
      Json.stringText?_textParts]
  · intro α read absent k hid hclaims
    simp [lookupFields, Json.Fields.get?, Json.Fields.find?, Ne.symm hid, Ne.symm hclaims]

/-- The body of that response is read as a user without points in time. -/
theorem readBody_lookupBody (uid text : String) :
    Exchange.readBody usersOfTree? (lookupBody uid text).bytes =
      .ok [{ timeless text with localId := uid }] := by
  have huser : StoredUser.ofTree?
      (.obj [(Json.textParts "customAttributes", .string (Json.textParts text)),
        (Json.textParts "localId", .string (Json.textParts uid))]) =
        some { timeless text with localId := uid } := by
    have hfields : ∀ names, Json.Tree.fields? names
        (.obj [(Json.textParts "customAttributes", .string (Json.textParts text)),
          (Json.textParts "localId", .string (Json.textParts uid))]) =
        some (lookupFields uid text) := by
      intro names
      simp only [Json.Tree.fields?, Json.nameMembers?, List.mapM_cons, List.mapM_nil,
        Json.stringText?_textParts, Option.map_some, Option.bind_eq_bind, Option.bind_some,
        Option.pure_def]
      rfl
    obtain ⟨hid, hclaims, habsent⟩ := get?_lookupFields uid text
    rw [StoredUser.ofTree?, hfields]
    dsimp only [Option.bind_eq_bind, Option.bind_some, Json.Fields.text?, Json.Fields.flag?,
      Json.Fields.list?]
    rw [hid, hclaims]
    -- All other fields have their defaults.
    repeat rw [habsent _ _ _ (by decide) (by decide)]
    rfl
  have husers : usersOfTree? (lookupBody uid text).toTree =
      some [{ timeless text with localId := uid }] := by
    simp only [usersOfTree?, lookupBody, Json.toTree, Json.toMemberTrees, Json.toTrees,
      Json.Tree.fields?, Json.nameMembers?, List.mapM_cons, List.mapM_nil,
      Json.stringText?_textParts, Json.Fields.list?, Json.Fields.get?, Json.Fields.find?,
      List.filter_cons_of_pos, List.filter_nil, BEq.rfl, Json.Tree.items?, huser,
      Option.map_some, Option.getD_some, Option.bind_eq_bind, Option.bind_some, Option.pure_def]
  rw [Exchange.readBody, Json.Tree.ofBytes?_bytes rfl, Option.bind_some, husers]

/-- Claims of 260 octets that are accepted although no reader gets through their 128 levels: the
user they are set for can no longer be looked up. -/
theorem deep_claims_unreadable :
    let c : Client := ⟨"p", none, "http://h", "http://h"⟩
    let claims : Json.Members := [("a", nestedArrays 126)]
    ∃ x ms text, setCustomClaims c "u" (some claims) = .ok x ∧
      x.request.body = (Json.obj ms).bytes ∧ HoldsClaims ms text ∧ ¬ ShownAs text claims ∧
      Admin.run (byUid c "u") (fun _ s => (some ⟨200, (lookupBody "u" text).bytes⟩, s)) () =
        (.error .unreadable, ()) := by
  intro c claims
  obtain ⟨x, hset⟩ := Admin.exists_eq_ok
    (show (setCustomClaims c "u" (some claims)).toOption.isSome = true by decide +kernel)
  obtain ⟨y, hlookup⟩ := Admin.exists_eq_ok
    (show (byUid c "u").toOption.isSome = true by decide +kernel)
  obtain ⟨ms, text, hbody, htext, hholds⟩ := setCustomClaims_sends hset
  have hordered : (Json.obj claims).isOrdered = true := by decide +kernel
  have hexact : (Json.obj claims).isExact = true := by decide +kernel
  obtain ⟨hfate, hdeep⟩ := shownIfShallow hordered hexact htext
  refine ⟨x, ms, text, hset, hbody, hholds, ?_, ?_⟩
  · intro hshown
    exact absurd (hfate.mp hshown) (by decide +kernel)
  · obtain ⟨-, -, hplan⟩ := of_bind_eq_ok hlookup
    have hfails := interpretLookup_unreadable (hdeep (by decide +kernel))
      (readBody_lookupBody "u" text) rfl
    rw [← (Admin.of_plan_eq_ok hplan).2] at hfails
    rw [hlookup, Admin.run_of_success rfl rfl, hfails]

end AccountWire.User
