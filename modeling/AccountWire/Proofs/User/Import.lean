import AccountWire.Proofs.Admin.Outcome
import AccountWire.Proofs.Json.Body
import AccountWire.Proofs.Text.Base64Url

/-!
# All users of an import, or none

An import is refused for the first thing that is wrong with it: the number of its users, the way in
which hashes were made, or the first user that is not as it has to be (`ImportRefusal`).  Otherwise
its body has all users in their order, each with what is known of it and nothing else, the octets of
hashes and salts in letters (`IsImportBody`).  The octets of the body therefore determine the import
(`import_is_sent_whole_or_refused`); of custom claims they determine the text.
-/

namespace AccountWire.User

open Admin (Client ClientOf Exchange Passes Rejection bind_eq_error_iff mapM_eq_error_iff
  of_bind_eq_error of_bind_eq_ok)
open Http (Transport)
open Json (Rereads)
open Json.Members (get?)

/-! ### Bodies -/

/-- A user as it is sent: of the claims, only their text. -/
def ImportedUser.sent (u : ImportedUser) : ImportedUser × Option String :=
  ({ u with customClaims := none }, u.customClaims.map sentClaims)

/-- A member holds the letters from which a field's octets are recovered, or is absent with them. -/
def HoldsOctets (us : Json.Members) (name : String) : Option Bytes → Prop
  | none => get? name us = none
  | some octets => ∃ text, get? name us = some (.str text) ∧
      Base64Url.decode? text.toList = some octets

/-- The members of a user in an import: its id, and one member for each field that is there. -/
structure ImportedUser.IsEntry (u : ImportedUser) (us : Json.Members) : Prop where
  localId : get? "localId" us = some (.str u.uid)
  email : get? "email" us = u.email.map .str
  displayName : get? "displayName" us = u.displayName.map .str
  phoneNumber : get? "phoneNumber" us = u.phoneNumber.map .str
  photoUrl : get? "photoUrl" us = u.photoUrl.map .str
  emailVerified : get? "emailVerified" us = u.emailVerified.map .bool
  disabled : get? "disabled" us = u.disabled.map .bool
  passwordHash : HoldsOctets us "passwordHash" u.passwordHash
  passwordSalt : HoldsOctets us "salt" u.passwordSalt
  customClaims : get? "customAttributes" us = u.customClaims.map fun c => .str (sentClaims c)
  ordered : us.Pairwise (·.1 < ·.1)
  others : ∀ m ∈ us, m.1 ∈ ["localId", "email", "displayName", "phoneNumber", "photoUrl",
    "emailVerified", "disabled", "passwordHash", "salt", "customAttributes"]

/-- The members of an import's body: how hashes were made, if that is told, and the users in their
order. -/
structure IsImportBody (users : List ImportedUser) (hash : Option HashConfig) (ms : Json.Members) :
    Prop where
  algorithm : get? "hashAlgorithm" ms = hash.map fun h => .str h.algorithm
  signerKey : get? "signerKey" ms = hash.bind fun h => h.signerKey.map .str
  saltSeparator : get? "saltSeparator" ms = hash.bind fun h => h.saltSeparator.map .str
  rounds : get? "rounds" ms = hash.bind fun h => h.rounds.map fun n => .ofWord n.toUInt64
  memoryCost : get? "memoryCost" ms =
    hash.bind fun h => h.memoryCost.map fun n => .ofWord n.toUInt64
  users : ∃ vs, get? "users" ms = some (.arr vs) ∧ vs.length = users.length ∧
    ∀ (i : Nat) u, users[i]? = some u → ∃ us, vs[i]? = some (.obj us) ∧ u.IsEntry us
  ordered : ms.Pairwise (·.1 < ·.1)
  others : ∀ m ∈ ms, m.1 ∈ ["hashAlgorithm", "signerKey", "saltSeparator", "rounds", "memoryCost",
    "users"]

namespace ImportedUser

/-- The fields of a user in an import. -/
def fields (u : ImportedUser) : List (String × Option Json) :=
  [("localId", some (.str u.uid)), ("email", u.email.map .str),
    ("displayName", u.displayName.map .str), ("phoneNumber", u.phoneNumber.map .str),
    ("photoUrl", u.photoUrl.map .str), ("emailVerified", u.emailVerified.map .bool),
    ("disabled", u.disabled.map .bool), ("passwordHash", u.passwordHash.map octetsValue),
    ("salt", u.passwordSalt.map octetsValue),
    ("customAttributes", (u.customClaims.map sentClaims).map .str)]

/-- The value of a user in an import. -/
def entry (u : ImportedUser) : Json := .obj (Json.Members.ofPresent u.fields)

/-- No field of an imported user comes twice. -/
theorem nodup_fields (u : ImportedUser) : (u.fields.map (·.1)).Nodup := by
  show ["localId", "email", "displayName", "phoneNumber", "photoUrl", "emailVerified", "disabled",
    "passwordHash", "salt", "customAttributes"].Nodup
  decide

/-- What is sent of an accepted user is its entry. -/
theorem request_ok {u : ImportedUser} {v : Json} (h : u.request = .ok v) : v = u.entry := by
  obtain ⟨-, -, h⟩ := of_bind_eq_ok h
  obtain ⟨-, -, h⟩ := of_bind_eq_ok h
  obtain ⟨-, -, h⟩ := of_bind_eq_ok h
  obtain ⟨texts, htexts, h⟩ := of_bind_eq_ok h
  obtain rfl := claims_sent htexts
  exact (Except.ok.inj h).symm

/-- The entry of a user is read back. -/
theorem rereads_entry (u : ImportedUser) : Rereads 1 u.entry := by
  have hoctets : ∀ octets, Rereads 0 (octetsValue octets) := fun _ => .str _
  have huid : ∀ v ∈ some (Json.str u.uid), Rereads 0 v := .of_map .str (some u.uid)
  apply Rereads.ofPresent
  simp only [fields, List.forall_mem_cons]
  exact ⟨huid, .of_map .str _, .of_map .str _, .of_map .str _, .of_map .str _, .of_map .bool _,
    .of_map .bool _, .of_map hoctets _, .of_map hoctets _, .of_map .str _, by simp⟩

/-- What is found under the name of a field is what the user has of octets. -/
theorem holdsOctets_of_get? {us : Json.Members} {name : String} {field : Option Bytes}
    (h : get? name us = field.map octetsValue) : HoldsOctets us name field := by
  cases field with
  | none => exact h
  | some octets =>
      refine ⟨_, h, ?_⟩
      rw [Base64Url.encodeString, String.toList_ofList, Base64Url.decode?_encode]

/-- **The members of an entry** tell the user field by field. -/
theorem isEntry_fields (u : ImportedUser) : u.IsEntry (Json.Members.ofPresent u.fields) := by
  have hget := Json.Members.get?_of_mem u.nodup_fields
  simp only [fields, List.forall_mem_cons] at hget
  obtain ⟨huid, hemail, hname, hphone, hphoto, hverified, hdisabled, hhash, hsalt, hclaims, -⟩ :=
    hget
  exact ⟨huid, hemail, hname, hphone, hphoto, hverified, hdisabled, holdsOctets_of_get? hhash,
    holdsOctets_of_get? hsalt, hclaims.trans (Option.map_map ..),
    Json.Members.pairwise_ofPresent _, fun _ hm => Json.Members.name_mem_of_mem_ofPresent hm⟩

/-- The entry of a user determines all that is sent of it. -/
theorem entry_inj {u u' : ImportedUser} : u.entry = u'.entry ↔ u.sent = u'.sent := by
  have hoctets : ∀ {a b : Option Bytes}, a.map octetsValue = b.map octetsValue ↔ a = b :=
    Option.map_inj_right fun a b h => Base64Url.encodeString_inj.mp (Json.str.inj h)
  rw [entry, entry, Json.obj.injEq, Json.Members.ofPresent_inj (by rfl) u.nodup_fields]
  simp only [fields, sent, List.cons.injEq, Prod.mk.injEq, mk.injEq, Json.map_str_inj,
    Json.map_bool_inj, hoctets, Option.some.injEq, Json.str.injEq, true_and, and_true, and_assoc]

end ImportedUser

/-! ### The whole body -/

/-- The fields of an import's body.  Those that tell of hashes stand there also when nothing is told,
so that all imports have fields of the same names. -/
def importFields (users : List ImportedUser) (hash : Option HashConfig) :
    List (String × Option Json) :=
  [("hashAlgorithm", hash.map fun h => .str h.algorithm),
    ("signerKey", hash.bind fun h => h.signerKey.map .str),
    ("saltSeparator", hash.bind fun h => h.saltSeparator.map .str),
    ("rounds", hash.bind fun h => h.rounds.map fun n => .ofWord n.toUInt64),
    ("memoryCost", hash.bind fun h => h.memoryCost.map fun n => .ofWord n.toUInt64),
    ("users", some (.arr (users.map (·.entry))))]

variable {users : List ImportedUser} {hash : Option HashConfig}

/-- No field of an import comes twice. -/
theorem nodup_importFields (users : List ImportedUser) (hash : Option HashConfig) :
    ((importFields users hash).map (·.1)).Nodup := by
  show ["hashAlgorithm", "signerKey", "saltSeparator", "rounds", "memoryCost", "users"].Nodup
  decide

/-- All fields of an import are read back. -/
theorem rereads_importFields (users : List ImportedUser) (hash : Option HashConfig) :
    ∀ f ∈ importFields users hash, ∀ v ∈ f.2, Rereads 2 v := by
  have hhash : ∀ {α : Type} {write : α → Json} (field : HashConfig → Option α),
      (∀ a, Rereads 2 (write a)) → ∀ v ∈ hash.bind fun h => (field h).map write, Rereads 2 v :=
    fun field hwrite => .of_bind fun h => .of_map hwrite (field h)
  have husers : ∀ v ∈ some (Json.arr (users.map (·.entry))), Rereads 2 v := by
    intro v hv
    obtain rfl := Option.some.inj hv
    apply Rereads.arr
    intro w hw
    obtain ⟨u, -, rfl⟩ := List.mem_map.mp hw
    exact u.rereads_entry
  simp only [importFields, List.forall_mem_cons]
  exact ⟨.of_map (fun _ => .str _) _, hhash _ .str, hhash _ .str, hhash _ fun _ => .ofWord _,
    hhash _ fun _ => .ofWord _, husers, by simp⟩

/-- **The members of an import's body** tell all of it. -/
theorem isImportBody_importFields (users : List ImportedUser) (hash : Option HashConfig) :
    IsImportBody users hash (Json.Members.ofPresent (importFields users hash)) := by
  have hget := Json.Members.get?_of_mem (nodup_importFields users hash)
  simp only [importFields, List.forall_mem_cons] at hget
  obtain ⟨halgorithm, hkey, hseparator, hrounds, hmemory, husers, -⟩ := hget
  refine ⟨halgorithm, hkey, hseparator, hrounds, hmemory, ⟨_, husers, List.length_map _, ?_⟩,
    Json.Members.pairwise_ofPresent _, fun _ hm => Json.Members.name_mem_of_mem_ofPresent hm⟩
  intro i u hu
  refine ⟨_, ?_, u.isEntry_fields⟩
  rw [List.getElem?_map, hu, Option.map_some, ImportedUser.entry]

/-- Short words are told by their values. -/
theorem ofWord_toUInt64_inj {m n : UInt32} :
    Json.ofWord m.toUInt64 = Json.ofWord n.toUInt64 ↔ m = n := by
  refine ⟨?_, fun h => h ▸ rfl⟩
  intro h
  have hnat : (m.toUInt64.toNat : Int) = n.toUInt64.toNat := by
    simpa [Json.ofWord, Json.Number.ofWord] using h
  exact UInt32.toNat_inj.mp (by simpa using Int.ofNat_inj.mp hnat)

/-- The fields of an import determine its hashes and what is sent of its users. -/
theorem importFields_inj {users' : List ImportedUser} {hash' : Option HashConfig} :
    importFields users hash = importFields users' hash' ↔
      hash = hash' ∧ users.map (·.sent) = users'.map (·.sent) := by
  have husers : users.map (·.entry) = users'.map (·.entry) ↔
      users.map (·.sent) = users'.map (·.sent) := by
    induction users generalizing users' with
    | nil => cases users' <;> simp
    | cons u users ih =>
        cases users' with
        | nil => simp
        | cons u' users' =>
            rw [List.map_cons, List.map_cons, List.cons.injEq, ImportedUser.entry_inj, ih,
              List.map_cons, List.map_cons, List.cons.injEq]
  have hword : ∀ {a b : Option UInt32}, (a.map fun n => Json.ofWord n.toUInt64) =
      (b.map fun n => Json.ofWord n.toUInt64) ↔ a = b :=
    Option.map_inj_right fun _ _ => ofWord_toUInt64_inj.mp
  have hhash : ∀ {g g' : HashConfig}, g = g' ↔ g.algorithm = g'.algorithm ∧
      g.signerKey = g'.signerKey ∧ g.saltSeparator = g'.saltSeparator ∧ g.rounds = g'.rounds ∧
      g.memoryCost = g'.memoryCost := by
    intro g g'
    cases g
    cases g'
    simp
  simp only [importFields, List.cons.injEq, Prod.mk.injEq, true_and, and_true, Option.some.injEq,
    Json.arr.injEq, husers, ← and_assoc]
  refine and_congr_left fun _ => ?_
  cases hash <;> cases hash' <;> simp [hhash, Json.map_str_inj, hword, and_assoc]

/-- What an accepted import sends. -/
theorem importRequest_ok {ms : Json.Members} (h : importRequest users hash = .ok ms) :
    ms = Json.Members.ofPresent (importFields users hash) := by
  have hvalues : ∀ {l : List ImportedUser} {vs : List Json}, l.mapM (·.request) = .ok vs →
      vs = l.map (·.entry) := by
    intro l
    induction l with
    | nil => exact fun h => (Except.ok.inj h).symm
    | cons u l ih =>
        intro vs h
        rw [List.mapM_cons] at h
        obtain ⟨v, hv, h⟩ := of_bind_eq_ok h
        obtain ⟨rest, hrest, h⟩ := of_bind_eq_ok h
        rw [← Except.ok.inj h, ImportedUser.request_ok hv, ih hrest, List.map_cons]
  unfold importRequest at h
  split at h
  · cases h
  · obtain ⟨-, -, h⟩ := of_bind_eq_ok h
    obtain ⟨vs, hvs, h⟩ := of_bind_eq_ok h
    rw [← Except.ok.inj h, hvalues hvs]
    -- Fields without a value make no member.
    cases hash <;> rfl

/-! ### Refusals -/

/-- Why an import is refused: for the first thing that is wrong with it. -/
inductive ImportRefusal (users : List ImportedUser) (hash : Option HashConfig) : Rejection → Prop
  | count (h : users = [] ∨ 1000 < users.length) : ImportRefusal users hash .badUserCount
  | algorithm (hcount : users ≠ [] ∧ users.length ≤ 1000) {config : HashConfig}
      (hhash : hash = some config) (h : config.algorithm = "") :
      ImportRefusal users hash .emptyHashAlgorithm
  | hashed (hcount : users ≠ [] ∧ users.length ≤ 1000) (hhash : hash = none)
      (h : ∃ u ∈ users, u.passwordHash ≠ none) : ImportRefusal users hash .missingHashConfig
  /-- The users before the first one that is not valid do not matter, nor do those after it. -/
  | user (hcount : users ≠ [] ∧ users.length ≤ 1000) (halgorithm : ∀ h ∈ hash, h.algorithm ≠ "")
      (hhashed : hash = none → ∀ u ∈ users, u.passwordHash = none)
      {before after : List ImportedUser} {u : ImportedUser} {reason : Rejection}
      (hsplit : users = before ++ u :: after) (hbefore : ∀ v ∈ before, v.Valid)
      (h : u.request = .error reason) : ImportRefusal users hash reason

/-- An import is refused for an account of its hashes without an algorithm, or for hashes without an
account. -/
theorem checkHash_eq_error_iff {reason : Rejection} : checkHash users hash = .error reason ↔
    (∃ config, hash = some config ∧ config.algorithm = "" ∧ reason = .emptyHashAlgorithm) ∨
      hash = none ∧ (∃ u ∈ users, u.passwordHash ≠ none) ∧ reason = .missingHashConfig := by
  cases hash with
  | some config => by_cases h : config.algorithm = "" <;> simp [checkHash, h, @eq_comm _ reason]
  | none =>
      by_cases h : users.any (·.passwordHash.isSome) = true
      · have hsome : ∃ u ∈ users, u.passwordHash ≠ none := by
          simpa [Option.isSome_iff_ne_none] using h
        simp [checkHash, h, hsome, @eq_comm _ reason]
      · have hnone : ¬ ∃ u ∈ users, u.passwordHash ≠ none := by
          simpa [Option.isSome_iff_ne_none] using h
        simp [checkHash, h, hnone]

/-- **The checks of an import** are made in this order. -/
theorem importRequest_eq_error_iff {reason : Rejection} :
    importRequest users hash = .error reason ↔ ImportRefusal users hash reason := by
  have hbad : users.isEmpty ∨ maxImportedUsers < users.length ↔
      users = [] ∨ 1000 < users.length := by
    rw [List.isEmpty_iff]
    rfl
  by_cases hcount : users = [] ∨ 1000 < users.length
  · have hrequest : importRequest users hash = .error .badUserCount := if_pos (hbad.mpr hcount)
    have hnot : ¬ (users ≠ [] ∧ users.length ≤ 1000) := by
      rintro ⟨hne, hle⟩
      rcases hcount with h | h
      · exact hne h
      · omega
    rw [hrequest]
    constructor
    · intro h
      obtain rfl := Except.error.inj h
      exact .count hcount
    · intro h
      cases h with
      | count => rfl
      | algorithm h | hashed h | user h => exact absurd h hnot
  · have hok : users ≠ [] ∧ users.length ≤ 1000 := by
      rwa [not_or, Nat.not_lt] at hcount
    have hrequest : importRequest users hash = (checkHash users hash >>= fun _ =>
        users.mapM (·.request) >>= fun vs => .ok (Json.Members.ofPresent
          ((hash.elim [] HashConfig.fields) ++ [("users", some (.arr vs))]))) :=
      if_neg (mt hbad.mp hcount)
    rw [hrequest, bind_eq_error_iff, checkHash_eq_error_iff]
    constructor
    · rintro ((⟨config, hhash, hempty, rfl⟩ | ⟨hhash, hsome, rfl⟩) | ⟨⟨⟩, hcheck, h⟩)
      · exact .algorithm hok hhash hempty
      · exact .hashed hok hhash hsome
      · obtain ⟨halgorithm, hhashed⟩ := passes_checkHash.mp ⟨(), hcheck⟩
        rcases of_bind_eq_error h with h | ⟨vs, -, h⟩
        · obtain ⟨before, u, after, hsplit, hbefore, hu⟩ := mapM_eq_error_iff.mp h
          have hvalid : ∀ v ∈ before, v.Valid :=
            fun v hv => ImportedUser.passes_request.mp (hbefore v hv)
          exact .user hok halgorithm hhashed hsplit hvalid hu
        · cases h
    · intro h
      cases h with
      | count h => exact absurd h hcount
      | algorithm _ hhash hempty => exact Or.inl (Or.inl ⟨_, hhash, hempty, rfl⟩)
      | hashed _ hhash hsome => exact Or.inl (Or.inr ⟨hhash, hsome, rfl⟩)
      | @user _ halgorithm hhashed before _ _ _ hsplit hbefore hu =>
          obtain ⟨⟨⟩, hcheck⟩ := passes_checkHash.mpr ⟨halgorithm, hhashed⟩
          have hpasses : ∀ v ∈ before, Passes v.request :=
            fun v hv => ImportedUser.passes_request.mpr (hbefore v hv)
          refine Or.inr ⟨(), hcheck, ?_⟩
          rw [mapM_eq_error_iff.mpr ⟨_, _, _, hsplit, hpasses, hu⟩]
          rfl

/-- An import is refused for the first thing that is wrong with it. -/
theorem importUsers_eq_error_iff {c : Client} {reason : Rejection} :
    importUsers c users hash = .error (.invalidArgument reason) ↔
      ImportRefusal users hash reason := by
  rw [← importRequest_eq_error_iff]
  exact Admin.accept_plan_refused_iff

/-! ### Imports -/

/-- There is a request exactly if the import is as it has to be and its address is a URL with a
host. -/
theorem exists_importUsers_iff {c : Client} : (∃ x, importUsers c users hash = .ok x) ↔
    ValidImport users hash ∧ Url.Locates (c.userUrl "/accounts:batchCreate") := by
  rw [← passes_importRequest]
  exact Admin.exists_accept_plan_iff

/-- The body of a request is made of the fields of its import. -/
theorem of_importUsers_eq_ok {c : Client} {x : Exchange ImportResult}
    (h : importUsers c users hash = .ok x) :
    x.request.body = (Json.obj (Json.Members.ofPresent (importFields users hash))).bytes := by
  obtain ⟨ms, hms, hbody⟩ := Admin.of_accept_plan_eq_ok h
  obtain rfl := importRequest_ok hms
  exact hbody

/-- **An import is sent whole or refused.**  A request is sent exactly when the import is as it has to
be and there is a place to send it to, which a client without an endpoint of its own always has.  One
that is not is refused for the first thing that is wrong with it, and nothing is sent.  The body of an accepted import has all users in their order and is
read back, and another import that is accepted has the same octets only for the same users with the
same account of their hashes, claims compared by their text. -/
theorem import_is_sent_whole_or_refused {σ : Type} (c : Client) (send : Transport σ) (s : σ)
    (users : List ImportedUser) (hash : Option HashConfig) :
    ((Admin.run (importUsers c users hash) send.recorded (s, [])).2.2 ≠ [] ↔
      ValidImport users hash ∧ Url.Locates (c.userUrl "/accounts:batchCreate")) ∧
    (∀ projectId, ClientOf ⟨projectId, none⟩ c →
      Url.Locates (c.userUrl "/accounts:batchCreate")) ∧
    (¬ ValidImport users hash → ∃ reason, ImportRefusal users hash reason) ∧
    (∀ reason, ImportRefusal users hash reason ↔
      Admin.run (importUsers c users hash) send.recorded (s, []) =
        (.error (.invalidArgument reason), s, [])) ∧
    ∀ x, importUsers c users hash = .ok x →
      (∃ ms, Json.ofBytes? x.request.body = some (.obj ms) ∧ IsImportBody users hash ms) ∧
      ∀ c' users' hash' x', importUsers c' users' hash' = .ok x' →
        (x.request.body = x'.request.body ↔
          hash = hash' ∧ users.map (·.sent) = users'.map (·.sent)) := by
  refine ⟨?_, fun _ hc => hc.locates_default _, ?_, ?_, ?_⟩
  · rw [Admin.sent_iff, exists_importUsers_iff]
  · intro hnot
    cases hrequest : importRequest users hash with
    | error reason => exact ⟨reason, importRequest_eq_error_iff.mp hrequest⟩
    | ok ms => exact absurd (passes_importRequest.mp ⟨ms, hrequest⟩) hnot
  · intro reason
    rw [Admin.refused_unsent_iff, importUsers_eq_error_iff]
  · intro x hx
    have hbody := of_importUsers_eq_ok hx
    refine ⟨⟨_, ?_, isImportBody_importFields users hash⟩, ?_⟩
    · rw [hbody]
      exact Json.ofBytes?_bytes_ofPresent (rereads_importFields users hash) (by decide)
    · intro c' users' hash' x' hx'
      rw [hbody, of_importUsers_eq_ok hx', ← importFields_inj]
      exact Json.bytes_ofPresent_inj rfl (nodup_importFields users hash)
        (rereads_importFields users hash) (rereads_importFields users' hash') (by decide)

/-- Two users in both orders, and a list whose second user has no whole email address and whose third
user has no id. -/
theorem swapped_users_are_told :
    let c : Client := ⟨"p", none, "http://h", "http://h"⟩
    let hash : Option HashConfig := some ⟨"SCRYPT", none, none, some 8, none⟩
    let a : ImportedUser :=
      ⟨"a", none, some "", none, none, none, none, some [255, 254], some [251], some [("k", .null)]⟩
    let b : ImportedUser := ⟨"b", some "b@h", none, none, none, some true, none, none, none, none⟩
    let faulty := [a, { b with email := some "b@" }, { b with uid := "" }]
    ∃ x x', importUsers c [a, b] hash = .ok x ∧ importUsers c [b, a] hash = .ok x' ∧
      (∃ ms, Json.ofBytes? x.request.body = some (.obj ms) ∧ IsImportBody [a, b] hash ms) ∧
      x.request.body ≠ x'.request.body ∧ (∃ reason, ImportRefusal faulty hash reason) ∧
      ImportRefusal faulty hash (.malformedEmail "b@") := by
  intro c hash a b faulty
  obtain ⟨x, hx⟩ := Admin.exists_eq_ok
    (show (importUsers c [a, b] hash).toOption.isSome = true by decide +kernel)
  obtain ⟨x', hx'⟩ := Admin.exists_eq_ok
    (show (importUsers c [b, a] hash).toOption.isSome = true by decide +kernel)
  let noAnswer : Transport Unit := fun _ s => (none, s)
  obtain ⟨hbody, hinj⟩ :=
    (import_is_sent_whole_or_refused c noAnswer () [a, b] hash).2.2.2.2 x hx
  obtain ⟨-, -, hrefused, hreason, -⟩ := import_is_sent_whole_or_refused c noAnswer () faulty hash
  refine ⟨x, x', hx, hx', hbody, ?_, ?_, ?_⟩
  · intro hsame
    have husers := ((hinj c _ _ x' hx').mp hsame).2
    have huid : a.uid = b.uid := congrArg (·.1.uid) (List.cons.inj husers).1
    exact absurd huid (by decide)
  · apply hrefused
    intro h
    have hempty : IsUid "" := (h.valid { b with uid := "" } (by simp [faulty])).uid
    exact hempty.1 rfl
  · have hanswer : (Admin.run (importUsers c faulty hash) noAnswer.recorded ((), [])).1 =
        .error (.invalidArgument (.malformedEmail "b@")) := by decide +kernel
    have hunsent : (Admin.run (importUsers c faulty hash) noAnswer.recorded ((), [])).2.2 = [] :=
      List.isEmpty_iff.mp (by decide +kernel)
    exact (hreason _).mpr (Prod.ext hanswer (Prod.ext rfl hunsent))

end AccountWire.User
