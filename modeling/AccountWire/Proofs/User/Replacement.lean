import AccountWire.Proofs.Text.Order
import AccountWire.Proofs.User.Change

/-!
# Replacing the custom claims of a user

Claims are replaced by an operation of their own and by a change of a user that changes nothing
else.  Both make the same plan (`update_onlyClaims`), so over every transport they send the same
octets and answer the same (`claims_replaced_alike`); and to give no claims is to give the empty ones.

Claims are refused for one reason (`ClaimsRefusal`), the first that there is: the id of the user, then
a reserved name, then the size.  Of several reserved names, the refusal has the one whose octets come
first, since claims stand in the order of their names.
-/

namespace AccountWire.User

open Admin (Client Exchange Rejection of_accept_eq_ok of_bind_eq_ok)
open Http (Transport)

/-- A change of nothing but the custom claims. -/
def UserChange.onlyClaims (claims : Json.Members) : UserChange :=
  { UserChange.nothing with customClaims := some claims }

/-- Of the reserved names among claims, the one whose octets come first. -/
structure IsFirstReserved (claims : Json.Members) (name : String) : Prop where
  claimed : ∃ v, (name, v) ∈ claims
  reserved : name ∈ reservedClaims
  first : ∀ claim ∈ claims, claim.1 ∈ reservedClaims → Utf8.ofString name ≤ Utf8.ofString claim.1

/-- Why claims of a user are refused: for the first thing that is wrong. -/
inductive ClaimsRefusal (uid : String) (claims : Json.Members) : Rejection → Prop
  | uid (h : uid = "" ∨ 128 < uid.length) : ClaimsRefusal uid claims .badUid
  | reserved (huid : IsUid uid) {name : String} (h : IsFirstReserved claims name) :
      ClaimsRefusal uid claims (.reservedClaim name)
  | size (huid : IsUid uid) (hfree : ∀ claim ∈ claims, claim.1 ∉ reservedClaims)
      (h : 1000 < (Json.obj claims).bytes.length) : ClaimsRefusal uid claims .oversizedClaims

variable {c : Client} {uid : String} {claims : Json.Members} {reason : Rejection}

/-! ### One plan -/

/-- A change of claims alone has the text of the claims as its only field. -/
theorem request_onlyClaims : (UserChange.onlyClaims claims).request =
    (claimsText claims).map fun text => [("customAttributes", .str text)] := by
  have hclaims : (some claims).mapM claimsText = (claimsText claims).map some := by
    rw [Option.mapM_some]
    rfl
  simp only [UserChange.request, UserChange.onlyClaims, UserChange.nothing, hclaims]
  cases claimsText claims <;> rfl

/-- The members of a replacement's body, in the order of their names. -/
theorem insert_localId (text : String) :
    Json.Members.insert "localId" (.str uid) [("customAttributes", .str text)] =
      Json.Members.ofPairs [("localId", .str uid), ("customAttributes", .str text)] := by
  have hinsert : Json.Members.insert "localId" (.str uid) [("customAttributes", .str text)] =
      Json.Members.ofPairs [("customAttributes", .str text), ("localId", .str uid)] := by
    rw [Json.Members.ofPairs, List.foldl_cons, List.foldl_cons, List.foldl_nil]
    rfl
  have hswap : [("localId", Json.str uid), ("customAttributes", .str text)].Perm
      (Json.Members.ofPairs [("customAttributes", .str text), ("localId", .str uid)]) :=
    (List.Perm.swap _ _ _).trans (Json.Members.ofPairs_perm (by simp)).symm
  rw [hinsert, Json.Members.ofPairs_of_perm (Json.Members.pairwise_ofPairs _) hswap]

/-- **A change of nothing but the claims replaces them.** -/
theorem update_onlyClaims :
    update c uid (.onlyClaims claims) = setCustomClaims c uid (some claims) := by
  rw [update, setCustomClaims, request_onlyClaims, Option.getD_some]
  cases checkUid uid with
  | error e => rfl
  | ok _ =>
      cases claimsText claims with
      | error e => rfl
      | ok text =>
          rw [Except.map, Admin.accept_ok_bind, Admin.accept_ok_bind, Admin.accept_ok_bind,
            Admin.accept_ok_bind, insert_localId]

theorem setCustomClaims_none : setCustomClaims c uid none = setCustomClaims c uid (some []) := rfl

/-! ### Refusals -/

/-- Claims have one first reserved name at most. -/
theorem IsFirstReserved.unique {name name' : String} (h : IsFirstReserved claims name)
    (h' : IsFirstReserved claims name') : name = name' := by
  obtain ⟨v, hv⟩ := h.claimed
  obtain ⟨v', hv'⟩ := h'.claimed
  have hle := Utf8.ofString_le_ofString_iff.mp (h.first _ hv' h'.reserved)
  have hge := Utf8.ofString_le_ofString_iff.mp (h'.first _ hv h.reserved)
  exact String.le_antisymm hle hge

/-- The first reserved claim that is found has the first reserved name. -/
theorem isFirstReserved_of_find? (hordered : claims.Pairwise (·.1 < ·.1)) {name : String} {v : Json}
    (h : claims.find? (fun claim => reservedClaims.contains claim.1) = some (name, v)) :
    IsFirstReserved claims name := by
  obtain ⟨hreserved, before, after, hsplit, hbefore⟩ := List.find?_eq_some_iff_append.mp h
  refine ⟨⟨v, List.mem_of_find?_eq_some h⟩, List.contains_iff_mem.mp hreserved, ?_⟩
  intro claim hclaim hclaim'
  rw [hsplit] at hordered hclaim
  rcases List.mem_append.mp hclaim with hmem | hmem
  · exact absurd hclaim' (by simpa using hbefore claim hmem)
  · rw [Utf8.ofString_le_ofString_iff]
    rcases List.mem_cons.mp hmem with rfl | hmem
    · exact String.le_refl _
    · have hascend := (List.pairwise_append.mp hordered).2.1
      have hlt : name < claim.1 := (List.pairwise_cons.mp hascend).1 claim hmem
      exact String.not_lt.mp (String.lt_asymm hlt)

/-- The reason to refuse claims, whoever has them. -/
theorem claimsText_eq_error_iff (hordered : claims.Pairwise (·.1 < ·.1)) :
    claimsText claims = .error reason ↔
      (∃ name, IsFirstReserved claims name ∧ reason = .reservedClaim name) ∨
      (∀ claim ∈ claims, claim.1 ∉ reservedClaims) ∧ 1000 < (Json.obj claims).bytes.length ∧
        reason = .oversizedClaims := by
  unfold claimsText
  split
  · next name v hfind =>
    have hfirst := isFirstReserved_of_find? hordered hfind
    have hclaimed : ¬ ∀ claim ∈ claims, claim.1 ∉ reservedClaims :=
      fun hfree => hfree _ (List.mem_of_find?_eq_some hfind) hfirst.reserved
    constructor
    · intro h
      exact Or.inl ⟨name, hfirst, (Except.error.inj h).symm⟩
    · rintro (⟨name', hfirst', rfl⟩ | ⟨hfree, -⟩)
      · rw [hfirst.unique hfirst']
      · exact absurd hfree hclaimed
  · next hfind =>
    have hfree : ∀ claim ∈ claims, claim.1 ∉ reservedClaims := by
      simpa [List.find?_eq_none] using hfind
    have hnone : ¬ ∃ name, IsFirstReserved claims name ∧ reason = .reservedClaim name := by
      rintro ⟨name, ⟨⟨v, hv⟩, hreserved, -⟩, -⟩
      exact hfree _ hv hreserved
    rw [or_iff_right hnone, and_iff_right hfree]
    by_cases hsize : 1000 < (Json.obj claims).bytes.length
    · simp [maxClaimsSize, hsize, @eq_comm _ reason]
    · simp [maxClaimsSize, hsize]

theorem isUid_iff : IsUid uid ↔ ¬ (uid = "" ∨ 128 < uid.length) := by
  rw [IsUid, not_or, Nat.not_lt]

/-- With a proper id, claims are refused for what is wrong with them. -/
theorem claimsRefusal_iff_of_isUid (hordered : claims.Pairwise (·.1 < ·.1)) (huid : IsUid uid) :
    ClaimsRefusal uid claims reason ↔ claimsText claims = .error reason := by
  rw [claimsText_eq_error_iff hordered]
  constructor
  · rintro (h | ⟨-, hfirst⟩ | ⟨-, hfree, hsize⟩)
    · exact absurd h (isUid_iff.mp huid)
    · exact Or.inl ⟨_, hfirst, rfl⟩
    · exact Or.inr ⟨hfree, hsize, rfl⟩
  · rintro (⟨name, hfirst, rfl⟩ | ⟨hfree, hsize, rfl⟩)
    · exact .reserved huid hfirst
    · exact .size huid hfree hsize

/-- The id of the user is checked before the claims. -/
theorem claimsRefusal_iff_of_not_isUid (huid : ¬ IsUid uid) :
    ClaimsRefusal uid claims reason ↔ reason = .badUid := by
  constructor
  · rintro (h | ⟨h, -⟩ | ⟨h, -⟩)
    · rfl
    · exact absurd h huid
    · exact absurd h huid
  · rintro rfl
    exact .uid (not_not.mp (mt isUid_iff.mpr huid))

/-- **The checks of claims** are made in this order. -/
theorem setCustomClaims_eq_error_iff (hordered : claims.Pairwise (·.1 < ·.1)) :
    setCustomClaims c uid (some claims) = .error (.invalidArgument reason) ↔
      ClaimsRefusal uid claims reason := by
  by_cases huid : IsUid uid
  · obtain ⟨⟨⟩, hcheck⟩ := passes_checkUid.mpr huid
    rw [claimsRefusal_iff_of_isUid hordered huid, setCustomClaims, hcheck, Admin.accept_ok_bind,
      Option.getD_some]
    exact Admin.accept_plan_refused_iff
  · have hcheck : checkUid uid = .error .badUid := checkUid_eq_error_iff.mpr ⟨huid, rfl⟩
    have hplan : setCustomClaims c uid (some claims) = .error (.invalidArgument .badUid) := by
      rw [setCustomClaims, hcheck]
      rfl
    rw [hplan, claimsRefusal_iff_of_not_isUid huid]
    simp [@eq_comm _ reason]

/-- Claims that are as they have to be are not refused. -/
theorem not_exists_claimsRefusal_iff (hordered : claims.Pairwise (·.1 < ·.1)) :
    (¬ ∃ reason, ClaimsRefusal uid claims reason) ↔ IsUid uid ∧ AreClaims claims := by
  constructor
  · intro hnone
    have huid : IsUid uid := isUid_iff.mpr fun h => hnone ⟨_, .uid h⟩
    refine ⟨huid, passes_claimsText.mp ?_⟩
    cases htext : claimsText claims with
    | ok text => exact Admin.passes_ok text
    | error reason =>
        exact absurd ⟨reason, (claimsRefusal_iff_of_isUid hordered huid).mpr htext⟩ hnone
  · rintro ⟨⟨hne, hlength⟩, hfree, hsize⟩ ⟨reason, h | ⟨-, hfirst⟩ | ⟨-, -, h⟩⟩
    · exact h.elim hne (Nat.not_lt.mpr hlength)
    · obtain ⟨v, hv⟩ := hfirst.claimed
      exact hfree _ hv hfirst.reserved
    · exact absurd hsize (Nat.not_le.mpr h)

/-- What is wrong with claims, whichever is found first. -/
theorem exists_claimsRefusal_iff (hordered : claims.Pairwise (·.1 < ·.1)) :
    (∃ reason, ClaimsRefusal uid claims reason) ↔ (uid = "" ∨ 128 < uid.length) ∨
      (∃ claim ∈ claims, claim.1 ∈ reservedClaims) ∨ 1000 < (Json.obj claims).bytes.length := by
  rw [← not_iff_not, not_exists_claimsRefusal_iff hordered, IsUid, AreClaims]
  simp only [not_or, not_exists, not_and, Nat.not_lt, ne_eq]

/-! ### What is sent -/

/-- The body of a replacement: the text of the claims and the id of the user. -/
def replacementBody (uid : String) (claims : Json.Members) : Json :=
  Json.object [("localId", .str uid), ("customAttributes", .str (sentClaims claims))]

/-- What accepted claims are sent with. -/
theorem setCustomClaims_eq (huid : IsUid uid) (hclaims : AreClaims claims) :
    setCustomClaims c uid (some claims) = Exchange.plan .post (c.userUrl "/accounts:update") []
      (some (replacementBody uid claims)) Exchange.ignoreBody := by
  obtain ⟨⟨⟩, hcheck⟩ := passes_checkUid.mpr huid
  obtain ⟨text, htext⟩ := passes_claimsText.mpr hclaims
  rw [setCustomClaims, hcheck, Admin.accept_ok_bind, Option.getD_some, htext, Admin.accept_ok_bind,
    text_of_claimsText htext]
  rfl

/-- There is a request exactly if id and claims are as they have to be and the address is a URL with
a host. -/
theorem exists_setCustomClaims_iff : (∃ x, setCustomClaims c uid (some claims) = .ok x) ↔
    (IsUid uid ∧ AreClaims claims) ∧ Url.Locates (c.userUrl "/accounts:update") := by
  constructor
  · rintro ⟨x, hx⟩
    obtain ⟨huid, hclaims⟩ : IsUid uid ∧ AreClaims claims := by
      obtain ⟨⟨⟩, hcheck, h⟩ := of_bind_eq_ok hx
      obtain ⟨text, htext, -⟩ := of_bind_eq_ok h
      exact ⟨passes_checkUid.mp ⟨(), of_accept_eq_ok hcheck⟩,
        passes_claimsText.mp ⟨text, of_accept_eq_ok htext⟩⟩
    rw [setCustomClaims_eq huid hclaims] at hx
    exact ⟨⟨huid, hclaims⟩, Admin.exists_plan_iff.mp ⟨x, hx⟩⟩
  · rintro ⟨⟨huid, hclaims⟩, hlocates⟩
    rw [setCustomClaims_eq huid hclaims]
    exact Admin.exists_plan_iff.mpr hlocates

/-- The request of a replacement. -/
theorem of_setCustomClaims_eq_ok {x : Exchange Unit}
    (h : setCustomClaims c uid (some claims) = .ok x) :
    ∃ u, Url.parse (c.userUrl "/accounts:update") = .ok u ∧ x.request =
      ⟨.post, (Admin.sentUrl u).addQuery [], some "application/json",
        (replacementBody uid claims).bytes⟩ := by
  obtain ⟨⟨huid, hclaims⟩, u, hu, hhost⟩ := exists_setCustomClaims_iff.mp ⟨x, h⟩
  rw [setCustomClaims_eq huid hclaims, Admin.plan_of_parse _ _ _ _ hu hhost] at h
  obtain rfl := Except.ok.inj h
  exact ⟨u, hu, rfl⟩

/-- **Both ways to replace claims are one.**  Over every transport, a change of nothing but the claims
sends what their own operation sends, and answers the same; and no claims are the empty claims.  They
are refused, with nothing sent, for the first thing that is wrong with the id of the user or with the
claims, and for nothing else; all that is sent is one request with the id and the text of the claims. -/
theorem claims_replaced_alike {σ : Type} (c : Client) (uid : String)
    (hordered : claims.Pairwise (·.1 < ·.1)) (send : Transport σ) (s : σ) :
    Admin.run (update c uid (.onlyClaims claims)) send.recorded (s, []) =
      Admin.run (setCustomClaims c uid (some claims)) send.recorded (s, []) ∧
    Admin.run (setCustomClaims c uid none) send.recorded (s, []) =
      Admin.run (setCustomClaims c uid (some [])) send.recorded (s, []) ∧
    (∀ reason, Admin.run (setCustomClaims c uid (some claims)) send.recorded (s, []) =
        (.error (.invalidArgument reason), s, []) ↔ ClaimsRefusal uid claims reason) ∧
    ((∃ reason, ClaimsRefusal uid claims reason) ↔ (uid = "" ∨ 128 < uid.length) ∨
      (∃ claim ∈ claims, claim.1 ∈ reservedClaims) ∨ 1000 < (Json.obj claims).bytes.length) ∧
    ((Admin.run (setCustomClaims c uid (some claims)) send.recorded (s, [])).2.2 ≠ [] ↔
      (¬ ∃ reason, ClaimsRefusal uid claims reason) ∧
        Url.Locates (c.userUrl "/accounts:update")) ∧
    ∀ request response, (request, response) ∈
        (Admin.run (setCustomClaims c uid (some claims)) send.recorded (s, [])).2.2 →
      ∃ u, Url.parse (c.userUrl "/accounts:update") = .ok u ∧ request =
        ⟨.post, (Admin.sentUrl u).addQuery [], some "application/json",
          (replacementBody uid claims).bytes⟩ := by
  refine ⟨?_, ?_, ?_, exists_claimsRefusal_iff hordered, ?_, ?_⟩
  · rw [update_onlyClaims]
  · rw [setCustomClaims_none]
  · intro reason
    rw [Admin.refused_unsent_iff, setCustomClaims_eq_error_iff hordered]
  · rw [Admin.sent_iff, exists_setCustomClaims_iff, not_exists_claimsRefusal_iff hordered]
  · intro request response hsent
    obtain ⟨x, hx, rfl⟩ := Admin.of_mem_sent hsent
    exact of_setCustomClaims_eq_ok hx

/-- Of two reserved claims, in whichever way they are given, the first one is told. -/
theorem first_reserved_claim_told :
    let c : Client := ⟨"p", none, "http://h", "http://h"⟩
    let claims : Json.Members := [("a", .null), ("exp", .bool true), ("sub", .null)]
    let noAnswer : Transport Unit := fun _ s => (none, s)
    claims.Pairwise (·.1 < ·.1) ∧
      Admin.run (setCustomClaims c "u" (some claims)) noAnswer.recorded ((), []) =
        (.error (.invalidArgument (.reservedClaim "exp")), (), []) ∧
      Admin.run (update c "u" (.onlyClaims claims)) noAnswer.recorded ((), []) =
        (.error (.invalidArgument (.reservedClaim "exp")), (), []) := by
  intro c claims noAnswer
  have hordered : claims.Pairwise (·.1 < ·.1) := by decide
  obtain ⟨hsame, -, hrefused, -⟩ := claims_replaced_alike c "u" hordered noAnswer ()
  have hfirst : IsFirstReserved claims "exp" := ⟨⟨.bool true, by simp [claims]⟩, by decide, by decide⟩
  have hset := (hrefused _).mpr (.reserved ⟨by decide, by decide⟩ hfirst)
  exact ⟨hordered, hset, hsame.trans hset⟩

end AccountWire.User
