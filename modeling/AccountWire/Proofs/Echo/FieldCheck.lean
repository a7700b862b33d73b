import AccountWire.Echo.Mismatches
import AccountWire.Proofs.Json.Equality

/-!
# What the checks of a body find

A body is checked against a value in two ways: octet by octet, and field by field.  The check of
fields finds exactly the members of the expectation that the body does not have with an equal value,
each of them once and in their order (`failures_checkJsonFields`); an expectation that is no object
and a body that cannot be read are one failure each.  Nothing that was recorded before is lost.

A body that is the text of an object without doubles is read as this object, if the object is not too
deep; so a body that passes octet by octet has all of its fields (`body_check_implies_field_check`).
-/

namespace AccountWire.Echo

variable {m : Mismatches} {context : String} {r : Captured} {words : Bytes → String}

/-! ### The body as a value -/

/-- A body is a value exactly if it can be read as this value. -/
theorem Captured.json_eq_ok_iff {body : Json} :
    r.json = .ok body ↔ Json.ofBytes? r.body = some body := by
  unfold Captured.json
  cases Json.ofBytes? r.body <;> simp

/-- What was read of a body has its members in order. -/
theorem Captured.isOrdered_of_json {body : Json} (h : r.json = .ok body) :
    body.isOrdered = true :=
  Json.isOrdered_of_ofBytes? (json_eq_ok_iff.mp h)

namespace Mismatches

/-! ### Checks that record nothing -/

theorem eq_iff {m' : Mismatches} : m' = m ↔ m'.failures = m.failures := by
  cases m
  cases m'
  simp

/-- A check adds its failure unless its condition holds. -/
theorem failures_check {condition : Bool} {failure : String} :
    (m.check condition failure).failures =
      m.failures ++ if condition then [] else [failure] := by
  cases condition <;> simp [check, record]

/-- The exact check of a body adds nothing exactly if the octets are those of the value. -/
theorem checkJsonBody_eq_self_iff {want : Json} :
    m.checkJsonBody context r want = m ↔ r.body = want.bytes := by
  rw [eq_iff, checkJsonBody, failures_check]
  by_cases h : r.body = want.bytes
  · simp [h]
  · simp [h, Ne.symm h]

/-! ### Fields -/

/-- A row of checks adds the failures of those that are not met, in their order. -/
theorem failures_foldl_check {α : Type} (items : List α) (holds : α → Bool) (failure : α → String)
    (m : Mismatches) :
    (items.foldl (fun m a => m.check (holds a) (failure a)) m).failures =
      m.failures ++ (items.filter (!holds ·)).map failure := by
  induction items generalizing m with
  | nil => simp
  | cons a items ih =>
      rw [List.foldl_cons, ih, failures_check, List.append_assoc, List.filter_cons]
      cases holds a <;> rfl

/-- The words for a member that the body does not have with an equal value. -/
def missedFailure (context : String) (body : Json) (field : String × Json) : String :=
  fieldFailure context (body.member? field.1) field.1 field.2

/-- A field is found exactly if the body has a member of its name with an equal value. -/
theorem hasField_iff {body : Json} (h : body.isOrdered = true) {field : String × Json} :
    hasField body field.1 field.2 = true ↔ body.HasMember field := by
  rw [Json.hasMember_iff h, hasField]
  cases body.member? field.1 <;> simp

/-- **The check of fields** adds a failure for each member that the body does not have. -/
theorem failures_checkJsonFields {body : Json} {fields : Json.Members} (h : r.json = .ok body) :
    (m.checkJsonFields context r (.obj fields) words).failures =
      m.failures ++ (fields.filter (¬ body.HasMember ·)).map (missedFailure context body) := by
  have hordered := Captured.isOrdered_of_json h
  have hmissed : ∀ field ∈ fields,
      (!hasField body field.1 field.2) = decide (¬ body.HasMember field) := by
    intro field _
    rw [Bool.eq_iff_iff, Bool.not_eq_true', Bool.eq_false_iff, decide_eq_true_iff, Ne,
      hasField_iff hordered]
  simp only [checkJsonFields, h]
  rw [← List.filter_congr hmissed]
  exact failures_foldl_check fields (fun field => hasField body field.1 field.2)
    (missedFailure context body) m

/-- The words for a body that cannot be read, written out. -/
theorem unreadableFailure_eq (context words : String) :
    unreadableFailure context words = context ++ " body is not JSON: JSON error: " ++ words := by
  have hmessage : " body is not JSON: " ++ Error.notJson.message ++ ": " =
      " body is not JSON: JSON error: " := by decide +kernel
  simp only [unreadableFailure, ← hmessage, String.append_assoc]

/-- A body that cannot be read is one failure, with the words of its reader. -/
theorem failures_checkJsonFields_of_unreadable {want : Json} (h : ∀ body, r.json ≠ .ok body) :
    (m.checkJsonFields context r want words).failures =
      m.failures ++ [unreadableFailure context (words r.body)] := by
  cases hread : r.json with
  | ok body => exact absurd hread (h body)
  | error e => simp only [checkJsonFields, hread, record]

/-- An expectation that is no object is one failure. -/
theorem failures_checkJsonFields_of_not_object {want body : Json} (h : r.json = .ok body)
    (hwant : ∀ fields, want ≠ .obj fields) :
    (m.checkJsonFields context r want words).failures =
      m.failures ++ [context ++ " expectation is not a JSON object"] := by
  cases want with
  | obj fields => exact absurd rfl (hwant fields)
  | _ => simp only [checkJsonFields, h, record]

/-- Nothing is recorded when the body has every member. -/
theorem checkJsonFields_eq_self {body : Json} {fields : Json.Members} (h : r.json = .ok body)
    (hfields : ∀ field ∈ fields, body.HasMember field) :
    m.checkJsonFields context r (.obj fields) words = m := by
  rw [eq_iff, failures_checkJsonFields h, List.filter_eq_nil_iff.mpr (by simpa using hfields)]
  simp

/-- **The check of fields is the test for a part** of the top level.  It records nothing exactly when
the body can be read, the expectation is an object, and the body has each of its members with an equal
value.  Otherwise it adds one failure for each member that the body does not have, in the order of
their names, or the one failure that there is nothing to compare; what was recorded before stays.  All
this is so whatever words the reader has for a body that it cannot read. -/
theorem field_check_is_subset_test (m : Mismatches) (context : String) (r : Captured) {want : Json}
    (hwant : want.isOrdered = true) (words : Bytes → String) :
    (m.checkJsonFields context r want words = m ↔
      ∃ body fields, r.json = .ok body ∧ want = .obj fields ∧
        ∀ field ∈ fields, body.HasMember field) ∧
    (∀ body fields, r.json = .ok body → want = .obj fields →
      (fields.filter (¬ body.HasMember ·)).Pairwise (·.1 < ·.1) ∧
      (m.checkJsonFields context r want words).failures =
        m.failures ++ (fields.filter (¬ body.HasMember ·)).map (missedFailure context body)) ∧
    ((∀ body, r.json ≠ .ok body) → (m.checkJsonFields context r want words).failures =
      m.failures ++ [context ++ " body is not JSON: JSON error: " ++ words r.body]) ∧
    ∀ body, r.json = .ok body → (∀ fields, want ≠ .obj fields) →
      (m.checkJsonFields context r want words).failures =
        m.failures ++ [context ++ " expectation is not a JSON object"] := by
  refine ⟨⟨?_, ?_⟩, ?_, ?_, fun body => failures_checkJsonFields_of_not_object⟩
  · intro hself
    rw [eq_iff] at hself
    by_cases hread : ∃ body, r.json = .ok body
    · obtain ⟨body, hbody⟩ := hread
      by_cases hobject : ∃ fields, want = .obj fields
      · obtain ⟨fields, rfl⟩ := hobject
        rw [failures_checkJsonFields hbody] at hself
        exact ⟨body, fields, hbody, rfl, by simpa using hself⟩
      · rw [failures_checkJsonFields_of_not_object hbody (not_exists.mp hobject)] at hself
        exact absurd hself (by simp)
    · rw [failures_checkJsonFields_of_unreadable (not_exists.mp hread)] at hself
      exact absurd hself (by simp)
  · rintro ⟨body, fields, hbody, rfl, hfields⟩
    exact checkJsonFields_eq_self hbody hfields
  · rintro body fields hbody rfl
    exact ⟨(Json.isOrdered_obj.mp hwant).1.filter _, failures_checkJsonFields hbody⟩
  · intro hunreadable
    rw [failures_checkJsonFields_of_unreadable hunreadable, unreadableFailure_eq]

/-- A request of which only the body matters. -/
def sending (body : Bytes) : Captured := ⟨0, "POST", "/", "/", none, [], body⟩

/-- An integer is not the double of the same value, and null is no value for a member that is not
there. -/
theorem two_fields_missed :
    let body : Json := .obj [("a", .arr [.ofWord 0]), ("b", .ofWord 2), ("d", .null)]
    let two : Json := .num (.float ⟨false, 0x10000000000000, -51⟩)
    let want : Json := .obj [("a", .arr [.ofWord 0]), ("b", two), ("c", .null)]
    want.isOrdered = true ∧
      ((⟨["earlier"]⟩ : Mismatches).checkJsonFields "T" (sending body.bytes) want
        fun _ => "EOF").failures =
        ["earlier", "T request(\"b\") = Some(Number(2)); want = 2.0",
          "T request(\"c\") = None; want = null"] := by
  intro body two want
  have hwant : want.isOrdered = true := by decide +kernel
  have hordered : body.isOrdered = true := by decide +kernel
  have hbody : (sending body.bytes).json = .ok body :=
    Captured.json_eq_ok_iff.mpr ((Json.ofBytes?_bytes hordered rfl).trans (if_pos (by decide)))
  obtain ⟨-, hfields, -⟩ :=
    field_check_is_subset_test ⟨["earlier"]⟩ "T" (sending body.bytes) hwant fun _ => "EOF"
  refine ⟨hwant, (hfields _ _ hbody rfl).2.trans ?_⟩
  decide +kernel

/-! ### Bodies that are compared octet by octet -/

/-- **The exact check of a body is the stronger one.**  When the octets of a body are those of an
object without doubles, then the body has all fields of this object, and of every object that has
some of its members; unless the object is nested deeper than a reader goes: then the body cannot be
read, and the failure says so in the words of the reader. -/
theorem body_check_implies_field_check {m m' : Mismatches} {context context' : String} {r : Captured}
    {fields : Json.Members} (hordered : (Json.obj fields).isOrdered = true)
    (hexact : (Json.obj fields).isExact = true)
    (hbody : m.checkJsonBody context r (.obj fields) = m) (words : Bytes → String) :
    ((Json.obj fields).depth ≤ 127 → m'.checkJsonFields context' r (.obj fields) words = m' ∧
      ∀ kept, kept.Sublist fields → m'.checkJsonFields context' r (.obj kept) words = m') ∧
    (127 < (Json.obj fields).depth → (m'.checkJsonFields context' r (.obj fields) words).failures =
      m'.failures ++ [context' ++ " body is not JSON: JSON error: " ++ words r.body]) := by
  have hread : Json.ofBytes? r.body =
      if (Json.obj fields).depth ≤ 127 then some (.obj fields) else none := by
    rw [checkJsonBody_eq_self_iff.mp hbody, Json.ofBytes?_bytes hordered hexact]
    rfl
  constructor
  · intro hdepth
    rw [if_pos hdepth] at hread
    have hkept : ∀ kept, kept.Sublist fields →
        m'.checkJsonFields context' r (.obj kept) words = m' := by
      intro kept hkept
      refine checkJsonFields_eq_self (Captured.json_eq_ok_iff.mpr hread) ?_
      intro field hfield
      exact Json.hasMember_obj.mpr ⟨field, hkept.subset hfield, rfl, rfl⟩
    exact ⟨hkept fields (List.Sublist.refl fields), hkept⟩
  · intro hdeep
    rw [if_neg (Nat.not_le.mpr hdeep)] at hread
    rw [← unreadableFailure_eq]
    refine failures_checkJsonFields_of_unreadable ?_
    intro body hbody
    rw [Captured.json_eq_ok_iff, hread] at hbody
    cases hbody

/-- The ends of the integers, an escaped text and a name that is escaped. -/
theorem fields_of_exact_body_found :
    let least : Json := .num (.int (-0x8000000000000000) (by decide))
    let fields : Json.Members :=
      [("\n", .str "\"\u0001\\é"), ("n", .arr [least, .ofWord 0xFFFFFFFFFFFFFFFF]), ("o", .obj [])]
    let r := sending (Json.obj fields).bytes
    (Json.obj fields).isOrdered = true ∧ (Json.obj fields).isExact = true ∧
      (Json.obj fields).depth ≤ 127 ∧ empty.checkJsonBody "T" r (.obj fields) = empty ∧
      empty.checkJsonFields "T" r (.obj (fields.drop 1)) (fun _ => "EOF") = empty := by
  intro least fields r
  have hordered : (Json.obj fields).isOrdered = true := by decide +kernel
  have hexact : (Json.obj fields).isExact = true := by decide +kernel
  have hdepth : (Json.obj fields).depth ≤ 127 := by decide +kernel
  have hbody : empty.checkJsonBody "T" r (.obj fields) = empty :=
    checkJsonBody_eq_self_iff.mpr rfl
  exact ⟨hordered, hexact, hdepth, hbody,
    ((body_check_implies_field_check hordered hexact hbody fun _ => "EOF").1 hdepth).2 _
      (List.drop_sublist 1 fields)⟩

end Mismatches

end AccountWire.Echo
