import AccountWire.Proofs.Json.Depth

/-!
# Equal values

Two values are equal when they are the same but for the signs of zeros (`same_iff`): an integer never
equals a double, whatever its value, and members are compared in their order.  This order says
nothing in a value that was read, since its members ascend (`isOrdered_of_ofBytes?`); such a value
has a member when it lists one of the same name with an equal value (`hasMember_iff`).
-/

namespace AccountWire

/-- A double, zero without its sign. -/
def Binary64.unsignedZero (x : Binary64) : Binary64 :=
  if x.mantissa = 0 then { x with negative := false } else x

/-- Doubles are the same number exactly if they are equal up to the sign of zero. -/
theorem Binary64.sameNumber_iff {x y : Binary64} :
    x.sameNumber y = true ↔ x.unsignedZero = y.unsignedZero := by
  cases x
  cases y
  grind [sameNumber, unsignedZero]

namespace Json

mutual

/-- A value, the zeros among its doubles without their signs. -/
def unsignedZeros : Json → Json
  | .num (.float x) => .num (.float x.unsignedZero)
  | .num (.int n h) => .num (.int n h)
  | .arr items => .arr (unsignedItems items)
  | .obj members => .obj (unsignedMembers members)
  | .null => .null
  | .bool b => .bool b
  | .str s => .str s

/-- Items, the zeros among their doubles without their signs. -/
def unsignedItems : List Json → List Json
  | [] => []
  | v :: r => unsignedZeros v :: unsignedItems r

/-- Members, the zeros among their doubles without their signs. -/
def unsignedMembers : List (String × Json) → List (String × Json)
  | [] => []
  | (k, v) :: r => (k, unsignedZeros v) :: unsignedMembers r

end

mutual

/-- **Equal values** are the same but for the signs of zeros. -/
theorem same_iff (v w : Json) : v.same w = true ↔ v.unsignedZeros = w.unsignedZeros := by
  match v with
  | .null => rcases w with _ | _ | (_ | _) | _ | _ | _ <;> simp [same, unsignedZeros]
  | .bool b => rcases w with _ | _ | (_ | _) | _ | _ | _ <;> simp [same, unsignedZeros]
  | .num (.int n h) =>
      rcases w with _ | _ | (_ | _) | _ | _ | _ <;> simp [same, Number.same, unsignedZeros]
  | .num (.float x) =>
      rcases w with _ | _ | (_ | _) | _ | _ | _ <;>
        simp [same, Number.same, unsignedZeros, Binary64.sameNumber_iff]
  | .str s => rcases w with _ | _ | (_ | _) | _ | _ | _ <;> simp [same, unsignedZeros]
  | .arr vs =>
      rcases w with _ | _ | (_ | _) | _ | ws | _ <;>
        simp [same, unsignedZeros, sameItems_iff vs]
  | .obj ms =>
      rcases w with _ | _ | (_ | _) | _ | _ | ns <;>
        simp [same, unsignedZeros, sameMembers_iff ms]

/-- Items are the same exactly if they are equal up to the signs of zeros. -/
theorem sameItems_iff (vs ws : List Json) :
    sameItems vs ws = true ↔ unsignedItems vs = unsignedItems ws := by
  match vs, ws with
  | [], [] => simp [sameItems]
  | [], _ :: _ => simp [sameItems, unsignedItems]
  | _ :: _, [] => simp [sameItems, unsignedItems]
  | v :: vs, w :: ws =>
      simp [sameItems, unsignedItems, same_iff v, sameItems_iff vs]

theorem sameMembers_iff (ms ns : Members) :
    sameMembers ms ns = true ↔ unsignedMembers ms = unsignedMembers ns := by
  match ms, ns with
  | [], [] => simp [sameMembers]
  | [], _ :: _ => simp [sameMembers, unsignedMembers]
  | _ :: _, [] => simp [sameMembers, unsignedMembers]
  | (k, v) :: ms, (l, w) :: ns =>
      simp [sameMembers, unsignedMembers, same_iff v, sameMembers_iff ms, and_assoc]

end

/-! ### Values that were read -/

mutual

/-- Whatever the order of its text, a value is read with its members in ascending order. -/
theorem isOrdered_of_ofTree? (t : Tree) {d : Nat} {v : Json} (h : ofTree? d t = some v) :
    v.isOrdered = true := by
  match t with
  | .null =>
      obtain rfl := Option.some.inj h
      rfl
  | .bool b =>
      obtain rfl := Option.some.inj h
      rfl
  | .number x =>
      obtain ⟨n, -, rfl⟩ := Option.map_eq_some_iff.mp h
      rfl
  | .string x =>
      obtain ⟨s, -, rfl⟩ := Option.map_eq_some_iff.mp h
      rfl
  | .arr ts =>
      cases d with
      | zero => cases h
      | succ d =>
          obtain ⟨vs, hvs, rfl⟩ := Option.map_eq_some_iff.mp h
          exact isOrdered_arr.mpr (isOrdered_of_ofTrees? ts hvs)
  | .obj ts =>
      cases d with
      | zero => cases h
      | succ d =>
          obtain ⟨ps, hps, rfl⟩ := Option.map_eq_some_iff.mp h
          have hvalues := isOrdered_of_ofMembers? ts hps
          exact isOrdered_obj.mpr ⟨Members.pairwise_ofPairs ps,
            fun m hm => hvalues m (Members.mem_of_mem_ofPairs hm)⟩

/-- Items that were read have their members in order. -/
theorem isOrdered_of_ofTrees? (ts : List Tree) {d : Nat} {vs : List Json}
    (h : ofTrees? d ts = some vs) : ∀ v ∈ vs, v.isOrdered = true := by
  match ts with
  | [] =>
      obtain rfl := Option.some.inj h
      simp
  | t :: ts =>
      obtain ⟨v, hv, h⟩ := Option.bind_eq_some_iff.mp h
      obtain ⟨rest, hrest, h⟩ := Option.bind_eq_some_iff.mp h
      obtain rfl := Option.some.inj h
      exact List.forall_mem_cons.mpr ⟨isOrdered_of_ofTree? t hv, isOrdered_of_ofTrees? ts hrest⟩

/-- Members that were read have values with their members in order. -/
theorem isOrdered_of_ofMembers? (ts : List (StringText × Tree)) {d : Nat}
    {ps : List (String × Json)} (h : ofMembers? d ts = some ps) :
    ∀ p ∈ ps, p.2.isOrdered = true := by
  match ts with
  | [] =>
      obtain rfl := Option.some.inj h
      simp
  | (k, t) :: ts =>
      obtain ⟨name, v, rest, -, hv, hrest, rfl⟩ := ofMembers?_cons.mp h
      exact List.forall_mem_cons.mpr
        ⟨isOrdered_of_ofTree? t hv, isOrdered_of_ofMembers? ts hrest⟩

end

/-- The members of all objects of a value that was read ascend. -/
theorem isOrdered_of_ofBytes? {bs : Bytes} {v : Json} (h : ofBytes? bs = some v) :
    v.isOrdered = true := by
  obtain ⟨t, -, ht⟩ := Option.bind_eq_some_iff.mp h
  exact isOrdered_of_ofTree? t ht

/-! ### Members with equal values -/

/-- A value is an object that lists a member of the name of `m` with an equal value. -/
def HasMember (v : Json) (m : String × Json) : Prop :=
  ∃ ms, v = .obj ms ∧ ∃ n ∈ ms, n.1 = m.1 ∧ n.2.unsignedZeros = m.2.unsignedZeros

/-- An object has a member exactly if it lists one of the name with an equal value. -/
theorem hasMember_obj {ms : Members} {m : String × Json} :
    (Json.obj ms).HasMember m ↔
      ∃ n ∈ ms, n.1 = m.1 ∧ n.2.unsignedZeros = m.2.unsignedZeros := by
  simp [HasMember]

instance (v : Json) (m : String × Json) : Decidable (v.HasMember m) :=
  match v with
  | .obj ms => decidable_of_iff (∃ n ∈ ms, n.1 = m.1 ∧ n.2.same m.2 = true)
      (by simp only [hasMember_obj, same_iff])
  | .null | .bool _ | .num _ | .str _ | .arr _ => isFalse (by simp [HasMember])

/-- In a value that was read, members are found by name. -/
theorem hasMember_iff {v : Json} (h : v.isOrdered = true) {m : String × Json} :
    v.HasMember m ↔ ∃ w, v.member? m.1 = some w ∧ w.same m.2 = true := by
  match v with
  | .obj ms =>
      have hascend := (isOrdered_obj.mp h).1
      simp only [hasMember_obj, member?, Members.get?_eq_some_iff hascend, same_iff, Prod.exists]
      constructor
      · rintro ⟨name, w, hmem, rfl, hw⟩
        exact ⟨w, hmem, hw⟩
      · rintro ⟨w, hmem, hw⟩
        exact ⟨_, w, hmem, rfl, hw⟩
  | .null | .bool _ | .num _ | .str _ | .arr _ => simp [HasMember, member?]

end Json

end AccountWire
