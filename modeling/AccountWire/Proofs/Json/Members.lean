import AccountWire.Json.Basic

/-!
# Members by name

Members that are put together one by one ascend strictly by name (`pairwise_ofPairs`), and each is
found under its name (`get?_ofPairs`, `get?_ofPresent`).  `every` says of a value that a property
holds of it and of all values inside it; two such properties are that the members of all objects
ascend (`isOrdered`) and that all numbers are integers (`isExact`).  Equality of values is
reflexive (`same_self`).
-/

namespace AccountWire.Json

namespace Members

variable {name k : String} {v : Json} {ms : Members}

/-- **Where a member is added**: before the first one of a greater name, in the place of the one of
its name, or further down. -/
theorem insert_cons (name : String) (v : Json) (m : String × Json) (r : Members) :
    (name < m.1 ∧ insert name v (m :: r) = (name, v) :: m :: r) ∨
      (m.1 < name ∧ insert name v (m :: r) = m :: insert name v r) ∨
      (name = m.1 ∧ insert name v (m :: r) = (name, v) :: r) := by
  by_cases hlt : name < m.1
  · exact Or.inl ⟨hlt, by rw [insert, if_pos hlt]⟩
  · by_cases hgt : m.1 < name
    · exact Or.inr (Or.inl ⟨hgt, by rw [insert, if_neg hlt, if_pos hgt]⟩)
    · have heq : name = m.1 := String.le_antisymm hgt hlt
      exact Or.inr (Or.inr ⟨heq, by rw [insert, if_neg hlt, if_neg hgt]⟩)

/-- Insertion adds the one member and no other. -/
theorem mem_insert {m : String × Json} (h : m ∈ insert name v ms) : m = (name, v) ∨ m ∈ ms := by
  induction ms with
  | nil => exact Or.inl (List.mem_singleton.mp h)
  | cons p r ih =>
      rcases insert_cons name v p r with ⟨-, heq⟩ | ⟨-, heq⟩ | ⟨-, heq⟩
      · rw [heq] at h
        exact List.mem_cons.mp h
      · rw [heq] at h
        rcases List.mem_cons.mp h with rfl | h
        · exact Or.inr List.mem_cons_self
        · rcases ih h with h | h
          · exact Or.inl h
          · exact Or.inr (List.mem_cons_of_mem _ h)
      · rw [heq] at h
        rcases List.mem_cons.mp h with h | h
        · exact Or.inl h
        · exact Or.inr (List.mem_cons_of_mem _ h)

/-- Members stay in ascending order, each name once. -/
theorem pairwise_insert (name : String) (v : Json) (h : ms.Pairwise (·.1 < ·.1)) :
    (insert name v ms).Pairwise (·.1 < ·.1) := by
  induction ms with
  | nil => exact List.pairwise_singleton _ _
  | cons p r ih =>
      obtain ⟨hp, hr⟩ := List.pairwise_cons.mp h
      rcases insert_cons name v p r with ⟨hlt, heq⟩ | ⟨hlt, heq⟩ | ⟨hname, heq⟩
      · rw [heq]
        apply List.pairwise_cons.mpr ⟨?_, h⟩
        intro m hm
        rcases List.mem_cons.mp hm with rfl | hm
        · exact hlt
        · exact String.lt_trans hlt (hp m hm)
      · rw [heq]
        apply List.pairwise_cons.mpr ⟨?_, ih hr⟩
        intro m hm
        rcases mem_insert hm with rfl | hm
        · exact hlt
        · exact hp m hm
      · rw [heq]
        apply List.pairwise_cons.mpr ⟨?_, hr⟩
        intro m hm
        exact hname ▸ hp m hm

/-- A name is looked up in the first member first. -/
theorem get?_cons (k name : String) (v : Json) (ms : Members) :
    get? k ((name, v) :: ms) = if name = k then some v else get? k ms := by
  by_cases hk : name = k <;> simp [get?, hk]

theorem get?_eq_none {k : String} {ms : Members} (h : ∀ m ∈ ms, m.1 ≠ k) : get? k ms = none := by
  simpa [get?] using h

theorem mem_of_get? {k : String} {v : Json} {ms : Members} (h : get? k ms = some v) :
    (k, v) ∈ ms := by
  obtain ⟨m, hm, rfl⟩ := Option.map_eq_some_iff.mp h
  have hk : m.1 = k := by simpa using List.find?_some hm
  exact hk ▸ List.mem_of_find?_eq_some hm

/-- In ascending members, each is found under its name. -/
theorem get?_eq_some_iff {k : String} {v : Json} {ms : Members} (h : ms.Pairwise (·.1 < ·.1)) :
    get? k ms = some v ↔ (k, v) ∈ ms := by
  refine ⟨mem_of_get?, ?_⟩
  induction ms with
  | nil => exact fun hmem => absurd hmem List.not_mem_nil
  | cons m ms ih =>
      obtain ⟨hm, hms⟩ := List.pairwise_cons.mp h
      intro hmem
      rw [get?_cons]
      rcases List.mem_cons.mp hmem with rfl | hmem
      · rw [if_pos rfl]
      · have hne : m.1 ≠ k := by
          rintro rfl
          exact String.lt_irrefl _ (hm (m.1, v) hmem)
        rw [if_neg hne]
        exact ih hms hmem

/-- An added member is found, and no other is moved. -/
theorem get?_insert (k name : String) (v : Json) (ms : Members) :
    get? k (insert name v ms) = if name = k then some v else get? k ms := by
  induction ms with
  | nil => exact get?_cons k name v []
  | cons p r ih =>
      rcases insert_cons name v p r with ⟨-, heq⟩ | ⟨hlt, heq⟩ | ⟨hname, heq⟩
      · rw [heq, get?_cons]
      · rw [heq, get?_cons, get?_cons, ih]
        by_cases hk : p.1 = k
        · have hne : name ≠ k := by
            rintro rfl
            exact String.lt_irrefl _ (hk ▸ hlt)
          rw [if_pos hk, if_neg hne, if_pos hk]
        · rw [if_neg hk, if_neg hk]
      · rw [heq, get?_cons, get?_cons, ← hname]
        by_cases hk : name = k
        · rw [if_pos hk, if_pos hk]
        · rw [if_neg hk, if_neg hk, if_neg hk]

/-- The members that are made of pairs ascend by name. -/
theorem pairwise_ofPairs (ps : List (String × Json)) : (ofPairs ps).Pairwise (·.1 < ·.1) := by
  have hfold : ∀ (ps : List (String × Json)) (ms : Members), ms.Pairwise (·.1 < ·.1) →
      (ps.foldl (fun ms p => insert p.1 p.2 ms) ms).Pairwise (·.1 < ·.1) := by
    intro ps
    induction ps with
    | nil => exact fun _ h => h
    | cons p ps ih => exact fun ms h => ih _ (pairwise_insert p.1 p.2 h)
  exact hfold ps [] List.Pairwise.nil

/-- The members that are made of fields ascend by name. -/
theorem pairwise_ofPresent (fields : List (String × Option Json)) :
    (ofPresent fields).Pairwise (·.1 < ·.1) := pairwise_ofPairs _

/-- A member that is made of pairs is one of them. -/
theorem mem_of_mem_ofPairs {m : String × Json} {ps : List (String × Json)}
    (h : m ∈ ofPairs ps) : m ∈ ps := by
  have hfold : ∀ (ps : List (String × Json)) (ms : Members),
      m ∈ ps.foldl (fun ms p => insert p.1 p.2 ms) ms → m ∈ ms ∨ m ∈ ps := by
    intro ps
    induction ps with
    | nil => exact fun _ h => Or.inl h
    | cons p ps ih =>
        intro ms h
        rcases ih _ h with h | h
        · rcases mem_insert h with h | h
          · exact Or.inr (h ▸ List.mem_cons_self)
          · exact Or.inl h
        · exact Or.inr (List.mem_cons_of_mem _ h)
  exact (hfold ps [] h).resolve_left (by simp)

/-- Of pairs with distinct names, each is found. -/
theorem get?_ofPairs (k : String) {ps : List (String × Json)} (h : (ps.map (·.1)).Nodup) :
    get? k (ofPairs ps) = get? k ps := by
  have hfold : ∀ (ps : List (String × Json)) (ms : Members), (ps.map (·.1)).Nodup →
      get? k (ps.foldl (fun ms p => insert p.1 p.2 ms) ms) = (get? k ps).or (get? k ms) := by
    intro ps
    induction ps with
    | nil => exact fun _ _ => rfl
    | cons p ps ih =>
        intro ms hnodup
        obtain ⟨hp, hps⟩ := List.nodup_cons.mp hnodup
        rw [List.foldl_cons, ih _ hps, get?_insert, get?_cons]
        split
        · next hk =>
          have hnone : get? k ps = none := by
            refine get?_eq_none ?_
            intro m hm hmk
            exact hp (List.mem_map.mpr ⟨m, hm, hmk.trans hk.symm⟩)
          rw [hnone, Option.none_or, Option.some_or]
        · rfl
  have hnil : get? k ([] : Members) = none := rfl
  rw [ofPairs, hfold ps [] h, hnil, Option.or_none]

/-- After an insertion there is a member. -/
theorem insert_ne_nil (name : String) (v : Json) (ms : Members) : insert name v ms ≠ [] := by
  cases ms with
  | nil => simp [insert]
  | cons m r =>
      rcases insert_cons name v m r with ⟨-, h⟩ | ⟨-, h⟩ | ⟨-, h⟩ <;> simp [h]

/-- No members are made of no pairs only. -/
theorem ofPairs_eq_nil {ps : List (String × Json)} : ofPairs ps = [] ↔ ps = [] := by
  have hfold : ∀ ms : Members, ps.foldl (fun ms p => insert p.1 p.2 ms) ms = [] ↔
      ps = [] ∧ ms = [] := by
    induction ps with
    | nil => simp
    | cons p ps ih =>
        intro ms
        rw [List.foldl_cons, ih]
        simp [insert_ne_nil]
  rw [ofPairs, hfold, and_iff_left rfl]

/-- A member of a new name is added to the others. -/
theorem insert_perm (v : Json) (h : ∀ m ∈ ms, m.1 ≠ name) :
    (insert name v ms).Perm ((name, v) :: ms) := by
  induction ms with
  | nil => exact List.Perm.refl _
  | cons p r ih =>
      rcases insert_cons name v p r with ⟨-, heq⟩ | ⟨-, heq⟩ | ⟨hname, -⟩
      · rw [heq]
      · rw [heq]
        have hrest := ih fun m hm => h m (List.mem_cons_of_mem _ hm)
        exact (hrest.cons p).trans (List.Perm.swap _ _ _)
      · exact absurd hname.symm (h p List.mem_cons_self)

/-- Pairs with distinct names are put together to members without a loss. -/
theorem ofPairs_perm {ps : List (String × Json)} (h : (ps.map (·.1)).Nodup) :
    (ofPairs ps).Perm ps := by
  have hfold : ∀ (ps : List (String × Json)) (ms : Members),
      ((ms ++ ps).map (·.1)).Nodup →
      (ps.foldl (fun ms p => insert p.1 p.2 ms) ms).Perm (ms ++ ps) := by
    intro ps
    induction ps with
    | nil =>
        intro ms _
        rw [List.append_nil, List.foldl_nil]
    | cons p ps ih =>
        intro ms hnodup
        have hmove : (insert p.1 p.2 ms ++ ps).Perm (ms ++ p :: ps) := by
          have hnew : ∀ m ∈ ms, m.1 ≠ p.1 := by
            intro m hm hmp
            rw [List.map_append, List.nodup_append] at hnodup
            exact hnodup.2.2 m.1 (List.mem_map_of_mem hm) p.1 (by simp) hmp
          exact ((insert_perm p.2 hnew).append_right ps).trans List.perm_middle.symm
        have hnext := ih (insert p.1 p.2 ms) ((hmove.map (·.1)).nodup_iff.mpr hnodup)
        exact hnext.trans hmove
  exact hfold ps [] h

/-- **Members in another order** are put in order again. -/
theorem ofPairs_of_perm {ps : List (String × Json)} (hascend : ms.Pairwise (·.1 < ·.1))
    (hperm : ps.Perm ms) : ofPairs ps = ms := by
  have hnodup : (ps.map (·.1)).Nodup := by
    refine (hperm.map (·.1)).nodup_iff.mpr (List.pairwise_map.mpr (hascend.imp ?_))
    intro a b hlt heq
    rw [heq] at hlt
    exact String.lt_irrefl _ hlt
  refine List.Perm.eq_of_pairwise ?_ (pairwise_ofPairs ps) hascend
    ((ofPairs_perm hnodup).trans hperm)
  exact fun a b _ _ hlt hgt => absurd (String.lt_trans hlt hgt) (String.lt_irrefl _)

/-- There are no members when no field has a value. -/
theorem ofPresent_eq_nil {fields : List (String × Option Json)} :
    ofPresent fields = [] ↔ ∀ f ∈ fields, f.2 = none := by
  rw [ofPresent, ofPairs_eq_nil, List.filterMap_eq_nil_iff]
  simp

/-- Of fields with distinct names, those with a value are found. -/
theorem get?_ofPresent (k : String) {fields : List (String × Option Json)}
    (h : (fields.map (·.1)).Nodup) :
    get? k (ofPresent fields) = (fields.find? (·.1 == k)).bind (·.2) := by
  have hsublist : ((fields.filterMap fun f => f.2.map (f.1, ·)).map (·.1)).Sublist
      (fields.map (·.1)) := by
    clear h
    induction fields with
    | nil => exact List.Sublist.slnil
    | cons f fields ih =>
        obtain ⟨name, v⟩ := f
        cases v with
        | none => exact ih.cons _
        | some v => exact ih.cons_cons _
  rw [ofPresent, get?_ofPairs k (h.sublist hsublist)]
  clear hsublist
  induction fields with
  | nil => rfl
  | cons f fields ih =>
      obtain ⟨name, v⟩ := f
      obtain ⟨hname, hfields⟩ := List.nodup_cons.mp h
      have hrest := ih hfields
      by_cases hk : name = k
      · have hnone : fields.find? (·.1 == k) = none := by
          refine List.find?_eq_none.mpr ?_
          intro f hf hfk
          exact hname (List.mem_map.mpr ⟨f, hf, (eq_of_beq hfk).trans hk.symm⟩)
        rw [hnone] at hrest
        cases v with
        | none => simpa [hk] using hrest
        | some v => simp [hk, get?_cons]
      · cases v with
        | none => simpa [hk] using hrest
        | some v => simpa [hk, get?_cons] using hrest

/-- A member that is made of fields is a field that has a value. -/
theorem mem_of_mem_ofPresent {m : String × Json} {fields : List (String × Option Json)}
    (h : m ∈ ofPresent fields) : (m.1, some m.2) ∈ fields := by
  obtain ⟨⟨name, v⟩, hf, hm⟩ := List.mem_filterMap.mp (mem_of_mem_ofPairs h)
  obtain ⟨w, rfl, rfl⟩ := Option.map_eq_some_iff.mp hm
  exact hf

end Members

/-! ### Values inside values -/

mutual

/-- Whether a property holds of a value and of all values inside it. -/
def every (p : Json → Bool) : Json → Bool
  | .arr items => p (.arr items) && everyItem p items
  | .obj members => p (.obj members) && everyMember p members
  | .null => p .null
  | .bool b => p (.bool b)
  | .num n => p (.num n)
  | .str s => p (.str s)

/-- Whether a property holds of all items and of all values inside them. -/
def everyItem (p : Json → Bool) : List Json → Bool
  | [] => true
  | v :: r => every p v && everyItem p r

/-- Whether a property holds of the values of all members and of all values inside them. -/
def everyMember (p : Json → Bool) : List (String × Json) → Bool
  | [] => true
  | (_, v) :: r => every p v && everyMember p r

end

variable {p : Json → Bool}

/-- A property of all parts of an array is one of the array and of all parts of its items. -/
theorem every_arr {vs : List Json} :
    every p (.arr vs) = true ↔ p (.arr vs) = true ∧ ∀ v ∈ vs, every p v = true := by
  have hitems : everyItem p vs = true ↔ ∀ v ∈ vs, every p v = true := by
    induction vs with
    | nil => simp [everyItem]
    | cons v vs ih => simp [everyItem, ih]
  rw [every, Bool.and_eq_true, hitems]

theorem every_obj {ms : Members} :
    every p (.obj ms) = true ↔ p (.obj ms) = true ∧ ∀ m ∈ ms, every p m.2 = true := by
  have hmembers : everyMember p ms = true ↔ ∀ m ∈ ms, every p m.2 = true := by
    induction ms with
    | nil => simp [everyMember]
    | cons m ms ih => simp [everyMember, ih]
  rw [every, Bool.and_eq_true, hmembers]

/-- Whether the members of every object ascend by name, each name once. -/
def isOrdered : Json → Bool :=
  every fun
    | .obj ms => decide (ms.Pairwise (·.1 < ·.1))
    | _ => true

/-- Whether every number is an integer. -/
def isExact : Json → Bool :=
  every fun
    | .num (.float _) => false
    | _ => true

/-- An object is in order if its names ascend and its values are in order. -/
theorem isOrdered_obj {ms : Members} :
    isOrdered (.obj ms) = true ↔ ms.Pairwise (·.1 < ·.1) ∧ ∀ m ∈ ms, isOrdered m.2 = true := by
  rw [isOrdered, every_obj, decide_eq_true_iff]

theorem isOrdered_arr {vs : List Json} :
    isOrdered (.arr vs) = true ↔ ∀ v ∈ vs, isOrdered v = true := by
  rw [isOrdered, every_arr]
  exact and_iff_right rfl

/-- An array has no doubles if its items have none. -/
theorem isExact_arr {vs : List Json} :
    isExact (.arr vs) = true ↔ ∀ v ∈ vs, isExact v = true := by
  rw [isExact, every_arr]
  exact and_iff_right rfl

theorem isExact_obj {ms : Members} :
    isExact (.obj ms) = true ↔ ∀ m ∈ ms, isExact m.2 = true := by
  rw [isExact, every_obj]
  exact and_iff_right rfl

/-! ### Equality of values -/

mutual

/-- A value equals itself; no number is left out, since a double is never a NaN. -/
theorem same_self (v : Json) : v.same v = true := by
  match v with
  | .null => rfl
  | .bool b => exact beq_self_eq_true b
  | .num (.int n _) => exact beq_self_eq_true n
  | .num (.float x) => simp [same, Number.same, Binary64.sameNumber]
  | .str s => exact beq_self_eq_true s
  | .arr vs => exact sameItems_self vs
  | .obj ms => exact sameMembers_self ms

theorem sameItems_self (vs : List Json) : sameItems vs vs = true := by
  match vs with
  | [] => rfl
  | v :: vs => rw [sameItems, same_self v, sameItems_self vs, Bool.and_self]

theorem sameMembers_self (ms : Members) : sameMembers ms ms = true := by
  match ms with
  | [] => rfl
  | (k, v) :: ms =>
      rw [sameMembers, beq_self_eq_true, same_self v, sameMembers_self ms, Bool.and_self,
        Bool.and_self]

end

end AccountWire.Json
