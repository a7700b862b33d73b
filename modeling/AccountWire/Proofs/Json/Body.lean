import AccountWire.Proofs.Json.Depth

/-!
# Bodies and the fields they are made of

A body is an object of fields, each of them there or not.  What can be told from the octets of a body
is told by `Rereads`: the members of all objects ascend, all numbers are integers, and the value is no
deeper than a limit.  Such a value is read back (`Rereads.ofBytes?_bytes`), and so is a body whose
fields have such values (`ofBytes?_bytes_ofPresent`); its octets determine the fields
(`bytes_ofPresent_inj`).
-/

namespace AccountWire.Json

/-! ### Values that are read back -/

/-- A value that is written without a loss and no deeper than a limit. -/
structure Rereads (limit : Nat) (v : Json) : Prop where
  ordered : v.isOrdered = true
  integral : v.isExact = true
  shallow : v.depth ≤ limit

/-- An array is one level deeper than its items. -/
theorem depth_arr_le {vs : List Json} {n : Nat} :
    (Json.arr vs).depth ≤ n + 1 ↔ ∀ v ∈ vs, v.depth ≤ n := by
  have hitems : depthOfItems vs ≤ n ↔ ∀ v ∈ vs, v.depth ≤ n := by
    induction vs with
    | nil => simp [depthOfItems]
    | cons v vs ih => rw [depthOfItems, Nat.max_le, ih, List.forall_mem_cons]
  rw [depth, Nat.add_le_add_iff_right, hitems]

/-- An object is one level deeper than its values. -/
theorem depth_obj_le {ms : Members} {n : Nat} :
    (Json.obj ms).depth ≤ n + 1 ↔ ∀ m ∈ ms, m.2.depth ≤ n := by
  have hmembers : depthOfMembers ms ≤ n ↔ ∀ m ∈ ms, m.2.depth ≤ n := by
    induction ms with
    | nil => simp [depthOfMembers]
    | cons m ms ih => rw [depthOfMembers, Nat.max_le, ih, List.forall_mem_cons]
  rw [depth, Nat.add_le_add_iff_right, hmembers]

namespace Rereads

variable {n : Nat} {v w : Json}

theorem bool (b : Bool) : Rereads n (.bool b) := ⟨rfl, rfl, Nat.zero_le n⟩

theorem str (s : String) : Rereads n (.str s) := ⟨rfl, rfl, Nat.zero_le n⟩

theorem ofWord (k : UInt64) : Rereads n (.ofWord k) := ⟨rfl, rfl, Nat.zero_le n⟩

/-- An array is read back one level above its items. -/
theorem arr {vs : List Json} (h : ∀ v ∈ vs, Rereads n v) : Rereads (n + 1) (.arr vs) where
  ordered := isOrdered_arr.mpr fun v hv => (h v hv).ordered
  integral := isExact_arr.mpr fun v hv => (h v hv).integral
  shallow := depth_arr_le.mpr fun v hv => (h v hv).shallow

/-- A list of texts is read back. -/
theorem texts (l : List String) : Rereads (n + 1) (.arr (l.map .str)) := by
  apply arr
  intro v hv
  obtain ⟨text, -, rfl⟩ := List.mem_map.mp hv
  exact str text

/-- Fields whose values are read back make an object that is. -/
theorem ofPresent {fields : List (String × Option Json)}
    (h : ∀ f ∈ fields, ∀ v ∈ f.2, Rereads n v) :
    Rereads (n + 1) (.obj (Members.ofPresent fields)) := by
  have hmember : ∀ m ∈ Members.ofPresent fields, Rereads n m.2 :=
    fun m hm => h _ (Members.mem_of_mem_ofPresent hm) m.2 rfl
  exact ⟨isOrdered_obj.mpr ⟨Members.pairwise_ofPresent _, fun m hm => (hmember m hm).ordered⟩,
    isExact_obj.mpr fun m hm => (hmember m hm).integral,
    depth_obj_le.mpr fun m hm => (hmember m hm).shallow⟩

/-- A field that is written in one way, if it is there. -/
theorem of_map {α : Type} {write : α → Json} (h : ∀ a, Rereads n (write a)) (field : Option α) :
    ∀ v ∈ field.map write, Rereads n v := by
  intro v hv
  obtain ⟨a, -, rfl⟩ := Option.map_eq_some_iff.mp hv
  exact h a

/-- A field of a part that may be absent itself. -/
theorem of_bind {α : Type} {part : Option α} {field : α → Option Json}
    (h : ∀ a, ∀ v ∈ field a, Rereads n v) : ∀ v ∈ part.bind field, Rereads n v := by
  intro v hv
  obtain ⟨a, -, hv⟩ := Option.bind_eq_some_iff.mp hv
  exact h a v hv

/-- **A value within the limit of reading is read back.** -/
theorem ofBytes?_bytes (h : Rereads n v) (hn : n ≤ maxDepth) : ofBytes? v.bytes = some v := by
  rw [Json.ofBytes?_bytes h.ordered h.integral, if_pos (Nat.le_trans h.shallow hn)]

/-- Values that are read back differ in their octets when they differ. -/
theorem bytes_inj (hv : Rereads n v) (hw : Rereads n w) (hn : n ≤ maxDepth) :
    v.bytes = w.bytes ↔ v = w := by
  constructor
  · intro h
    have hread := hv.ofBytes?_bytes hn
    rw [h, hw.ofBytes?_bytes hn] at hread
    exact (Option.some.inj hread).symm
  · exact congrArg bytes

end Rereads

/-! ### Fields -/

namespace Members

/-- A member that is put to fields with a value comes after them. -/
theorem insert_ofPresent (name : String) (v : Json) (fields : List (String × Option Json)) :
    insert name v (ofPresent fields) = ofPresent (fields ++ [(name, some v)]) := by
  rw [ofPresent, ofPresent, ofPairs, ofPairs, List.filterMap_append, List.foldl_append]
  rfl

/-- A member has the name of a field. -/
theorem name_mem_of_mem_ofPresent {m : String × Json} {fields : List (String × Option Json)}
    (h : m ∈ ofPresent fields) : m.1 ∈ fields.map (·.1) :=
  List.mem_map_of_mem (f := (·.1)) (mem_of_mem_ofPresent h)

/-- Each field is found under its name, or absent as it is. -/
theorem get?_of_mem {fields : List (String × Option Json)} (hnodup : (fields.map (·.1)).Nodup) :
    ∀ f ∈ fields, get? f.1 (ofPresent fields) = f.2 := by
  intro f h
  suffices hfind : fields.find? (·.1 == f.1) = some f by
    rw [get?_ofPresent f.1 hnodup, hfind, Option.bind_some]
  induction fields with
  | nil => exact absurd h List.not_mem_nil
  | cons g fields ih =>
      obtain ⟨hnew, hnodup⟩ := List.nodup_cons.mp hnodup
      rcases List.mem_cons.mp h with rfl | h
      · exact List.find?_cons_of_pos (beq_self_eq_true f.1)
      · have hne : g.1 ≠ f.1 := fun heq => hnew (List.mem_map.mpr ⟨f, h, heq.symm⟩)
        rw [List.find?_cons_of_neg (by simpa using hne)]
        exact ih hnodup h

/-- **Members determine the fields** they are made of, when the names are known and distinct. -/
theorem ofPresent_inj {fields fields' : List (String × Option Json)}
    (hnames : fields.map (·.1) = fields'.map (·.1)) (hnodup : (fields.map (·.1)).Nodup) :
    ofPresent fields = ofPresent fields' ↔ fields = fields' := by
  have hfound : ∀ {fs : List (String × Option Json)}, (fs.map (·.1)).Nodup →
      (fs.map (·.1)).map (fun name => (name, get? name (ofPresent fs))) = fs := by
    intro fs hfs
    rw [List.map_map]
    refine (List.map_congr_left ?_).trans (List.map_id fs)
    intro f hf
    exact Prod.ext rfl (get?_of_mem hfs f hf)
  refine ⟨?_, congrArg ofPresent⟩
  intro h
  calc fields = (fields.map (·.1)).map fun name => (name, get? name (ofPresent fields)) :=
        (hfound hnodup).symm
    _ = (fields'.map (·.1)).map fun name => (name, get? name (ofPresent fields')) := by
        rw [h, hnames]
    _ = fields' := hfound (hnames ▸ hnodup)

end Members

theorem map_str_inj {a b : Option String} : a.map Json.str = b.map Json.str ↔ a = b :=
  Option.map_inj_right fun _ _ => Json.str.inj

theorem map_bool_inj {a b : Option Bool} : a.map Json.bool = b.map Json.bool ↔ a = b :=
  Option.map_inj_right fun _ _ => Json.bool.inj

/-- **A body is read back** as the members of its fields. -/
theorem ofBytes?_bytes_ofPresent {n : Nat} {fields : List (String × Option Json)}
    (h : ∀ f ∈ fields, ∀ v ∈ f.2, Rereads n v) (hn : n < maxDepth) :
    ofBytes? (Json.obj (Members.ofPresent fields)).bytes =
      some (.obj (Members.ofPresent fields)) :=
  (Rereads.ofPresent h).ofBytes?_bytes hn

/-- **The octets of a body determine its fields.** -/
theorem bytes_ofPresent_inj {n : Nat} {fields fields' : List (String × Option Json)}
    (hnames : fields.map (·.1) = fields'.map (·.1)) (hnodup : (fields.map (·.1)).Nodup)
    (h : ∀ f ∈ fields, ∀ v ∈ f.2, Rereads n v) (h' : ∀ f ∈ fields', ∀ v ∈ f.2, Rereads n v)
    (hn : n < maxDepth) :
    (Json.obj (Members.ofPresent fields)).bytes = (Json.obj (Members.ofPresent fields')).bytes ↔
      fields = fields' := by
  rw [(Rereads.ofPresent h).bytes_inj (Rereads.ofPresent h') hn, Json.obj.injEq,
    Members.ofPresent_inj hnames hnodup]

end AccountWire.Json
