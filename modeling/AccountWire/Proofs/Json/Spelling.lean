import AccountWire.Proofs.Json.Patch

/-!
# The spellings of a value

One value has many texts: the members of an object may stand in any order, the characters of a
string may be escaped or not, and blank space does not count.  `Tree.Spells` says which trees are
spellings of a value; no spelling has a member twice.  What a value is written as is one of its
spellings (`spells_toTree`), and a record reads all of them alike (`Tree.Spells.field?`).
-/

namespace AccountWire.Json

mutual

/-- Whether a tree is a spelling of a value. -/
def Tree.Spells : Tree → Json → Prop
  | t, .null => t = .null
  | t, .bool b => t = .bool b
  | t, .num n => ∃ x, t = .number x ∧ x.number? = some n
  | t, .str s => ∃ x, t = .string x ∧ stringText? x = some s
  | t, .arr vs => ∃ ts, t = .arr ts ∧ SpellItems ts vs
  | t, .obj ms => ∃ ts us, t = .obj ts ∧ ts.Perm us ∧ SpellMembers us ms

/-- Whether trees are spellings of values, one by one. -/
def SpellItems : List Tree → List Json → Prop
  | t :: ts, v :: vs => t.Spells v ∧ SpellItems ts vs
  | [], [] => True
  | _, _ => False

/-- Whether names and trees are spellings of members, one by one. -/
def SpellMembers : List (StringText × Tree) → List (String × Json) → Prop
  | (k, t) :: ts, (name, v) :: ms => stringText? k = some name ∧ t.Spells v ∧ SpellMembers ts ms
  | [], [] => True
  | _, _ => False

end

/-! ### Integers -/

/-- More digits do not make a number smaller. -/
theorem le_foldl_digits (ds : List Nat) (n : Nat) : n ≤ ds.foldl (fun n d => 10 * n + d) n := by
  induction ds generalizing n with
  | nil => exact Nat.le_refl n
  | cons d ds ih =>
      have h := ih (10 * n + d)
      rw [List.foldl_cons]
      omega

/-- Digits are taken in one after the other while the number fits a word. -/
theorem fitDigits_eq {ds : List Nat} {n : Nat}
    (h : ds.foldl (fun n d => 10 * n + d) n < 0x10000000000000000) :
    fitDigits n ds = (ds.foldl (fun n d => 10 * n + d) n, []) := by
  induction ds generalizing n with
  | nil => rfl
  | cons d ds ih =>
      rw [List.foldl_cons] at h
      have hfits : 10 * n + d < 0x10000000000000000 := Nat.lt_of_le_of_lt (le_foldl_digits ds _) h
      rw [fitDigits, if_pos hfits, ih h, List.foldl_cons]

/-- The decimal digits of a number have its value. -/
theorem foldl_digits (n : Nat) : (digits n).foldl (fun n d => 10 * n + d) 0 = n := by
  rw [digits, List.foldl_map]
  exact Nat.ofDigitChars_ten_toDigits

/-- **A written integer is read as the same integer.** -/
theorem number?_intText (n : Int) (h : -0x8000000000000000 ≤ n ∧ n < 0x10000000000000000) :
    (intText n).number? = some (.int n h) := by
  have hfold := foldl_digits n.natAbs
  have hfit : fitDigits 0 (digits n.natAbs) = (n.natAbs, []) := by
    rw [fitDigits_eq (by omega), hfold]
  have hint : ∀ m : Int, m = n → Number.ofInt? m = some (.int n h) := by
    rintro m rfl
    rw [Number.ofInt?, dif_pos h]
  rw [NumberText.number?, intText, hfit]
  by_cases hn : n < 0
  · have hsmall : ¬ (n.natAbs = 0 ∨ 0x8000000000000000 < n.natAbs) := by omega
    simp only [integerOf?, hn, decide_true, if_true, if_neg hsmall]
    exact hint _ (by omega)
  · simp only [integerOf?, hn, decide_false, Bool.false_eq_true, if_false]
    exact hint _ (by omega)

/-! ### Written values -/

mutual

/-- **A value is written as one of its spellings.** -/
theorem spells_toTree (v : Json) (hexact : v.isExact = true) : v.toTree.Spells v := by
  match v with
  | .null => exact rfl
  | .bool b => exact rfl
  | .num (.int n h) => exact ⟨intText n, rfl, number?_intText n h⟩
  | .num (.float x) => exact absurd hexact (by simp [isExact, every])
  | .str s => exact ⟨textParts s, rfl, stringText?_textParts s⟩
  | .arr vs => exact ⟨toTrees vs, rfl, spellItems_toTrees vs (isExact_arr.mp hexact)⟩
  | .obj ms =>
      have hmembers := spellMembers_toMemberTrees ms (isExact_obj.mp hexact)
      exact ⟨toMemberTrees ms, toMemberTrees ms, rfl, List.Perm.refl _, hmembers⟩

/-- The trees of items without doubles spell them. -/
theorem spellItems_toTrees (vs : List Json) (hexact : ∀ v ∈ vs, v.isExact = true) :
    SpellItems (toTrees vs) vs := by
  match vs with
  | [] => exact trivial
  | v :: vs =>
      obtain ⟨hv, hvs⟩ := List.forall_mem_cons.mp hexact
      exact ⟨spells_toTree v hv, spellItems_toTrees vs hvs⟩

theorem spellMembers_toMemberTrees (ms : Members) (hexact : ∀ m ∈ ms, m.2.isExact = true) :
    SpellMembers (toMemberTrees ms) ms := by
  match ms with
  | [] => exact trivial
  | (k, v) :: ms =>
      obtain ⟨hv, hms⟩ := List.forall_mem_cons.mp hexact
      exact ⟨stringText?_textParts k, spells_toTree v hv, spellMembers_toMemberTrees ms hms⟩

end

/-- A written value is read back as one of its spellings. -/
theorem exists_spelling {v : Json} (hexact : v.isExact = true) :
    ∃ t, Tree.ofBytes? v.bytes = some t ∧ t.Spells v :=
  ⟨v.toTree, Tree.ofBytes?_bytes hexact, spells_toTree v hexact⟩

/-! ### Records -/

/-- Items are read one by one. -/
theorem mapM_of_spellItems {β : Type} {read : Tree → Option β} {write : β → Json} {bs : List β}
    (hread : ∀ b ∈ bs, ∀ t : Tree, t.Spells (write b) → read t = some b) {ts : List Tree}
    (h : SpellItems ts (bs.map write)) : ts.mapM read = some bs := by
  induction bs generalizing ts with
  | nil =>
      cases ts with
      | nil => rfl
      | cons t ts => exact h.elim
  | cons b bs ih =>
      obtain ⟨hb, hbs⟩ := List.forall_mem_cons.mp hread
      cases ts with
      | nil => exact h.elim
      | cons t ts =>
          rw [List.mapM_cons, hb t h.1, ih hbs h.2]
          rfl

/-- The trees of the members of a name, in a spelling in the order of the members. -/
theorem spellItems_named {us : List (StringText × Tree)} {ms : Members} (k : String)
    (hascend : ms.Pairwise (·.1 < ·.1)) (h : SpellMembers us ms) :
    SpellItems ((us.filter (Tree.named k)).map (·.2)) (Members.get? k ms).toList := by
  induction ms generalizing us with
  | nil =>
      cases us with
      | nil => exact trivial
      | cons u us => exact h.elim
  | cons m ms ih =>
      cases us with
      | nil => exact h.elim
      | cons u us =>
          obtain ⟨hname, hvalue, hrest⟩ := h
          obtain ⟨hm, hms⟩ := List.pairwise_cons.mp hascend
          have hnamed : Tree.named k u = (m.1 == k) := by
            rw [Tree.named, hname]
            rfl
          rw [List.filter_cons, hnamed, Members.get?_cons]
          by_cases hk : m.1 = k
          · have hnone : Members.get? k ms = none := by
              refine Members.get?_eq_none ?_
              intro p hp hpk
              exact absurd (hm p hp) (by rw [hpk, hk]; exact String.lt_irrefl k)
            have htail := ih hms hrest
            rw [hnone] at htail
            simp only [hk, beq_self_eq_true, if_true, List.map_cons]
            exact ⟨hvalue, htail⟩
          · simp only [hk, beq_eq_false_iff_ne.mpr hk, if_false]
            exact ih hms hrest

namespace Tree.Spells

variable {t : Tree} {ms : Members}

theorem isObject (h : t.Spells (.obj ms)) : t.IsObject := by
  obtain ⟨ts, -, rfl, -, -⟩ := h
  exact ⟨ts, rfl⟩

/-- What spells an object has names that can be read. -/
theorem isNamed (h : t.Spells (.obj ms)) : t.isNamed = true := by
  obtain ⟨ts, us, rfl, hperm, hus⟩ := h
  have hall : ∀ u ∈ us, (stringText? u.1).isSome = true := by
    clear hperm
    induction ms generalizing us with
    | nil =>
        cases us with
        | nil => simp
        | cons u us => exact hus.elim
    | cons m ms ih =>
        cases us with
        | nil => simp
        | cons u us =>
            obtain ⟨hname, -, hrest⟩ := hus
            exact List.forall_mem_cons.mpr ⟨by rw [hname]; rfl, ih us hrest⟩
  exact List.all_eq_true.mpr fun m hm => hall m (hperm.mem_iff.mp hm)

/-- A record asks a spelling for its fields by name. -/
theorem fields? (h : t.Spells (.obj ms)) (names : List String) :
    ∃ fs : Fields, t.fields? names = some fs ∧
      ∀ {α : Type} (name : String) (read : Tree → Option α) (absent : α),
        fs.get? name read absent = t.field? name read absent := by
  rcases fields?_of_isObject h.isObject names with ⟨-, hnamed⟩ | ⟨fs, hfields, -, hget⟩
  · exact absurd hnamed (by rw [h.isNamed]; decide)
  · exact ⟨fs, hfields, hget⟩

/-- **The trees of a name are spellings of the member of this name**, one if there is one. -/
theorem valuesOf (h : t.Spells (.obj ms)) (hascend : ms.Pairwise (·.1 < ·.1)) (k : String) :
    SpellItems (t.valuesOf k) (Members.get? k ms).toList := by
  obtain ⟨ts, us, rfl, hperm, hus⟩ := h
  have hspelled := spellItems_named k hascend hus
  have hvalues : (Tree.valuesOf (.obj ts) k).Perm ((us.filter (named k)).map (·.2)) :=
    (hperm.filter _).map _
  -- At most one member has the name, so the order of the members does not show here.
  generalize (us.filter (named k)).map (·.2) = found at hspelled hvalues
  match found with
  | [] =>
      rw [List.perm_nil.mp hvalues]
      exact hspelled
  | [u] =>
      rw [List.perm_singleton.mp hvalues]
      exact hspelled
  | u :: u' :: r =>
      cases hget : Members.get? k ms with
      | none =>
          rw [hget] at hspelled
          exact hspelled.elim
      | some v =>
          rw [hget] at hspelled
          exact hspelled.2.elim

/-- **A record reads a spelling by the members of the value.** -/
theorem field? {β : Type} {read : Tree → Option β} {write : β → Json} {absent : β} {k : String}
    {o : Option β} (h : t.Spells (.obj ms)) (hascend : ms.Pairwise (·.1 < ·.1))
    (hget : Members.get? k ms = o.map write)
    (hread : ∀ b, o = some b → ∀ u, u.Spells (write b) → read u = some b) :
    t.field? k read absent = some (o.getD absent) := by
  have hvalues := h.valuesOf hascend k
  rw [hget] at hvalues
  rw [Tree.field?]
  cases o with
  | none =>
      rcases hfound : t.valuesOf k with _ | ⟨u, us⟩
      · rfl
      · rw [hfound] at hvalues
        exact hvalues.elim
  | some b =>
      rcases hfound : t.valuesOf k with _ | ⟨u, _ | ⟨u', us⟩⟩
      · rw [hfound] at hvalues
        exact hvalues.elim
      · rw [hfound] at hvalues
        rw [readOne, hread b rfl u hvalues.1]
        rfl
      · rw [hfound] at hvalues
        exact hvalues.2.elim

/-- As `field?`, for a member that is there. -/
theorem field?_of_get? {β : Type} {read : Tree → Option β} {absent b : β} {k : String} {v : Json}
    (h : t.Spells (.obj ms)) (hascend : ms.Pairwise (·.1 < ·.1))
    (hget : Members.get? k ms = some v) (hread : ∀ u : Tree, u.Spells v → read u = some b) :
    t.field? k read absent = some b := by
  have hsome : Members.get? k ms = (some b).map fun _ => v := hget
  exact h.field? hascend hsome fun _ hb u hu => hread u hu ▸ hb

/-- What spells a text is read as it. -/
theorem text? {s : String} (h : t.Spells (.str s)) : t.text? = some s := by
  obtain ⟨x, rfl, hx⟩ := h
  exact hx

theorem flag? {b : Bool} (h : t.Spells (.bool b)) : t.flag? = some b := by
  rw [show t = .bool b from h]
  rfl

theorem count? {n : UInt64} (h : t.Spells (.ofWord n)) : t.count? = some n.toNat := by
  obtain ⟨x, rfl, hx⟩ := h
  rw [Tree.count?, hx, Number.ofWord]
  simp

end Tree.Spells

end AccountWire.Json
