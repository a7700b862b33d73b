import AccountWire.Proofs.Json.Spelling

/-!
# How deep a value may be

Values are read from trees with a limit on how many arrays and objects stand around one another;
writing knows no such limit.  A spelling of a value is read as this value when the value is no
deeper than the limit, and cannot be read when it is (`ofTree?_of_spells`).
-/

namespace AccountWire.Json

mutual

/-- How many arrays and objects stand around one another in a value. -/
def depth : Json → Nat
  | .arr items => depthOfItems items + 1
  | .obj members => depthOfMembers members + 1
  | .null | .bool _ | .num _ | .str _ => 0

/-- The depth of the deepest item. -/
def depthOfItems : List Json → Nat
  | [] => 0
  | v :: r => max v.depth (depthOfItems r)

/-- The depth of the deepest member. -/
def depthOfMembers : List (String × Json) → Nat
  | [] => 0
  | (_, v) :: r => max v.depth (depthOfMembers r)

end

/-- Members are read one after the other, name and value. -/
theorem ofMembers?_cons {d : Nat} {k : StringText} {t : Tree} {r : List (StringText × Tree)}
    {ps : List (String × Json)} : ofMembers? d ((k, t) :: r) = some ps ↔
      ∃ name v qs, stringText? k = some name ∧ ofTree? d t = some v ∧
        ofMembers? d r = some qs ∧ ps = (name, v) :: qs := by
  simp only [ofMembers?, Option.bind_eq_bind, Option.bind_eq_some_iff, Option.some.injEq]
  constructor
  · rintro ⟨name, hname, v, hv, qs, hqs, rfl⟩
    exact ⟨name, v, qs, hname, hv, hqs, rfl⟩
  · rintro ⟨name, v, qs, hname, hv, hqs, rfl⟩
    exact ⟨name, hname, v, hv, qs, hqs, rfl⟩

/-- Members in another order are read as the same pairs in that order. -/
theorem ofMembers?_perm {d : Nat} {ts us : List (StringText × Tree)} (h : ts.Perm us)
    {ps : List (String × Json)} (hps : ofMembers? d us = some ps) :
    ∃ qs, ofMembers? d ts = some qs ∧ qs.Perm ps := by
  induction h generalizing ps with
  | nil => exact ⟨ps, hps, List.Perm.refl _⟩
  | cons m _ ih =>
      obtain ⟨name, v, rest, hname, hv, hrest, rfl⟩ := ofMembers?_cons.mp hps
      obtain ⟨qs, hqs, hperm⟩ := ih hrest
      exact ⟨_, ofMembers?_cons.mpr ⟨name, v, qs, hname, hv, hqs, rfl⟩, hperm.cons _⟩
  | swap m m' r =>
      obtain ⟨name, v, rest, hname, hv, hrest, rfl⟩ := ofMembers?_cons.mp hps
      obtain ⟨name', v', rest', hname', hv', hrest', rfl⟩ := ofMembers?_cons.mp hrest
      have hinner := ofMembers?_cons.mpr ⟨name, v, rest', hname, hv, hrest', rfl⟩
      exact ⟨_, ofMembers?_cons.mpr ⟨name', v', _, hname', hv', hinner, rfl⟩,
        List.Perm.swap _ _ _⟩
  | trans _ _ ih ih' =>
      obtain ⟨qs, hqs, hperm⟩ := ih' hps
      obtain ⟨rs, hrs, hperm'⟩ := ih hqs
      exact ⟨rs, hrs, hperm'.trans hperm⟩

mutual

/-- **A spelling is read as its value**, if the value is not too deep. -/
theorem ofTree?_of_spells (v : Json) (hordered : v.isOrdered = true) {t : Tree}
    (h : t.Spells v) (d : Nat) : ofTree? d t = if v.depth ≤ d then some v else none := by
  match v with
  | .null =>
      obtain rfl := h
      exact (if_pos (Nat.zero_le d)).symm
  | .bool b =>
      obtain rfl := h
      exact (if_pos (Nat.zero_le d)).symm
  | .num n =>
      obtain ⟨x, rfl, hx⟩ := h
      rw [ofTree?, hx, depth, if_pos (Nat.zero_le d), Option.map_some]
  | .str s =>
      obtain ⟨x, rfl, hx⟩ := h
      rw [ofTree?, hx, depth, if_pos (Nat.zero_le d), Option.map_some]
  | .arr vs =>
      obtain ⟨ts, rfl, hts⟩ := h
      cases d with
      | zero => rw [ofTree?, depth, if_neg (by omega)]
      | succ d =>
          rw [ofTree?, ofTrees?_of_spells vs (isOrdered_arr.mp hordered) hts, depth]
          by_cases hd : depthOfItems vs ≤ d
          · rw [if_pos hd, if_pos (by omega), Option.map_some]
          · rw [if_neg hd, if_neg (by omega), Option.map_none]
  | .obj ms =>
      obtain ⟨ts, us, rfl, hperm, hus⟩ := h
      obtain ⟨hascend, hvalues⟩ := isOrdered_obj.mp hordered
      cases d with
      | zero => rw [ofTree?, depth, if_neg (by omega)]
      | succ d =>
          have hread := ofMembers?_of_spells ms hvalues hus d
          rw [ofTree?, depth]
          by_cases hd : depthOfMembers ms ≤ d
          · rw [if_pos hd] at hread
            obtain ⟨qs, hqs, hsame⟩ := ofMembers?_perm hperm hread
            rw [hqs, if_pos (by omega), Option.map_some, Members.ofPairs_of_perm hascend hsame]
          · rw [if_neg hd] at hread
            cases hts : ofMembers? d ts with
            | none => rw [if_neg (by omega), Option.map_none]
            | some qs =>
                obtain ⟨ps, hps, -⟩ := ofMembers?_perm hperm.symm hts
                rw [hread] at hps
                exact absurd hps (by simp)

/-- Spelled items are read within the depth that they need, and not below it. -/
theorem ofTrees?_of_spells (vs : List Json) (hordered : ∀ v ∈ vs, v.isOrdered = true)
    {ts : List Tree} (h : SpellItems ts vs) (d : Nat) :
    ofTrees? d ts = if depthOfItems vs ≤ d then some vs else none := by
  match vs, ts with
  | [], [] => exact (if_pos (Nat.zero_le d)).symm
  | v :: vs, t :: ts =>
      obtain ⟨hv, hvs⟩ := List.forall_mem_cons.mp hordered
      rw [ofTrees?, ofTree?_of_spells v hv h.1 d, ofTrees?_of_spells vs hvs h.2 d, depthOfItems]
      simp only [Nat.max_le]
      by_cases hfirst : v.depth ≤ d <;> by_cases hrest : depthOfItems vs ≤ d <;>
        simp [hfirst, hrest]
  | [], _ :: _ => exact h.elim
  | _ :: _, [] => exact h.elim

theorem ofMembers?_of_spells (ms : Members) (hordered : ∀ m ∈ ms, m.2.isOrdered = true)
    {us : List (StringText × Tree)} (h : SpellMembers us ms) (d : Nat) :
    ofMembers? d us = if depthOfMembers ms ≤ d then some ms else none := by
  match ms, us with
  | [], [] => exact (if_pos (Nat.zero_le d)).symm
  | (name, v) :: ms, (k, t) :: us =>
      obtain ⟨hv, hms⟩ := List.forall_mem_cons.mp hordered
      obtain ⟨hname, ht, hrest⟩ := h
      rw [ofMembers?, hname, ofTree?_of_spells v hv ht d, ofMembers?_of_spells ms hms hrest d,
        depthOfMembers]
      simp only [Nat.max_le]
      by_cases hfirst : v.depth ≤ d <;> by_cases hrest : depthOfMembers ms ≤ d <;>
        simp [hfirst, hrest]
  | [], _ :: _ => exact h.elim
  | _ :: _, [] => exact h.elim

end

/-- **A written value is read back exactly when it is not too deep.** -/
theorem ofBytes?_bytes {v : Json} (hordered : v.isOrdered = true) (hexact : v.isExact = true) :
    ofBytes? v.bytes = if v.depth ≤ maxDepth then some v else none := by
  obtain ⟨t, hbytes, ht⟩ := exists_spelling hexact
  rw [ofBytes?, hbytes, Option.bind_some, ofTree?_of_spells v hordered ht]

end AccountWire.Json
