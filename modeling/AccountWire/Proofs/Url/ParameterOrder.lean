import AccountWire.Proofs.Text.Order
import AccountWire.Proofs.Url.Query

/-!
# Parameters in the order of their names

`Sorts` says what it is to bring parameters into the order of their names without moving those of
one name past each other.  `sortByName` does it (`sorts_sortByName`), and no other list of parameters
would do (`Sorts.unique`): in ascending order, parameters are known from the values that each name
has (`eq_of_valuesOf`).  Two lists thus have one order exactly when every name has the same values in
both (`sortByName_eq_iff`).
-/

namespace AccountWire.Query

/-- The values that a name has, in the order of the parameters. -/
def valuesOf (name : String) (ps : List Pair) : List String :=
  (ps.filter (·.1 == name)).map (·.2)

/-- The parameters `qs` are the parameters `ps` in ascending order of the octets of their names, and
those of one name are in the order that they have in `ps`. -/
structure Sorts (ps qs : List Pair) : Prop where
  perm : qs.Perm ps
  ascending : qs.Pairwise fun p q => Utf8.ofString p.1 ≤ Utf8.ofString q.1
  stable : ∀ name, valuesOf name qs = valuesOf name ps

variable {name : String} {p : Pair} {ps qs : List Pair}

theorem valuesOf_cons (name : String) (p : Pair) (ps : List Pair) :
    valuesOf name (p :: ps) =
      if p.1 = name then p.2 :: valuesOf name ps else valuesOf name ps := by
  by_cases h : p.1 = name <;> simp [valuesOf, h]

/-- The values of a name in another order of the parameters. -/
theorem valuesOf_perm (name : String) (h : ps.Perm qs) :
    (valuesOf name ps).Perm (valuesOf name qs) := (h.filter _).map _

/-- A name with at most one value has it in any order of the parameters. -/
theorem valuesOf_eq_of_perm (h : ps.Perm qs) (hfew : (valuesOf name ps).length ≤ 1) :
    valuesOf name ps = valuesOf name qs := by
  have hvalues := valuesOf_perm name h
  match hps : valuesOf name ps with
  | [] =>
      rw [hps] at hvalues
      exact (List.nil_perm.mp hvalues).symm
  | [v] =>
      rw [hps] at hvalues
      exact List.singleton_perm.mp hvalues
  | _ :: _ :: _ =>
      rw [hps] at hfew
      simp at hfew

/-! ### The order by name -/

/-- Insertion adds the pair, and keeps the others. -/
theorem insertByName_perm (p : Pair) (qs : List Pair) : (insertByName p qs).Perm (p :: qs) := by
  induction qs with
  | nil => exact List.Perm.refl _
  | cons q qs ih =>
      rw [insertByName]
      split
      · exact (ih.cons q).trans (List.Perm.swap p q qs)
      · exact List.Perm.refl _

theorem sortByName_perm (ps : List Pair) : (sortByName ps).Perm ps := by
  induction ps with
  | nil => exact List.Perm.refl _
  | cons p ps ih => exact (insertByName_perm p _).trans (ih.cons p)

/-- Insertion keeps the order of the names. -/
theorem pairwise_insertByName (p : Pair) (h : qs.Pairwise (·.1 ≤ ·.1)) :
    (insertByName p qs).Pairwise (·.1 ≤ ·.1) := by
  induction qs with
  | nil => exact List.pairwise_singleton _ _
  | cons q qs ih =>
      obtain ⟨hq, hqs⟩ := List.pairwise_cons.mp h
      rw [insertByName]
      split
      · next hlt =>
        apply List.pairwise_cons.mpr ⟨?_, ih hqs⟩
        intro r hr
        rcases List.mem_cons.mp ((insertByName_perm p qs).mem_iff.mp hr) with rfl | hr
        · exact String.lt_asymm hlt
        · exact hq r hr
      · next hle =>
        apply List.pairwise_cons.mpr ⟨?_, h⟩
        intro r hr
        rcases List.mem_cons.mp hr with rfl | hr
        · exact hle
        · exact String.le_trans hle (hq r hr)

theorem pairwise_sortByName (ps : List Pair) : (sortByName ps).Pairwise (·.1 ≤ ·.1) := by
  induction ps with
  | nil => exact List.Pairwise.nil
  | cons p ps ih => exact pairwise_insertByName p ih

/-- A parameter is put before all others of its name. -/
theorem valuesOf_insertByName (name : String) (p : Pair) (qs : List Pair) :
    valuesOf name (insertByName p qs) = valuesOf name (p :: qs) := by
  induction qs with
  | nil => rfl
  | cons q qs ih =>
      rw [insertByName]
      split
      · next hlt =>
        have hne : q.1 ≠ p.1 := by
          intro heq
          rw [heq] at hlt
          exact String.lt_irrefl _ hlt
        rw [valuesOf_cons, ih, valuesOf_cons, valuesOf_cons, valuesOf_cons]
        by_cases hq : q.1 = name
        · have hp : p.1 ≠ name := fun hp => hne (hq.trans hp.symm)
          simp only [hq, hp, if_true, if_false]
        · simp only [hq, if_false]
      · rfl

/-- Sorting keeps the values of each name in their order. -/
theorem valuesOf_sortByName (name : String) (ps : List Pair) :
    valuesOf name (sortByName ps) = valuesOf name ps := by
  induction ps with
  | nil => rfl
  | cons p ps ih => rw [sortByName, valuesOf_insertByName, valuesOf_cons, ih, valuesOf_cons]

/-- **Parameters are brought into the order of their names**, those of one name left in theirs. -/
theorem sorts_sortByName (ps : List Pair) : Sorts ps (sortByName ps) where
  perm := sortByName_perm ps
  ascending := (pairwise_sortByName ps).imp Utf8.ofString_le_ofString_iff.mpr
  stable name := valuesOf_sortByName name ps

/-! ### There is one such order -/

/-- No name with a value comes before the first one. -/
theorem le_of_valuesOf (h : (p :: ps).Pairwise (·.1 ≤ ·.1)) (hname : valuesOf name (p :: ps) ≠ []) :
    p.1 ≤ name := by
  obtain ⟨hp, -⟩ := List.pairwise_cons.mp h
  obtain ⟨v, hv⟩ := List.exists_mem_of_ne_nil _ hname
  obtain ⟨q, hqv, -⟩ := List.mem_map.mp hv
  obtain ⟨hq, hbeq⟩ := List.mem_filter.mp hqv
  obtain rfl := eq_of_beq hbeq
  rcases List.mem_cons.mp hq with rfl | hq
  · exact String.le_refl _
  · exact hp q hq

/-- The first value of a name is the one of its first pair. -/
theorem valuesOf_head (p : Pair) (ps : List Pair) :
    valuesOf p.1 (p :: ps) = p.2 :: valuesOf p.1 ps := by
  rw [valuesOf_cons, if_pos rfl]

/-- **In ascending order parameters are known from the values of each name.** -/
theorem eq_of_valuesOf (hps : ps.Pairwise (·.1 ≤ ·.1)) (hqs : qs.Pairwise (·.1 ≤ ·.1))
    (h : ∀ name, valuesOf name ps = valuesOf name qs) : ps = qs := by
  induction ps generalizing qs with
  | nil =>
      cases qs with
      | nil => rfl
      | cons q qs =>
          have hq := h q.1
          rw [valuesOf_head] at hq
          exact absurd hq (List.cons_ne_nil _ _).symm
  | cons p ps ih =>
      cases qs with
      | nil =>
          have hp := h p.1
          rw [valuesOf_head] at hp
          exact absurd hp (List.cons_ne_nil _ _)
      | cons q qs =>
          have hpq : p.1 ≤ q.1 := by
            apply le_of_valuesOf hps
            rw [h, valuesOf_head]
            exact List.cons_ne_nil _ _
          have hqp : q.1 ≤ p.1 := by
            apply le_of_valuesOf hqs
            rw [← h, valuesOf_head]
            exact List.cons_ne_nil _ _
          have hname : p.1 = q.1 := String.le_antisymm hpq hqp
          have hvalues := h p.1
          rw [valuesOf_head, hname, valuesOf_head] at hvalues
          obtain rfl : p = q := Prod.ext hname (List.cons.inj hvalues).1
          have hrest : ps = qs := by
            apply ih (List.pairwise_cons.mp hps).2 (List.pairwise_cons.mp hqs).2
            intro name
            have hname := h name
            rw [valuesOf_cons, valuesOf_cons] at hname
            by_cases hp : p.1 = name
            · rw [if_pos hp, if_pos hp] at hname
              exact (List.cons.inj hname).2
            · rwa [if_neg hp, if_neg hp] at hname
          rw [hrest]

/-- **There is one order by name.** -/
theorem Sorts.unique {rs : List Pair} (hqs : Sorts ps qs) (hrs : Sorts ps rs) : qs = rs := by
  apply eq_of_valuesOf
  · exact hqs.ascending.imp Utf8.ofString_le_ofString_iff.mp
  · exact hrs.ascending.imp Utf8.ofString_le_ofString_iff.mp
  · intro name
    rw [hqs.stable, hrs.stable]

/-- The sorted list is the only one that sorts the pairs. -/
theorem sorts_iff : Sorts ps qs ↔ qs = sortByName ps :=
  ⟨fun h => h.unique (sorts_sortByName ps), fun h => h ▸ sorts_sortByName ps⟩

/-- **Two lists have one order** when each name has the same values in both. -/
theorem sortByName_eq_iff :
    sortByName ps = sortByName qs ↔ ∀ name, valuesOf name ps = valuesOf name qs := by
  constructor
  · intro h name
    rw [← valuesOf_sortByName, h, valuesOf_sortByName]
  · intro h
    apply eq_of_valuesOf (pairwise_sortByName ps) (pairwise_sortByName qs)
    intro name
    rw [valuesOf_sortByName, valuesOf_sortByName, h]

/-- Parameters in order stay as they are. -/
theorem sortByName_sortByName (ps : List Pair) : sortByName (sortByName ps) = sortByName ps :=
  sortByName_eq_iff.mpr fun name => valuesOf_sortByName name ps

end AccountWire.Query
