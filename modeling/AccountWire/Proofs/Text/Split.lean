import AccountWire.Text.Split

/-!
# Pieces between separators

`pieces` undoes concatenation at a separator (`pieces_append`); the pieces hold no separator and
nothing that the list does not hold.
-/

namespace AccountWire.Split

variable {α : Type} {sep : α → Bool}

/-- A separator at the beginning has an empty piece in front of it. -/
theorem pieces_cons_sep {a : α} (ha : sep a = true) (r : List α) :
    pieces sep (a :: r) = [] :: pieces sep r := by
  rw [pieces, if_pos ha]

/-- What is no separator is part of the first piece. -/
theorem pieces_cons_of_pieces {a : α} {r p : List α} {ps : List (List α)} (ha : sep a = false)
    (hr : pieces sep r = p :: ps) : pieces sep (a :: r) = (a :: p) :: ps := by
  rw [pieces, if_neg (by simp [ha]), hr]

theorem pieces_replicate {a : α} (ha : sep a = true) (n : Nat) :
    pieces sep (List.replicate n a) = List.replicate (n + 1) [] := by
  induction n with
  | zero => rfl
  | succ n ih => rw [List.replicate_succ, pieces_cons_sep ha, ih, ← List.replicate_succ]

/-- A list without separators is one piece. -/
theorem pieces_of_forall {l : List α} (h : ∀ a ∈ l, sep a = false) : pieces sep l = [l] := by
  induction l with
  | nil => rfl
  | cons a r ih =>
      exact pieces_cons_of_pieces (h a List.mem_cons_self)
        (ih fun b hb => h b (List.mem_cons_of_mem _ hb))

/-- All pieces are empty when there are only separators. -/
theorem pieces_empty_iff {l : List α} :
    (∀ p ∈ pieces sep l, p = []) ↔ ∀ a ∈ l, sep a = true := by
  induction l with
  | nil => simp [pieces]
  | cons a l ih =>
      cases ha : sep a with
      | true => rw [pieces_cons_sep ha]; simp [ih, ha]
      | false =>
          obtain ⟨p, ps, hps⟩ := List.exists_cons_of_ne_nil (pieces_ne_nil sep l)
          rw [pieces_cons_of_pieces ha hps]
          simp [ha]

/-- **Cutting undoes concatenation** at a separator. -/
theorem pieces_append {a : α} (ha : sep a = true) (l r : List α) :
    pieces sep (l ++ a :: r) = pieces sep l ++ pieces sep r := by
  induction l with
  | nil => exact pieces_cons_sep ha r
  | cons b l ih =>
      cases hb : sep b with
      | true =>
          rw [List.cons_append, pieces_cons_sep hb, pieces_cons_sep hb, ih, List.cons_append]
      | false =>
          obtain ⟨p, ps, hp⟩ := List.exists_cons_of_ne_nil (pieces_ne_nil sep l)
          rw [hp, List.cons_append] at ih
          rw [List.cons_append, pieces_cons_of_pieces hb ih, pieces_cons_of_pieces hb hp,
            List.cons_append]

/-- There is a last piece. -/
theorem exists_pieces_eq (sep : α → Bool) (l : List α) :
    ∃ init last, pieces sep l = init ++ [last] :=
  ⟨_, _, (List.dropLast_concat_getLast (pieces_ne_nil sep l)).symm⟩

/-- What is appended without a separator belongs to the last piece. -/
theorem pieces_append_of_forall {l r last : List α} {init : List (List α)}
    (hl : pieces sep l = init ++ [last]) (hr : ∀ a ∈ r, sep a = false) :
    pieces sep (l ++ r) = init ++ [last ++ r] := by
  induction l generalizing init last with
  | nil =>
      obtain ⟨rfl, rfl⟩ : init = [] ∧ last = [] := by
        cases init <;> simp_all [pieces]
      exact pieces_of_forall hr
  | cons a l ih =>
      obtain ⟨p, ps, hp⟩ := List.exists_cons_of_ne_nil (pieces_ne_nil sep l)
      cases ha : sep a with
      | true =>
          rw [pieces_cons_sep ha, hp] at hl
          obtain ⟨q, init, rfl⟩ : ∃ q t, init = q :: t :=
            List.exists_cons_of_ne_nil (by rintro rfl; simp at hl)
          obtain ⟨rfl, hrest⟩ : [] = q ∧ p :: ps = init ++ [last] := by simpa using hl
          rw [List.cons_append, pieces_cons_sep ha, ih (hp.trans hrest), List.cons_append]
      | false =>
          rw [pieces_cons_of_pieces ha hp] at hl
          cases init with
          | nil =>
              obtain ⟨rfl, rfl⟩ : a :: p = last ∧ ps = [] := by simpa using hl
              exact pieces_cons_of_pieces ha (ih (show pieces sep l = [] ++ [p] from hp))
          | cons q init =>
              obtain ⟨rfl, rfl⟩ : a :: p = q ∧ ps = init ++ [last] := by simpa using hl
              exact pieces_cons_of_pieces ha (ih (show pieces sep l = (p :: init) ++ [last] from hp))

/-- Pieces that are put after separators come out again. -/
theorem pieces_flatMap {a : α} (ha : sep a = true) {ps : List (List α)}
    (hps : ∀ p ∈ ps, ∀ b ∈ p, sep b = false) (l : List α) :
    pieces sep (l ++ ps.flatMap (a :: ·)) = pieces sep l ++ ps := by
  induction ps generalizing l with
  | nil => simp
  | cons p ps ih =>
      rw [List.flatMap_cons, List.cons_append, pieces_append ha,
        ih fun q hq => hps q (List.mem_cons_of_mem _ hq),
        pieces_of_forall (hps p List.mem_cons_self), List.singleton_append]

/-- Pieces that are joined with a separator come out again, if there are any. -/
theorem pieces_join {a : α} (ha : sep a = true) {ps : List (List α)} (hne : ps ≠ [])
    (hps : ∀ p ∈ ps, ∀ b ∈ p, sep b = false) : pieces sep (join [a] ps) = ps := by
  induction ps with
  | nil => exact absurd rfl hne
  | cons p ps ih =>
      have hp := pieces_of_forall (hps p List.mem_cons_self)
      cases ps with
      | nil => exact hp
      | cons q ps =>
          have hrest := ih (by simp) fun r hr => hps r (List.mem_cons_of_mem _ hr)
          rw [show join [a] (p :: q :: ps) = p ++ [a] ++ join [a] (q :: ps) from rfl,
            List.append_assoc, List.singleton_append, pieces_append ha, hp, hrest,
            List.singleton_append]

/-- No piece holds a separator. -/
theorem sep_of_mem_pieces {l p : List α} (hp : p ∈ pieces sep l) : ∀ a ∈ p, sep a = false := by
  induction l generalizing p with
  | nil =>
      rw [pieces, List.mem_singleton] at hp
      simp [hp]
  | cons b l ih =>
      obtain ⟨q, qs, hq⟩ := List.exists_cons_of_ne_nil (pieces_ne_nil sep l)
      cases hb : sep b with
      | true =>
          rw [pieces_cons_sep hb, List.mem_cons] at hp
          rcases hp with rfl | hp
          · simp
          · exact ih hp
      | false =>
          rw [pieces_cons_of_pieces hb hq, List.mem_cons] at hp
          rcases hp with rfl | hp
          · intro a ha
            rcases List.mem_cons.mp ha with rfl | ha
            · exact hb
            · exact ih (hq ▸ List.mem_cons_self) a ha
          · exact ih (hq ▸ List.mem_cons_of_mem _ hp)

/-- A piece is what is left of the list when some elements are left out. -/
theorem sublist_of_mem_pieces {l p : List α} (hp : p ∈ pieces sep l) : p.Sublist l := by
  induction l generalizing p with
  | nil =>
      rw [pieces, List.mem_singleton] at hp
      simp [hp]
  | cons b l ih =>
      obtain ⟨q, qs, hq⟩ := List.exists_cons_of_ne_nil (pieces_ne_nil sep l)
      cases hb : sep b with
      | true =>
          rw [pieces_cons_sep hb, List.mem_cons] at hp
          rcases hp with rfl | hp
          · exact List.nil_sublist _
          · exact (ih hp).cons _
      | false =>
          rw [pieces_cons_of_pieces hb hq, List.mem_cons] at hp
          rcases hp with rfl | hp
          · exact (ih (hq ▸ List.mem_cons_self)).cons_cons _
          · exact (ih (hq ▸ List.mem_cons_of_mem _ hp)).cons _

/-! ### The first separator -/

/-- Nothing is cut where there is no separator. -/
theorem atFirst?_eq_none {l : List α} : atFirst? sep l = none ↔ ∀ a ∈ l, sep a = false := by
  induction l with
  | nil => simp [atFirst?]
  | cons a r ih => cases ha : sep a <;> simp [atFirst?, ha, ih]

/-- What follows does not move the first separator. -/
theorem atFirst?_append_of_some {l before after : List α} (r : List α)
    (h : atFirst? sep l = some (before, after)) :
    atFirst? sep (l ++ r) = some (before, after ++ r) := by
  induction l generalizing before with
  | nil => simp [atFirst?] at h
  | cons a l ih =>
      cases ha : sep a with
      | true =>
          simp only [atFirst?, ha, if_true, Option.some.injEq, Prod.mk.injEq] at h
          obtain ⟨rfl, rfl⟩ := h
          simp [atFirst?, ha]
      | false =>
          simp only [atFirst?, ha, Bool.false_eq_true, if_false, Option.map_eq_some_iff,
            Prod.mk.injEq, Prod.exists] at h
          obtain ⟨before', after', h', rfl, rfl⟩ := h
          simp [atFirst?, ha, ih h']

/-- A separator that does not stand in what follows stands before it. -/
theorem atFirst?_of_append {l r : List α} (hr : ∀ a ∈ r, sep a = false) :
    atFirst? sep (l ++ r) = (atFirst? sep l).map fun (before, after) => (before, after ++ r) := by
  induction l with
  | nil => simpa [atFirst?] using atFirst?_eq_none.mpr hr
  | cons a l ih =>
      cases ha : sep a with
      | true => simp [atFirst?, ha]
      | false => simp [atFirst?, ha, ih, Function.comp_def]

/-- The first separator is the one that no other stands before. -/
theorem atFirst?_cons_of_forall {l r : List α} {a : α} (hl : ∀ b ∈ l, sep b = false)
    (ha : sep a = true) : atFirst? sep (l ++ a :: r) = some (l, r) := by
  induction l with
  | nil => simp [atFirst?, ha]
  | cons b l ih =>
      have hb := hl b List.mem_cons_self
      simp [atFirst?, hb, ih fun c hc => hl c (List.mem_cons_of_mem _ hc)]

/-- The first separator stands between the two parts, and none stands in the first part. -/
theorem atFirst?_append {l before after : List α} (h : atFirst? sep l = some (before, after)) :
    ∃ a, sep a = true ∧ l = before ++ a :: after ∧ ∀ b ∈ before, sep b = false := by
  induction l generalizing before with
  | nil => simp [atFirst?] at h
  | cons a l ih =>
      cases ha : sep a with
      | true =>
          simp only [atFirst?, ha, if_true, Option.some.injEq, Prod.mk.injEq] at h
          obtain ⟨rfl, rfl⟩ := h
          exact ⟨a, ha, rfl, by simp⟩
      | false =>
          simp only [atFirst?, ha, Bool.false_eq_true, if_false, Option.map_eq_some_iff,
            Prod.mk.injEq, Prod.exists] at h
          obtain ⟨before', after', h', rfl, rfl⟩ := h
          obtain ⟨b, hb, rfl, hbefore⟩ := ih h'
          exact ⟨b, hb, rfl, List.forall_mem_cons.mpr ⟨ha, hbefore⟩⟩

/-- What stands before the first separator, or all if there is none. -/
theorem atFirst?_takeWhile (sep : α → Bool) (l : List α) :
    ((atFirst? sep l).map Prod.fst).getD l = l.takeWhile (! sep ·) := by
  induction l with
  | nil => rfl
  | cons a l ih =>
      cases ha : sep a with
      | true => simp [atFirst?, ha]
      | false =>
          rw [List.takeWhile_cons_of_pos (by simp [ha]), ← ih]
          cases h : atFirst? sep l <;> simp [atFirst?, ha, h]

/-- What follows the first separator does not depend on what stands before it. -/
theorem atFirst?_append_of_forall {l : List α} (hl : ∀ a ∈ l, sep a = false) (r : List α) :
    (atFirst? sep (l ++ r)).map (·.2) = (atFirst? sep r).map (·.2) := by
  induction l with
  | nil => rfl
  | cons a l ih =>
      rw [List.forall_mem_cons] at hl
      rw [List.cons_append, atFirst?, if_neg (by simp [hl.1]), ← ih hl.2, Option.map_map]
      rfl

/-! ### The last separator -/

/-- The last separator stands between the two parts. -/
theorem atLast?_append {l before after : List α} (h : atLast? sep l = some (before, after)) :
    ∃ a, sep a = true ∧ l = before ++ a :: after := by
  induction l generalizing before with
  | nil => simp [atLast?] at h
  | cons b l ih =>
      rw [atLast?] at h
      cases hl : atLast? sep l with
      | some q =>
          obtain ⟨before', after'⟩ := q
          simp only [hl, Option.some.injEq, Prod.mk.injEq] at h
          obtain ⟨rfl, rfl⟩ := h
          obtain ⟨a, ha, rfl⟩ := ih hl
          exact ⟨a, ha, rfl⟩
      | none =>
          simp only [hl, Option.ite_none_right_eq_some, Option.some.injEq, Prod.mk.injEq] at h
          obtain ⟨hb, rfl, rfl⟩ := h
          exact ⟨b, hb, rfl⟩

/-- The last separator is the one that no other stands after. -/
theorem atLast?_of_forall {l r : List α} {a : α} (ha : sep a = true)
    (hr : ∀ b ∈ r, sep b = false) : atLast? sep (l ++ a :: r) = some (l, r) := by
  have hnone : atLast? sep r = none := by
    cases h : atLast? sep r with
    | none => rfl
    | some q =>
        obtain ⟨b, hb, hbr⟩ := atLast?_append h
        have hmem : b ∈ r := hbr ▸ List.mem_append_right _ List.mem_cons_self
        exact absurd hb (by simp [hr b hmem])
  induction l with
  | nil => rw [List.nil_append, atLast?, hnone, if_pos ha]
  | cons b l ih => rw [List.cons_append, atLast?, ih]

end AccountWire.Split
