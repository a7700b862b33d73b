import Mathlib.Data.List.Forall2

/-!
# Checks in a row

Whatever may be refused is checked step by step, and the first step that fails decides.  `Passes` says
that a check lets its argument through; a row of checks passes when each of them does (`passes_bind`,
`passes_mapM`), and it fails for its first item that fails (`mapM_eq_error_iff`).  Where the checks in a
row are all different, what they look for is a list of flaws, and the row fails for the first of them
that there is (`IsFirst`, `andThen_eq_error_iff`).
-/

namespace AccountWire.Admin

/-! ### Steps that succeed -/

/-- What two steps give is what the second makes of the result of the first. -/
theorem of_bind_eq_ok {ε α β : Type} {x : Except ε α} {f : α → Except ε β} {b : β}
    (h : x >>= f = .ok b) : ∃ a, x = .ok a ∧ f a = .ok b := by
  cases x with
  | error e => exact absurd h (by simp [bind, Except.bind])
  | ok a => exact ⟨a, rfl, h⟩

/-- What is seen without an error is the result. -/
theorem eq_ok_of_toOption {ε α : Type} {x : Except ε α} {a : α} (h : x.toOption = some a) :
    x = .ok a := by
  cases x with
  | error e => exact absurd h (by simp [Except.toOption])
  | ok b => exact congrArg _ (Option.some.inj h)

/-- Whether there is a result can be seen without its error. -/
theorem exists_eq_ok {ε α : Type} {x : Except ε α} (h : x.toOption.isSome = true) :
    ∃ a, x = .ok a := by
  obtain ⟨a, ha⟩ := Option.isSome_iff_exists.mp h
  exact ⟨a, eq_ok_of_toOption ha⟩

/-- A part of the result that can be seen tells that there is a result, and what the part is. -/
theorem exists_eq_ok_of_map {ε α β : Type} {x : Except ε α} {f : α → β} {b : β}
    (h : x.toOption.map f = some b) : ∃ a, x = .ok a ∧ f a = b := by
  obtain ⟨a, ha, hb⟩ := Option.map_eq_some_iff.mp h
  exact ⟨a, eq_ok_of_toOption ha, hb⟩

/-- A list is taken step by step, and each step has its own result. -/
theorem getElem?_of_mapM_eq_ok {ε α β : Type} {f : α → Except ε β} {l : List α} {r : List β}
    (h : l.mapM f = .ok r) {i : Nat} {a : α} (ha : l[i]? = some a) :
    ∃ b, r[i]? = some b ∧ f a = .ok b := by
  induction l generalizing r i with
  | nil => simp at ha
  | cons head tail ih =>
      rw [List.mapM_cons] at h
      obtain ⟨b, hb, h⟩ := of_bind_eq_ok h
      obtain ⟨bs, hbs, h⟩ := of_bind_eq_ok h
      obtain rfl := Except.ok.inj h
      cases i with
      | zero =>
          obtain rfl : head = a := by simpa using ha
          exact ⟨b, rfl, hb⟩
      | succ i => exact ih hbs ha

/-! ### Checks that pass -/

/-- A check that lets its argument through. -/
def Passes {ε α : Type} (check : Except ε α) : Prop := ∃ a, check = .ok a

section

variable {ε α β : Type}

@[simp] theorem passes_ok (a : α) : Passes (.ok a : Except ε α) := ⟨a, rfl⟩

@[simp] theorem passes_pure (a : α) : Passes (pure a : Except ε α) := ⟨a, rfl⟩

@[simp] theorem not_passes_error (e : ε) : ¬ Passes (.error e : Except ε α) := by
  rintro ⟨a, h⟩
  cases h

/-- What does not pass is refused for some reason. -/
theorem not_passes_iff {check : Except ε α} : ¬ Passes check ↔ ∃ e, check = .error e := by
  cases check <;> simp

/-- Two steps pass if the first does and the second does with its result. -/
theorem passes_bind {check : Except ε α} {next : α → Except ε β} :
    Passes (check >>= next) ↔ ∃ a, check = .ok a ∧ Passes (next a) := by
  constructor
  · rintro ⟨b, h⟩
    obtain ⟨a, ha, hb⟩ := of_bind_eq_ok h
    exact ⟨a, ha, b, hb⟩
  · rintro ⟨a, rfl, h⟩
    exact h

/-- A check comes before the rest. -/
theorem passes_andThen {check : Except ε Unit} {next : Unit → Except ε β} :
    Passes (check >>= next) ↔ Passes check ∧ Passes (next ()) := by
  rw [passes_bind]
  constructor
  · rintro ⟨⟨⟩, hcheck, hnext⟩
    exact ⟨⟨(), hcheck⟩, hnext⟩
  · rintro ⟨⟨⟨⟩, hcheck⟩, hnext⟩
    exact ⟨(), hcheck, hnext⟩

/-- What is made of a checked value cannot fail. -/
theorem passes_map {check : Except ε α} {make : α → β} :
    Passes (check >>= fun a => pure (make a)) ↔ Passes check := by
  rw [passes_bind]
  exact ⟨fun ⟨a, ha, _⟩ => ⟨a, ha⟩, fun ⟨a, ha⟩ => ⟨a, ha, passes_pure _⟩⟩

/-- A refusal and what follows it pass if there is nothing to refuse and the rest passes. -/
theorem passes_refuse {p : Prop} [Decidable p] {e : ε} {next : Except ε α} :
    Passes (if p then .error e else next) ↔ ¬ p ∧ Passes next := by
  by_cases hp : p <;> simp [hp]

/-- A field that may be absent is checked when it is there. -/
theorem passes_forM {check : α → Except ε PUnit} {field : Option α} :
    Passes (field.forM check) ↔ ∀ a ∈ field, Passes (check a) := by
  cases field with
  | none => simp [Option.forM]
  | some a => simp [Option.forM]

/-- A check of a field that may be absent passes if it does for the value that is there. -/
theorem passes_mapM_option {check : α → Except ε β} {field : Option α} :
    Passes (field.mapM check) ↔ ∀ a ∈ field, Passes (check a) := by
  cases field with
  | none => simp [Option.mapM_none]
  | some a =>
      rw [Option.mapM_some, map_eq_pure_bind, passes_map]
      simp

/-- What may be left to a default is checked when it is there. -/
theorem passes_elim {check : α → Except ε β} {default : β} {field : Option α} :
    Passes (field.elim (.ok default) check) ↔ ∀ a ∈ field, Passes (check a) := by
  cases field with
  | none => simp
  | some a => simp

/-- What becomes of a field that may be left to a default. -/
theorem eq_getD_of_elim_eq_ok {check : α → Except ε β} {make : α → β} {default b : β}
    {field : Option α} (hcheck : ∀ a b, check a = .ok b → b = make a)
    (h : field.elim (.ok default) check = .ok b) : b = (field.map make).getD default := by
  cases field with
  | none => exact (Except.ok.inj h).symm
  | some a => exact hcheck a b h

/-- A list passes when all its items do. -/
theorem passes_mapM {check : α → Except ε β} {l : List α} :
    Passes (l.mapM check) ↔ ∀ a ∈ l, Passes (check a) := by
  induction l with
  | nil => simp
  | cons a l ih =>
      rw [List.mapM_cons, passes_bind, List.forall_mem_cons, ← ih]
      simp only [passes_map]
      exact ⟨fun ⟨b, hb, h⟩ => ⟨⟨b, hb⟩, h⟩, fun ⟨⟨b, hb⟩, h⟩ => ⟨b, hb, h⟩⟩

end

/-! ### Steps that fail -/

/-- A step that fails, or lets the next one fail. -/
theorem of_bind_eq_error {ε α β : Type} {x : Except ε α} {f : α → Except ε β} {e : ε}
    (h : x >>= f = .error e) : x = .error e ∨ ∃ a, x = .ok a ∧ f a = .error e := by
  cases x with
  | error e' => exact Or.inl (congrArg _ (Except.error.inj h))
  | ok a => exact Or.inr ⟨a, rfl, h⟩

/-- A sequence of steps fails in its first step or after it. -/
theorem bind_eq_error_iff {ε α β : Type} {x : Except ε α} {f : α → Except ε β} {e : ε} :
    x >>= f = .error e ↔ x = .error e ∨ ∃ a, x = .ok a ∧ f a = .error e := by
  refine ⟨of_bind_eq_error, ?_⟩
  rintro (rfl | ⟨a, rfl, h⟩)
  · rfl
  · exact h

/-- An error is the same whatever becomes of a success. -/
theorem eq_error_of_map {ε α β : Type} {x : Except ε α} {f : α → β} {e : ε}
    (h : x.map f = .error e) : x = .error e := by
  cases x with
  | error e' => rw [Except.error.inj h]
  | ok a => cases h

/-- What may be left to a default fails when it is there and its check does. -/
theorem elim_eq_error_iff {ε α β : Type} {check : α → Except ε β} {default : β} {field : Option α}
    {e : ε} : field.elim (.ok default) check = .error e ↔
      ∃ a, field = some a ∧ check a = .error e := by
  cases field with
  | none => simp
  | some a => simp

/-- **A list fails at its first item that does.** -/
theorem mapM_eq_error_iff {ε α β : Type} {f : α → Except ε β} {l : List α} {e : ε} :
    l.mapM f = .error e ↔ ∃ before a after, l = before ++ a :: after ∧
      (∀ b ∈ before, Passes (f b)) ∧ f a = .error e := by
  induction l with
  | nil =>
      refine iff_of_false (fun h => by cases h) ?_
      rintro ⟨before, a, after, hsplit, -⟩
      exact absurd hsplit (by simp)
  | cons c l ih =>
      rw [List.mapM_cons, bind_eq_error_iff]
      constructor
      · rintro (h | ⟨b, hb, h⟩)
        · exact ⟨[], c, l, rfl, by simp, h⟩
        · rcases of_bind_eq_error h with h | ⟨bs, -, h⟩
          · obtain ⟨before, a, after, rfl, hbefore, ha⟩ := ih.mp h
            exact ⟨c :: before, a, after, rfl, List.forall_mem_cons.mpr ⟨⟨b, hb⟩, hbefore⟩, ha⟩
          · cases h
      · rintro ⟨before, a, after, hsplit, hbefore, ha⟩
        cases before with
        | nil =>
            obtain ⟨rfl, rfl⟩ := List.cons.inj hsplit
            exact Or.inl ha
        | cons d before =>
            obtain ⟨rfl, rfl⟩ := List.cons.inj hsplit
            obtain ⟨⟨b, hb⟩, hbefore⟩ := List.forall_mem_cons.mp hbefore
            refine Or.inr ⟨b, hb, ?_⟩
            rw [ih.mpr ⟨before, a, after, rfl, hbefore, ha⟩]
            rfl

/-- A list is taken step by step, and all steps succeed. -/
theorem mapM_eq_ok_iff {ε α β : Type} {f : α → Except ε β} {l : List α} {bs : List β} :
    l.mapM f = .ok bs ↔ List.Forall₂ (fun a b => f a = .ok b) l bs := by
  induction l generalizing bs with
  | nil =>
      constructor
      · intro h
        obtain rfl := Except.ok.inj h
        exact .nil
      · intro h
        cases h
        rfl
  | cons a l ih =>
      rw [List.mapM_cons]
      constructor
      · intro h
        obtain ⟨b, hb, h⟩ := of_bind_eq_ok h
        obtain ⟨rest, hrest, h⟩ := of_bind_eq_ok h
        obtain rfl := Except.ok.inj h
        exact .cons hb (ih.mp hrest)
      · intro h
        cases h with
        | cons hb hrest =>
            simp only [hb, ih.mpr hrest, bind, Except.bind]
            rfl

/-- A list is taken step by step, and one of the steps fails. -/
theorem of_mapM_eq_error {ε α β : Type} {f : α → Except ε β} {l : List α} {e : ε}
    (h : l.mapM f = .error e) : ∃ a ∈ l, f a = .error e := by
  obtain ⟨before, a, after, rfl, -, ha⟩ := mapM_eq_error_iff.mp h
  exact ⟨a, by simp, ha⟩

/-! ### The first flaw -/

section

variable {ε α : Type} {flaw : ε → Prop} {flaws : List (ε → Prop)} {e : ε}

/-- A field that is there and is not as it has to be, and the reason that is told for it. -/
def Flaw (field : Option α) (valid : α → Prop) (reason : α → ε) (e : ε) : Prop :=
  ∃ a, field = some a ∧ ¬ valid a ∧ e = reason a

/-- A field has no flaw when it is absent or as it has to be. -/
theorem forall_not_flaw_iff {field : Option α} {valid : α → Prop} {reason : α → ε} :
    (∀ e, ¬ Flaw field valid reason e) ↔ ∀ a ∈ field, valid a := by
  constructor
  · intro hnone a ha
    by_contra hnot
    exact hnone (reason a) ⟨a, ha, hnot, rfl⟩
  · rintro hvalid e ⟨a, ha, hnot, -⟩
    exact hnot (hvalid a ha)

/-- The reason of the first flaw that there is. -/
def IsFirst (flaws : List (ε → Prop)) (e : ε) : Prop :=
  ∃ before flaw after, flaws = before ++ flaw :: after ∧ (∀ f ∈ before, ∀ e', ¬ f e') ∧ flaw e

/-- Without flaws there is no first one. -/
theorem not_isFirst_nil : ¬ IsFirst [] e := by
  rintro ⟨before, flaw, after, hsplit, -⟩
  exact absurd hsplit (by simp)

/-- The first flaw of a list is found at its head, or behind a head that finds none. -/
theorem isFirst_cons :
    IsFirst (flaw :: flaws) e ↔ flaw e ∨ (∀ e', ¬ flaw e') ∧ IsFirst flaws e := by
  constructor
  · rintro ⟨before, f, after, hsplit, hbefore, h⟩
    cases before with
    | nil =>
        obtain ⟨rfl, rfl⟩ := List.cons.inj hsplit
        exact Or.inl h
    | cons g before =>
        obtain ⟨rfl, rfl⟩ := List.cons.inj hsplit
        obtain ⟨hflaw, hbefore⟩ := List.forall_mem_cons.mp hbefore
        exact Or.inr ⟨hflaw, before, f, after, rfl, hbefore, h⟩
  · rintro (h | ⟨hflaw, before, f, after, rfl, hbefore, h⟩)
    · exact ⟨[], flaw, flaws, rfl, by simp, h⟩
    · exact ⟨flaw :: before, f, after, rfl, List.forall_mem_cons.mpr ⟨hflaw, hbefore⟩, h⟩

/-- A check that has one reason fails for it when it does not pass. -/
theorem eq_error_iff_of_passes {check : Except ε α} {valid : Prop} {reason : ε}
    (hpasses : Passes check ↔ valid) (hreason : ∀ e, check = .error e → e = reason) :
    check = .error e ↔ ¬ valid ∧ e = reason := by
  rw [← hpasses]
  cases check with
  | ok a => simp
  | error e' => simp [hreason e' rfl, eq_comm]

/-- A check that refuses has one reason. -/
theorem eq_of_refuse {p : Prop} [Decidable p] {reason : ε} {a : α}
    (h : (if p then .error reason else .ok a : Except ε α) = .error e) : e = reason := by
  split at h
  · exact (Except.error.inj h).symm
  · cases h

theorem eq_of_admit {p : Prop} [Decidable p] {reason : ε} {a : α}
    (h : (if p then .ok a else .error reason : Except ε α) = .error e) : e = reason := by
  split at h
  · cases h
  · exact (Except.error.inj h).symm

/-- A field that may be absent fails for its flaw. -/
theorem forM_eq_error_iff {check : α → Except ε PUnit} {valid : α → Prop} {reason : α → ε}
    (hcheck : ∀ {a e}, check a = .error e ↔ ¬ valid a ∧ e = reason a) {field : Option α} :
    field.forM check = .error e ↔ Flaw field valid reason e := by
  cases field with
  | none =>
      refine iff_of_false (fun h => by cases h) ?_
      rintro ⟨a, ha, -⟩
      cases ha
  | some a => simpa [Flaw, Option.forM] using hcheck

/-- **A row of checks fails for the first flaw**: the one that its first check looks for, or, without
it, the first of those that the others look for. -/
theorem andThen_eq_error_iff {check : Except ε PUnit} {next : Except ε α}
    (hcheck : ∀ {e}, check = .error e ↔ flaw e) (hnext : ∀ {e}, next = .error e ↔ IsFirst flaws e) :
    (check >>= fun _ => next) = .error e ↔ IsFirst (flaw :: flaws) e := by
  have hpasses : (∃ a, check = .ok a) ↔ ∀ e', ¬ flaw e' := by
    simp only [← hcheck]
    cases check <;> simp
  rw [bind_eq_error_iff, isFirst_cons, hcheck, ← hpasses]
  simp only [hnext, exists_and_right]

end

end AccountWire.Admin
