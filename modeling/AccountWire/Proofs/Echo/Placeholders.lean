import AccountWire.Proofs.Echo.PathTemplate
import Mathlib.Data.List.Find
import Mathlib.Data.List.Forall2

/-!
# Where the placeholders of a template are

A placeholder stands at each place of a text where a name stands between curly brackets, whatever
other brackets are around it (`OccursAt`).  Reading is one pass that looks at no character twice,
and it misses none of these places, because no placeholder begins inside another one
(`not_occursAt_inside`).

`Cut` tells what the pass makes of a text, one part after the other, and `cut_ofChars` that the pass
does this.  What the parts of a template are (`Cut.arePartsOf`) and what they expand to
(`expand_eq_ok_iff_becomes`) says everything about expansion.
-/

namespace AccountWire.Echo

namespace TemplatePart

/-- A name stands between brackets at a place of a text. -/
def OccursAt (cs : List Char) (i : Nat) (name : List Char) : Prop :=
  IsName name ∧ (placeholder name).chars <+: cs.drop i

/-- The places and the names of placeholders, given the place of the first part. -/
def placesFrom : Nat → List TemplatePart → List (Nat × String)
  | _, [] => []
  | i, .literal _ :: ps => placesFrom (i + 1) ps
  | i, .placeholder name :: ps =>
    (i, String.ofList name) :: placesFrom (i + (placeholder name).chars.length) ps

/-- The parts of a text: one after the other they write the text, and their placeholders are those
of the text, each at its place. -/
structure ArePartsOf (cs : List Char) (ps : List TemplatePart) : Prop where
  text : ps.flatMap chars = cs
  ascending : (placesFrom 0 ps).Pairwise (·.1 < ·.1)
  places : ∀ i name, (i, name) ∈ placesFrom 0 ps ↔ OccursAt cs i name.toList

/-- What one pass makes of a text: a placeholder is a part, and so is each character with which none
begins. -/
inductive Cut : List Char → List TemplatePart → Prop
  | nil : Cut [] []
  | literal {c : Char} {r : List Char} {ps : List TemplatePart}
      (plain : ∀ name, ¬ OccursAt (c :: r) 0 name) (rest : Cut r ps) :
      Cut (c :: r) (.literal c :: ps)
  | placeholder {name r : List Char} {ps : List TemplatePart} (isName : IsName name)
      (rest : Cut r ps) : Cut ((placeholder name).chars ++ r) (.placeholder name :: ps)

/-! ### Single places -/

theorem chars_placeholder_append (name r : List Char) :
    (placeholder name).chars ++ r = '\x7b' :: (name ++ '\x7d' :: r) := by
  simp [chars]

/-- **A name is found exactly before a closing bracket.** -/
theorem nameAt?_eq_some_iff {cs name : List Char} :
    nameAt? cs = some name ↔ IsName name ∧ ∃ r, cs = name ++ '\x7d' :: r := by
  constructor
  · intro h
    rw [nameAt?] at h
    obtain ⟨r, hr⟩ := List.takeWhile_prefix isNamePart (l := cs)
    have hparts : ∀ c ∈ cs.takeWhile isNamePart, isNamePart c = true :=
      fun c => List.mem_takeWhile_imp
    generalize cs.takeWhile isNamePart = taken at h hr hparts
    have hdrop : cs.drop taken.length = r := by rw [← hr, List.drop_left]
    rw [hdrop] at h
    split at h
    · next c name' rest =>
      by_cases hstart : isNameStart c = true
      · rw [if_pos hstart] at h
        obtain rfl := Option.some.inj h
        exact ⟨⟨⟨c, name', rfl, hstart⟩, hparts⟩, rest, hr.symm⟩
      · rw [if_neg hstart] at h
        cases h
    · cases h
  · rintro ⟨hname, r, rfl⟩
    exact nameAt?_append hname r

/-- A placeholder begins with the first character exactly if this is a bracket and a name
follows. -/
theorem occursAt_zero_iff {c : Char} {r name : List Char} :
    OccursAt (c :: r) 0 name ↔ c = '\x7b' ∧ nameAt? r = some name := by
  rw [OccursAt, nameAt?_eq_some_iff, List.drop_zero]
  constructor
  · rintro ⟨hname, rest, htext⟩
    rw [chars_placeholder_append] at htext
    obtain ⟨rfl, rfl⟩ := List.cons.inj htext
    exact ⟨rfl, hname, rest, rfl⟩
  · rintro ⟨rfl, hname, rest, rfl⟩
    exact ⟨hname, rest, chars_placeholder_append name rest⟩

/-- At its beginning a placeholder holds its own name and no other. -/
theorem occursAt_placeholder_zero {name r : List Char} (h : IsName name) {other : List Char} :
    OccursAt ((placeholder name).chars ++ r) 0 other ↔ other = name := by
  rw [chars_placeholder_append, occursAt_zero_iff, nameAt?_append h, and_iff_right rfl,
    Option.some_inj, eq_comm]

/-- Where a placeholder occurs there is a bracket. -/
theorem OccursAt.getElem? {cs name : List Char} {i : Nat} (h : OccursAt cs i name) :
    cs[i]? = some '\x7b' := by
  obtain ⟨-, r, hr⟩ := h
  rw [chars_placeholder_append] at hr
  have hhead : (cs.drop i)[0]? = some '\x7b' := by rw [← hr]; rfl
  simpa using hhead

/-- **No placeholder begins inside another one**, where no opening bracket stands. -/
theorem not_occursAt_inside {name r other : List Char} {i : Nat} (h : IsName name) (hpos : 0 < i)
    (hi : i < (placeholder name).chars.length) :
    ¬ OccursAt ((placeholder name).chars ++ r) i other := by
  intro hoccurs
  have hbracket := hoccurs.getElem?
  obtain ⟨j, rfl⟩ : ∃ j, i = j + 1 := ⟨i - 1, by omega⟩
  have hinside : '\x7b' ∈ name ++ ['\x7d'] := by
    rw [List.getElem?_append_left hi] at hbracket
    exact List.mem_of_getElem? (i := j) (by simpa [chars] using hbracket)
  rcases List.mem_append.mp hinside with hmem | hmem
  · exact absurd (h.parts _ hmem) (by decide)
  · exact absurd hmem (by decide)

/-- What stands in front of a text moves its placeholders along. -/
theorem occursAt_append {cs r name : List Char} {i : Nat} :
    OccursAt (cs ++ r) (cs.length + i) name ↔ OccursAt r i name := by
  rw [OccursAt, OccursAt, List.drop_length_add_append]

theorem not_occursAt_nil (i : Nat) (name : List Char) : ¬ OccursAt [] i name := by
  intro h
  have hbracket := h.getElem?
  simp at hbracket

/-! ### One pass -/

/-- **A template is read in one pass.** -/
theorem cut_ofChars (skip : Nat) (cs : List Char) : Cut (cs.drop skip) (ofChars skip cs) := by
  induction skip, cs using ofChars.induct with
  | case1 skip =>
      rw [List.drop_nil, ofChars]
      exact .nil
  | case2 skip c r ih => exact ih
  | case3 r name hname ih =>
      obtain ⟨hisName, rest, rfl⟩ := nameAt?_eq_some_iff.mp hname
      rw [ofChars, if_pos rfl, hname, List.drop_zero, ← chars_placeholder_append]
      have hdrop : (name ++ '\x7d' :: rest).drop (name.length + 1) = rest := by simp
      rw [hdrop] at ih
      exact .placeholder hisName ih
  | case4 r hnone ih =>
      rw [ofChars, if_pos rfl, hnone]
      apply Cut.literal ?_ ih
      intro name h
      have hname := (occursAt_zero_iff.mp h).2
      rw [List.drop_zero, hnone] at hname
      cases hname
  | case5 c r hc ih =>
      rw [ofChars, if_neg hc]
      exact .literal (fun name h => hc (occursAt_zero_iff.mp h).1) ih

/-- No character is lost. -/
theorem Cut.flatMap_chars {cs : List Char} {ps : List TemplatePart} (h : Cut cs ps) :
    ps.flatMap chars = cs := by
  induction h with
  | nil => rfl
  | literal _ _ ih => rw [List.flatMap_cons, ih]; rfl
  | placeholder _ _ ih => rw [List.flatMap_cons, ih]

/-- No place comes before the first one. -/
theorem le_of_mem_placesFrom {i j : Nat} {name : String} {ps : List TemplatePart}
    (h : (i, name) ∈ placesFrom j ps) : j ≤ i := by
  induction ps generalizing j with
  | nil => cases h
  | cons p ps ih =>
      cases p with
      | literal c => exact Nat.le_of_succ_le (ih h)
      | placeholder name' =>
          rcases List.mem_cons.mp h with heq | h
          · exact (Prod.mk.inj heq).1.ge
          · exact Nat.le_of_add_right_le (ih h)

/-- The places ascend. -/
theorem pairwise_placesFrom (j : Nat) (ps : List TemplatePart) :
    (placesFrom j ps).Pairwise (·.1 < ·.1) := by
  induction ps generalizing j with
  | nil => exact List.Pairwise.nil
  | cons p ps ih =>
      cases p with
      | literal c => exact ih (j + 1)
      | placeholder name =>
          apply List.pairwise_cons.mpr ⟨?_, ih _⟩
          rintro ⟨i, other⟩ hother
          have hle := le_of_mem_placesFrom hother
          have hpos : 0 < (placeholder name).chars.length := Nat.succ_pos _
          show j < i
          omega

/-- **The placeholders of a pass are those of the text.** -/
theorem Cut.mem_placesFrom {cs : List Char} {ps : List TemplatePart} (h : Cut cs ps) (j i : Nat)
    (name : String) :
    (j + i, name) ∈ placesFrom j ps ↔ OccursAt cs i name.toList := by
  induction h generalizing j i with
  | nil => exact iff_of_false List.not_mem_nil (not_occursAt_nil _ _)
  | @literal c r ps plain rest ih =>
      cases i with
      | zero =>
          refine iff_of_false ?_ (plain _)
          intro hmem
          have hle : j + 1 ≤ j + 0 := le_of_mem_placesFrom hmem
          omega
      | succ i =>
          rw [placesFrom, show j + (i + 1) = j + 1 + i by omega, ih]
          rfl
  | @placeholder other r ps isName rest ih =>
      have hpos : 0 < (TemplatePart.placeholder other).chars.length := Nat.succ_pos _
      rw [placesFrom, List.mem_cons, Prod.mk.injEq]
      by_cases hinside : i < (TemplatePart.placeholder other).chars.length
      · have hrest : (j + i, name) ∉
            placesFrom (j + (TemplatePart.placeholder other).chars.length) ps := by
          intro hmem
          have hle := le_of_mem_placesFrom hmem
          omega
        cases i with
        | zero =>
            rw [occursAt_placeholder_zero isName, or_iff_left hrest,
              and_iff_right (Nat.add_zero j), ← String.toList_inj, String.toList_ofList]
        | succ i =>
            refine iff_of_false ?_ (not_occursAt_inside isName (Nat.succ_pos i) hinside)
            rintro (⟨heq, -⟩ | hmem)
            · omega
            · exact hrest hmem
      · obtain ⟨k, rfl⟩ : ∃ k, i = (TemplatePart.placeholder other).chars.length + k :=
          ⟨i - (TemplatePart.placeholder other).chars.length, by omega⟩
        rw [occursAt_append, ← Nat.add_assoc, ih]
        refine or_iff_right ?_
        rintro ⟨heq, -⟩
        omega

/-- What one pass makes of a text are its parts. -/
theorem Cut.arePartsOf {cs : List Char} {ps : List TemplatePart} (h : Cut cs ps) :
    ArePartsOf cs ps where
  text := h.flatMap_chars
  ascending := pairwise_placesFrom 0 ps
  places i name := by
    rw [← h.mem_placesFrom 0 i name, Nat.zero_add]

end TemplatePart

namespace PathTemplate

open TemplatePart (ArePartsOf IsName OccursAt placesFrom)

/-- A value for a name: of several, the last. -/
def LastValue (values : List (String × String)) (name v : String) : Prop :=
  ∃ before after, values = before ++ (name, v) :: after ∧ ∀ p ∈ after, p.1 ≠ name

/-- What a part becomes: a character stays, a placeholder gives way to its value. -/
def Becomes (values : List (String × String)) : TemplatePart → List Char → Prop
  | .literal c, cs => cs = [c]
  | .placeholder name, cs => ∃ v, LastValue values (String.ofList name) v ∧ cs = v.toList

/-- A name in brackets. -/
def bracketed (name : String) : String := "\x7b" ++ name ++ "\x7d"

/-! ### Values -/

variable {values : List (String × String)} {name v s : String} {t : PathTemplate}

/-- The value of a name is the last one that it was given. -/
theorem valueOf?_eq_some_iff : valueOf? values name = some v ↔ LastValue values name v := by
  rw [valueOf?, Option.map_eq_some_iff]
  constructor
  · rintro ⟨⟨name', v'⟩, hfind, rfl⟩
    obtain ⟨hname, after, before, hsplit, hafter⟩ := List.find?_eq_some_iff_append.mp hfind
    obtain rfl : name' = name := eq_of_beq hname
    refine ⟨before.reverse, after.reverse, ?_, ?_⟩
    · rw [← List.reverse_reverse values, hsplit]
      simp
    · intro p hp
      simpa using hafter p (List.mem_reverse.mp hp)
  · rintro ⟨before, after, rfl, hafter⟩
    refine ⟨(name, v), List.find?_eq_some_iff_append.mpr ?_, rfl⟩
    refine ⟨beq_self_eq_true name, after.reverse, before.reverse, by simp, ?_⟩
    intro p hp
    simpa using hafter p (List.mem_reverse.mp hp)

/-- A name has a value exactly when it is one of the names. -/
theorem isSome_valueOf?_iff : (valueOf? values name).isSome = true ↔ ∃ v, (name, v) ∈ values := by
  rw [valueOf?, Option.isSome_map, List.find?_isSome]
  constructor
  · rintro ⟨⟨name', v⟩, hmem, hname⟩
    obtain rfl : name' = name := eq_of_beq hname
    exact ⟨v, List.mem_reverse.mp hmem⟩
  · rintro ⟨v, hmem⟩
    exact ⟨(name, v), List.mem_reverse.mpr hmem, beq_self_eq_true name⟩

/-- A value for another name makes no difference. -/
theorem valueOf?_insert {before after : List (String × String)} {other w : String}
    (h : other ≠ name) :
    valueOf? (before ++ (other, w) :: after) name = valueOf? (before ++ after) name := by
  simp [valueOf?, List.find?_append, h]

/-! ### Expansion -/

/-- **A template is cut into its parts.** -/
theorem arePartsOf (t : PathTemplate) : ArePartsOf t.template.toList t.parts :=
  (TemplatePart.cut_ofChars 0 t.template.toList).arePartsOf

/-- The placeholders of a template are the names at its places, in this order. -/
theorem placeholders_eq (t : PathTemplate) : t.placeholders = (placesFrom 0 t.parts).map (·.2) := by
  unfold placeholders
  -- It does not matter where the places begin.
  generalize t.parts = ps, 0 = j
  induction ps generalizing j with
  | nil => rfl
  | cons p ps ih =>
      cases p with
      | literal c => exact ih (j + 1)
      | placeholder name => exact congrArg (String.ofList name :: ·) (ih _)

/-- What a part becomes is what it is expanded to, if it has a value in case it needs one. -/
theorem becomes_iff {p : TemplatePart} {cs : List Char} : Becomes values p cs ↔
    (∀ name, p = .placeholder name → (valueOf? values (String.ofList name)).isSome = true) ∧
      cs = expandPart values p := by
  cases p with
  | literal c => simp [Becomes, expandPart]
  | placeholder name =>
      simp only [Becomes, ← valueOf?_eq_some_iff, expandPart, TemplatePart.placeholder.injEq]
      cases hvalue : valueOf? values (String.ofList name) with
      | none => simp [hvalue]
      | some v => simp [hvalue]

/-- All parts become texts exactly if each placeholder has a value, and then these are the texts. -/
theorem forall₂_becomes_iff {ps : List TemplatePart} {texts : List (List Char)} :
    List.Forall₂ (Becomes values) ps texts ↔
      (∀ name, .placeholder name ∈ ps → (valueOf? values (String.ofList name)).isSome = true) ∧
        texts = ps.map (expandPart values) := by
  induction ps generalizing texts with
  | nil => simp
  | cons p ps ih =>
      rw [List.forall₂_cons_left_iff]
      constructor
      · rintro ⟨cs, rest, hp, hps, rfl⟩
        obtain ⟨hresolved, rfl⟩ := becomes_iff.mp hp
        obtain ⟨hrest, rfl⟩ := ih.mp hps
        refine ⟨fun name hname => ?_, rfl⟩
        rcases List.mem_cons.mp hname with heq | hname
        · exact hresolved name heq.symm
        · exact hrest name hname
      · rintro ⟨hresolved, rfl⟩
        refine ⟨_, _, becomes_iff.mpr ⟨?_, rfl⟩, ih.mpr ⟨?_, rfl⟩, rfl⟩
        · rintro name rfl
          exact hresolved name List.mem_cons_self
        · exact fun name hname => hresolved name (List.mem_cons_of_mem _ hname)

/-- **A template expands to what its parts become**, one after the other. -/
theorem expand_eq_ok_iff_becomes : t.expand values = .ok s ↔
    ∃ texts, List.Forall₂ (Becomes values) t.parts texts ∧ s.toList = texts.flatten := by
  rw [expand_eq_ok_iff]
  constructor
  · rintro ⟨hresolved, htext⟩
    exact ⟨_, forall₂_becomes_iff.mpr ⟨hresolved, rfl⟩, by rw [← htext, List.flatMap_def]⟩
  · rintro ⟨texts, hbecomes, htext⟩
    obtain ⟨hresolved, rfl⟩ := forall₂_becomes_iff.mp hbecomes
    exact ⟨hresolved, by rw [htext, List.flatMap_def]⟩

/-- Whether there is a text to expand to depends on the names alone. -/
theorem exists_expand_iff : (∃ s, t.expand values = .ok s) ↔
    ∀ name ∈ t.placeholders, ∃ v, (name, v) ∈ values := by
  simp only [expand_eq_ok_iff, ← isSome_valueOf?_iff]
  constructor
  · rintro ⟨s, hresolved, -⟩ name hname
    have hvalue := hresolved name.toList (mem_placeholders.mp hname)
    rwa [String.ofList_toList] at hvalue
  · intro h
    refine ⟨String.ofList (t.parts.flatMap (expandPart values)), fun name hname => ?_, by simp⟩
    apply h
    rwa [mem_placeholders, String.toList_ofList]

/-- **The error names the first placeholder without a value.** -/
theorem expand_eq_error_iff {e : Error} : t.expand values = .error e ↔
    ∃ before name after, t.placeholders = before ++ name :: after ∧
      (∀ n ∈ before, ∃ v, (n, v) ∈ values) ∧ (∀ v, (name, v) ∉ values) ∧
      e = .unresolvedPlaceholder name := by
  have hnone : ∀ name, (valueOf? values name).isNone = true ↔ ∀ v, (name, v) ∉ values := by
    intro name
    rw [← not_exists, ← isSome_valueOf?_iff, ← Option.not_isSome, Bool.not_eq_true',
      Bool.not_eq_true]
  have hsome : ∀ name, (!(valueOf? values name).isNone) = true ↔ ∃ v, (name, v) ∈ values := by
    intro name
    rw [← isSome_valueOf?_iff, Option.not_isNone]
  have hfind : ∀ name, t.placeholders.find? (fun name => (valueOf? values name).isNone) =
      some name ↔ ∃ before after, t.placeholders = before ++ name :: after ∧
        (∀ n ∈ before, ∃ v, (n, v) ∈ values) ∧ ∀ v, (name, v) ∉ values := by
    intro name
    rw [List.find?_eq_some_iff_append, hnone]
    simp only [hsome]
    constructor
    · rintro ⟨habsent, before, after, hsplit, hbefore⟩
      exact ⟨before, after, hsplit, hbefore, habsent⟩
    · rintro ⟨before, after, hsplit, hbefore, habsent⟩
      exact ⟨habsent, before, after, hsplit, hbefore⟩
  unfold expand
  constructor
  · intro h
    split at h
    · next name hname =>
      obtain ⟨before, after, hsplit, hbefore, habsent⟩ := (hfind name).mp hname
      exact ⟨before, name, after, hsplit, hbefore, habsent, (Except.error.inj h).symm⟩
    · cases h
  · rintro ⟨before, name, after, hsplit, hbefore, habsent, rfl⟩
    rw [(hfind name).mpr ⟨before, after, hsplit, hbefore, habsent⟩]

/-- Only the values of its placeholders count for a template. -/
theorem expand_congr {values' : List (String × String)}
    (h : ∀ name ∈ t.placeholders, valueOf? values name = valueOf? values' name) :
    t.expand values = t.expand values' := by
  have hfind : t.placeholders.find? (fun name => (valueOf? values name).isNone) =
      t.placeholders.find? (fun name => (valueOf? values' name).isNone) := by
    apply List.find?_congr
    intro name hname
    rw [h name hname]
  have htext : t.parts.flatMap (expandPart values) = t.parts.flatMap (expandPart values') := by
    apply List.flatMap_congr
    intro p hp
    cases p with
    | literal c => rfl
    | placeholder name =>
        have hvalue := h (String.ofList name)
          (mem_placeholders.mpr (by rwa [String.toList_ofList]))
        rw [expandPart, expandPart, hvalue]
  rw [expand, expand, hfind, htext]

/-- A value for a name that does not occur makes no difference. -/
theorem expand_insert {before after : List (String × String)} (h : name ∉ t.placeholders) :
    t.expand (before ++ (name, v) :: after) = t.expand (before ++ after) := by
  apply expand_congr
  intro other hother
  apply valueOf?_insert
  rintro rfl
  exact h hother

/-- Names that stand for themselves in brackets leave a template as it is. -/
theorem expand_bracketed (h : ∀ name ∈ t.placeholders, LastValue values name (bracketed name)) :
    t.expand values = .ok t.template := by
  have hvalue : ∀ name, .placeholder name ∈ t.parts →
      valueOf? values (String.ofList name) = some (bracketed (String.ofList name)) := by
    intro name hname
    apply valueOf?_eq_some_iff.mpr
    apply h
    rwa [mem_placeholders, String.toList_ofList]
  rw [expand_eq_ok_iff]
  refine ⟨fun name hname => by rw [hvalue name hname, Option.isSome_some], ?_⟩
  rw [← t.arePartsOf.text]
  apply List.flatMap_congr
  intro p hp
  cases p with
  | literal c => rfl
  | placeholder name =>
      rw [expandPart, hvalue name hp]
      simp [bracketed, TemplatePart.chars]

/-- **A template is expanded in one pass that misses nothing.**  It has parts whose placeholders are
the names in brackets at all places of the text, and these are its placeholders in their order.
With a value for each of them the template expands to its parts, characters as they are and values
in place of placeholders, whatever the values hold; the first one that has no value is the error.
Names that stand for themselves change nothing, and neither do values that are not asked for. -/
theorem template_expands_in_one_pass (t : PathTemplate) :
    ∃ ps : List TemplatePart, ArePartsOf t.template.toList ps ∧
      t.placeholders = (placesFrom 0 ps).map (·.2) ∧
      ∀ values : List (String × String),
        ((∃ s, t.expand values = .ok s) ↔ ∀ name ∈ t.placeholders, ∃ v, (name, v) ∈ values) ∧
        (∀ s, t.expand values = .ok s ↔
          ∃ texts, List.Forall₂ (Becomes values) ps texts ∧ s.toList = texts.flatten) ∧
        (∀ e, t.expand values = .error e ↔
          ∃ before name after, t.placeholders = before ++ name :: after ∧
            (∀ n ∈ before, ∃ v, (n, v) ∈ values) ∧ (∀ v, (name, v) ∉ values) ∧
            e = .unresolvedPlaceholder name) ∧
        ((∀ name ∈ t.placeholders, LastValue values name (bracketed name)) →
          t.expand values = .ok t.template) ∧
        ∀ before after name v, values = before ++ (name, v) :: after → name ∉ t.placeholders →
          t.expand values = t.expand (before ++ after) := by
  refine ⟨t.parts, t.arePartsOf, t.placeholders_eq, fun values => ⟨?_, ?_, ?_, ?_, ?_⟩⟩
  · exact exists_expand_iff
  · exact fun s => expand_eq_ok_iff_becomes
  · exact fun e => expand_eq_error_iff
  · exact expand_bracketed
  · rintro before after name v rfl hname
    exact expand_insert hname

/-- Brackets that are doubled, stray, around no name or left open, and a value that looks like a
placeholder. -/
theorem stray_brackets_kept :
    let t : PathTemplate := ⟨"\x7b\x7ba\x7d\x7d\x7b1\x7d\x7bé\x7b_9\x7d\x7ba\x7d\x7bb"⟩
    let values := [("a", "x"), ("b", "y"), ("_9", "\x7ba\x7d"), ("a", "z")]
    t.placeholders = ["a", "_9", "a"] ∧
      t.expand values = .ok "\x7bz\x7d\x7b1\x7d\x7bé\x7ba\x7dz\x7bb" ∧
      t.expand values = t.expand [("a", "x"), ("_9", "\x7ba\x7d"), ("a", "z")] ∧
      t.expand [("b", "y"), ("a", "x")] = .error (.unresolvedPlaceholder "_9") ∧
      t.expand [("a", bracketed "a"), ("_9", bracketed "_9")] = .ok t.template := by
  intro t values
  have hnames : t.placeholders = ["a", "_9", "a"] := by decide +kernel
  obtain ⟨ps, -, -, hexpand⟩ := template_expands_in_one_pass t
  obtain ⟨-, -, -, -, hother⟩ := hexpand values
  obtain ⟨-, -, herror, -, -⟩ := hexpand [("b", "y"), ("a", "x")]
  obtain ⟨-, -, -, hsame, -⟩ := hexpand [("a", bracketed "a"), ("_9", bracketed "_9")]
  have hlast : LastValue [("a", bracketed "a"), ("_9", bracketed "_9")] "a" (bracketed "a") ∧
      LastValue [("a", bracketed "a"), ("_9", bracketed "_9")] "_9" (bracketed "_9") :=
    ⟨⟨[], _, rfl, by simp⟩, ⟨[_], [], rfl, by simp⟩⟩
  refine ⟨hnames, by decide +kernel, ?_, ?_, ?_⟩
  · apply hother [("a", "x")] [("_9", "\x7ba\x7d"), ("a", "z")] "b" "y" rfl
    rw [hnames]
    decide
  · apply (herror _).mpr
    exact ⟨["a"], "_9", ["a"], hnames, by simp, by simp, rfl⟩
  · apply hsame
    rw [hnames]
    simp [hlast]

end PathTemplate

end AccountWire.Echo
