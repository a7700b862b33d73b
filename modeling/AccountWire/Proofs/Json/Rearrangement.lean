import AccountWire.Proofs.Json.Patch
import Mathlib.Logic.Relation

/-!
# What a reader of records overlooks

A `Shape` tells what a reader knows of the trees that it reads: which fields a record has, where the
items of a list are, and nothing about anything else.  An `Edit` changes a tree in a way that its
shape does not see: the members of a record change places, or a member is added whose name is no
field of it, with any tree as its value; and this at the top or in any record below it.

A reader `Respects` a shape when no edit changes what it reads.  Records do so when their fields do
(`respects_record`), lists when their items do (`respects_items`).
-/

namespace AccountWire.Json

open Relation (ReflTransGen)

/-- What a reader knows of a tree. -/
inductive Shape where
  /-- A tree that is read as a whole. -/
  | whole
  | list (item : Shape)
  /-- A record with its fields, in the order in which it names them. -/
  | record (fields : List (String × Shape))

/-- A change of a tree that its shape does not see. -/
inductive Edit : Shape → Tree → Tree → Prop
  | permuted {fields : List (String × Shape)} {ms ms' : List (StringText × Tree)}
      (h : ms.Perm ms') : Edit (.record fields) (.obj ms) (.obj ms')
  | inserted {fields : List (String × Shape)} {before after : List (StringText × Tree)}
      {k : StringText} {name : String} {t : Tree} (hname : stringText? k = some name)
      (hother : fields.lookup name = none) :
      Edit (.record fields) (.obj (before ++ after)) (.obj (before ++ (k, t) :: after))
  | inField {fields : List (String × Shape)} {before after : List (StringText × Tree)}
      {k : StringText} {name : String} {shape : Shape} {t t' : Tree}
      (hname : stringText? k = some name) (hfield : fields.lookup name = some shape)
      (h : Edit shape t t') :
      Edit (.record fields) (.obj (before ++ (k, t) :: after)) (.obj (before ++ (k, t') :: after))
  | inItem {shape : Shape} {before after : List Tree} {t t' : Tree} (h : Edit shape t t') :
      Edit (.list shape) (.arr (before ++ t :: after)) (.arr (before ++ t' :: after))

/-- Any number of edits. -/
abbrev Rearranged (shape : Shape) : Tree → Tree → Prop := ReflTransGen (Edit shape)

/-- Whether no edit of a shape changes what is read. -/
def Respects {α : Type} (shape : Shape) (read : Tree → Option α) : Prop :=
  ∀ t t', Edit shape t t' → read t = read t'

/-- **Any number of edits** leaves what is read alone. -/
theorem Respects.rearranged {α : Type} {shape : Shape} {read : Tree → Option α}
    (h : Respects shape read) {t t' : Tree} (ht : Rearranged shape t t') : read t = read t' := by
  induction ht with
  | refl => rfl
  | tail _ hedit ih => exact ih.trans (h _ _ hedit)

/-- A value that is kept as a whole is read alike, however it is read. -/
theorem respects_whole {α : Type} (read : Tree → Option α) : Respects .whole read := by
  intro t t' h
  cases h

/-! ### Lists -/

/-- **A list is read alike** when its items are. -/
theorem respects_items {α : Type} {shape : Shape} {read : Tree → Option α}
    (h : Respects shape read) : Respects (.list shape) (Tree.items? read) := by
  intro t t' hedit
  cases hedit with
  | inItem hitem =>
      rw [Tree.items?, Tree.items?, List.mapM_append, List.mapM_append, List.mapM_cons,
        List.mapM_cons, h _ _ hitem]

/-! ### Records -/

/-- The fields of two records are read alike by readers that respect their shapes. -/
def Agree (fields : List (String × Shape)) (fs fs' : Fields) : Prop :=
  ∀ name shape, fields.lookup name = some shape →
    ∀ {α : Type} (read : Tree → Option α), Respects shape read →
      fs.find? name read = fs'.find? name read

namespace Tree

/-- Of one value the order of values does not matter. -/
theorem readOne_perm {α : Type} (read : Tree → Option α) {ts ts' : List Tree}
    (h : ts.Perm ts') : readOne read ts = readOne read ts' := by
  match ts with
  | [] => rw [List.nil_perm.mp h]
  | [t] => rw [List.singleton_perm.mp h]
  | t :: u :: r =>
      -- More than one value is unreadable in any order.
      match ts', h.length_eq with
      | t' :: u' :: r', _ => rfl

theorem valuesOf_append (ms ns : List (StringText × Tree)) (name : String) :
    valuesOf (.obj (ms ++ ns)) name = valuesOf (.obj ms) name ++ valuesOf (.obj ns) name := by
  rw [valuesOf, members, List.filter_append, List.map_append]
  rfl

/-- A member adds its value to those of its name. -/
theorem valuesOf_cons (m : StringText × Tree) (ms : List (StringText × Tree)) (name : String) :
    valuesOf (.obj (m :: ms)) name =
      (if stringText? m.1 = some name then [m.2] else []) ++ valuesOf (.obj ms) name := by
  by_cases hm : stringText? m.1 = some name <;> simp [valuesOf, members, named, hm]

/-- One value of a field stands for another one that is read alike. -/
theorem readOne_replace {α : Type} {read : Tree → Option α} {t t' : Tree}
    (h : read t = read t') (before after : List Tree) :
    readOne read (before ++ t :: after) = readOne read (before ++ t' :: after) := by
  match before, after with
  | [], [] => rw [List.nil_append, List.nil_append, readOne, readOne, h]
  | [], _ :: _ => rfl
  | [_], _ => rfl
  | _ :: _ :: _, _ => rfl

/-- Whether an object is named does not depend on the order of its members. -/
theorem isNamed_perm {ms ms' : List (StringText × Tree)} (h : ms.Perm ms') :
    isNamed (.obj ms) = isNamed (.obj ms') := h.all_eq

/-- **An edit keeps the fields of a record**, or leaves it unreadable. -/
theorem fields?_of_edit {fields : List (String × Shape)} {t t' : Tree}
    (h : Edit (.record fields) t t') (names : List String) :
    (t.fields? names = none ∧ t'.fields? names = none) ∨
      ∃ fs fs', t.fields? names = some fs ∧ t'.fields? names = some fs' ∧ Agree fields fs fs' := by
  -- It is enough to look at the names and at the values of each field.
  have hobjects : ∀ ms ms' : List (StringText × Tree),
      isNamed (.obj ms) = isNamed (.obj ms') →
      (∀ name shape, fields.lookup name = some shape →
        ∀ {α : Type} (read : Tree → Option α), Respects shape read →
          readOne read (valuesOf (.obj ms) name) = readOne read (valuesOf (.obj ms') name)) →
      ((Tree.obj ms).fields? names = none ∧ (Tree.obj ms').fields? names = none) ∨
        ∃ fs fs', (Tree.obj ms).fields? names = some fs ∧
          (Tree.obj ms').fields? names = some fs' ∧ Agree fields fs fs' := by
    intro ms ms' hnamed hvalues
    rw [← isSome_nameMembers?, ← isSome_nameMembers?] at hnamed
    cases hms : nameMembers? ms with
    | none =>
        rw [hms] at hnamed
        exact .inl ⟨hms, Option.isSome_eq_false_iff.mp hnamed.symm |> Option.isNone_iff_eq_none.mp⟩
    | some fs =>
        rw [hms] at hnamed
        obtain ⟨fs', hms'⟩ := Option.isSome_iff_exists.mp hnamed.symm
        refine .inr ⟨fs, fs', hms, hms', ?_⟩
        intro name shape hfield α read hread
        rw [find?_of_nameMembers? hms, find?_of_nameMembers? hms']
        exact hvalues name shape hfield read hread
  cases h with
  | permuted hperm =>
      refine hobjects _ _ (isNamed_perm hperm) ?_
      intro name shape _ α read _
      exact readOne_perm read ((hperm.filter _).map _)
  | @inserted _ before after k added u hname hother =>
      refine hobjects _ _ ?_ ?_
      · simp [isNamed, members, hname]
      · intro name shape hfield α read _
        have hne : added ≠ name := by
          rintro rfl
          exact absurd (hother.symm.trans hfield) (by simp)
        rw [valuesOf_append, valuesOf_append, valuesOf_cons, hname,
          if_neg (fun h => hne (Option.some.inj h)), List.nil_append]
  | @inField _ before after k edited inner u u' hname hinner hedit =>
      refine hobjects _ _ ?_ ?_
      · simp [isNamed, members]
      · intro name shape hfield α read hread
        rw [valuesOf_append, valuesOf_append, valuesOf_cons, valuesOf_cons, hname]
        by_cases hk : edited = name
        · subst hk
          obtain rfl := Option.some.inj (hinner.symm.trans hfield)
          rw [if_pos rfl, if_pos rfl]
          exact readOne_replace (hread _ _ hedit) _ _
        · rw [if_neg (fun h => hk (Option.some.inj h)), if_neg (fun h => hk (Option.some.inj h))]

end Tree

namespace Agree

variable {fields : List (String × Shape)} {fs fs' : Fields} {name : String} {shape : Shape}

/-- A field with a default is read alike. -/
theorem get? (h : Agree fields fs fs') (hfield : fields.lookup name = some shape) {α : Type}
    {read : Tree → Option α} (hread : Respects shape read) (absent : α) :
    fs.get? name read absent = fs'.get? name read absent := by
  rw [Fields.get?, Fields.get?, h name shape hfield read hread]

/-- A required field is read alike. -/
theorem require? (h : Agree fields fs fs') (hfield : fields.lookup name = some shape) {α : Type}
    {read : Tree → Option α} (hread : Respects shape read) :
    fs.require? name read = fs'.require? name read := by
  rw [Fields.require?, Fields.require?, h name shape hfield read hread]

theorem text? (h : Agree fields fs fs') (hfield : fields.lookup name = some .whole) :
    fs.text? name = fs'.text? name := h.get? hfield (respects_whole _) _

theorem flag? (h : Agree fields fs fs') (hfield : fields.lookup name = some .whole) :
    fs.flag? name = fs'.flag? name := h.get? hfield (respects_whole _) _

theorem count? (h : Agree fields fs fs') (hfield : fields.lookup name = some .whole) :
    fs.count? name = fs'.count? name := h.get? hfield (respects_whole _) _

/-- A list is read alike if no edit of the items changes how they are read. -/
theorem list? (h : Agree fields fs fs') (hfield : fields.lookup name = some (.list shape))
    {α : Type} {read : Tree → Option α} (hread : Respects shape read) :
    fs.list? name read = fs'.list? name read := h.get? hfield (respects_items hread) _

end Agree

/-- **A record is read alike** when it is built alike from fields that are. -/
theorem respects_record {α : Type} {fields : List (String × Shape)} {build : Fields → Option α}
    (h : ∀ fs fs', Agree fields fs fs' → build fs = build fs') :
    Respects (.record fields) fun t => (t.fields? (fields.map (·.1))).bind build := by
  intro t t' hedit
  rcases Tree.fields?_of_edit hedit (fields.map (·.1)) with
    ⟨hnone, hnone'⟩ | ⟨fs, fs', hfs, hfs', hagree⟩
  · simp only [hnone, hnone']
  · simp only [hfs, hfs', Option.bind_some, h fs fs' hagree]

end AccountWire.Json
