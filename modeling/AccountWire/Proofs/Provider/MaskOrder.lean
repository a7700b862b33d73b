import AccountWire.Proofs.Provider.Mask
import AccountWire.Proofs.Text.Order
import Mathlib.Data.List.Nodup

/-!
# The mask of any document

`Json.IsLeafPath` says which paths of a document lead to a leaf without a word on masks: the names
down to a value that has no members of its own.  The mask of the document is these paths, each
written with dots, in ascending order.

Dots are not escaped, so a name with a dot can make two leaves look alike.  Without such names a
listed path is read back as the names that it was written from (`undotted_dotted`); no leaf lies
below another one (`IsLeafPath.append_eq_nil`), and neither do their texts.
-/

namespace AccountWire.Json

/-- The value at a path. -/
def valueAt? : Json → List String → Option Json
  | v, [] => some v
  | v, name :: path => (v.member? name).bind (·.valueAt? path)

/-- A value without members of its own: all but an object with members. -/
def IsLeaf : Json → Prop
  | .obj (_ :: _) => False
  | _ => True

/-- A path to a leaf inside a value. -/
def IsLeafPath (v : Json) (path : List String) : Prop :=
  path ≠ [] ∧ ∃ leaf, v.valueAt? path = some leaf ∧ leaf.IsLeaf

/-- No name on the way to any value holds a dot. -/
def HasDotlessNames (v : Json) : Prop :=
  ∀ path w, v.valueAt? path = some w → ∀ name ∈ path, '.' ∉ name.toList

/-- A path goes on in the value that its first part leads to. -/
theorem valueAt?_append (v : Json) (path rest : List String) :
    v.valueAt? (path ++ rest) = (v.valueAt? path).bind (·.valueAt? rest) := by
  induction path generalizing v with
  | nil => rfl
  | cons name path ih =>
      rw [List.cons_append, valueAt?, valueAt?]
      cases v.member? name with
      | none => rfl
      | some w => exact ih w

/-- Nothing lies below a leaf. -/
theorem IsLeaf.valueAt?_cons {leaf : Json} (h : leaf.IsLeaf) (name : String) (path : List String) :
    leaf.valueAt? (name :: path) = none := by
  match leaf, h with
  | .obj [], _ | .null, _ | .bool _, _ | .num _, _ | .str _, _ | .arr _, _ => rfl

/-- **No leaf lies below another one.** -/
theorem IsLeafPath.append_eq_nil {v : Json} {path rest : List String} (h : v.IsLeafPath path)
    (hrest : v.IsLeafPath (path ++ rest)) : rest = [] := by
  obtain ⟨-, leaf, hat, hleaf⟩ := h
  obtain ⟨-, below, hbelow, -⟩ := hrest
  rw [valueAt?_append, hat, Option.bind_some] at hbelow
  cases rest with
  | nil => rfl
  | cons name rest =>
      rw [hleaf.valueAt?_cons] at hbelow
      cases hbelow

end AccountWire.Json

namespace AccountWire.Provider

open Json (HasDotlessNames IsLeaf IsLeafPath Tree valueAt?)

/-! ### The leaves of a document -/

/-- A path leads to the same place in a value and in its tree. -/
theorem at?_toTree_eq (v : Json) (path : List String) :
    v.toTree.at? path = (v.valueAt? path).map Json.toTree := by
  induction path generalizing v with
  | nil => rfl
  | cons name path ih =>
      have hmember : (v.toTree.valuesOf name).head? = (v.member? name).map Json.toTree := by
        rcases v with _ | b | (_ | _) | s | vs | ms
        case obj => exact head?_valuesOf_toTree ms name
        all_goals rfl
      rw [Tree.at?, hmember, valueAt?]
      cases v.member? name with
      | none => rfl
      | some w => exact ih w

/-- A value without members is a leaf. -/
theorem members_toTree_eq_nil (v : Json) : v.toTree.members = [] ↔ v.IsLeaf := by
  rcases v with _ | b | (_ | _) | s | vs | (_ | ⟨m, ms⟩) <;>
    simp [Json.toTree, Json.toMemberTrees, Tree.members, IsLeaf]

/-- There is a leaf at a path exactly if the path leads to one. -/
theorem isLeafAt_toTree (v : Json) (path : List String) :
    v.toTree.isLeafAt path = true ↔ ∃ leaf, v.valueAt? path = some leaf ∧ leaf.IsLeaf := by
  rw [Tree.isLeafAt, at?_toTree_eq]
  cases v.valueAt? path with
  | none => simp
  | some leaf => simp [members_toTree_eq_nil]

variable {ms : Json.Members}

/-- **Each path to a leaf is listed once**, and no other path. -/
theorem count_leafPaths (h : (Json.obj ms).isOrdered = true) (path : List String) :
    (leafPaths ms).count path ≤ 1 ∧
      (path ∈ leafPaths ms ↔ (Json.obj ms).IsLeafPath path) := by
  cases ms with
  | nil =>
      refine ⟨Nat.zero_le 1, iff_of_false List.not_mem_nil ?_⟩
      rintro ⟨hne, leaf, hat, -⟩
      cases path with
      | nil => exact hne rfl
      | cons name path => cases hat
  | cons m ms =>
      have hcount := count_pathsOf h path
      rw [pathsOf] at hcount
      have hmem : path ∈ leafPaths (m :: ms) ↔
          (Json.obj (m :: ms)).toTree.isLeafAt path = true := by
        rw [← List.count_pos_iff, hcount]
        split <;> simp_all
      refine ⟨?_, ?_⟩
      · rw [hcount]
        split <;> decide
      · rw [hmem, isLeafAt_toTree]
        refine ⟨fun hleaf => ⟨?_, hleaf⟩, And.right⟩
        rintro rfl
        exact ne_nil_of_mem_leafPaths (hmem.mpr ((isLeafAt_toTree _ _).mpr hleaf)) rfl

/-- No path is listed twice. -/
theorem nodup_leafPaths (h : (Json.obj ms).isOrdered = true) : (leafPaths ms).Nodup :=
  List.nodup_iff_count_le_one.mpr fun path => (count_leafPaths h path).1

/-- The paths that are listed are those that lead to leaves. -/
theorem mem_leafPaths_iff (h : (Json.obj ms).isOrdered = true) {path : List String} :
    path ∈ leafPaths ms ↔ (Json.obj ms).IsLeafPath path := (count_leafPaths h path).2

/-! ### The order of a mask -/

/-- Insertion keeps the order of the texts. -/
theorem pairwise_insertText (s : String) {ts : List String} (h : ts.Pairwise (· ≤ ·)) :
    (insertText s ts).Pairwise (· ≤ ·) := by
  induction ts with
  | nil => exact List.pairwise_singleton _ _
  | cons t r ih =>
      obtain ⟨ht, hr⟩ := List.pairwise_cons.mp h
      rw [insertText]
      by_cases hlt : t < s
      · rw [if_pos hlt]
        apply List.pairwise_cons.mpr ⟨?_, ih hr⟩
        intro u hu
        rcases List.mem_cons.mp ((insertText_perm s r).mem_iff.mp hu) with rfl | hu
        · exact String.lt_asymm hlt
        · exact ht u hu
      · rw [if_neg hlt]
        apply List.pairwise_cons.mpr ⟨?_, h⟩
        intro u hu
        rcases List.mem_cons.mp hu with rfl | hu
        · exact hlt
        · exact String.le_trans hlt (ht u hu)

theorem pairwise_sortTexts (ts : List String) : (sortTexts ts).Pairwise (· ≤ ·) := by
  induction ts with
  | nil => exact List.Pairwise.nil
  | cons t r ih => exact pairwise_insertText t ih

/-- Texts have one ascending order. -/
theorem sortTexts_eq_of_perm {ts us : List String} (h : ts.Perm us) :
    sortTexts ts = sortTexts us := by
  apply List.Perm.eq_of_pairwise ?_ (pairwise_sortTexts ts) (pairwise_sortTexts us)
  · exact (sortTexts_perm ts).trans (h.trans (sortTexts_perm us).symm)
  · exact fun s t _ _ => String.le_antisymm

/-- The mask of a member: its name, or the mask of its value with the name in front. -/
def memberMask : String × Json → List String
  | (name, .obj (m :: ms)) => (updateMask (m :: ms)).map (name ++ "." ++ ·)
  | (name, _) => [name]

/-- **A mask is put together from the masks of its members**, and it makes no difference that these
are in order already. -/
theorem updateMask_eq_sortTexts (ms : Json.Members) :
    updateMask ms = sortTexts (ms.flatMap memberMask) := by
  apply sortTexts_eq_of_perm
  induction ms with
  | nil => exact List.Perm.refl _
  | cons m r ih =>
      obtain ⟨name, v⟩ := m
      rw [leaves, List.flatMap_cons]
      apply List.Perm.append ?_ ih
      cases v with
      | obj members =>
          cases members with
          | nil => exact List.Perm.refl _
          | cons n ns => exact ((sortTexts_perm (leaves (n :: ns))).map _).symm
      | null | bool | num | str | arr => exact List.Perm.refl _

/-! ### Reading a listed path -/

/-- The names between the dots of a text. -/
def undotted (s : String) : List String := (Split.pieces (· == '.') s.toList).map String.ofList

/-- A dotted path without dots in its names is taken apart again. -/
theorem undotted_dotted {path : List String} (hne : path ≠ [])
    (hdotless : ∀ name ∈ path, '.' ∉ name.toList) : undotted (dotted path) = path :=
  pieces_dotted hne hdotless

/-- A dot between two texts separates their names. -/
theorem undotted_append (s rest : String) :
    undotted (s ++ "." ++ rest) = undotted s ++ undotted rest := by
  have htext : (s ++ "." ++ rest).toList = s.toList ++ '.' :: rest.toList := by simp
  have hpieces : Split.pieces (· == '.') (s.toList ++ '.' :: rest.toList) =
      Split.pieces (· == '.') s.toList ++ Split.pieces (· == '.') rest.toList :=
    Split.pieces_append rfl s.toList rest.toList
  rw [undotted, htext, hpieces, List.map_append]
  rfl

theorem undotted_ne_nil (s : String) : undotted s ≠ [] := by
  rw [undotted, ne_eq, List.map_eq_nil_iff]
  exact Split.pieces_ne_nil _ _

/-- Names without a mark of a mask are names without dots. -/
theorem hasDotlessNames_of_hasPlainNames {v : Json} (h : hasPlainNames v = true) :
    v.HasDotlessNames := by
  intro path
  induction path generalizing v with
  | nil => simp
  | cons name path ih =>
      intro w hw
      obtain ⟨u, hu, hbelow⟩ := Option.bind_eq_some_iff.mp hw
      match v with
      | .obj ms =>
          obtain ⟨hnames, hvalues⟩ := hasPlainNames_obj.mp h
          have hmem := Json.Members.mem_of_get? hu
          have hname := dot_not_mem_of_isPlainName (hnames _ hmem)
          exact List.forall_mem_cons.mpr ⟨hname, ih (hvalues _ hmem) w hbelow⟩
      | .null | .bool _ | .num _ | .str _ | .arr _ => cases hu

/-- The path of a leaf is taken apart again if no name has a dot. -/
theorem undotted_of_isLeafPath {v : Json} (hdotless : v.HasDotlessNames) {path : List String}
    (h : v.IsLeafPath path) : undotted (dotted path) = path := by
  obtain ⟨hne, leaf, hat, -⟩ := h
  exact undotted_dotted hne (hdotless path leaf hat)

/-- A listed path of a document without dots in its names leads to a leaf. -/
theorem isLeafPath_undotted (h : (Json.obj ms).isOrdered = true)
    (hdotless : (Json.obj ms).HasDotlessNames) {s : String} (hs : s ∈ updateMask ms) :
    (Json.obj ms).IsLeafPath (undotted s) := by
  obtain ⟨path, hpath, rfl⟩ := List.mem_map.mp ((updateMask_perm ms).mem_iff.mp hs)
  have hleaf := (mem_leafPaths_iff h).mp hpath
  rwa [undotted_of_isLeafPath hdotless hleaf]

/-- No path is listed twice when the texts of paths tell them apart. -/
theorem nodup_updateMask (h : (Json.obj ms).isOrdered = true)
    (hdotless : (Json.obj ms).HasDotlessNames) : (updateMask ms).Nodup := by
  rw [(updateMask_perm ms).nodup_iff]
  apply List.Nodup.map_on ?_ (nodup_leafPaths h)
  intro p hp q hq heq
  rw [← undotted_of_isLeafPath hdotless ((mem_leafPaths_iff h).mp hp), heq,
    undotted_of_isLeafPath hdotless ((mem_leafPaths_iff h).mp hq)]

/-- **A mask lists every leaf once, in ascending order.**  This holds of any document, whatever its
names; two leaves may be listed with one text if a name holds a dot.  If none does, no text comes
twice, none continues another one below a dot, and each leads to a leaf of the document. -/
theorem mask_lists_every_leaf (h : (Json.obj ms).isOrdered = true) :
    ((updateMask ms).Pairwise fun s t => Utf8.ofString s ≤ Utf8.ofString t) ∧
    (∃ paths : List (List String), paths.Nodup ∧
      (∀ path, path ∈ paths ↔ (Json.obj ms).IsLeafPath path) ∧
      (updateMask ms).Perm (paths.map dotted)) ∧
    ((Json.obj ms).HasDotlessNames →
      ((updateMask ms).Pairwise fun s t => Utf8.ofString s < Utf8.ofString t) ∧
      (∀ s ∈ updateMask ms, ∀ t ∈ updateMask ms, ∀ rest, t ≠ s ++ "." ++ rest) ∧
      ∀ s ∈ updateMask ms, ∃ leaf,
        (Json.obj ms).valueAt? (undotted s) = some leaf ∧ leaf.IsLeaf) := by
  have hascend := pairwise_sortTexts (leaves ms)
  refine ⟨?_, ?_, ?_⟩
  · exact hascend.imp Utf8.ofString_le_ofString_iff.mpr
  · exact ⟨leafPaths ms, nodup_leafPaths h, fun _ => mem_leafPaths_iff h, updateMask_perm ms⟩
  · intro hdotless
    refine ⟨?_, ?_, ?_⟩
    · apply (hascend.and (nodup_updateMask h hdotless)).imp
      rintro s t ⟨hle, hne⟩
      have hlt : s < t := Decidable.byContradiction fun h => hne (String.le_antisymm hle h)
      exact Utf8.encode_lt_encode hlt
    · rintro s hs t ht rest rfl
      have hleaf := isLeafPath_undotted h hdotless hs
      have hbelow := isLeafPath_undotted h hdotless ht
      rw [undotted_append] at hbelow
      exact undotted_ne_nil rest (hleaf.append_eq_nil hbelow)
    · intro s hs
      exact (isLeafPath_undotted h hdotless hs).2

/-- A name with a dot is listed like the path to another leaf. -/
example : updateMask [("a", .obj [("b", .null)]), ("a.b", .null)] = ["a.b", "a.b"] := by
  decide +kernel

/-- A document with an empty name, an empty object, an array and a null, in which a member that
comes later is listed earlier. -/
theorem hyphen_listed_before_dot :
    let ms : Json.Members := [("", .obj []), ("a", .obj [("x", .obj [("y", .arr [.null])]),
      ("z", .null)]), ("a-b", .bool true)]
    updateMask ms = ["", "a-b", "a.x.y", "a.z"] ∧
      ((updateMask ms).Pairwise fun s t => Utf8.ofString s < Utf8.ofString t) ∧
      ∃ leaf, (Json.obj ms).valueAt? ["a", "x", "y"] = some leaf ∧ leaf.IsLeaf := by
  intro ms
  have hmask : updateMask ms = ["", "a-b", "a.x.y", "a.z"] := by decide +kernel
  have hdotless : (Json.obj ms).HasDotlessNames :=
    hasDotlessNames_of_hasPlainNames (by decide +kernel)
  have hordered : (Json.obj ms).isOrdered = true := by decide +kernel
  obtain ⟨-, -, hdots⟩ := mask_lists_every_leaf hordered
  obtain ⟨hascend, -, hleaves⟩ := hdots hdotless
  refine ⟨hmask, hascend, ?_⟩
  have hundotted : undotted "a.x.y" = ["a", "x", "y"] := by decide +kernel
  rw [← hundotted]
  apply hleaves
  simp [hmask]

end AccountWire.Provider
