import AccountWire.Proofs.Json.Patch
import AccountWire.Proofs.Text.Split
import AccountWire.Provider.Basic

/-!
# Masks name every leaf once

`leafPaths` lists the paths of the leaves of an object.  The mask of a change writes them with dots
and commas (`leaves_eq`, `updateMask_perm`); when no name holds one of these marks, `maskPaths`
reads them off again, each as often as it was written (`maskPaths_perm`).  In a value whose members
ascend every path of a leaf occurs once and no other path occurs (`count_pathsOf`).  When such a
value patches a document along its mask, each of its members does so apart from the others
(`valuesOf_patch_absent`, `valuesOf_patch_leaf`, `valuesOf_patch_object`).
-/

namespace AccountWire.Provider

mutual

/-- The paths of the leaves of an object, in the order of its members. -/
def leafPaths : Json.Members → List (List String)
  | [] => []
  | (name, v) :: r => (pathsOf v).map (name :: ·) ++ leafPaths r

/-- The paths of the leaves of a value.  Whatever is no object with members is a leaf itself. -/
def pathsOf : Json → List (List String)
  | .obj (m :: ms) => leafPaths (m :: ms)
  | _ => [[]]

end

/-- A path with dots. -/
def dotted (path : List String) : String := Outline.joinWith "." path

/-- The paths that a mask names. -/
def maskPaths (mask : String) : List (List String) :=
  (Split.pieces (· == ',') mask.toList).map fun path =>
    (Split.pieces (· == '.') path).map String.ofList

/-- Whether a name holds neither of the two marks of a mask. -/
def isPlainName (name : String) : Bool := name.toList.all fun c => c ≠ '.' && c ≠ ','

/-- Whether the names of all members, at whatever depth, hold neither mark. -/
def hasPlainNames : Json → Bool :=
  Json.every fun
    | .obj ms => ms.all fun m => isPlainName m.1
    | _ => true

/-- An object has plain names if its own are plain and those of its values are. -/
theorem hasPlainNames_obj {ms : Json.Members} : hasPlainNames (.obj ms) = true ↔
    (∀ m ∈ ms, isPlainName m.1 = true) ∧ ∀ m ∈ ms, hasPlainNames m.2 = true := by
  rw [hasPlainNames, Json.every_obj, List.all_eq_true]

theorem hasPlainNames_arr {vs : List Json} :
    hasPlainNames (.arr vs) = true ↔ ∀ v ∈ vs, hasPlainNames v = true := by
  rw [hasPlainNames, Json.every_arr]
  exact and_iff_right rfl

/-! ### The paths of a value -/

/-- Every value has a path. -/
theorem pathsOf_ne_nil (v : Json) : pathsOf v ≠ [] := by
  match v with
  | .obj ((name, w) :: ms) =>
      have hw := pathsOf_ne_nil w
      simp [pathsOf, leafPaths, hw]
  | .obj [] | .null | .bool _ | .num _ | .str _ | .arr _ => exact List.cons_ne_nil _ _

/-- A path of an object is the name of a member and a path of its value. -/
theorem mem_leafPaths {ms : Json.Members} {path : List String} :
    path ∈ leafPaths ms ↔ ∃ m ∈ ms, ∃ p ∈ pathsOf m.2, path = m.1 :: p := by
  induction ms with
  | nil => simp [leafPaths]
  | cons m ms ih => simp [leafPaths, ih, eq_comm]

theorem ne_nil_of_mem_leafPaths {ms : Json.Members} {path : List String}
    (h : path ∈ leafPaths ms) : path ≠ [] := by
  obtain ⟨m, -, p, -, rfl⟩ := mem_leafPaths.mp h
  exact List.cons_ne_nil _ _

/-- The paths that begin with a name are those of the member of this name. -/
theorem tailsOf_leafPaths (k : String) {ms : Json.Members} (h : ms.Pairwise (·.1 < ·.1)) :
    Json.Tree.tailsOf k (leafPaths ms) = ((Json.Members.get? k ms).map pathsOf).getD [] := by
  have hmap : ∀ (name : String) (paths : List (List String)),
      Json.Tree.tailsOf k (paths.map (name :: ·)) = if name = k then paths else [] := by
    intro name paths
    induction paths with
    | nil => split <;> rfl
    | cons path paths ih =>
        rw [List.map_cons, Json.Tree.tailsOf_cons, ih]
        split <;> rfl
  induction ms with
  | nil => rfl
  | cons m ms ih =>
      obtain ⟨hm, hms⟩ := List.pairwise_cons.mp h
      rw [leafPaths, Json.Tree.tailsOf_append, hmap, ih hms, Json.Members.get?_cons]
      split
      · next hk =>
        have hnone : Json.Members.get? k ms = none := by
          refine Json.Members.get?_eq_none ?_
          rintro n hn rfl
          exact String.lt_irrefl _ (hk ▸ hm n hn)
        simp [hnone]
      · rfl

/-- The names of a path are plain if all names are. -/
theorem isPlainName_of_mem {v : Json} (hv : hasPlainNames v = true) {path : List String}
    (hpath : path ∈ pathsOf v) : ∀ name ∈ path, isPlainName name = true := by
  induction path generalizing v with
  | nil => simp
  | cons name path ih =>
      match v with
      | .obj (m :: ms) =>
          obtain ⟨n, hn, p, hp, heq⟩ := mem_leafPaths.mp hpath
          obtain ⟨rfl, rfl⟩ := List.cons.inj heq
          obtain ⟨hnames, hvalues⟩ := hasPlainNames_obj.mp hv
          exact List.forall_mem_cons.mpr ⟨hnames n hn, ih (hvalues n hn) hp⟩
      | .obj [] | .null | .bool _ | .num _ | .str _ | .arr _ => simp [pathsOf] at hpath

/-! ### Writing and reading a mask -/

/-- **A mask lists the leaves**, their paths written with dots. -/
theorem leaves_eq (ms : Json.Members) : leaves ms = (leafPaths ms).map dotted := by
  have hdotted : ∀ (name : String) {paths : List (List String)}, (∀ path ∈ paths, path ≠ []) →
      (paths.map (name :: ·)).map dotted = (paths.map dotted).map (name ++ "." ++ ·) := by
    intro name paths hne
    rw [List.map_map, List.map_map]
    apply List.map_congr_left
    intro path hpath
    cases path with
    | nil => exact absurd rfl (hne [] hpath)
    | cons k path => rfl
  match ms with
  | [] => rfl
  | (name, .obj (m :: ns)) :: r =>
      have hinner := leaves_eq (m :: ns)
      have hrest := leaves_eq r
      have hne : ∀ path ∈ leafPaths (m :: ns), path ≠ [] := fun _ => ne_nil_of_mem_leafPaths
      have hsplit : leaves ((name, .obj (m :: ns)) :: r) =
          (leaves (m :: ns)).map (name ++ "." ++ ·) ++ leaves r := by
        rw [leaves, leavesBelow?]
      rw [hsplit, hinner, hrest, ← hdotted name hne, ← List.map_append]
      rfl
  | (name, .obj []) :: r | (name, .null) :: r | (name, .bool _) :: r | (name, .num _) :: r
  | (name, .str _) :: r | (name, .arr _) :: r =>
      have hrest := leaves_eq r
      simp [leaves, leavesBelow?, leafPaths, pathsOf, hrest, dotted, Outline.joinWith]

/-- Insertion adds the text, and keeps the others. -/
theorem insertText_perm (s : String) (ts : List String) : (insertText s ts).Perm (s :: ts) := by
  induction ts with
  | nil => exact List.Perm.refl _
  | cons t r ih =>
      rw [insertText]
      split
      · exact (ih.cons t).trans (List.Perm.swap s t r)
      · exact List.Perm.refl _

theorem sortTexts_perm (ts : List String) : (sortTexts ts).Perm ts := by
  induction ts with
  | nil => exact List.Perm.refl _
  | cons t r ih => exact (insertText_perm t (sortTexts r)).trans (ih.cons t)

/-- The mask lists the paths of the object, in another order. -/
theorem updateMask_perm (ms : Json.Members) :
    (updateMask ms).Perm ((leafPaths ms).map dotted) := by
  rw [← leaves_eq]
  exact sortTexts_perm (leaves ms)

/-- Texts that are joined by a character are those pieces. -/
theorem toList_joinWith (c : Char) (ss : List String) :
    (Outline.joinWith (String.singleton c) ss).toList = Split.join [c] (ss.map String.toList) := by
  induction ss with
  | nil => rfl
  | cons s ss ih =>
      cases ss with
      | nil => rfl
      | cons t ss =>
          rw [Outline.joinWith, String.toList_append, String.toList_append, ih]
          simp [Split.join]

/-- A dotted path is its names, joined by dots. -/
theorem toList_dotted (path : List String) :
    (dotted path).toList = Split.join ['.'] (path.map String.toList) :=
  toList_joinWith '.' path

/-- There is no dot in a plain name. -/
theorem dot_not_mem_of_isPlainName {name : String} (h : isPlainName name = true) :
    '.' ∉ name.toList := by
  intro hdot
  exact absurd (List.all_eq_true.mp h '.' hdot) (by decide)

/-- A path that is written with dots is read off again. -/
theorem pieces_dotted {path : List String} (hne : path ≠ [])
    (hdotless : ∀ name ∈ path, '.' ∉ name.toList) :
    (Split.pieces (· == '.') (dotted path).toList).map String.ofList = path := by
  have hpieces : Split.pieces (· == '.') (Split.join ['.'] (path.map String.toList)) =
      path.map String.toList := by
    apply Split.pieces_join rfl (by simpa using hne)
    intro cs hcs c hc
    obtain ⟨name, hname, rfl⟩ := List.mem_map.mp hcs
    have hdot : c ≠ '.' := by
      rintro rfl
      exact hdotless name hname hc
    simpa using hdot
  rw [toList_dotted, hpieces, List.map_map]
  exact List.map_id'' (fun _ => String.ofList_toList) path

/-- No comma stands in a path of plain names. -/
theorem comma_not_mem_dotted {path : List String}
    (hplain : ∀ name ∈ path, isPlainName name = true) : ∀ c ∈ (dotted path).toList, c ≠ ',' := by
  rw [toList_dotted]
  induction path with
  | nil => simp [Split.join]
  | cons name path ih =>
      obtain ⟨hname, hpath⟩ := List.forall_mem_cons.mp hplain
      have hfirst : ∀ c ∈ name.toList, c ≠ ',' := by
        intro c hc
        have := List.all_eq_true.mp hname c hc
        simp_all
      cases path with
      | nil => simpa [Split.join] using hfirst
      | cons k path =>
          intro c hc
          rw [List.map_cons, List.map_cons, Split.join, List.append_assoc, List.mem_append,
            List.singleton_append, List.mem_cons] at hc
          rcases hc with hc | rfl | hc
          · exact hfirst c hc
          · decide
          · exact ih hpath c hc

/-- **The paths of a mask are those of the leaves**, each as often. -/
theorem maskPaths_perm {ms : Json.Members} (hne : ms ≠ [])
    (hplain : hasPlainNames (.obj ms) = true) :
    (maskPaths (maskParameter ms).2).Perm (leafPaths ms) := by
  have hpaths : pathsOf (.obj ms) = leafPaths ms := by
    cases ms with
    | nil => exact absurd rfl hne
    | cons m ms => rfl
  have hnames : ∀ path ∈ leafPaths ms, ∀ name ∈ path, isPlainName name = true :=
    fun path hpath => isPlainName_of_mem hplain (hpaths ▸ hpath)
  have hperm := updateMask_perm ms
  have hcut : Split.pieces (· == ',') (maskParameter ms).2.toList =
      (updateMask ms).map String.toList := by
    have hsome : updateMask ms ≠ [] := by
      intro hnil
      rw [hnil, List.nil_perm, List.map_eq_nil_iff, ← hpaths] at hperm
      exact pathsOf_ne_nil _ hperm
    rw [maskParameter, show "," = String.singleton ',' from rfl, toList_joinWith]
    apply Split.pieces_join rfl (by simpa using hsome)
    intro cs hcs c hc
    obtain ⟨s, hs, rfl⟩ := List.mem_map.mp hcs
    obtain ⟨path, hpath, rfl⟩ := List.mem_map.mp (hperm.mem_iff.mp hs)
    simpa using comma_not_mem_dotted (hnames path hpath) c hc
  have hread : ((leafPaths ms).map dotted).map (fun s =>
      (Split.pieces (· == '.') s.toList).map String.ofList) = leafPaths ms := by
    rw [List.map_map]
    refine (List.map_congr_left ?_).trans (List.map_id _)
    intro path hpath
    exact pieces_dotted (ne_nil_of_mem_leafPaths hpath) fun name hname =>
      dot_not_mem_of_isPlainName (hnames path hpath name hname)
  rw [maskPaths, hcut, List.map_map]
  have hmapped := hperm.map fun s => (Split.pieces (· == '.') s.toList).map String.ofList
  rw [hread] at hmapped
  exact hmapped

/-! ### Masks and documents -/

/-- The members of a written object are its members, one by one. -/
theorem toMemberTrees_eq (ms : Json.Members) :
    Json.toMemberTrees ms = ms.map fun m => (Json.textParts m.1, m.2.toTree) := by
  induction ms with
  | nil => rfl
  | cons m ms ih => simp [Json.toMemberTrees, ih]

/-- The first value of a name is the one that is looked up. -/
theorem head?_valuesOf_toTree (ms : Json.Members) (k : String) :
    ((Json.obj ms).toTree.valuesOf k).head? = (Json.Members.get? k ms).map Json.toTree := by
  have hnamed : ∀ m : String × Json,
      Json.Tree.named k (Json.textParts m.1, m.2.toTree) = (m.1 == k) := fun m => by simp
  simp [Json.toTree, Json.Tree.valuesOf, Json.Tree.members, toMemberTrees_eq, List.filter_map,
    Function.comp_def, hnamed, List.head?_filter, Json.Members.get?]

/-- A tail comes as often as its path. -/
theorem count_tailsOf (k : String) (path : List String) (paths : List (List String)) :
    (Json.Tree.tailsOf k paths).count path = paths.count (k :: path) := by
  induction paths with
  | nil => rfl
  | cons p paths ih =>
      cases p with
      | nil => simpa [Json.Tree.tailsOf] using ih
      | cons name p =>
          rw [Json.Tree.tailsOf_cons, List.count_cons, ← ih]
          by_cases hk : name = k
          · simp [hk, List.count_cons]
          · simp [hk]

/-- **In a value whose members ascend, the path of a leaf is listed once** and no other path is. -/
theorem count_pathsOf {v : Json} (h : v.isOrdered = true) (path : List String) :
    (pathsOf v).count path = if v.toTree.isLeafAt path then 1 else 0 := by
  induction path generalizing v with
  | nil =>
      rcases v with _ | b | (_ | _) | s | vs | (_ | ⟨m, ms⟩)
      case obj.cons =>
        have hnil : [] ∉ leafPaths (m :: ms) := fun hmem => ne_nil_of_mem_leafPaths hmem rfl
        exact List.count_eq_zero.mpr hnil
      all_goals rfl
  | cons k path ih =>
      rcases v with _ | b | (_ | _) | s | vs | ms
      case obj =>
        obtain ⟨hascend, hvalues⟩ := Json.isOrdered_obj.mp h
        have hpaths : (pathsOf (.obj ms)).count (k :: path) =
            (leafPaths ms).count (k :: path) := by
          cases ms <;> rfl
        rw [hpaths, ← count_tailsOf, tailsOf_leafPaths k hascend, Json.Tree.isLeafAt,
          Json.Tree.at?, head?_valuesOf_toTree]
        cases hget : Json.Members.get? k ms with
        | none => rfl
        | some w => exact ih (hvalues _ (Json.Members.mem_of_get? hget))
      all_goals rfl

/-- At the paths of a value there are leaves. -/
theorem isLeafAt_of_mem_pathsOf {v : Json} (h : v.isOrdered = true) {path : List String}
    (hpath : path ∈ pathsOf v) : v.toTree.isLeafAt path = true := by
  have hpos := List.count_pos_iff.mpr hpath
  rw [count_pathsOf h] at hpos
  cases hleaf : v.toTree.isLeafAt path with
  | true => rfl
  | false => simp [hleaf] at hpos

/-! ### What a patched document holds -/

section Patched

open Json (Tree)

variable {ms : Json.Members} {paths : List (List String)} {t : Tree} {k : String}

theorem ne_nil_of_perm (hpaths : paths.Perm (leafPaths ms)) : ∀ path ∈ paths, path ≠ [] :=
  fun _ hpath => ne_nil_of_mem_leafPaths (hpaths.mem_iff.mp hpath)

/-- At a name there is the value that is looked up. -/
theorem at?_toTree (ms : Json.Members) (k : String) :
    (Json.obj ms).toTree.at? [k] = (Json.Members.get? k ms).map Json.toTree := by
  rw [Tree.at?, head?_valuesOf_toTree]
  cases Json.Members.get? k ms <;> rfl

/-- The paths of a member, in whatever order the mask lists them. -/
theorem tailsOf_perm (hascend : ms.Pairwise (·.1 < ·.1)) (hpaths : paths.Perm (leafPaths ms))
    (k : String) :
    (Tree.tailsOf k paths).Perm (((Json.Members.get? k ms).map pathsOf).getD []) := by
  rw [← tailsOf_leafPaths k hascend]
  exact hpaths.filterMap _

/-- A member that the change does not have stays. -/
theorem valuesOf_patch_absent (hascend : ms.Pairwise (·.1 < ·.1))
    (hpaths : paths.Perm (leafPaths ms)) (hget : Json.Members.get? k ms = none) :
    (Tree.patch paths (Json.obj ms).toTree t).valuesOf k = t.valuesOf k := by
  have htails := tailsOf_perm hascend hpaths k
  rw [hget] at htails
  exact Tree.valuesOf_patch_of_tailsOf_nil (ne_nil_of_perm hpaths) htails.eq_nil

/-- The values that a leaf puts in the place of the stored ones: itself, none if it is null. -/
def takenOver : Json → List Tree
  | .null => []
  | v => [v.toTree]

/-- A member that is a leaf is replaced, and removed if it is null. -/
theorem valuesOf_patch_leaf (hascend : ms.Pairwise (·.1 < ·.1))
    (hpaths : paths.Perm (leafPaths ms)) {v : Json} (hget : Json.Members.get? k ms = some v)
    (hleaf : pathsOf v = [[]]) :
    (Tree.patch paths (Json.obj ms).toTree t).valuesOf k =
      takenOver v := by
  have htails := tailsOf_perm hascend hpaths k
  rw [hget, Option.map_some, Option.getD_some, hleaf] at htails
  rw [Tree.valuesOf_patch_of_tailsOf_leaf (ne_nil_of_perm hpaths) htails.eq_singleton, Tree.given,
    at?_toTree, hget, Option.map_some]
  rcases v with _ | _ | (_ | _) | _ | _ | _ <;> rfl

/-- A member that is an object with members patches the stored one. -/
theorem valuesOf_patch_object (hascend : ms.Pairwise (·.1 < ·.1))
    (hpaths : paths.Perm (leafPaths ms)) {ns : Json.Members} (hne : ns ≠ [])
    (hget : Json.Members.get? k ms = some (.obj ns)) :
    ∃ inner : List (List String), inner.Perm (leafPaths ns) ∧
      (Tree.patch paths (Json.obj ms).toTree t).valuesOf k =
        [Tree.patch inner (Json.obj ns).toTree ((t.valuesOf k).head?.getD (.obj []))] := by
  have htails := tailsOf_perm hascend hpaths k
  have hinner : pathsOf (.obj ns) = leafPaths ns := by
    cases ns with
    | nil => exact absurd rfl hne
    | cons m ns => rfl
  rw [hget, Option.map_some, Option.getD_some, hinner] at htails
  refine ⟨Tree.tailsOf k paths, htails, ?_⟩
  refine Tree.valuesOf_patch_of_tailsOf_ne (ne_nil_of_perm hpaths) ?_ (ne_nil_of_perm htails) ?_
  · intro hnil
    rw [hnil, List.nil_perm, ← hinner] at htails
    exact pathsOf_ne_nil _ htails
  · rw [at?_toTree, hget, Option.map_some]

end Patched

end AccountWire.Provider
