import AccountWire.Json.Record
import AccountWire.Proofs.Json.Rereading

/-!
# Patches of documents

A document is looked into and changed by *paths*, the names of members one below the other.
`patch` takes the values at some paths of one document over into another, a null standing for
removal.  What it does to the members of one name depends on the paths that begin with this name
and on nothing else (`valuesOf_patch`), and a record reads a document by the values of its names
and nothing else (`get?_of_nameMembers?`, `fields?_of_isObject`).
-/

namespace AccountWire.Json

namespace Tree

/-- The members of an object; other trees have none. -/
def members : Tree → List (StringText × Tree)
  | .obj ms => ms
  | _ => []

/-- Whether a member has a name. -/
def named (name : String) (m : StringText × Tree) : Bool := stringText? m.1 == some name

/-- The values of the members of a name. -/
def valuesOf (t : Tree) (name : String) : List Tree :=
  (t.members.filter (named name)).map (·.2)

/-- The value at a path. -/
def at? : Tree → List String → Option Tree
  | t, [] => some t
  | t, name :: path => (t.valuesOf name).head?.bind (·.at? path)

/-- Whether a path ends in a value without members of its own. -/
def isLeafAt (t : Tree) (path : List String) : Bool := (t.at? path).any (·.members.isEmpty)

/-- The document with another value at a path, or with none.  Objects that are missing on the way
are added. -/
def put : Tree → List String → Option Tree → Tree
  | t, [], v => v.getD t
  | t, name :: path, v =>
    let others := t.members.filter (!named name ·)
    if path = [] ∧ v.isNone then .obj others
    else
      let child := (t.valuesOf name).head?.getD (.obj [])
      .obj (others ++ [(textParts name, child.put path v)])

/-- What a document gives for a path; a null is nothing. -/
def given (body : Tree) (path : List String) : Option Tree :=
  match body.at? path with
  | some .null => none
  | v => v

/-- **The patch** of a stored document: at each of the paths, what the body gives. -/
def patch (paths : List (List String)) (body stored : Tree) : Tree :=
  paths.foldl (fun t path => t.put path (body.given path)) stored

/-- Where there is a leaf there is a value. -/
theorem isSome_at?_of_isLeafAt {t : Tree} {path : List String} (h : t.isLeafAt path = true) :
    (t.at? path).isSome = true := by
  rw [isLeafAt] at h
  cases hat : t.at? path with
  | none => exact absurd h (by simp [hat])
  | some v => rfl

/-! ### One value -/

@[simp] theorem named_textParts (k name : String) (t : Tree) :
    named k (textParts name, t) = (name == k) := by
  rw [named, stringText?_textParts]
  rfl

/-- What becomes of the values of a name when a value is put at a path below it. -/
def putBelow (path : List String) (v : Option Tree) (ts : List Tree) : List Tree :=
  if path = [] ∧ v.isNone then [] else [(ts.head?.getD (.obj [])).put path v]

/-- **A value that is put at a path** changes the values of the path's first name only. -/
theorem valuesOf_put (t : Tree) (name k : String) (path : List String) (v : Option Tree) :
    (t.put (name :: path) v).valuesOf k =
      if name = k then putBelow path v (t.valuesOf k) else t.valuesOf k := by
  have hothers : (t.members.filter (!named name ·)).filter (named k) =
      if name = k then [] else t.members.filter (named k) := by
    rw [List.filter_filter]
    split
    · next hk =>
      subst hk
      simp
    · next hk =>
      apply List.filter_congr
      intro m _
      cases hm : named k m with
      | false => rfl
      | true =>
          have hname : named name m = false := by
            rw [named, eq_of_beq hm]
            simpa using Ne.symm hk
          simp [hname]
  rw [put, putBelow]
  split
  · next hgone =>
    rw [valuesOf, members, hothers]
    split <;> rfl
  · next hgone =>
    rw [valuesOf, members, List.filter_append, hothers]
    split
    · next hk =>
      subst hk
      simp
    · next hk => simp [hk, valuesOf]

/-- At the end of a path the value takes the place of what was there. -/
theorem putBelow_nil (v : Option Tree) (ts : List Tree) : putBelow [] v ts = v.toList := by
  cases v <;> rfl

/-- Below a name there is one value, in which the rest of the path is put. -/
theorem putBelow_of_ne {path : List String} (h : path ≠ []) (v : Option Tree) (ts : List Tree) :
    putBelow path v ts = [(ts.head?.getD (.obj [])).put path v] := by
  rw [putBelow, if_neg (fun hp => h hp.1)]

/-! ### Many values -/

/-- What is left of the paths that begin with a name, without it. -/
def tailsOf (name : String) (paths : List (List String)) : List (List String) :=
  paths.filterMap fun
    | [] => none
    | k :: path => if k = name then some path else none

/-- The first path counts if it begins with the name. -/
theorem tailsOf_cons (k name : String) (path : List String) (paths : List (List String)) :
    tailsOf name ((k :: path) :: paths) =
      if k = name then path :: tailsOf name paths else tailsOf name paths := by
  by_cases hk : k = name <;> simp [tailsOf, hk]

theorem tailsOf_append (name : String) (paths more : List (List String)) :
    tailsOf name (paths ++ more) = tailsOf name paths ++ tailsOf name more := List.filterMap_append

/-- **A patch changes the values of a name** as the paths that begin with this name say. -/
theorem valuesOf_patch (body : Tree) (k : String) {paths : List (List String)}
    (hne : ∀ path ∈ paths, path ≠ []) (t : Tree) :
    (patch paths body t).valuesOf k =
      (tailsOf k paths).foldl (fun ts path => putBelow path (body.given (k :: path)) ts)
        (t.valuesOf k) := by
  induction paths generalizing t with
  | nil => rfl
  | cons path paths ih =>
      have hrest := ih (fun p hp => hne p (List.mem_cons_of_mem _ hp))
      cases path with
      | nil => exact absurd rfl (hne [] List.mem_cons_self)
      | cons name path =>
          rw [patch, List.foldl_cons, ← patch, hrest, valuesOf_put, tailsOf_cons]
          split
          · next hk =>
            subst hk
            rfl
          · rfl

/-- Without a path that begins with a name, its values stay. -/
theorem valuesOf_patch_of_tailsOf_nil {body t : Tree} {k : String} {paths : List (List String)}
    (hne : ∀ path ∈ paths, path ≠ []) (h : tailsOf k paths = []) :
    (patch paths body t).valuesOf k = t.valuesOf k := by
  rw [valuesOf_patch body k hne, h]
  rfl

/-- A path of one name replaces the values of the name. -/
theorem valuesOf_patch_of_tailsOf_leaf {body t : Tree} {k : String} {paths : List (List String)}
    (hne : ∀ path ∈ paths, path ≠ []) (h : tailsOf k paths = [[]]) :
    (patch paths body t).valuesOf k = (body.given [k]).toList := by
  rw [valuesOf_patch body k hne, h]
  exact putBelow_nil _ _

/-- Longer paths patch the first value of the name, an empty object if there is none. -/
theorem valuesOf_patch_of_tailsOf_ne {body child t : Tree} {k : String} {paths : List (List String)}
    (hne : ∀ path ∈ paths, path ≠ []) (hsome : tailsOf k paths ≠ [])
    (hlong : ∀ path ∈ tailsOf k paths, path ≠ []) (hchild : body.at? [k] = some child) :
    (patch paths body t).valuesOf k =
      [patch (tailsOf k paths) child ((t.valuesOf k).head?.getD (.obj []))] := by
  have hgiven : ∀ path, body.given (k :: path) = child.given path := by
    intro path
    have hat : body.at? (k :: path) = child.at? path := by
      rw [at?] at hchild ⊢
      cases hhead : (body.valuesOf k).head? with
      | none => simp [hhead] at hchild
      | some v =>
          rw [hhead, Option.bind_some, at?, Option.some.injEq] at hchild
          rw [Option.bind_some, hchild]
    rw [given, given, hat]
  have hfold : ∀ (ps : List (List String)) (v : Tree), (∀ path ∈ ps, path ≠ []) →
      ps.foldl (fun ts path => putBelow path (child.given path) ts) [v] =
        [patch ps child v] := by
    intro ps
    induction ps with
    | nil => exact fun _ _ => rfl
    | cons path ps ih =>
        intro v hps
        rw [List.foldl_cons, putBelow_of_ne (hps path List.mem_cons_self),
          ih _ fun p hp => hps p (List.mem_cons_of_mem _ hp)]
        rfl
  rw [valuesOf_patch body k hne]
  simp only [hgiven]
  cases hps : tailsOf k paths with
  | nil => exact absurd hps hsome
  | cons path ps =>
      rw [hps] at hlong
      rw [List.foldl_cons, putBelow_of_ne (hlong path List.mem_cons_self),
        hfold ps _ fun p hp => hlong p (List.mem_cons_of_mem _ hp)]
      rfl

/-! ### Records -/

/-- The one value of a name, if there is one, as a record reads it. -/
def readOne {α : Type} (read : Tree → Option α) : List Tree → Option (Option α)
  | [] => some none
  | [t] => (read t).map some
  | _ => none

/-- The field of a record that a document holds under a name. -/
def field? {α : Type} (t : Tree) (name : String) (read : Tree → Option α) (absent : α) :
    Option α :=
  (readOne read (t.valuesOf name)).map (·.getD absent)

/-- Whether all names of an object's members can be read. -/
def isNamed (t : Tree) : Bool := t.members.all fun m => (stringText? m.1).isSome

theorem nameMembers?_cons (m : StringText × Tree) (ms : List (StringText × Tree)) :
    nameMembers? (m :: ms) =
      (stringText? m.1).bind fun name => (nameMembers? ms).map ((name, m.2) :: ·) := by
  obtain ⟨k, t⟩ := m
  simp only [nameMembers?, List.mapM_cons]
  cases stringText? k with
  | none => rfl
  | some name =>
      simp only [Option.map_some, Option.bind_some]
      generalize (List.mapM _ ms : Option Fields) = rest
      cases rest <;> rfl

/-- A record finds a field among the values of its name. -/
theorem find?_of_nameMembers? {α : Type} {ms : List (StringText × Tree)} {fs : Fields}
    (h : nameMembers? ms = some fs) (name : String) (read : Tree → Option α) :
    fs.find? name read = readOne read (valuesOf (.obj ms) name) := by
  have hvalues : (fs.filter (·.1 == name)).map (·.2) = valuesOf (.obj ms) name := by
    induction ms generalizing fs with
    | nil =>
        obtain rfl := Option.some.inj h
        rfl
    | cons m ms ih =>
        rw [nameMembers?_cons] at h
        obtain ⟨k, hk, h⟩ := Option.bind_eq_some_iff.mp h
        obtain ⟨rest, hrest, rfl⟩ := Option.map_eq_some_iff.mp h
        have hvalue := ih hrest
        by_cases hname : k = name <;>
          simp_all [valuesOf, members, named]
  rw [← hvalues, Fields.find?]
  generalize fs.filter (·.1 == name) = found
  match found with
  | [] => rfl
  | [f] => rfl
  | f :: g :: r => rfl

/-- **A record reads the members of an object by name.** -/
theorem get?_of_nameMembers? {α : Type} {ms : List (StringText × Tree)} {fs : Fields}
    (h : nameMembers? ms = some fs) (name : String) (read : Tree → Option α) (absent : α) :
    fs.get? name read absent = field? (.obj ms) name read absent := by
  rw [Fields.get?, field?, find?_of_nameMembers? h]

/-- All members can be named exactly if the object is named. -/
theorem isSome_nameMembers? (ms : List (StringText × Tree)) :
    (nameMembers? ms).isSome = isNamed (.obj ms) := by
  induction ms with
  | nil => rfl
  | cons m ms ih =>
      rw [nameMembers?_cons]
      cases hm : stringText? m.1 <;> simp_all [isNamed, members]

/-- A patch leaves names readable. -/
theorem isNamed_patch (body : Tree) {paths : List (List String)}
    (hne : ∀ path ∈ paths, path ≠ []) {t : Tree} (h : t.isNamed = true) :
    (patch paths body t).isNamed = true := by
  induction paths generalizing t with
  | nil => exact h
  | cons path paths ih =>
      refine ih (fun p hp => hne p (List.mem_cons_of_mem _ hp)) ?_
      cases path with
      | nil => exact absurd rfl (hne [] List.mem_cons_self)
      | cons name path =>
          have hothers : ∀ m ∈ t.members.filter (!named name ·), (stringText? m.1).isSome = true :=
            fun m hm => List.all_eq_true.mp h m (List.mem_filter.mp hm).1
          show (t.put (name :: path) (body.given (name :: path))).isNamed = true
          rw [put, isNamed, List.all_eq_true]
          intro m hm
          split at hm
          · exact hothers m hm
          · rcases List.mem_append.mp hm with hm | hm
            · exact hothers m hm
            · rw [List.mem_singleton.mp hm, stringText?_textParts]
              rfl

/-- Whether a document is an object. -/
def IsObject (t : Tree) : Prop := ∃ ms, t = .obj ms

/-- A patch of an object is an object. -/
theorem isObject_patch (body : Tree) {paths : List (List String)}
    (hne : ∀ path ∈ paths, path ≠ []) {t : Tree} (h : t.IsObject) :
    (patch paths body t).IsObject := by
  induction paths generalizing t with
  | nil => exact h
  | cons path paths ih =>
      refine ih (fun p hp => hne p (List.mem_cons_of_mem _ hp)) ?_
      cases path with
      | nil => exact absurd rfl (hne [] List.mem_cons_self)
      | cons name path =>
          show (t.put (name :: path) (body.given (name :: path))).IsObject
          rw [put]
          split <;> exact ⟨_, rfl⟩

/-- **A record reads an object field by field**, if all names can be read. -/
theorem fields?_of_isObject {t : Tree} (h : t.IsObject) (names : List String) :
    (t.fields? names = none ∧ t.isNamed = false) ∨
      ∃ fs : Fields, t.fields? names = some fs ∧ t.isNamed = true ∧
        ∀ {α : Type} (name : String) (read : Tree → Option α) (absent : α),
          fs.get? name read absent = t.field? name read absent := by
  obtain ⟨ms, rfl⟩ := h
  have hnamed := isSome_nameMembers? ms
  rw [fields?]
  cases hms : nameMembers? ms with
  | none => exact Or.inl ⟨rfl, by simpa [hms] using hnamed.symm⟩
  | some fs =>
      refine Or.inr ⟨fs, rfl, by simpa [hms] using hnamed.symm, ?_⟩
      exact fun name read absent => get?_of_nameMembers? hms name read absent

end Tree

end AccountWire.Json
