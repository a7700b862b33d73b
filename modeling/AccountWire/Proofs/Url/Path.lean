import AccountWire.Proofs.Text.Split
import AccountWire.Proofs.Url.Percent
import AccountWire.Url.Parser
import Mathlib.Data.List.DropRight

/-!
# Paths of special schemes, segment by segment

A path is read by pushing its segments, one after the other, on a stack; a dot segment pushes
nothing and may pop.  `descend` is the stack after segments none of which is the last one, so the
path of a longer text is read from where the shorter one left off (`parsePath_append`).

Only the last segment of a text can be the last segment of its path (`addSegments_head`), and what
stands above some height of the stack was pushed after the stack had that height
(`Above.addSegments`).  Segments that never climb above where they begin leave the stack below alone
(`exists_addSegments_eq`).
-/

namespace AccountWire.Url

/-! ### One segment -/

/-- A segment that is no dot segment. -/
def IsPlainSegment (s : List Char) : Prop := isSingleDot s = false ∧ isDoubleDot s = false

instance (s : List Char) : Decidable (IsPlainSegment s) := inferInstanceAs (Decidable (_ ∧ _))

/-- A segment as it is written in the end. -/
def written (s : List Char) : String := String.ofList (Percent.encode Percent.pathSet s)

/-- To shorten a path of a special scheme is to take its last segment away. -/
theorem shorten_special (rev : List String) : shorten .special rev = rev.tail := by
  match rev with
  | [] => rfl
  | [s] =>
      simp only [shorten]
      split <;> simp
  | s :: t :: r => rfl

/-- A plain segment is pushed as it is written. -/
theorem addSegment_plain {s : List Char} (hs : IsPlainSegment s) (rev : List String)
    (last : Bool) : addSegment .special rev s last = written s :: rev := by
  simp [addSegment, hs.1, hs.2, written]

/-- A dot segment leaves the stack alone or pops it, and pushes an empty segment if it is the
last. -/
theorem addSegment_dot {s : List Char} (hs : ¬ IsPlainSegment s) (rev : List String) :
    ∃ rev', (rev' = rev ∨ rev' = rev.tail) ∧ addSegment .special rev s false = rev' ∧
      addSegment .special rev s true = "" :: rev' := by
  by_cases hd : isDoubleDot s = true
  · exact ⟨rev.tail, Or.inr rfl, by simp [addSegment, hd, shorten_special],
      by simp [addSegment, hd, shorten_special]⟩
  · have h1 : isSingleDot s = true := by
      by_cases h : isSingleDot s = true
      · exact h
      · exact absurd ⟨by simpa using h, by simpa using hd⟩ hs
    exact ⟨rev, Or.inl rfl, by simp [addSegment, hd, h1], by simp [addSegment, hd, h1]⟩

/-- A dot segment begins with a dot or a percent sign. -/
theorem isPlainSegment_of_head {c : Char} {s : List Char} (hdot : c ≠ '.') (hpercent : c ≠ '%') :
    IsPlainSegment (c :: s) := by
  simp [IsPlainSegment, isSingleDot, isDoubleDot, dotForms, hdot, hpercent]

/-- A dot segment has dots and their escapes only. -/
theorem isPlainSegment_of_mem {c : Char} {s : List Char} (hc : c ∈ s)
    (hdot : c ∉ ['.', '%', '2', 'e', 'E']) : IsPlainSegment s := by
  have hforms : ∀ a ∈ dotForms, ∀ d ∈ a, d ∈ ['.', '%', '2', 'e', 'E'] := by simp [dotForms]
  refine ⟨?_, ?_⟩
  · rw [← Bool.not_eq_true, isSingleDot, List.contains_iff_mem]
    intro hmem
    exact hdot (hforms s hmem c hc)
  · rw [← Bool.not_eq_true, isDoubleDot, List.any_eq_true]
    rintro ⟨a, ha, h⟩
    rw [List.any_eq_true] at h
    obtain ⟨b, hb, h⟩ := h
    rw [beq_iff_eq] at h
    subst h
    rcases List.mem_append.mp hc with hc | hc
    · exact hdot (hforms a ha c hc)
    · exact hdot (hforms b hb c hc)

theorem isPlainSegment_nil : IsPlainSegment [] := ⟨rfl, rfl⟩

theorem written_nil : written [] = "" := rfl

theorem eq_nil_of_written {s : List Char} (h : written s = "") : s = [] := by
  have hlist := congrArg String.toList h
  rw [written, String.toList_ofList, String.toList_empty] at hlist
  exact Percent.encode_eq_nil.mp hlist

/-! ### Several segments -/

/-- The stack after segments none of which is the last one. -/
def descend (rev : List String) (ss : List (List Char)) : List String :=
  ss.foldl (fun rev s => addSegment .special rev s false) rev

/-- A segment that is not the last one is pushed first. -/
theorem addSegments_cons {s : List Char} {r : List (List Char)} (hr : r ≠ [])
    (rev : List String) :
    addSegments .special rev (s :: r) =
      addSegments .special (addSegment .special rev s false) r := by
  cases r with
  | nil => exact absurd rfl hr
  | cons t r => rfl

/-- Segments that others follow are pushed before them. -/
theorem addSegments_append (ss : List (List Char)) {r : List (List Char)} (hr : r ≠ [])
    (rev : List String) :
    addSegments .special rev (ss ++ r) = addSegments .special (descend rev ss) r := by
  induction ss generalizing rev with
  | nil => rfl
  | cons s ss ih =>
      rw [List.cons_append, addSegments_cons (by simp [hr]), ih]
      rfl

theorem descend_concat (rev : List String) (ss : List (List Char)) (s : List Char) :
    descend rev (ss ++ [s]) = addSegment .special (descend rev ss) s false := by
  simp [descend]

/-- The last segment of a path is the last one of its text, or empty after a dot segment. -/
theorem addSegments_head (rev : List String) (ss : List (List Char)) (s : List Char) :
    ∃ x r, addSegments .special rev (ss ++ [s]) = x :: r ∧ (x = "" ∨ x = written s) := by
  rw [addSegments_append ss (by simp)]
  by_cases hs : IsPlainSegment s
  · exact ⟨written s, _, addSegment_plain hs _ true, Or.inr rfl⟩
  · obtain ⟨rev', _, _, hlast⟩ := addSegment_dot hs (descend rev ss)
    exact ⟨"", rev', hlast, Or.inl rfl⟩

/-- Segments that are no dot segments are pushed one after the other. -/
theorem descend_plain {ss : List (List Char)} (hss : ∀ s ∈ ss, IsPlainSegment s)
    (rev : List String) : descend rev ss = (ss.map written).reverse ++ rev := by
  induction ss generalizing rev with
  | nil => rfl
  | cons s ss ih =>
      have hs : descend rev (s :: ss) = descend (addSegment .special rev s false) ss := rfl
      rw [hs, addSegment_plain (hss s List.mem_cons_self),
        ih fun t ht => hss t (List.mem_cons_of_mem _ ht)]
      simp

/-- Plain segments are pushed one after the other, the last one too. -/
theorem addSegments_plain {ss : List (List Char)} (hne : ss ≠ [])
    (hss : ∀ s ∈ ss, IsPlainSegment s) (rev : List String) :
    addSegments .special rev ss = (ss.map written).reverse ++ rev := by
  obtain ⟨init, last, rfl⟩ : ∃ init last, ss = init ++ [last] :=
    ⟨_, _, (List.dropLast_concat_getLast hne).symm⟩
  rw [addSegments_append init (by simp), descend_plain fun s hs => hss s (by simp [hs]),
    addSegments, addSegment_plain (hss last (by simp))]
  simp

/-- Empty segments pile up. -/
theorem addSegments_replicate_nil (rev : List String) (n : Nat) :
    addSegments .special rev (List.replicate (n + 1) []) = List.replicate (n + 1) "" ++ rev := by
  have hplain : ∀ s ∈ List.replicate (n + 1) ([] : List Char), IsPlainSegment s := by
    intro s hs
    rw [List.eq_of_mem_replicate hs]
    exact isPlainSegment_nil
  rw [addSegments_plain (by simp) hplain, List.map_replicate, List.reverse_replicate, written_nil]

/-! ### What stands above a height -/

/-- All segments of a stack above height `n` satisfy `P`. -/
def Above (n : Nat) (P : String → Prop) (rev : List String) : Prop :=
  ∃ top bottom, rev = top ++ bottom ∧ bottom.length ≤ n ∧ ∀ x ∈ top, P x

/-- A stack has nothing above its own height. -/
theorem Above.of_length_le {n : Nat} {P : String → Prop} {rev : List String}
    (h : rev.length ≤ n) : Above n P rev :=
  ⟨[], rev, rfl, h, by simp⟩

/-- A property of what is pushed holds above the same height again. -/
theorem Above.push {n : Nat} {P : String → Prop} {rev : List String} {x : String}
    (h : Above n P rev) (hx : P x) : Above n P (x :: rev) := by
  obtain ⟨top, bottom, rfl, hlen, htop⟩ := h
  refine ⟨x :: top, bottom, rfl, hlen, ?_⟩
  intro y hy
  rcases List.mem_cons.mp hy with rfl | hy
  · exact hx
  · exact htop y hy

/-- Popping leaves less above a height. -/
theorem Above.pop {n : Nat} {P : String → Prop} {rev : List String} (h : Above n P rev) :
    Above n P rev.tail := by
  obtain ⟨top, bottom, rfl, hlen, htop⟩ := h
  cases top with
  | nil => exact .of_length_le (by simp; omega)
  | cons x top =>
      exact ⟨top, bottom, rfl, hlen, fun y hy => htop y (List.mem_cons_of_mem _ hy)⟩

/-- A segment pushes what it is written as, or an empty segment, if it pushes anything. -/
theorem Above.addSegment {n : Nat} {P : String → Prop} {rev : List String} {s : List Char}
    {last : Bool} (h : Above n P rev) (hempty : P "") (hs : IsPlainSegment s → P (written s)) :
    Above n P (addSegment .special rev s last) := by
  by_cases hp : IsPlainSegment s
  · rw [addSegment_plain hp]
    exact h.push (hs hp)
  · obtain ⟨rev', hrev, hfalse, htrue⟩ := addSegment_dot hp rev
    have h' : Above n P rev' := by
      rcases hrev with rfl | rfl
      · exact h
      · exact h.pop
    cases last with
    | false => rwa [hfalse]
    | true =>
        rw [htrue]
        exact h'.push hempty

/-- **What is pushed stays recognisable**: above the height that a stack had, there are only empty
segments and those of the text. -/
theorem Above.addSegments {n : Nat} {P : String → Prop} {rev : List String}
    {ss : List (List Char)} (h : Above n P rev) (hempty : P "")
    (hss : ∀ s ∈ ss, IsPlainSegment s → P (written s)) :
    Above n P (addSegments .special rev ss) := by
  induction ss generalizing rev with
  | nil => exact h
  | cons s r ih =>
      have hs : Above n P (Url.addSegment .special rev s true) :=
        h.addSegment hempty (hss s List.mem_cons_self)
      have hs' : Above n P (Url.addSegment .special rev s false) :=
        h.addSegment hempty (hss s List.mem_cons_self)
      cases r with
      | nil => exact hs
      | cons t r => exact ih hs' fun x hx => hss x (List.mem_cons_of_mem _ hx)

/-- A segment at a height above `n` satisfies `P`. -/
theorem Above.of_reverse {n : Nat} {P : String → Prop} {rev below rest : List String} {x : String}
    (h : Above n P rev) (heq : rev.reverse = below ++ x :: rest) (hn : n ≤ below.length) : P x := by
  obtain ⟨top, bottom, rfl, hlen, htop⟩ := h
  have hget : (bottom.reverse ++ top.reverse)[below.length]? = some x := by
    rw [← List.reverse_append, heq]
    simp
  rw [List.getElem?_append_right (by simp; omega)] at hget
  exact htop x (List.mem_reverse.mp (List.mem_of_getElem? hget))

/-! ### Segments that do not climb -/

/-- Whether segments that begin `n` levels below a directory never leave it. -/
def staysWithin : Nat → List (List Char) → Bool
  | _, [] => true
  | n, s :: r =>
    if isDoubleDot s then n ≠ 0 && staysWithin (n - 1) r
    else if isSingleDot s then staysWithin n r
    else staysWithin (n + 1) r

/-- Plain segments never climb. -/
theorem staysWithin_of_plain {ss : List (List Char)} (hss : ∀ s ∈ ss, IsPlainSegment s) (n : Nat) :
    staysWithin n ss = true := by
  induction ss generalizing n with
  | nil => rfl
  | cons s r ih =>
      have hs := hss s List.mem_cons_self
      simp only [staysWithin, hs.1, hs.2, Bool.false_eq_true, if_false]
      exact ih (fun t ht => hss t (List.mem_cons_of_mem _ ht)) (n + 1)

/-- One segment changes the stack above the directory only. -/
theorem exists_addSegment_eq {top : List String} {s : List Char} {r : List (List Char)}
    (h : staysWithin top.length (s :: r) = true) (bottom : List String) (last : Bool) :
    ∃ top', addSegment .special (top ++ bottom) s last = top' ++ bottom ∧
      (last = false → staysWithin top'.length r = true) := by
  rw [staysWithin] at h
  split at h
  · next hdouble =>
    obtain ⟨hne, hr⟩ : top.length ≠ 0 ∧ staysWithin (top.length - 1) r = true := by simpa using h
    have hne' : top ≠ [] := by
      rintro rfl
      exact hne rfl
    obtain ⟨x, top, rfl⟩ := List.exists_cons_of_ne_nil hne'
    cases last with
    | false => exact ⟨top, by simp [addSegment, hdouble, shorten_special], fun _ => by simpa using hr⟩
    | true => exact ⟨"" :: top, by simp [addSegment, hdouble, shorten_special], by simp⟩
  · next hdouble =>
    split at h
    · next hsingle =>
      cases last with
      | false => exact ⟨top, by simp [addSegment, hdouble, hsingle], fun _ => h⟩
      | true => exact ⟨"" :: top, by simp [addSegment, hdouble, hsingle], by simp⟩
    · next hsingle =>
      have hs : IsPlainSegment s := ⟨by simpa using hsingle, by simpa using hdouble⟩
      exact ⟨written s :: top, addSegment_plain hs _ last, fun _ => h⟩

/-- **Segments that do not climb** leave the stack below them alone. -/
theorem exists_addSegments_eq {ss : List (List Char)} (top bottom : List String)
    (h : staysWithin top.length ss = true) :
    ∃ top', addSegments .special (top ++ bottom) ss = top' ++ bottom := by
  induction ss generalizing top with
  | nil => exact ⟨top, rfl⟩
  | cons s r ih =>
      cases r with
      | nil =>
          obtain ⟨top', htop, -⟩ := exists_addSegment_eq h bottom true
          exact ⟨top', htop⟩
      | cons t r =>
          obtain ⟨top', htop, hr⟩ := exists_addSegment_eq h bottom false
          rw [addSegments_cons (by simp), htop]
          exact ih top' (hr rfl)

/-- Segments that do not climb come after the plain ones before them. -/
theorem exists_addSegments_append {ss r : List (List Char)} (hne : ss ≠ [])
    (hss : ∀ s ∈ ss, IsPlainSegment s) (hr : staysWithin 0 r = true) (rev : List String) :
    ∃ top, addSegments .special rev (ss ++ r) = top ++ ((ss.map written).reverse ++ rev) := by
  by_cases hnil : r = []
  · exact ⟨[], by rw [hnil, List.append_nil, addSegments_plain hne hss, List.nil_append]⟩
  · rw [addSegments_append ss hnil, descend_plain hss]
    exact exists_addSegments_eq [] _ hr

/-! ### Paths of texts -/

/-- The stack that a path's text leaves for what follows after a slash. -/
def stackOf (cs : List Char) : List String :=
  match cs with
  | [] => []
  | _ :: r => descend [] (Split.pieces SchemeKind.special.isSlash r)

theorem isSlash_slash : SchemeKind.special.isSlash '/' = true := rfl

/-- The text of segments with a slash before each. -/
theorem toList_join (ss : List String) :
    (String.join (ss.map ("/" ++ ·))).toList = (ss.map String.toList).flatMap ('/' :: ·) := by
  rw [String.toList_join, List.flatMap_map, List.flatMap_map]
  simp only [String.toList_append]
  rfl

/-- The slash at the beginning of a path is no part of its segments. -/
theorem parsePath_cons {c : Char} (hc : SchemeKind.special.isSlash c = true) (r : List Char) :
    parsePath .special (c :: r) = .segments
      (addSegments .special [] (Split.pieces SchemeKind.special.isSlash r)).reverse := by
  simp [parsePath, hc]

/-- **A path is read from where its beginning left off.** -/
theorem parsePath_append {cs : List Char}
    (hcs : ∀ c, cs.head? = some c → SchemeKind.special.isSlash c = true) (r : List Char) :
    parsePath .special (cs ++ '/' :: r) =
      .segments
        (addSegments .special (stackOf cs)
          (Split.pieces SchemeKind.special.isSlash r)).reverse := by
  have hne := Split.pieces_ne_nil SchemeKind.special.isSlash r
  cases cs with
  | nil => simp [parsePath, isSlash_slash, stackOf]
  | cons c t =>
      have hc : SchemeKind.special.isSlash c = true := hcs c rfl
      have hpieces := Split.pieces_append isSlash_slash t r
      simp [parsePath, hc, stackOf, hpieces, addSegments_append _ hne]

/-- The last segment of a path's text is a segment of the path or leaves an empty one. -/
theorem parsePath_eq_stackOf {cs : List Char}
    (hcs : ∀ c, cs.head? = some c → SchemeKind.special.isSlash c = true) :
    ∃ k, parsePath .special cs = .segments ((stackOf cs).reverse ++ List.replicate k "") := by
  cases cs with
  | nil => exact ⟨1, rfl⟩
  | cons c r =>
      have hc : SchemeKind.special.isSlash c = true := hcs c rfl
      obtain ⟨ss, s, hss⟩ := Split.exists_pieces_eq SchemeKind.special.isSlash r
      rw [parsePath_cons hc, stackOf, hss, addSegments_append ss (by simp), descend_concat, addSegments]
      by_cases hs : IsPlainSegment s
      · exact ⟨0, by rw [addSegment_plain hs, addSegment_plain hs]; simp⟩
      · obtain ⟨rev', -, hfalse, htrue⟩ := addSegment_dot hs (descend [] ss)
        exact ⟨1, by rw [hfalse, htrue]; simp⟩

/-- Slashes at the end of a path's text leave empty segments. -/
theorem parsePath_append_slashes {cs : List Char}
    (hcs : ∀ c, cs.head? = some c → SchemeKind.special.isSlash c = true) (n : Nat) :
    ∃ k, parsePath .special (cs ++ List.replicate n '/') =
      .segments ((stackOf cs).reverse ++ List.replicate k "") := by
  cases n with
  | zero =>
      rw [List.replicate_zero, List.append_nil]
      exact parsePath_eq_stackOf hcs
  | succ m =>
      refine ⟨m + 1, ?_⟩
      rw [List.replicate_succ, parsePath_append hcs, Split.pieces_replicate isSlash_slash,
        addSegments_replicate_nil]
      simp

/-! ### Empty segments at the end -/

/-- The segments of a path without empty ones at its end. -/
def trimEmpty (ss : List String) : List String := ss.rdropWhile (· = "")

theorem trimEmpty_concat_empty (ss : List String) : trimEmpty (ss ++ [""]) = trimEmpty ss :=
  List.rdropWhile_concat_pos _ _ _ (by simp)

theorem trimEmpty_concat {x : String} (hx : x ≠ "") (ss : List String) :
    trimEmpty (ss ++ [x]) = ss ++ [x] :=
  List.rdropWhile_concat_neg _ _ _ (by simpa using hx)

/-- Empty segments at the end do not count, however many there are. -/
theorem trimEmpty_append_replicate (ss : List String) (k : Nat) :
    trimEmpty (ss ++ List.replicate k "") = trimEmpty ss := by
  induction k with
  | zero => simp
  | succ k ih => rw [List.replicate_succ', ← List.append_assoc, trimEmpty_concat_empty, ih]

/-- A path is what stays of it and empty segments. -/
theorem exists_trimEmpty_append (ss : List String) :
    ∃ k, ss = trimEmpty ss ++ List.replicate k "" := by
  induction ss using List.reverseRecOn with
  | nil => exact ⟨0, rfl⟩
  | append_singleton ss x ih =>
      by_cases hx : x = ""
      · obtain ⟨k, hk⟩ := ih
        refine ⟨k + 1, ?_⟩
        rw [hx, trimEmpty_concat_empty, List.replicate_succ', ← List.append_assoc, ← hk]
      · exact ⟨0, by rw [trimEmpty_concat hx, List.replicate_zero, List.append_nil]⟩

end AccountWire.Url
