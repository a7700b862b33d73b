import AccountWire.Proofs.Url.Reading

/-!
# The beginning of an address

An address is glued together from an endpoint and resources, and the parser reads the whole.
`Opens p scheme authority rest` says how a text `p` is read that other text follows.  It survives
whatever is appended after a slash (`Opens.append`), and the address is a URL or not whatever is
appended (`Opens.parse`).  Its path is that of the beginning and then, segment by segment, what was
appended (`Opens.path`); segments that hold nothing that the parser minds come out one by one
(`Opens.path_of_segments`).
-/

namespace AccountWire.Url

/-- How a text is read that other text follows after a slash. -/
def Opens (p : List Char) (scheme : String) (authority rest : List Char) : Prop :=
  Reads (kept p) scheme authority rest

/-- What a path shows of a text at the end of an address. -/
def shown (cs : List Char) : List Char := ((trimEnd cs).filter isKept).takeWhile (! endsPath ·)

/-- A character that the parser leaves where it stands in a path. -/
def isQuiet (c : Char) : Bool := isKept c && !endsPath c

/-- A text without marks, tabs, line ends and blanks at its end is shown as it is. -/
theorem shown_of_forall {cs : List Char} (hend : EndsWell cs) (h : ∀ c ∈ cs, isQuiet c = true) :
    shown cs = cs := by
  have hkept : cs.filter isKept = cs := by
    rw [List.filter_eq_self]
    intro c hc
    have := h c hc
    simp only [isQuiet, Bool.and_eq_true] at this
    exact this.1
  rw [shown, hend.trimEnd_eq, hkept, List.takeWhile_eq_self_iff]
  intro c hc
  have := h c hc
  simp only [isQuiet, Bool.and_eq_true] at this
  exact this.2

/-- What is shown of a text is some of it, in its order. -/
theorem shown_sublist (cs : List Char) : (shown cs).Sublist cs :=
  ((List.takeWhile_sublist _).trans List.filter_sublist).trans (trimEnd_sublist cs)

/-- All that is shown is quiet. -/
theorem isQuiet_of_mem_shown {cs : List Char} {c : Char} (h : c ∈ shown cs) :
    isQuiet c = true := by
  have hmark : (! endsPath c) = true := List.all_eq_true.mp List.all_takeWhile c h
  have hkept := (List.mem_filter.mp ((List.takeWhile_sublist _).subset h)).2
  rw [isQuiet, hkept, hmark]
  rfl

/-- A text that shows all of itself holds nothing that the parser takes out. -/
theorem forall_of_shown {cs : List Char} (h : shown cs = cs) :
    EndsWell cs ∧ ∀ c ∈ cs, isQuiet c = true := by
  have htake : (shown cs).Sublist ((trimEnd cs).filter isKept) := List.takeWhile_sublist _
  have hfilter : ((trimEnd cs).filter isKept).Sublist (trimEnd cs) := List.filter_sublist
  have hlen := (trimEnd_sublist cs).length_le
  have hlen' := hfilter.length_le
  have hlen'' := htake.length_le
  rw [h] at htake hlen''
  have htrim : trimEnd cs = cs := (trimEnd_sublist cs).eq_of_length (by omega)
  have hkept : cs.filter isKept = cs := by
    rw [htrim] at hfilter hlen''
    exact hfilter.eq_of_length (by have := hfilter.length_le; omega)
  refine ⟨.of_trimEnd_eq htrim, ?_⟩
  intro c hc
  rw [shown, htrim, hkept, List.takeWhile_eq_self_iff] at h
  rw [List.filter_eq_self] at hkept
  simp [isQuiet, hkept c hc, h c hc]

/-- What stands before a text that has more than blanks is shown, unless it ends the path. -/
theorem shown_append {l r : List Char} (hl : ∀ c ∈ l, endsPath c = false) (hr : trimEnd r ≠ []) :
    shown (l ++ r) = l.filter isKept ++ shown r := by
  rw [shown, trimEnd_append hr, List.filter_append, List.takeWhile_append_of_pos, shown]
  intro c hc
  simp [hl c (List.mem_filter.mp hc).1]

/-- What stands in front is shown as it is if it leaves nothing to the parser. -/
theorem shown_append_of_quiet {l r : List Char} (hl : ∀ c ∈ l, isQuiet c = true)
    (hr : trimEnd r ≠ []) : shown (l ++ r) = l ++ shown r := by
  have hl' : ∀ c ∈ l, isKept c = true ∧ endsPath c = false := by
    intro c hc
    simpa [isQuiet] using hl c hc
  rw [shown_append (fun c hc => (hl' c hc).2) hr, List.filter_eq_self.mpr fun c hc => (hl' c hc).1]

/-- What stands after a mark that ends a path is no part of the path. -/
theorem takeWhile_append_of_endsPath {l : List Char} (hl : ∃ c ∈ l, endsPath c = true)
    (r : List Char) : (l ++ r).takeWhile (! endsPath ·) = l.takeWhile (! endsPath ·) := by
  obtain ⟨c, hc, hend⟩ := hl
  rw [List.takeWhile_append, if_neg]
  intro hlen
  have hall := (List.takeWhile_prefix (! endsPath ·)).eq_of_length hlen
  rw [List.takeWhile_eq_self_iff] at hall
  have := hall c hc
  simp [hend] at this

/-- Nothing is shown from the first mark on that ends a path. -/
theorem shown_append_of_endsPath {l r : List Char} (hl : ∃ c ∈ l, endsPath c = true)
    (hr : trimEnd r ≠ []) :
    shown (l ++ r) = (l.filter isKept).takeWhile (! endsPath ·) := by
  obtain ⟨c, hc, hend⟩ := hl
  have hkept : isKept c = true := by
    simp only [endsPath, Bool.or_eq_true, decide_eq_true_eq] at hend
    rcases hend with rfl | rfl <;> decide
  rw [shown, trimEnd_append hr, List.filter_append]
  exact takeWhile_append_of_endsPath ⟨c, List.mem_filter.mpr ⟨hc, hkept⟩, hend⟩ _

/-- A text that comes out of a path as the one segment that it is. -/
structure IsAddressSegment (s : List Char) : Prop where
  plain : IsPlainSegment s
  no_slash : ∀ c ∈ s, SchemeKind.special.isSlash c = false
  quiet : ∀ c ∈ s, isQuiet c = true

instance (s : List Char) : Decidable (IsAddressSegment s) :=
  decidable_of_iff (IsPlainSegment s ∧
      (s.all fun c => !SchemeKind.special.isSlash c && isQuiet c) = true) (by
    simp only [List.all_eq_true, Bool.and_eq_true, Bool.not_eq_true']
    exact ⟨fun h => ⟨h.1, fun c hc => (h.2 c hc).1, fun c hc => (h.2 c hc).2⟩,
      fun h => ⟨h.plain, fun c hc => ⟨h.no_slash c hc, h.quiet c hc⟩⟩⟩)

/-- A segment of an address is one piece of what is shown. -/
theorem pieces_shown {s : List Char} (hs : IsAddressSegment s) (hend : EndsWell s) :
    Split.pieces SchemeKind.special.isSlash (shown s) = [s] := by
  rw [shown_of_forall hend hs.quiet, Split.pieces_of_forall hs.no_slash]

/-- Segments with slashes between them are cut up again, and the parser leaves all of them. -/
theorem pieces_of_isAddressSegment {s : List Char} {ss : List (List Char)}
    (hss : ∀ t ∈ s :: ss, IsAddressSegment t) :
    Split.pieces SchemeKind.special.isSlash (s ++ ss.flatMap ('/' :: ·)) = s :: ss ∧
      ∀ c ∈ s ++ ss.flatMap ('/' :: ·), isQuiet c = true := by
  refine ⟨?_, ?_⟩
  · rw [Split.pieces_flatMap isSlash_slash fun t ht => (hss t (List.mem_cons_of_mem _ ht)).no_slash,
      Split.pieces_of_forall (hss s List.mem_cons_self).no_slash]
    rfl
  · intro c hc
    rcases List.mem_append.mp hc with hc | hc
    · exact (hss s List.mem_cons_self).quiet c hc
    · obtain ⟨t, ht, hct⟩ := List.mem_flatMap.mp hc
      rcases List.mem_cons.mp hct with rfl | hct
      · rfl
      · exact (hss t (List.mem_cons_of_mem _ ht)).quiet c hct

/-- Segments before a text, with slashes before or after each. -/
theorem flatMap_slash (ss : List (List Char)) (q : List Char) :
    ss.flatMap ('/' :: ·) ++ '/' :: q = '/' :: (ss.flatMap (· ++ ['/']) ++ q) := by
  induction ss with
  | nil => rfl
  | cons s ss ih => simp only [List.flatMap_cons, List.append_assoc, ih, List.cons_append,
      List.nil_append]

/-- Segments that the parser leaves alone are cut off one by one, whatever is shown after them. -/
theorem pieces_shown_append {ss : List (List Char)} (hss : ∀ t ∈ ss, IsAddressSegment t)
    {q : List Char} (hq : trimEnd q ≠ []) :
    Split.pieces SchemeKind.special.isSlash (shown (ss.flatMap (· ++ ['/']) ++ q)) =
      ss ++ Split.pieces SchemeKind.special.isSlash (shown q) := by
  induction ss with
  | nil => rfl
  | cons s ss ih =>
      have hs := hss s List.mem_cons_self
      have hquiet : ∀ c ∈ s ++ ['/'], isQuiet c = true := by
        intro c hc
        rcases List.mem_append.mp hc with hc | hc
        · exact hs.quiet c hc
        · rw [List.mem_singleton.mp hc]
          rfl
      have htail : trimEnd (ss.flatMap (· ++ ['/']) ++ q) ≠ [] := by
        rw [trimEnd_append hq]
        exact List.append_ne_nil_of_right_ne_nil _ hq
      rw [List.flatMap_cons, List.append_assoc, shown_append_of_quiet hquiet htail,
        List.append_assoc, List.singleton_append, Split.pieces_append isSlash_slash,
        ih fun t ht => hss t (List.mem_cons_of_mem _ ht), Split.pieces_of_forall hs.no_slash,
        List.singleton_append, List.cons_append]

/-- Segments end as the last one does. -/
theorem endsWell_flatMap {last : List Char} (hend : EndsWell last) (hne : last ≠ [])
    (init : List (List Char)) : EndsWell ((init ++ [last]).flatMap ('/' :: ·)) := by
  have hsplit : (init ++ [last]).flatMap ('/' :: ·) =
      (init.flatMap ('/' :: ·) ++ ['/']) ++ last := by simp
  rw [hsplit]
  exact hend.append hne _

namespace Opens

variable {p authority rest : List Char} {scheme : String}

/-- An opening stays one when more of a path is put behind it. -/
theorem append (h : Opens p scheme authority rest) (q : List Char) :
    Opens (p ++ '/' :: q) scheme authority (rest ++ '/' :: q.filter isKept) := by
  have hkept : kept (p ++ '/' :: q) = kept p ++ '/' :: q.filter isKept :=
    kept_append (by decide) p q
  unfold Opens
  rw [hkept]
  exact h.append_slash _

/-- Without query and fragment, a path begins where the authority ends. -/
theorem rest_slash (h : Opens p scheme authority rest) (hrest : ∀ c ∈ rest, endsPath c = false) :
    ∀ c, rest.head? = some c → SchemeKind.special.isSlash c = true := by
  intro c hc
  have hend := h.rest_head c hc
  have hplain := hrest c (List.mem_of_head? hc)
  simp only [endsPath, Bool.or_eq_false_iff] at hplain
  simpa [SchemeKind.endsAuthority, hplain.1, hplain.2] using hend

/-- **Only the beginning decides whether an address is a URL.** -/
theorem parse (h : Opens p scheme authority rest) (q : List Char) :
    parse (String.ofList (p ++ '/' :: q)) = (parseAuthority scheme authority true).map fun x =>
      assemble scheme (some x.1) (parsePath .special)
        (Tail.ofChars (rest ++ '/' :: (trimEnd q).filter isKept)) := by
  have hclean : clean (p ++ '/' :: q) = kept p ++ '/' :: (trimEnd q).filter isKept :=
    clean_append (by decide) p q
  apply Reads.parse
  rw [String.toList_ofList, hclean]
  exact h.append_slash _

/-- An address with the beginning of a URL is one, too. -/
theorem parse_of_parse (h : Opens p scheme authority rest) {q : List Char} {u : Url}
    (hu : Url.parse (String.ofList (p ++ '/' :: q)) = .ok u) (q' : List Char) :
    ∃ u', Url.parse (String.ofList (p ++ '/' :: q')) = .ok u' ∧ u'.hasHost = true := by
  rw [h.parse] at hu ⊢
  cases hok : parseAuthority scheme authority true with
  | error e => simp [hok, Except.map] at hu
  | ok x => exact ⟨_, rfl, (parseAuthority_ok h.special hok).1⟩

/-- All addresses with the beginning of a URL of a special scheme have this scheme. -/
theorem special_of_parse (h : Opens p scheme authority rest) {q : List Char} {u : Url}
    (hu : Url.parse (String.ofList (p ++ '/' :: q)) = .ok u) :
    schemeKind u.scheme = .special := by
  rw [h.parse] at hu
  cases hok : parseAuthority scheme authority true with
  | error e => simp [hok, Except.map] at hu
  | ok x =>
      simp only [hok, Except.map, Except.ok.injEq] at hu
      rw [← hu]
      exact h.special

/-- **The path of an address** goes on where that of its beginning left off. -/
theorem path (h : Opens p scheme authority rest) (hrest : ∀ c ∈ rest, endsPath c = false)
    {q : List Char} {u : Url} (hu : Url.parse (String.ofList (p ++ '/' :: q)) = .ok u) :
    u.path = .segments (addSegments .special (stackOf rest)
      (Split.pieces SchemeKind.special.isSlash (shown q))).reverse := by
  rw [h.parse] at hu
  cases hok : parseAuthority scheme authority true with
  | error e => simp [hok, Except.map] at hu
  | ok x =>
      simp only [hok, Except.map, Except.ok.injEq] at hu
      subst hu
      have hcut : (rest ++ '/' :: (trimEnd q).filter isKept).takeWhile (! endsPath ·) =
          rest ++ '/' :: shown q := by
        rw [List.takeWhile_append_of_pos (fun c hc => by simp [hrest c hc])]
        rfl
      rw [path_assemble, hcut, parsePath_append (h.rest_slash hrest)]

/-- Behind segments that hold nothing that the parser minds, the path is read from where they left
off. -/
theorem path_after_segments (h : Opens p scheme authority rest)
    (hrest : ∀ c ∈ rest, endsPath c = false) {ss : List (List Char)}
    (hss : ∀ t ∈ ss, IsAddressSegment t) {q : List Char} (hq : trimEnd q ≠ []) {u : Url}
    (hu : Url.parse (String.ofList (p ++ ss.flatMap ('/' :: ·) ++ '/' :: q)) = .ok u) :
    u.path = .segments (addSegments .special ((ss.map written).reverse ++ stackOf rest)
      (Split.pieces SchemeKind.special.isSlash (shown q))).reverse := by
  rw [List.append_assoc, flatMap_slash] at hu
  rw [h.path hrest hu, pieces_shown_append hss hq, addSegments_append _ (Split.pieces_ne_nil _ _),
    descend_plain fun t ht => (hss t ht).plain]

/-- Segments that hold nothing that the parser minds come out one by one. -/
theorem path_of_segments (h : Opens p scheme authority rest)
    (hrest : ∀ c ∈ rest, endsPath c = false) {ss : List (List Char)} (hne : ss ≠ [])
    (hss : ∀ t ∈ ss, IsAddressSegment t) (hend : EndsWell (ss.flatMap ('/' :: ·))) {u : Url}
    (hu : Url.parse (String.ofList (p ++ ss.flatMap ('/' :: ·))) = .ok u) :
    u.path = .segments ((stackOf rest).reverse ++ ss.map written) := by
  obtain ⟨s, ss, rfl⟩ := List.exists_cons_of_ne_nil hne
  obtain ⟨hpieces, hquiet⟩ := pieces_of_isAddressSegment hss
  have hflat : (s :: ss).flatMap ('/' :: ·) = '/' :: (s ++ ss.flatMap ('/' :: ·)) := rfl
  have hshown : shown (s ++ ss.flatMap ('/' :: ·)) = s ++ ss.flatMap ('/' :: ·) := by
    refine shown_of_forall ?_ hquiet
    intro c hc
    exact hend c (by rw [hflat, List.getLast?_cons, hc]; rfl)
  rw [hflat] at hu
  rw [h.path hrest hu, hshown, hpieces, addSegments_plain (by simp) fun t ht => (hss t ht).plain]
  simp

end Opens

end AccountWire.Url
