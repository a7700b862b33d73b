import AccountWire.Proofs.Url.Path
import Mathlib.Data.List.TakeWhile

/-!
# How a URL of a special scheme is read

A text is cleaned, its scheme taken off, its authority cut out, and the rest is path, query and
fragment.  `Reads cs scheme authority rest` says how a cleaned text is cut up, and that is all the
parser looks at (`Reads.parse`, `Reads.of_parse`).  The cut stays where it is when a text grows at
its end (`Reads.append_slash`, `Reads.append_plain`) and when it loses slashes there
(`Reads.of_append_slashes`).
-/

namespace AccountWire.Url

/-! ### Cleaning -/

/-- Whether a character stays when a text is cleaned. -/
def isKept (c : Char) : Bool := !(c = '\t' || c = '\n' || c = '\r')

/-- A text without the blanks at its end. -/
def trimEnd (cs : List Char) : List Char := (cs.reverse.dropWhile isBlank).reverse

/-- What stays of a text that others follow. -/
def kept (cs : List Char) : List Char := (cs.dropWhile isBlank).filter isKept

theorem clean_eq (cs : List Char) : clean cs = (trimEnd (cs.dropWhile isBlank)).filter isKept := rfl

/-- Blanks at the end do not concern what stands in front of them. -/
theorem trimEnd_append {r : List Char} (hr : trimEnd r ≠ []) (l : List Char) :
    trimEnd (l ++ r) = l ++ trimEnd r := by
  have hne : (r.reverse.dropWhile isBlank) ≠ [] := by
    intro h
    exact hr (by simp [trimEnd, h])
  simp [trimEnd, List.dropWhile_append, hne]

/-- Blanks that are put behind a text are cut off. -/
theorem trimEnd_append_of_blank {r : List Char} (hr : ∀ c ∈ r, isBlank c = true)
    (l : List Char) : trimEnd (l ++ r) = trimEnd l := by
  have hr' : r.reverse.dropWhile isBlank = [] := by
    rw [List.dropWhile_eq_nil_iff]
    intro c hc
    exact hr c (List.mem_reverse.mp hc)
  simp [trimEnd, List.dropWhile_append, hr']

/-- A text is what stays of it and blanks. -/
theorem exists_trimEnd_append (cs : List Char) :
    ∃ blanks, cs = trimEnd cs ++ blanks ∧ ∀ c ∈ blanks, isBlank c = true := by
  refine ⟨(cs.reverse.takeWhile isBlank).reverse, ?_, ?_⟩
  · rw [trimEnd, ← List.reverse_append, List.takeWhile_append_dropWhile, List.reverse_reverse]
  · intro c hc
    exact List.all_eq_true.mp List.all_takeWhile c (List.mem_reverse.mp hc)

/-- A text that does not end in a blank stays. -/
theorem trimEnd_of_getLast {cs : List Char} {c : Char} (h : cs.getLast? = some c)
    (hc : isBlank c = false) : trimEnd cs = cs := by
  rw [List.getLast?_eq_head?_reverse] at h
  obtain ⟨r, hr⟩ := List.head?_eq_some_iff.mp h
  rw [trimEnd, hr, List.dropWhile_cons_of_neg (by simp [hc]), ← hr, List.reverse_reverse]

theorem trimEnd_sublist (cs : List Char) : (trimEnd cs).Sublist cs := by
  obtain ⟨blanks, h, _⟩ := exists_trimEnd_append cs
  conv => rhs; rw [h]
  exact List.sublist_append_left _ _

/-- Only blanks are cut off. -/
theorem mem_trimEnd {c : Char} (hc : isBlank c = false) {cs : List Char} (h : c ∈ cs) :
    c ∈ trimEnd cs := by
  obtain ⟨blanks, hcs, hblank⟩ := exists_trimEnd_append cs
  rw [hcs, List.mem_append] at h
  refine h.resolve_right ?_
  intro hmem
  rw [hblank c hmem] at hc
  cases hc

/-- What begins with something else than a blank is not empty without its blanks. -/
theorem trimEnd_cons_ne_nil {c : Char} (hc : isBlank c = false) (r : List Char) :
    trimEnd (c :: r) ≠ [] :=
  List.ne_nil_of_mem (mem_trimEnd hc List.mem_cons_self)

/-- A first character that is no blank stays. -/
theorem trimEnd_cons {c : Char} (hc : isBlank c = false) (r : List Char) :
    trimEnd (c :: r) = c :: trimEnd r := by
  by_cases hr : trimEnd r = []
  · obtain ⟨blanks, h, hblank⟩ := exists_trimEnd_append r
    rw [hr, List.nil_append] at h
    rw [hr, h, show c :: blanks = [c] ++ blanks from rfl, trimEnd_append_of_blank hblank]
    simp [trimEnd, hc]
  · exact trimEnd_append hr [c]

/-- Whether a text does not end in a blank. -/
def EndsWell (cs : List Char) : Prop := ∀ c, cs.getLast? = some c → isBlank c = false

instance (cs : List Char) : Decidable (EndsWell cs) :=
  decidable_of_iff (cs.getLast?.all (! isBlank ·) = true) (by
    unfold EndsWell
    cases cs.getLast? <;> simp)

/-- A text that ends well stays as it is. -/
theorem EndsWell.trimEnd_eq {cs : List Char} (h : EndsWell cs) : trimEnd cs = cs := by
  cases hlast : cs.getLast? with
  | none =>
      rw [List.getLast?_eq_none_iff] at hlast
      simp [hlast, trimEnd]
  | some c => exact trimEnd_of_getLast hlast (h c hlast)

theorem EndsWell.of_trimEnd_eq {cs : List Char} (h : trimEnd cs = cs) : EndsWell cs := by
  intro c hc
  rw [List.getLast?_eq_head?_reverse] at hc
  have hdrop : cs.reverse.dropWhile isBlank = cs.reverse := by
    rw [← List.reverse_reverse (cs.reverse.dropWhile isBlank)]
    exact congrArg List.reverse h
  have hhead := List.head?_dropWhile_not isBlank cs.reverse
  rw [hdrop, hc] at hhead
  exact hhead

/-- Whether a text ends well is decided by its last part. -/
theorem EndsWell.append {r : List Char} (h : EndsWell r) (hr : r ≠ []) (l : List Char) :
    EndsWell (l ++ r) := by
  intro c hc
  cases hlast : r.getLast? with
  | none => exact absurd (List.getLast?_eq_none_iff.mp hlast) hr
  | some d =>
      rw [List.getLast?_append, hlast] at hc
      exact h c (hlast.trans hc)

theorem EndsWell.of_append {l r : List Char} (h : EndsWell (l ++ r)) : EndsWell r := by
  intro c hc
  exact h c (by simp [List.getLast?_append, hc])

/-- Blanks at the beginning reach to the first other character at most. -/
theorem dropWhile_append_cons {c : Char} (hc : isBlank c = false) (p r : List Char) :
    (p ++ c :: r).dropWhile isBlank = p.dropWhile isBlank ++ c :: r := by
  by_cases hp : p.dropWhile isBlank = []
  · simp [List.dropWhile_append, hp, hc]
  · simp [List.dropWhile_append, hp]

/-- What stands in front of a character that is no blank is kept for itself. -/
theorem kept_append {c : Char} (hc : isBlank c = false) (p r : List Char) :
    kept (p ++ c :: r) = kept p ++ (c :: r).filter isKept := by
  rw [kept, dropWhile_append_cons hc, List.filter_append]
  rfl

/-- A text that goes on after its beginning keeps all of the beginning. -/
theorem clean_append {c : Char} (hc : isBlank c = false) (p r : List Char) :
    clean (p ++ c :: r) = kept p ++ (c :: trimEnd r).filter isKept := by
  have hne : trimEnd (c :: r) ≠ [] := trimEnd_cons_ne_nil hc r
  rw [clean_eq, dropWhile_append_cons hc, trimEnd_append hne, List.filter_append, trimEnd_cons hc]
  rfl

/-- What stays of a text that others follow is the text cleaned and perhaps some of its blanks. -/
theorem exists_kept_eq (cs : List Char) :
    ∃ blanks, kept cs = clean cs ++ blanks ∧ (∀ c ∈ blanks, isBlank c = true) ∧
      (EndsWell cs → blanks = []) := by
  obtain ⟨blanks, h, hblank⟩ := exists_trimEnd_append (cs.dropWhile isBlank)
  refine ⟨blanks.filter isKept, ?_, ?_, ?_⟩
  · rw [kept, clean_eq, ← List.filter_append, ← h]
  · intro c hc
    exact hblank c (List.mem_filter.mp hc).1
  · intro hend
    have hdrop : EndsWell (cs.dropWhile isBlank) := by
      apply EndsWell.of_append (l := cs.takeWhile isBlank)
      rwa [List.takeWhile_append_dropWhile]
    rw [hdrop.trimEnd_eq] at h
    rw [List.self_eq_append_right.mp h, List.filter_nil]

/-! ### The scheme -/

/-- A scheme is found whatever follows the text. -/
theorem takeScheme?_append {cs rest : List Char} {scheme : String} (r : List Char)
    (h : takeScheme? cs = some (scheme, rest)) :
    takeScheme? (cs ++ r) = some (scheme, rest ++ r) := by
  unfold takeScheme? at h ⊢
  cases hfirst : Split.atFirst? (· == ':') cs with
  | none => simp [hfirst] at h
  | some p =>
      obtain ⟨name, after⟩ := p
      rw [Split.atFirst?_append_of_some r hfirst]
      rw [hfirst] at h
      cases name with
      | nil => simp at h
      | cons c t =>
          simp only [Option.bind_eq_bind, Option.bind_some, Option.ite_none_right_eq_some,
            Option.some.injEq, Prod.mk.injEq] at h ⊢
          exact ⟨h.1, h.2.1, by rw [h.2.2]⟩

/-- A scheme is read before the first colon. -/
theorem takeScheme?_of_append {cs r rest : List Char} {scheme : String}
    (hr : ∀ c ∈ r, c ≠ ':') (h : takeScheme? (cs ++ r) = some (scheme, rest)) :
    ∃ rest', takeScheme? cs = some (scheme, rest') ∧ rest = rest' ++ r := by
  unfold takeScheme? at h ⊢
  rw [Split.atFirst?_of_append (fun c hc => by simpa using hr c hc)] at h
  cases hfirst : Split.atFirst? (· == ':') cs with
  | none => simp [hfirst] at h
  | some p =>
      obtain ⟨name, after⟩ := p
      rw [hfirst] at h
      cases name with
      | nil => simp at h
      | cons c t =>
          simp only [Option.map_some, Option.bind_eq_bind, Option.bind_some,
            Option.ite_none_right_eq_some, Option.some.injEq, Prod.mk.injEq] at h ⊢
          exact ⟨after, ⟨h.1, h.2.1, rfl⟩, h.2.2.symm⟩

/-! ### The authority -/

/-- A host and what follows it are the whole text. -/
theorem takeHost_append (inside : Bool) (cs : List Char) :
    (takeHost inside cs).1 ++ (takeHost inside cs).2 = cs := by
  induction cs generalizing inside with
  | nil => rfl
  | cons c r ih =>
      rw [takeHost]
      split
      · rfl
      · exact congrArg (c :: ·) (ih _)

/-- Host and port of an authority, after the last `@`. -/
def hostPart (cs : List Char) : List Char :=
  ((Split.atLast? (· == '@') cs).getD ([], cs)).2

theorem mem_of_mem_hostPart {cs : List Char} {c : Char} (h : c ∈ hostPart cs) : c ∈ cs := by
  unfold hostPart at h
  cases hsplit : Split.atLast? (· == '@') cs with
  | none => simpa [hsplit] using h
  | some q =>
      obtain ⟨before, after⟩ := q
      obtain ⟨a, -, rfl⟩ := Split.atLast?_append hsplit
      simp only [hsplit, Option.getD_some] at h
      simp [h]

/-- The authority of a special scheme: its host must not be empty. -/
theorem parseAuthority_special {scheme : String} (hs : schemeKind scheme = .special)
    (cs : List Char) (more : Bool) :
    parseAuthority scheme cs more =
      let host := takeHost false (hostPart cs)
      let user := parseUserinfo ((Split.atLast? (· == '@') cs).getD ([], cs)).1
      if host.1 = [] then .error .emptyHost
      else do
        let name ← parseHost host.1
        let port ← parsePort scheme ((host.2.drop 1).takeWhile (· ≠ '\\'))
        return (⟨user.1, user.2, some name, port⟩, host.2.dropWhile (· ≠ '\\')) := by
  unfold parseAuthority hostPart
  rw [hs]
  by_cases hat : Split.atLast? (· == '@') cs = some ([], [])
  · have hhost : takeHost false ([] : List Char) = ([], []) := rfl
    cases more <;>
      simp [hat, hhost, SchemeKind.isSpecial, throw, throwThe, MonadExceptOf.throw, bind,
        Except.bind]
  · simp only [hat, false_and, if_false, SchemeKind.isSpecial, true_and, if_true]
    by_cases hhost : (takeHost false ((Split.atLast? (· == '@') cs).getD ([], cs)).2).1 = []
    · simp [hhost, throw, throwThe, MonadExceptOf.throw, bind, Except.bind]
    · simp [hhost]

/-- Whether the URL goes on does not matter after the authority of a special scheme. -/
theorem parseAuthority_more {scheme : String} (hs : schemeKind scheme = .special)
    (cs : List Char) (more : Bool) :
    parseAuthority scheme cs more = parseAuthority scheme cs true := by
  rw [parseAuthority_special hs, parseAuthority_special hs]

/-- An authority of a special scheme names a host, and all of it is read unless it holds a
backslash. -/
theorem parseAuthority_ok {scheme : String} (hs : schemeKind scheme = .special)
    {cs left : List Char} {more : Bool} {a : Authority}
    (h : parseAuthority scheme cs more = .ok (a, left)) :
    a.host.isSome ∧ cs ≠ [] ∧ ((∀ c ∈ cs, c ≠ '\\') → left = []) := by
  rw [parseAuthority_special hs] at h
  simp only [bind, Except.bind, pure, Except.pure] at h
  split at h
  · cases h
  · next hhost =>
    split at h
    · cases h
    · split at h
      · cases h
      · simp only [Except.ok.injEq, Prod.mk.injEq] at h
        obtain ⟨rfl, rfl⟩ := h
        refine ⟨rfl, ?_, ?_⟩
        · rintro rfl
          exact hhost rfl
        · intro hback
          rw [List.dropWhile_eq_nil_iff]
          intro c hc
          have hmem : c ∈ hostPart cs := by
            rw [← takeHost_append false (hostPart cs)]
            exact List.mem_append_right _ hc
          simpa using hback c (mem_of_mem_hostPart hmem)

/-! ### Path, query and fragment -/

/-- Whether a character ends the path. -/
def endsPath (c : Char) : Bool := c = '?' || c = '#'

/-- A path ends before the first mark. -/
theorem Tail.ofChars_path (cs : List Char) :
    (Tail.ofChars cs).path = cs.takeWhile (! endsPath ·) := by
  have hsplit : (Tail.ofChars cs).path =
      (cs.takeWhile (! · == '#')).takeWhile (! · == '?') := by
    rw [← Split.atFirst?_takeWhile, ← Split.atFirst?_takeWhile]
    unfold Tail.ofChars
    cases h : Split.atFirst? (· == '#') cs with
    | none =>
        cases h' : Split.atFirst? (· == '?') cs <;> simp [h']
    | some p =>
        cases h' : Split.atFirst? (· == '?') p.1 <;> simp [h']
  rw [hsplit, List.takeWhile_takeWhile]
  congr 1
  funext c
  simp [endsPath, Bool.beq_eq_decide_eq]

/-- The path of a URL of a special scheme is read up to the first mark. -/
theorem path_assemble (scheme : String) (authority : Option Authority) (cs : List Char) :
    (assemble scheme authority (parsePath .special) (Tail.ofChars cs)).path =
      parsePath .special (cs.takeWhile (! endsPath ·)) := by
  rw [← Tail.ofChars_path]
  rfl

/-- Without a mark it is read to the end. -/
theorem path_assemble_of_forall (scheme : String) (authority : Option Authority) {cs : List Char}
    (h : ∀ c ∈ cs, endsPath c = false) :
    (assemble scheme authority (parsePath .special) (Tail.ofChars cs)).path =
      parsePath .special cs := by
  rw [path_assemble, List.takeWhile_eq_self_iff.mpr]
  intro c hc
  simp [h c hc]

/-- A text without the two marks is all path. -/
theorem Tail.ofChars_of_forall {cs : List Char} (h : ∀ c ∈ cs, endsPath c = false) :
    Tail.ofChars cs = ⟨cs, none, none⟩ := by
  have hhash : Split.atFirst? (· == '#') cs = none := by
    rw [Split.atFirst?_eq_none]
    intro c hc
    have := h c hc
    simp only [endsPath, Bool.or_eq_false_iff, decide_eq_false_iff_not] at this
    simpa using this.2
  have hquery : Split.atFirst? (· == '?') cs = none := by
    rw [Split.atFirst?_eq_none]
    intro c hc
    have := h c hc
    simp only [endsPath, Bool.or_eq_false_iff, decide_eq_false_iff_not] at this
    simpa using this.1
  simp [Tail.ofChars, hhash, hquery]

/-- Without a query and a fragment there is no mark. -/
theorem Tail.forall_of_none {cs : List Char} (hq : (Tail.ofChars cs).query = none)
    (hf : (Tail.ofChars cs).fragment = none) : ∀ c ∈ cs, endsPath c = false := by
  unfold Tail.ofChars at hq hf
  cases hhash : Split.atFirst? (· == '#') cs with
  | some q => 
      rw [hhash] at hf
      simp only at hf
      split at hf <;> cases hf
  | none =>
      rw [hhash] at hq
      simp only at hq
      cases hquery : Split.atFirst? (· == '?') cs with
      | some q => simp [hquery] at hq
      | none =>
          intro c hc
          have h1 := Split.atFirst?_eq_none.mp hhash c hc
          have h2 := Split.atFirst?_eq_none.mp hquery c hc
          simpa [endsPath] using ⟨by simpa using h2, by simpa using h1⟩

/-! ### The readers of the kinds of schemes -/

/-- A file URL has the scheme of files. -/
theorem parseFile_scheme {cs : List Char} {u : Url} (h : parseFile cs = .ok u) :
    u.scheme = "file" := by
  have hlocal : ∀ ds, (parseLocalFile ds).scheme = "file" := fun _ => rfl
  unfold parseFile at h
  split at h
  · split at h
    · dsimp only at h
      split at h
      · cases h
        exact hlocal _
      · simp only [bind, Except.bind, pure, Except.pure] at h
        split at h
        · cases h
        · cases h
          split
          · exact hlocal _
          · rfl
    · cases h
      exact hlocal _
  · cases h
    exact hlocal _

theorem parseAfterSlashes_scheme {scheme : String} {cs : List Char} {u : Url}
    (h : parseAfterSlashes scheme cs = .ok u) : u.scheme = scheme := by
  unfold parseAfterSlashes at h
  simp only [bind, Except.bind, pure, Except.pure] at h
  split at h
  · cases h
  · cases h
    rfl

theorem parseOther_scheme {scheme : String} {cs : List Char} {u : Url}
    (h : parseOther scheme cs = .ok u) : u.scheme = scheme := by
  unfold parseOther at h
  split at h
  · exact parseAfterSlashes_scheme h
  · cases h
    rfl
  · cases h
    rfl

/-- The text of an authority that other text may follow. -/
def authorityText (cs : List Char) : List Char :=
  cs.takeWhile (! SchemeKind.special.endsAuthority ·)

/-- What follows the text of an authority. -/
def afterAuthority (cs : List Char) : List Char :=
  cs.dropWhile (! SchemeKind.special.endsAuthority ·)

/-- The authority ends at the first character that can end it. -/
theorem authorityText_plain (cs : List Char) :
    ∀ c ∈ authorityText cs, SchemeKind.special.endsAuthority c = false := by
  intro c hc
  simpa using List.all_eq_true.mp List.all_takeWhile c hc

/-- What follows the authority begins with a character that ends it. -/
theorem afterAuthority_head (cs : List Char) :
    ∀ c, (afterAuthority cs).head? = some c → SchemeKind.special.endsAuthority c = true := by
  intro c hc
  have := List.head?_dropWhile_not (! SchemeKind.special.endsAuthority ·) cs
  rw [show cs.dropWhile (! SchemeKind.special.endsAuthority ·) = afterAuthority cs from rfl,
    hc] at this
  simpa using this

/-- A text that no character ends is the authority of what begins with it. -/
theorem authorityText_append {cs rest : List Char}
    (hcs : ∀ c ∈ cs, SchemeKind.special.endsAuthority c = false)
    (hrest : ∀ c, rest.head? = some c → SchemeKind.special.endsAuthority c = true) :
    authorityText (cs ++ rest) = cs ∧ afterAuthority (cs ++ rest) = rest := by
  unfold authorityText afterAuthority
  rw [List.takeWhile_append_of_pos (fun c hc => by simp [hcs c hc]),
    List.dropWhile_append_of_pos (fun c hc => by simp [hcs c hc])]
  cases rest with
  | nil => simp
  | cons c t => simp [hrest c rfl]

/-- The parser of an authority leaves nothing of it for special schemes. -/
theorem parseAuthority_left {scheme : String} (hs : schemeKind scheme = .special)
    {cs left : List Char} {more : Bool} {a : Authority}
    (h : parseAuthority scheme (authorityText cs) more = .ok (a, left)) : left = [] := by
  apply (parseAuthority_ok hs h).2.2
  rintro c hc rfl
  exact absurd (authorityText_plain cs _ hc) (by decide)

/-- A URL of a special scheme is its authority and what follows; nothing of the authority is left
over. -/
theorem parseAfterSlashes_special {scheme : String} (hs : schemeKind scheme = .special)
    (cs : List Char) :
    parseAfterSlashes scheme cs = (parseAuthority scheme (authorityText cs) true).map fun x =>
      assemble scheme (some x.1) (parsePath .special) (Tail.ofChars (afterAuthority cs)) := by
  have hauth : parseAfterSlashes scheme cs = (parseAuthority scheme (authorityText cs)
      (afterAuthority cs ≠ [])).map fun x =>
        assemble scheme (some x.1) (parsePath .special)
          (Tail.ofChars (x.2 ++ afterAuthority cs)) := by
    unfold parseAfterSlashes
    simp only [hs]
    rfl
  rw [hauth, parseAuthority_more hs]
  cases hok : parseAuthority scheme (authorityText cs) true with
  | error e => rfl
  | ok x => simp [Except.map, parseAuthority_left hs hok]

/-- A URL whose scheme is special was read as one. -/
theorem parse_special {s : String} {u : Url} (h : Url.parse s = .ok u)
    (hspecial : schemeKind u.scheme = .special) :
    ∃ r, takeScheme? (clean s.toList) = some (u.scheme, r) ∧
      parseAfterSlashes u.scheme (r.dropWhile SchemeKind.special.isSlash) = .ok u := by
  unfold Url.parse at h
  split at h
  · cases h
  · next scheme r hscheme =>
    split at h
    · rw [parseFile_scheme h] at hspecial
      cases hspecial
    · have hu := parseAfterSlashes_scheme h
      subst hu
      exact ⟨r, hscheme, h⟩
    · next hkind =>
      rw [parseOther_scheme h, hkind] at hspecial
      cases hspecial

/-! ### From the scheme to the path -/

/-- How a cleaned text of a special scheme is read: its scheme, the text of its authority, and all
the rest. -/
structure Reads (cs : List Char) (scheme : String) (authority rest : List Char) : Prop where
  special : schemeKind scheme = .special
  scheme_eq : ∃ r, takeScheme? cs = some (scheme, r) ∧
    r.dropWhile SchemeKind.special.isSlash = authority ++ rest
  authority_ne_nil : authority ≠ []
  authority_plain : ∀ c ∈ authority, SchemeKind.special.endsAuthority c = false
  rest_head : ∀ c, rest.head? = some c → SchemeKind.special.endsAuthority c = true

namespace Reads

variable {cs authority rest : List Char} {scheme : String}

/-- An authority is not empty, and does not begin with a slash. -/
theorem cons_authority (h : Reads cs scheme authority rest) :
    ∃ c r, authority = c :: r ∧ SchemeKind.special.isSlash c = false := by
  obtain ⟨c, r, rfl⟩ := List.exists_cons_of_ne_nil h.authority_ne_nil
  refine ⟨c, r, rfl, ?_⟩
  have := h.authority_plain c List.mem_cons_self
  simp only [SchemeKind.endsAuthority, Bool.or_eq_false_iff] at this
  exact this.1.1

/-- The slashes after the scheme end before the authority. -/
theorem scheme_append (h : Reads cs scheme authority rest) (r : List Char) :
    ∃ r', takeScheme? (cs ++ r) = some (scheme, r') ∧
      r'.dropWhile SchemeKind.special.isSlash = authority ++ rest ++ r := by
  obtain ⟨r', hscheme, hr'⟩ := h.scheme_eq
  obtain ⟨c, t, hc, hslash⟩ := h.cons_authority
  refine ⟨r' ++ r, takeScheme?_append r hscheme, ?_⟩
  rw [List.dropWhile_append, hr', hc]
  simp

/-- What is appended after a slash belongs to the rest. -/
theorem append_slash (h : Reads cs scheme authority rest) (r : List Char) :
    Reads (cs ++ '/' :: r) scheme authority (rest ++ '/' :: r) where
  special := h.special
  scheme_eq := by simpa using h.scheme_append ('/' :: r)
  authority_ne_nil := h.authority_ne_nil
  authority_plain := h.authority_plain
  rest_head := by
    intro c hc
    cases hrest : rest with
    | nil =>
        rw [hrest] at hc
        simp only [List.nil_append, List.head?_cons, Option.some.injEq] at hc
        rw [← hc]
        rfl
    | cons d t =>
        apply h.rest_head c
        rw [hrest] at hc ⊢
        simpa using hc

/-- What is appended belongs to the rest if there is one, and else to the authority. -/
theorem append_plain (h : Reads cs scheme authority rest) {r : List Char}
    (hr : ∀ c ∈ r, SchemeKind.special.endsAuthority c = false) :
    if rest = [] then Reads (cs ++ r) scheme (authority ++ r) []
    else Reads (cs ++ r) scheme authority (rest ++ r) := by
  have hscheme := h.scheme_append r
  split
  · next hrest =>
    subst hrest
    refine ⟨h.special, by simpa using hscheme, by simp [h.authority_ne_nil], ?_, by simp⟩
    intro c hc
    rcases List.mem_append.mp hc with hc | hc
    · exact h.authority_plain c hc
    · exact hr c hc
  · next hrest =>
    refine ⟨h.special, by simpa using hscheme, h.authority_ne_nil, h.authority_plain, ?_⟩
    intro c hc
    obtain ⟨d, t, rfl⟩ := List.exists_cons_of_ne_nil hrest
    exact h.rest_head c (by simpa using hc)

/-- Slashes at the end belong to the rest. -/
theorem of_append_slashes {n : Nat}
    (h : Reads (cs ++ List.replicate n '/') scheme authority rest) :
    ∃ rest', Reads cs scheme authority rest' ∧ rest = rest' ++ List.replicate n '/' := by
  obtain ⟨r, hscheme, hr⟩ := h.scheme_eq
  obtain ⟨r', hscheme', rfl⟩ :=
    takeScheme?_of_append (fun c hc => by simp [List.eq_of_mem_replicate hc]) hscheme
  obtain ⟨a, t, ha, hslash⟩ := h.cons_authority
  have hne : r'.dropWhile SchemeKind.special.isSlash ≠ [] := by
    intro hnil
    have hall : (List.replicate n '/').dropWhile SchemeKind.special.isSlash = [] := by
      rw [List.dropWhile_eq_nil_iff]
      intro c hc
      rw [List.eq_of_mem_replicate hc]
      rfl
    simp [List.dropWhile_append, hnil, hall, ha] at hr
  have hD : r'.dropWhile SchemeKind.special.isSlash ++ List.replicate n '/' =
      authority ++ rest := by
    simpa [List.dropWhile_append, hne] using hr
  have hrest' : ∃ rest', r'.dropWhile SchemeKind.special.isSlash = authority ++ rest' ∧
      rest = rest' ++ List.replicate n '/' := by
    rcases List.append_eq_append_iff.mp hD with ⟨more, h1, h2⟩ | ⟨rest', h1, h2⟩
    · -- the authority cannot reach into the slashes
      have hmore : more = [] := by
        rcases more with _ | ⟨c, m⟩
        · rfl
        · have hc : c ∈ List.replicate n '/' := by simp [h2]
          have := h.authority_plain c (by simp [h1])
          rw [List.eq_of_mem_replicate hc] at this
          cases this
      subst hmore
      exact ⟨[], by simpa using h1.symm, by simpa using h2.symm⟩
    · exact ⟨rest', h1, h2⟩
  obtain ⟨rest', h1, rfl⟩ := hrest'
  refine ⟨rest', ⟨h.special, ⟨r', hscheme', h1⟩, h.authority_ne_nil, h.authority_plain, ?_⟩, rfl⟩
  intro c hc
  obtain ⟨t', ht'⟩ := List.head?_eq_some_iff.mp hc
  exact h.rest_head c (by simp [ht'])

/-- A text that is read so is a URL if the authority is one, and the authority is all that can be
wrong with it. -/
theorem parse {s : String} (h : Reads (clean s.toList) scheme authority rest) :
    parse s = (parseAuthority scheme authority true).map fun x =>
      assemble scheme (some x.1) (parsePath .special) (Tail.ofChars rest) := by
  obtain ⟨r, hscheme, hr⟩ := h.scheme_eq
  obtain ⟨htext, hafter⟩ := authorityText_append h.authority_plain h.rest_head
  unfold Url.parse
  simp only [hscheme, h.special, hr]
  rw [parseAfterSlashes_special h.special, htext, hafter]

/-- Every URL of a special scheme is read so. -/
theorem of_parse {s : String} {u : Url} (h : Url.parse s = .ok u)
    (hspecial : schemeKind u.scheme = .special) :
    ∃ authority rest a, Reads (clean s.toList) u.scheme authority rest ∧
      parseAuthority u.scheme authority true = .ok (a, []) ∧
      u = assemble u.scheme (some a) (parsePath .special) (Tail.ofChars rest) := by
  obtain ⟨r, hscheme, hr⟩ := parse_special h hspecial
  generalize hD : r.dropWhile SchemeKind.special.isSlash = D at hr
  rw [parseAfterSlashes_special hspecial] at hr
  cases hok : parseAuthority u.scheme (authorityText D) true with
  | error e => simp [hok, Except.map] at hr
  | ok x =>
      obtain ⟨a, left⟩ := x
      have hleft : left = [] := parseAuthority_left hspecial hok
      subst hleft
      have hcut : D = authorityText D ++ afterAuthority D :=
        List.takeWhile_append_dropWhile.symm
      refine ⟨authorityText D, afterAuthority D, a, ?_, hok, ?_⟩
      · exact ⟨hspecial, ⟨r, hscheme, hD.trans hcut⟩, (parseAuthority_ok hspecial hok).2.1,
          authorityText_plain D, afterAuthority_head D⟩
      · simpa [hok, Except.map] using hr.symm

end Reads

end AccountWire.Url
