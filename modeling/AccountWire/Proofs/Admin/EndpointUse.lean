import AccountWire.Proofs.Admin.Outcome
import AccountWire.Proofs.Admin.Route

/-!
# What an accepted endpoint is good for

A client is made when its endpoint is a URL, and then another text is read for every request: the
endpoint without the slashes at its end, and a resource after it.  Blanks at the end of an endpoint
do not count in the first text, but they do in the second; a query or a fragment takes the resource
in.

`StaysPut` is the check that would have been enough: the endpoint is read a second time, with one
slash at its end, and is still the same place.  `accepted_endpoint_usable_iff` says that the
requests of all clients go to their endpoint and below their project if and only if it succeeds.
-/

namespace AccountWire.Url

/-- Where requests for a URL go: its scheme, its host and its port. -/
def site (u : Url) : String × Option Host × Option Nat :=
  (u.scheme, u.authority.bind (·.host), u.authority.bind (·.port))

/-- Parameters do not change the site. -/
theorem site_addQuery (u : Url) (ps : List Query.Pair) : (u.addQuery ps).site = u.site := by
  unfold addQuery
  split <;> rfl

/-- User name and password do not belong to the site. -/
theorem site_withoutUserinfo (u : Url) : u.withoutUserinfo.site = u.site := by
  obtain ⟨scheme, authority, path, query, fragment⟩ := u
  cases authority <;> rfl

/-- All addresses with one beginning go to one place. -/
theorem Opens.site_eq {p authority rest : List Char} {scheme : String}
    (h : Opens p scheme authority rest) {q q' : List Char} {u u' : Url}
    (hu : Url.parse (String.ofList (p ++ '/' :: q)) = .ok u)
    (hu' : Url.parse (String.ofList (p ++ '/' :: q')) = .ok u') : u.site = u'.site := by
  rw [h.parse] at hu hu'
  cases hok : parseAuthority scheme authority true with
  | error e => simp [hok, Except.map] at hu
  | ok x =>
      simp only [hok, Except.map, Except.ok.injEq] at hu hu'
      rw [← hu, ← hu']
      rfl

/-- A text that is a URL with a slash after it opens addresses, and if that URL has no query and no
fragment, there is none in the text. -/
theorem exists_opens_of_parse {p : List Char} {u : Url}
    (hu : parse (String.ofList (p ++ '/' :: [])) = .ok u)
    (hspecial : schemeKind u.scheme = .special) :
    ∃ authority rest, Opens p u.scheme authority rest ∧
      (u.query = none → u.fragment = none → ∀ ch ∈ rest, endsPath ch = false) := by
  obtain ⟨authority, rest, a, hreads, -, hparts⟩ := Reads.of_parse hu hspecial
  have hclean : clean (String.ofList (p ++ '/' :: [])).toList = kept p ++ List.replicate 1 '/' := by
    rw [String.toList_ofList, clean_append (by decide)]
    rfl
  rw [hclean] at hreads
  obtain ⟨rest', hopens, rfl⟩ := hreads.of_append_slashes
  refine ⟨authority, rest', hopens, ?_⟩
  intro hquery hfragment ch hch
  rw [hparts] at hquery hfragment
  exact Tail.forall_of_none (by simpa [assemble] using hquery)
    (by simpa [assemble] using hfragment) ch (List.mem_append_left _ hch)

end AccountWire.Url

namespace AccountWire.Admin

open Http (Request)
open Url (EndsWell IsPlainSegment Opens endsPath isBlank stackOf staysWithin trimEmpty written)

/-! ### Requests below the project -/

/-- An endpoint that stays where it is when something follows it: read again with one slash at its
end, it is the same place with the same path, and without query and fragment. -/
def StaysPut (endpoint : String) : Prop :=
  ∃ u u' own, Url.parse endpoint = .ok u ∧ Url.parse (trimSlashes endpoint ++ "/") = .ok u' ∧
    u'.site = u.site ∧ u'.query = none ∧ u'.fragment = none ∧
    u.path = .segments own ∧ u'.path = .segments (trimEmpty own ++ [""])

instance (endpoint : String) : Decidable (StaysPut endpoint) :=
  decidable_of_iff ((match Url.parse endpoint, Url.parse (trimSlashes endpoint ++ "/") with
    | .ok u, .ok u' =>
      match u.path with
      | .segments own => u'.site = u.site && u'.query = none && u'.fragment = none &&
          u'.path = .segments (trimEmpty own ++ [""])
      | .opaqueText _ => false
    | _, _ => false) = true) (by
    unfold StaysPut
    cases Url.parse endpoint with
    | error e => simp
    | ok u =>
        cases Url.parse (trimSlashes endpoint ++ "/") with
        | error e => simp
        | ok u' => cases hpath : u.path <;> simp [hpath, and_assoc])

/-- A request that goes to the place of its endpoint and below its project: its path is the
endpoint's without empty segments at the end, the project's two segments, and more. -/
def BelowProject (u : Url) (c : Client) (op : Operation) (req : Request) : Prop :=
  req.url.site = u.site ∧ ∃ own below, u.path = .segments own ∧
    req.url.path =
      .segments (trimEmpty own ++ "projects" :: (c.projectId ++ op.projectVerb c) :: below)

section

variable {endpoint : String} {u : Url} {c : Client} {op : Operation} {req : Request}

/-- A request goes to the place of its address, and its path is the address's. -/
theorem exists_address_of_request (hreq : op.request c = .ok req) :
    ∃ v, Url.parse (String.ofList ((c.endpoint op.service).toList ++ '/' :: op.routeText c)) =
        .ok v ∧ req.url.site = v.site ∧ req.url.path = v.path := by
  obtain ⟨v, query, hv, hurl⟩ := (Operation.request_plannedAt c op).url_of_ok hreq
  rw [Operation.address_eq_ofList] at hv
  refine ⟨v, hv, ?_, ?_⟩
  · rw [hurl, Url.site_addQuery]
    unfold sentUrl
    split
    · exact Url.site_withoutUserinfo v
    · rfl
  · rw [hurl, Url.path_addQuery, path_sentUrl]

/-- How an endpoint that stays put opens its addresses. -/
theorem StaysPut.exists_opens (h : StaysPut endpoint) (hu : Url.parse endpoint = .ok u)
    (hspecial : Url.schemeKind u.scheme = .special) :
    ∃ authority rest own u', Opens (trimSlashes endpoint).toList u.scheme authority rest ∧
      (∀ ch ∈ rest, endsPath ch = false) ∧ u.path = .segments own ∧
      (stackOf rest).reverse = trimEmpty own ∧
      Url.parse (trimSlashes endpoint ++ "/") = .ok u' ∧ u'.site = u.site := by
  obtain ⟨u₁, u', own, hu₁, hu', hsite, hquery, hfragment, hown, hpath⟩ := h
  obtain rfl : u₁ = u := Except.ok.inj (hu₁.symm.trans hu)
  have hscheme : u'.scheme = u₁.scheme := congrArg Prod.fst hsite
  have hu'' := hu'
  rw [continued_eq] at hu''
  obtain ⟨authority, rest, hopens, hrest⟩ :=
    Url.exists_opens_of_parse hu'' (by rw [hscheme, hspecial])
  have hplain := hrest hquery hfragment
  have hstack : (stackOf rest).reverse ++ [""] = trimEmpty own ++ [""] := by
    have := hopens.path hplain hu''
    rw [hpath, Url.Path.segments.injEq] at this
    rw [this, ← List.reverse_cons]
    rfl
  exact ⟨authority, rest, own, u', hscheme ▸ hopens, hplain, hown,
    List.append_cancel_right hstack, hu', hsite⟩

/-- **An endpoint that stays put is good for every request.** -/
theorem StaysPut.exists_request (h : StaysPut endpoint) (hu : Url.parse endpoint = .ok u)
    (hspecial : Url.schemeKind u.scheme = .special)
    (hendpoint : c.endpoint op.service = trimSlashes endpoint)
    (haccepted : ¬ Refused (op.request c)) :
    ∃ req, op.request c = .ok req ∧ req.url.site = u.site := by
  obtain ⟨authority, rest, own, u', hopens, -, -, -, hu', hsite⟩ := h.exists_opens hu hspecial
  rw [← hendpoint] at hopens hu'
  obtain ⟨req, hreq⟩ := Operation.request_of_continues hopens ⟨u', hu'⟩ haccepted
  obtain ⟨v, hv, hreqSite, -⟩ := exists_address_of_request hreq
  rw [continued_eq] at hu'
  exact ⟨req, hreq, by rw [hreqSite, hopens.site_eq hv hu', hsite]⟩

/-- **Requests that do not climb stay below their project.** -/
theorem StaysPut.belowProject (h : StaysPut endpoint) (hu : Url.parse endpoint = .ok u)
    (hspecial : Url.schemeKind u.scheme = .special)
    (hendpoint : c.endpoint op.service = trimSlashes endpoint)
    (hproject : IsWord c.projectId.toList) (hstays : op.StaysInProject c)
    (haccepted : ¬ Refused (op.request c)) :
    ∃ req, op.request c = .ok req ∧ BelowProject u c op req := by
  obtain ⟨req, hreq, hsite⟩ := h.exists_request hu hspecial hendpoint haccepted
  refine ⟨req, hreq, hsite, ?_⟩
  obtain ⟨authority, rest, own, -, hopens, hrest, hown, hstack, -⟩ := h.exists_opens hu hspecial
  obtain ⟨v, hv, -, hpath⟩ := exists_address_of_request hreq
  rw [hendpoint] at hv
  have hprojects := isWord_projects
  have hhead := Operation.isWord_projectSegment hproject op
  obtain ⟨pieces, hpieces⟩ := op.exists_pieces_routeText hproject
  have hwithin : staysWithin 0 pieces = true := by
    rw [Operation.StaysInProject, hpieces] at hstays
    exact hstays
  have hplain : ∀ s ∈ ["projects".toList, (c.projectId ++ op.projectVerb c).toList],
      IsPlainSegment s := by
    intro s hs
    simp only [List.mem_cons, List.not_mem_nil, or_false] at hs
    rcases hs with rfl | rfl
    · exact hprojects.plain
    · exact hhead.plain
  obtain ⟨top, htop⟩ := Url.exists_addSegments_append (by simp) hplain hwithin (stackOf rest)
  refine ⟨own, top.reverse, hown, ?_⟩
  rw [hpath, hopens.path hrest hv, hpieces, ← hstack]
  rw [List.cons_append, List.cons_append, List.nil_append, List.map_cons, List.map_cons,
    List.map_nil, written_toList hprojects, written_toList hhead] at htop
  rw [htop]
  simp

end

/-! ### Endpoints that do not stay put -/

/-- Blanks that come to stand in a segment are escaped there. -/
theorem percent_mem_written {s blanks : List Char} (hne : blanks ≠ [])
    (hblanks : ∀ ch ∈ blanks, isBlank ch = true) : '%' ∈ (written (s ++ blanks)).toList := by
  have hescaped : ∀ n, n ≤ 0x20 → '%' ∈ Percent.encodeChar Percent.pathSet (Char.ofNat n) := by
    decide
  obtain ⟨ch, t, rfl⟩ := List.exists_cons_of_ne_nil hne
  have hch : ch.toNat ≤ 0x20 := by simpa [isBlank] using hblanks ch List.mem_cons_self
  have hmem := hescaped ch.toNat hch
  rw [Char.ofNat_toNat] at hmem
  rw [written, String.toList_ofList, Percent.encode, List.mem_flatMap]
  exact ⟨ch, by simp, hmem⟩

/-- Blanks that were not there change what is written. -/
theorem written_append_ne {s blanks : List Char} (hne : blanks ≠ []) :
    written (s ++ blanks) ≠ written s := by
  intro h
  have hlists := congrArg String.toList h
  rw [written, written, String.toList_ofList, String.toList_ofList, Percent.encode_append] at hlists
  exact hne (Percent.encode_eq_nil.mp (List.append_right_eq_self.mp hlists))

/-- A segment that ends in blanks is no dot segment. -/
theorem isPlainSegment_append_blanks {s blanks : List Char} (hne : blanks ≠ [])
    (hblanks : ∀ ch ∈ blanks, isBlank ch = true) : IsPlainSegment (s ++ blanks) := by
  obtain ⟨ch, t, rfl⟩ := List.exists_cons_of_ne_nil hne
  refine Url.isPlainSegment_of_mem (c := ch) (by simp) ?_
  have hch := hblanks ch List.mem_cons_self
  intro hmem
  simp only [List.mem_cons, List.not_mem_nil, or_false] at hmem
  rcases hmem with rfl | rfl | rfl | rfl | rfl <;> exact absurd hch (by decide)

/-- A list that ends in a text with a percent sign, where another list has two without one. -/
theorem not_append_eq_of_percent {T S below more : List String} {w x y : String} {j : Nat}
    (hw : '%' ∈ w.toList) (hx : '%' ∉ x.toList) (hy : '%' ∉ y.toList) (hxne : x ≠ "")
    (hS : S.length ≤ 1) :
    T ++ (List.replicate j "" ++ (S ++ w :: more)) ≠ T ++ x :: y :: below := by
  intro h
  have htail := List.append_cancel_left h
  cases j with
  | succ j =>
      rw [List.replicate_succ] at htail
      exact hxne (List.cons.inj htail).1.symm
  | zero =>
      rw [List.replicate_zero, List.nil_append] at htail
      match S, hS with
      | [], _ => exact hx ((List.cons.inj htail).1 ▸ hw)
      | [_], _ => exact hy ((List.cons.inj (List.cons.inj htail).2).1 ▸ hw)

/-- The last segment of a path, when blanks come to stand after it, is followed by no project. -/
theorem not_projects_after_blanks {D own more below : List String} {s blanks : List Char}
    {project : String} (hne : blanks ≠ []) (hblanks : ∀ ch ∈ blanks, isBlank ch = true)
    (hproject : '%' ∉ project.toList) (hown : own.reverse = Url.addSegment .special D s true) :
    (written (s ++ blanks) :: D).reverse ++ more ≠
      trimEmpty own ++ "projects" :: project :: below := by
  have hprojects : '%' ∉ "projects".toList := by decide
  have hpercent := percent_mem_written (s := s) hne hblanks
  rw [List.reverse_cons, List.append_assoc, List.singleton_append]
  -- an empty segment at the end of the path is not counted
  have hempty : ∀ D' : List String, (D' = D ∨ D' = D.tail) → own.reverse = "" :: D' →
      D.reverse ++ written (s ++ blanks) :: more ≠
        trimEmpty own ++ "projects" :: project :: below := by
    intro D' hD' hrev
    have hown' : own = D'.reverse ++ [""] := by
      rw [← List.reverse_reverse own, hrev, List.reverse_cons]
    obtain ⟨j, hj⟩ := Url.exists_trimEmpty_append D'.reverse
    have hsplit : ∃ S : List String, D.reverse = D'.reverse ++ S ∧ S.length ≤ 1 := by
      rcases hD' with rfl | rfl
      · exact ⟨[], by simp, by simp⟩
      · cases D with
        | nil => exact ⟨[], rfl, by simp⟩
        | cons x D => exact ⟨[x], by simp, by simp⟩
    obtain ⟨S, hS, hlength⟩ := hsplit
    rw [hown', Url.trimEmpty_concat_empty, hS]
    generalize trimEmpty D'.reverse = T at hj
    rw [hj, List.append_assoc, List.append_assoc]
    exact not_append_eq_of_percent hpercent hprojects hproject (by decide) hlength
  by_cases hs : IsPlainSegment s
  · rw [Url.addSegment_plain hs] at hown
    by_cases hwritten : written s = ""
    · exact hempty D (Or.inl rfl) (by rw [hown, hwritten])
    · intro h
      have hown' : own = D.reverse ++ [written s] := by
        rw [← List.reverse_reverse own, hown, List.reverse_cons]
      rw [hown', Url.trimEmpty_concat hwritten, List.append_assoc] at h
      exact written_append_ne hne (List.cons.inj (List.append_cancel_left h)).1
  · obtain ⟨D', hD', -, hlast⟩ := Url.addSegment_dot hs D
    exact hempty D' hD' (hown.trans hlast)

/-- **A continued endpoint that projects come after has its own path.** -/
theorem Continuation.stackOf_eq {authority rest authority' rest' : List Char}
    (h : Continuation authority rest authority' rest')
    (hslash : ∀ ch, rest'.head? = some ch → Url.SchemeKind.special.isSlash ch = true)
    {own more below : List String} {project : String} (hproject : '%' ∉ project.toList)
    (hown : Url.parsePath .special rest = .segments own)
    (heq : (stackOf rest').reverse ++ "projects" :: more =
      trimEmpty own ++ "projects" :: project :: below) :
    (stackOf rest').reverse = trimEmpty own := by
  cases h with
  | slashes rest' n =>
      obtain ⟨k, hk⟩ := Url.parsePath_append_slashes hslash n
      obtain rfl := Url.Path.segments.inj (hown.symm.trans hk)
      rw [Url.trimEmpty_append_replicate] at heq ⊢
      obtain ⟨j, hj⟩ := Url.exists_trimEmpty_append (stackOf rest').reverse
      cases j with
      | zero => simpa using hj
      | succ j =>
          generalize trimEmpty (stackOf rest').reverse = T at hj heq
          rw [hj, List.append_assoc, List.replicate_succ] at heq
          exact absurd (List.cons.inj (List.append_cancel_left heq)).1 (by decide)
  | blankAuthority =>
      obtain rfl := Url.Path.segments.inj hown
      rfl
  | @blankRest _ blanks hrest hne hblanks =>
      obtain ⟨ch, r, rfl⟩ := List.exists_cons_of_ne_nil hrest
      have hch : Url.SchemeKind.special.isSlash ch = true := hslash ch rfl
      have hnoslash : ∀ b ∈ blanks, Url.SchemeKind.special.isSlash b = false := by
        intro b hb
        have := (plain_of_isBlank (hblanks b hb)).1
        simp only [Url.SchemeKind.endsAuthority, Bool.or_eq_false_iff] at this
        exact this.1.1
      obtain ⟨init, s, hpieces⟩ := Split.exists_pieces_eq Url.SchemeKind.special.isSlash r
      have hstack : stackOf (ch :: r ++ blanks) =
          written (s ++ blanks) :: Url.descend [] init := by
        have hplain := isPlainSegment_append_blanks (s := s) hne hblanks
        show Url.descend [] (Split.pieces _ (r ++ blanks)) = _
        rw [Split.pieces_append_of_forall hpieces hnoslash, Url.descend_concat,
          Url.addSegment_plain hplain]
      have hown' : own.reverse = Url.addSegment .special (Url.descend [] init) s true := by
        obtain rfl := Url.Path.segments.inj (hown.symm.trans (Url.parsePath_cons hch r))
        rw [List.reverse_reverse, hpieces, Url.addSegments_append init (by simp)]
        rfl
      rw [hstack] at heq
      exact absurd heq (not_projects_after_blanks hne hblanks hproject hown')

/-- A mark in an endpoint ends its path and that of all addresses that begin with it. -/
theorem Continuation.takeWhile_eq {authority rest authority' rest' : List Char}
    (h : Continuation authority rest authority' rest') (hmark : ∃ ch ∈ rest', endsPath ch = true) :
    rest'.takeWhile (! endsPath ·) = rest.takeWhile (! endsPath ·) := by
  have hmark' := h.exists_endsPath_iff.mp hmark
  cases h with
  | slashes rest' n => exact (Url.takeWhile_append_of_endsPath hmark _).symm
  | blankAuthority => rfl
  | blankRest hrest hne hblanks => exact Url.takeWhile_append_of_endsPath hmark' _

/-- The path of an address, as far as no mark cuts it off. -/
theorem path_of_opens {p authority rest : List Char} {scheme : String}
    (h : Opens p scheme authority rest) {q : List Char} {v : Url}
    (hv : Url.parse (String.ofList (p ++ '/' :: q)) = .ok v) : ∃ r, v.path =
      Url.parsePath .special ((rest ++ '/' :: r).takeWhile (! endsPath ·)) := by
  rw [h.parse] at hv
  cases hok : Url.parseAuthority scheme authority true with
  | error e => simp [hok, Except.map] at hv
  | ok x =>
      simp only [hok, Except.map, Except.ok.injEq] at hv
      subst hv
      exact ⟨_, Url.path_assemble _ _ _⟩

/-- An address that ends with its opening has no query and no fragment. -/
theorem query_of_opens {p authority rest : List Char} {scheme : String}
    (h : Opens p scheme authority rest) (hrest : ∀ ch ∈ rest, endsPath ch = false) {v : Url}
    (hv : Url.parse (String.ofList (p ++ '/' :: [])) = .ok v) :
    v.query = none ∧ v.fragment = none := by
  rw [h.parse] at hv
  cases hok : Url.parseAuthority scheme authority true with
  | error e => simp [hok, Except.map] at hv
  | ok x =>
      have hplain : ∀ ch ∈ rest ++ ['/'], endsPath ch = false := by
        intro ch hch
        rcases List.mem_append.mp hch with hch | hch
        · exact hrest ch hch
        · rw [List.mem_singleton.mp hch]
          rfl
      have htail : Url.Tail.ofChars (rest ++ '/' :: (Url.trimEnd []).filter Url.isKept) =
          ⟨rest ++ ['/'], none, none⟩ := Url.Tail.ofChars_of_forall hplain
      simp only [hok, Except.map, Except.ok.injEq, htail] at hv
      subst hv
      exact ⟨rfl, rfl⟩

/-- A query or a fragment of an endpoint takes in what follows, so there is none if the path goes
on. -/
theorem Continuation.plain_of_path {p authority rest authority' rest' q : List Char}
    {scheme : String} (h : Continuation authority rest authority' rest')
    (hopens : Opens p scheme authority' rest') {v : Url}
    (hv : Url.parse (String.ofList (p ++ '/' :: q)) = .ok v) {own more : List String} {x y : String}
    (hx : x ≠ "") (hown : Url.parsePath .special (rest.takeWhile (! endsPath ·)) = .segments own)
    (hpath : v.path = .segments (trimEmpty own ++ x :: y :: more)) :
    ∀ ch ∈ rest', endsPath ch = false := by
  by_contra hnot
  have hmark : ∃ ch ∈ rest', endsPath ch = true := by simpa using hnot
  obtain ⟨r, hr⟩ := path_of_opens hopens hv
  rw [Url.takeWhile_append_of_endsPath hmark, h.takeWhile_eq hmark, hown, hpath,
    Url.Path.segments.injEq] at hr
  obtain ⟨k, hk⟩ := Url.exists_trimEmpty_append own
  have htail := List.append_cancel_left (hr.trans hk)
  cases k with
  | zero => cases htail
  | succ k => exact hx (List.cons.inj htail).1

section

variable {endpoint : String} {u : Url} {c : Client} {op : Operation} {req : Request}

/-- **One request below the project is enough to tell.** -/
theorem staysPut_of_belowProject (hu : Url.parse endpoint = .ok u)
    (hspecial : Url.schemeKind u.scheme = .special)
    (hendpoint : c.endpoint op.service = trimSlashes endpoint)
    (hroute : ∀ s ∈ op.route c, IsWord s.toList) (hreq : op.request c = .ok req)
    (h : BelowProject u c op req) : StaysPut endpoint := by
  obtain ⟨hsite, own, below, hown, hpath⟩ := h
  obtain ⟨v, hv, hreqSite, hreqPath⟩ := exists_address_of_request hreq
  rw [hendpoint] at hv
  rw [hreqPath] at hpath
  obtain ⟨authority, rest, authority', rest', a, -, hparts, hopens, hcont, -⟩ :=
    exists_continuation hu hspecial
  have hplain : ∀ ch ∈ rest', endsPath ch = false := by
    refine hcont.plain_of_path hopens hv (by decide) ?_ hpath
    rw [← hown, hparts, Url.path_assemble]
  have hstack : (stackOf rest').reverse = trimEmpty own := by
    obtain ⟨below', hbelow, -⟩ := op.exists_route_eq c
    have hproject : IsWord (c.projectId ++ op.projectVerb c).toList :=
      hroute _ (by simp [hbelow])
    have hvpath := Operation.path_of_route hopens hplain hroute hv
    rw [hbelow] at hvpath
    refine hcont.stackOf_eq (hopens.rest_slash hplain) hproject.no_sign ?_
      (Url.Path.segments.inj (hvpath.symm.trans hpath))
    rw [← hown, hparts, Url.path_assemble_of_forall _ _ (hcont.plain_iff.mp hplain)]
  obtain ⟨u', hu', -⟩ := hopens.parse_of_parse hv []
  obtain ⟨hquery, hfragment⟩ := query_of_opens hopens hplain hu'
  refine ⟨u, u', own, hu, by rw [continued_eq]; exact hu', ?_, hquery, hfragment, hown, ?_⟩
  · rw [hopens.site_eq hu' hv, ← hreqSite, hsite]
  · rw [hopens.path hplain hu', ← hstack, ← List.reverse_cons]
    rfl

end

/-- The client that a configuration makes is for no tenant. -/
theorem tenantId_of_create {config : Configuration} {c : Client}
    (h : Client.create config = .ok c) : c.tenantId = none := by
  unfold Client.create at h
  split at h
  · cases h
  · split at h
    · cases h
      rfl
    · split at h
      · cases h
      · cases h
        rfl

/-- **What an accepted endpoint is good for.**  For a project with a plain name and an endpoint over
HTTP, the requests with accepted arguments that do not climb out of the project by their own ids go
to the place of the endpoint and below the project, for all clients, if and only if the endpoint
stays put.  Then every operation whose arguments are accepted has a request to this place, and with a
plain tenant and an id without a backslash it does not climb. -/
theorem accepted_endpoint_usable_iff {projectId endpoint : String} {c₀ : Client} {u : Url}
    (hname : ∀ ch ∈ projectId.toList, isNameChar ch = true)
    (hcreate : Client.create ⟨projectId, some endpoint⟩ = .ok c₀)
    (hu : Url.parse endpoint = .ok u) (hscheme : u.scheme = "http" ∨ u.scheme = "https") :
    ((∀ (c : Client) (op : Operation), ClientOf ⟨projectId, some endpoint⟩ c → op.Accepts →
        op.StaysInProject c → ∃ req, op.request c = .ok req ∧ BelowProject u c op req) ↔
      StaysPut endpoint) ∧
    (StaysPut endpoint → ∀ (c : Client) (op : Operation),
      ClientOf ⟨projectId, some endpoint⟩ c → op.Accepts →
      ∃ req, op.request c = .ok req ∧ req.url.site = u.site) ∧
    ∀ (c : Client) (op : Operation), ClientOf ⟨projectId, some endpoint⟩ c → op.Accepts →
      (∀ tenantId, c.tenantId = some tenantId → IsTenantSegment tenantId) →
      (∀ kind id, op.config? = some (kind, id) → '\\' ∉ id.toList) → op.StaysInProject c := by
  have hspecial := schemeKind_of_http hscheme
  have hendpoint : ∀ (c : Client) (op : Operation), ClientOf ⟨projectId, some endpoint⟩ c →
      c.endpoint op.service = trimSlashes endpoint := by
    intro c op hc
    rw [hc.eq_config.2]
    cases op.service <;> rfl
  have hproject : ∀ c, ClientOf ⟨projectId, some endpoint⟩ c → IsWord c.projectId.toList := by
    intro c hc
    rw [hc.eq_config.1]
    exact .of_name hc.projectId_ne hname
  refine ⟨⟨?_, ?_⟩, ?_, ?_⟩
  · intro h
    have hc := ClientOf.project hcreate
    have htenant := tenantId_of_create hcreate
    have hword : IsWord "accounts:batchGet".toList := by decide +kernel
    have haccepts : (Operation.userPage "").Accepts := trivial
    have hstays : (Operation.userPage "").StaysInProject c₀ := by
      refine Operation.staysInProject_of_plain (hproject c₀ hc) ?_ ?_
        (Operation.not_refused_iff.mpr haccepts)
      · intro tenantId ht
        rw [htenant] at ht
        cases ht
      · intro kind id hop
        cases hop
    obtain ⟨req, hreq, hbelow⟩ := h c₀ _ hc haccepts hstays
    refine staysPut_of_belowProject hu hspecial (hendpoint c₀ _ hc) ?_ hreq hbelow
    rw [Operation.route, Operation.scopeSegments, htenant]
    simpa [Operation.verb, Operation.segments] using ⟨isWord_projects, hproject c₀ hc, hword⟩
  · intro hput c op hc haccepts hstays
    exact hput.belowProject hu hspecial (hendpoint c op hc) (hproject c hc) hstays
      (Operation.not_refused_iff.mpr haccepts)
  · intro hput c op hc haccepts
    exact hput.exists_request hu hspecial (hendpoint c op hc)
      (Operation.not_refused_iff.mpr haccepts)
  · intro c op hc haccepts htenant hid
    exact op.staysInProject_of_plain (hproject c hc) htenant hid
      (Operation.not_refused_iff.mpr haccepts)

/-- Slashes at the end of an endpoint do not matter, blanks do. -/
example : StaysPut "http://h//" ∧ ¬ StaysPut "http://h/v1 " := by decide

/-- The look-up of a client of `http://h` is for the host `h` and below the project `p`. -/
theorem plain_endpoint_usable : ∃ u req, Url.parse "http://h" = .ok u ∧
    (Operation.byUid "u").request Provider.plainClient = .ok req ∧
      BelowProject u Provider.plainClient (.byUid "u") req := by
  have hname : "p".toList.all isNameChar = true := by decide
  have hcreate : Client.create ⟨"p", some "http://h"⟩ = .ok Provider.plainClient := by
    decide +kernel
  have hread : (Url.parse "http://h").toOption.map (·.scheme) = some "http" := by decide +kernel
  obtain ⟨u, hu, hscheme⟩ := exists_eq_ok_of_map hread
  have husable := accepted_endpoint_usable_iff (List.all_eq_true.mp hname) hcreate hu
    (Or.inl hscheme)
  obtain ⟨req, hreq, hbelow⟩ := husable.1.mpr (by decide +kernel) _ (.byUid "u") (.project hcreate)
    ⟨by decide, by decide⟩ (by decide +kernel)
  exact ⟨u, req, hu, hreq, hbelow⟩

/-- A client is made for an endpoint over HTTP with a blank at its end, and its look-ups are for no
URL; with a query at its end, they are for the root of the host. -/
theorem accepted_endpoint_unusable :
    (∃ c u, Client.create ⟨"p", some "http://h "⟩ = .ok c ∧ Url.parse "http://h " = .ok u ∧
      u.scheme = "http" ∧ (Operation.byUid "u").Accepts ∧
      (Operation.byUid "u").request c = .error (.transport none)) ∧
    ∃ c u req, Client.create ⟨"p", some "http://h?x"⟩ = .ok c ∧ Url.parse "http://h?x" = .ok u ∧
      u.scheme = "http" ∧ (Operation.byUid "u").request c = .ok req ∧
      req.url.path = .segments [""] := by
  have haccepts : (Operation.byUid "u").Accepts := ⟨by decide, by decide⟩
  have herror : ∀ {x : Except Error Request}, x.map (fun _ => ()) = .error (.transport none) →
      x = .error (.transport none) := by
    intro x hx
    cases x with
    | error e => exact congrArg _ (Except.error.inj hx)
    | ok req => cases hx
  refine ⟨⟨⟨"p", none, "http://h ", "http://h "⟩, _, ?_, rfl, ?_, haccepts, herror ?_⟩, ?_⟩
  · decide +kernel
  · decide +kernel
  · decide +kernel
  · refine ⟨⟨"p", none, "http://h?x", "http://h?x"⟩, _, _, ?_, rfl, ?_, rfl, ?_⟩ <;>
      decide +kernel

end AccountWire.Admin
