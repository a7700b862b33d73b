import AccountWire.Proofs.Admin.Endpoint

/-!
# Endpoints that are an origin with a path

An origin over HTTP names a host, perhaps with a user and a port, and nothing after them.  Plain
segments and any number of slashes may follow it in an endpoint (`endpointAt`).  A client is made
for every such endpoint, and the path of an address that begins with it is its segments and those
of the address (`IsOrigin.exists_parse`).
-/

namespace AccountWire.Url

/-! ### What ends a text that was read -/

/-- What follows a scheme is the end of the text. -/
theorem takeScheme?_suffix {cs r : List Char} {scheme : String}
    (h : takeScheme? cs = some (scheme, r)) : r <:+ cs := by
  unfold takeScheme? at h
  cases hfirst : Split.atFirst? (· == ':') cs with
  | none => simp [hfirst] at h
  | some p =>
      obtain ⟨name, after⟩ := p
      obtain ⟨colon, -, rfl, -⟩ := Split.atFirst?_append hfirst
      rw [hfirst] at h
      cases name with
      | nil => simp at h
      | cons c t =>
          simp only [Option.bind_eq_bind, Option.bind_some, Option.ite_none_right_eq_some,
            Option.some.injEq, Prod.mk.injEq] at h
          rw [← h.2.2]
          exact ⟨c :: t ++ [colon], by simp⟩

/-- What follows the authority ends the text. -/
theorem Reads.rest_suffix {cs authority rest : List Char} {scheme : String}
    (h : Reads cs scheme authority rest) : rest <:+ cs := by
  obtain ⟨r, hscheme, hr⟩ := h.scheme_eq
  have hrest : rest <:+ r.dropWhile SchemeKind.special.isSlash := by
    rw [hr]
    exact List.suffix_append _ _
  exact (hrest.trans (List.dropWhile_suffix _)).trans (takeScheme?_suffix hscheme)

/-- A text that does not end in a blank keeps its last character. -/
theorem getLast?_kept {cs : List Char} {c : Char} (h : cs.getLast? = some c)
    (hc : isBlank c = false) : (kept cs).getLast? = some c := by
  obtain ⟨p, rfl⟩ := List.getLast?_eq_some_iff.mp h
  have hkept : isKept c = true := by
    have hne : ∀ d : Char, isBlank d = true → c ≠ d := by
      rintro d hd rfl
      rw [hd] at hc
      cases hc
    simp [isKept, hne '\t' (by decide), hne '\n' (by decide), hne '\r' (by decide)]
  rw [kept_append hc p [], List.filter_cons_of_pos hkept, List.filter_nil, List.getLast?_concat]

/-- A path that is empty leaves nothing for what follows, unless it ends in a slash. -/
theorem stackOf_eq_nil {cs : List Char}
    (hcs : ∀ c, cs.head? = some c → SchemeKind.special.isSlash c = true)
    (hlast : ∀ c, cs.getLast? = some c → SchemeKind.special.isSlash c = false)
    (hpath : parsePath .special cs = .segments [""]) : stackOf cs = [] := by
  cases cs with
  | nil => rfl
  | cons c r =>
      have hc := hcs c rfl
      obtain ⟨init, s, hpieces⟩ := Split.exists_pieces_eq SchemeKind.special.isSlash r
      rw [parsePath_cons hc, hpieces, addSegments_append init (by simp), Path.segments.injEq,
        List.reverse_eq_iff, List.reverse_singleton] at hpath
      have hstack : stackOf (c :: r) = addSegment .special (descend [] init) s false := by
        rw [stackOf, hpieces, descend_concat]
      have hpath' : addSegment .special (descend [] init) s true = [""] := hpath
      by_cases hs : IsPlainSegment s
      · exfalso
        rw [addSegment_plain hs] at hpath'
        obtain rfl := eq_nil_of_written (List.cons.inj hpath').1
        rcases List.eq_nil_or_concat r with rfl | ⟨r', d, rfl⟩
        · have := hlast c rfl
          rw [hc] at this
          cases this
        · rw [List.concat_eq_append] at hpieces hlast
          have hd : SchemeKind.special.isSlash d = false :=
            hlast d (by rw [← List.cons_append, List.getLast?_concat])
          obtain ⟨init', s', hpieces'⟩ := Split.exists_pieces_eq SchemeKind.special.isSlash r'
          have happend := Split.pieces_append_of_forall hpieces' (List.forall_mem_singleton.mpr hd)
          rw [hpieces] at happend
          have hlists := (List.append_inj' happend rfl).2
          simp at hlists
      · obtain ⟨rev', -, hfalse, htrue⟩ := addSegment_dot hs (descend [] init)
        rw [htrue, List.cons.injEq] at hpath'
        rw [hstack, hfalse, hpath'.2]

end AccountWire.Url

namespace AccountWire.Admin

open Url (EndsWell IsAddressSegment Opens endsPath isBlank stackOf written)

/-! ### Origins -/

/-- An origin over HTTP: a text that is a URL without path, query and fragment, and that ends in no
slash and no blank. -/
structure IsOrigin (origin : String) : Prop where
  parses : ∃ u, Url.parse origin = .ok u ∧ u.scheme = "http" ∧ u.path = .segments [""] ∧
    u.query = none ∧ u.fragment = none
  ending : ∀ ch, origin.toList.getLast? = some ch →
    Url.SchemeKind.special.isSlash ch = false ∧ isBlank ch = false

/-- A segment that the parser leaves as it is written. -/
structure IsPathSegment (s : String) : Prop where
  ne_empty : s ≠ ""
  isAddressSegment : IsAddressSegment s.toList
  written_eq : written s.toList = s

/-- A blank would be escaped. -/
theorem IsPathSegment.endsWell {s : String} (h : IsPathSegment s) : EndsWell s.toList := by
  have hescaped : ∀ n, n ≤ 0x20 → Percent.pathSet.escapes (Char.ofNat n) = true ∧
      Char.ofNat n ∉ Percent.escapeChars := by decide +kernel
  intro ch hch
  by_contra hblank
  have hle : ch.toNat ≤ 0x20 := by simpa [isBlank] using hblank
  obtain ⟨hescape, hdigit⟩ := hescaped ch.toNat hle
  rw [Char.ofNat_toNat] at hescape hdigit
  have hencode : Percent.encode Percent.pathSet s.toList = s.toList := by
    have := congrArg String.toList h.written_eq
    rwa [written, String.toList_ofList] at this
  have hmem := List.mem_of_getLast? hch
  rw [← hencode] at hmem
  exact Percent.not_mem_encode hescape hdigit _ hmem

/-- How an origin opens addresses: nothing stands between its authority and what follows. -/
theorem IsOrigin.exists_opens {origin : String} (h : IsOrigin origin) :
    ∃ authority rest a, Opens origin.toList "http" authority rest ∧
      (∀ ch ∈ rest, endsPath ch = false) ∧ stackOf rest = [] ∧
      Url.parseAuthority "http" authority true = .ok a := by
  obtain ⟨⟨u, hu, hscheme, hpath, hquery, hfragment⟩, hending⟩ := h
  obtain ⟨authority, rest, a, hreads, hauth, hparts⟩ :=
    Url.Reads.of_parse hu (by rw [hscheme]; decide)
  have hend : EndsWell origin.toList := fun ch hch => (hending ch hch).2
  obtain ⟨blanks, hkept, -, hwell⟩ := Url.exists_kept_eq origin.toList
  have hopens : Opens origin.toList "http" authority rest := by
    rw [Opens, hkept, hwell hend, List.append_nil, ← hscheme]
    exact hreads
  have hplain : ∀ ch ∈ rest, endsPath ch = false := by
    rw [hparts] at hquery hfragment
    exact Url.Tail.forall_of_none (by simpa [Url.assemble] using hquery)
      (by simpa [Url.assemble] using hfragment)
  refine ⟨authority, rest, _, hopens, hplain, ?_, hscheme ▸ hauth⟩
  refine Url.stackOf_eq_nil (hopens.rest_slash hplain) ?_ ?_
  · intro ch hch
    obtain ⟨t, ht⟩ := Url.Reads.rest_suffix hopens
    cases hlast : origin.toList.getLast? with
    | none =>
        rw [List.getLast?_eq_none_iff] at hlast
        rw [hlast, show Url.kept [] = [] from rfl, List.append_eq_nil_iff] at ht
        rw [ht.2] at hch
        cases hch
    | some d =>
        obtain ⟨hslash, hblank⟩ := hending d hlast
        have hsame := Url.getLast?_kept hlast hblank
        rw [← ht, List.getLast?_append, hch] at hsame
        obtain rfl : ch = d := Option.some.inj hsame
        exact hslash
  · rw [← hpath, hparts, Url.path_assemble_of_forall _ _ hplain]

/-- **Addresses that begin with an origin** are URLs, and their segments come out one by one. -/
theorem IsOrigin.exists_parse {origin : String} (h : IsOrigin origin) {ss : List String}
    (hne : ss ≠ []) (hss : ∀ s ∈ ss, IsPathSegment s) :
    ∃ v, Url.parse (origin ++ (Url.Path.segments ss).text) = .ok v ∧ v.scheme = "http" ∧
      v.path = .segments ss := by
  obtain ⟨authority, rest, a, hopens, hrest, hstack, hauth⟩ := h.exists_opens
  have htext : origin ++ (Url.Path.segments ss).text =
      String.ofList (origin.toList ++ (ss.map String.toList).flatMap ('/' :: ·)) := by
    rw [← String.toList_inj, String.toList_append, String.toList_ofList, Url.Path.text,
      Url.toList_join]
  have hparse : ∃ v, Url.parse (origin ++ (Url.Path.segments ss).text) = .ok v ∧
      v.scheme = "http" := by
    obtain ⟨s, ss, rfl⟩ := List.exists_cons_of_ne_nil hne
    rw [htext, List.map_cons, List.flatMap_cons, List.cons_append, hopens.parse, hauth]
    exact ⟨_, rfl, rfl⟩
  obtain ⟨v, hv, hscheme⟩ := hparse
  refine ⟨v, hv, hscheme, ?_⟩
  have haddress : ∀ s ∈ ss.map String.toList, IsAddressSegment s := by
    intro s hs
    obtain ⟨x, hx, rfl⟩ := List.mem_map.mp hs
    exact (hss x hx).isAddressSegment
  have hend : EndsWell ((ss.map String.toList).flatMap ('/' :: ·)) := by
    rcases List.eq_nil_or_concat ss with rfl | ⟨init, last, rfl⟩
    · exact absurd rfl hne
    · have hlast := hss last (by simp)
      rw [List.concat_eq_append, List.map_append]
      exact Url.endsWell_flatMap hlast.endsWell (by simpa using hlast.ne_empty) _
  rw [htext] at hv
  have hwritten : (ss.map String.toList).map written = ss := by
    rw [List.map_map]
    exact (List.map_congr_left fun s hs => (hss s hs).written_eq).trans (List.map_id' ss)
  rw [hopens.path_of_segments hrest (by simpa using hne) haddress hend hv, hstack, hwritten,
    List.reverse_nil, List.nil_append]

/-! ### Endpoints at an origin -/

/-- The endpoint that is an origin, segments, and slashes at its end. -/
def endpointAt (origin : String) (ss : List String) (n : Nat) : String :=
  origin ++ (Url.Path.segments ss).text ++ String.ofList (List.replicate n '/')

/-- An endpoint is an origin, segments and slashes. -/
theorem toList_endpointAt (origin : String) (ss : List String) (n : Nat) :
    (endpointAt origin ss n).toList =
      origin.toList ++ (ss.map String.toList).flatMap ('/' :: ·) ++ List.replicate n '/' := by
  rw [endpointAt, String.toList_append, String.toList_append, String.toList_ofList, Url.Path.text,
    Url.toList_join]

/-- Slashes behind something else are trimmed. -/
theorem trimSlashes_append {p : List Char} (hp : ∀ ch, p.getLast? = some ch → ch ≠ '/') (n : Nat) :
    trimSlashes (String.ofList (p ++ List.replicate n '/')) = String.ofList p := by
  have hdrop : p.reverse.dropWhile (· = '/') = p.reverse := by
    rw [List.dropWhile_eq_self_iff]
    intro hlength
    have hhead := hp (p.reverse[0]) (by
      rw [← List.head?_reverse, List.head?_eq_getElem?, List.getElem?_eq_getElem hlength])
    simpa using hhead
  rw [← String.toList_inj, toList_trimSlashes, String.toList_ofList, String.toList_ofList,
    List.reverse_append, List.reverse_replicate, List.dropWhile_append_of_pos, hdrop,
    List.reverse_reverse]
  intro ch hch
  simp [List.eq_of_mem_replicate hch]

section

variable {origin : String} {ss : List String}

/-- The slashes at the end of such an endpoint are those after the last segment. -/
theorem trimSlashes_endpointAt (horigin : IsOrigin origin) (hss : ∀ s ∈ ss, IsPathSegment s)
    (n : Nat) : trimSlashes (endpointAt origin ss n) = origin ++ (Url.Path.segments ss).text := by
  have hslash : ∀ ch, Url.SchemeKind.special.isSlash ch = false → ch ≠ '/' := by
    rintro ch hch rfl
    cases hch
  have hlast : ∀ ch, (origin.toList ++ (ss.map String.toList).flatMap ('/' :: ·)).getLast? =
      some ch → ch ≠ '/' := by
    intro ch hch
    rcases List.eq_nil_or_concat ss with rfl | ⟨init, last, rfl⟩
    · rw [List.map_nil, List.flatMap_nil, List.append_nil] at hch
      exact hslash ch (horigin.ending ch hch).1
    · have hseg := hss last (by simp)
      have hne : last.toList ≠ [] := by simpa using hseg.ne_empty
      have hsplit : origin.toList ++ ((init.concat last).map String.toList).flatMap ('/' :: ·) =
          origin.toList ++ (init.map String.toList).flatMap ('/' :: ·) ++ ['/'] ++ last.toList := by
        simp
      rw [hsplit, List.getLast?_append_of_ne_nil _ hne] at hch
      exact hslash ch (hseg.isAddressSegment.no_slash ch (List.mem_of_getLast? hch))
  have htext : endpointAt origin ss n = String.ofList
      (origin.toList ++ (ss.map String.toList).flatMap ('/' :: ·) ++ List.replicate n '/') := by
    rw [← toList_endpointAt, String.ofList_toList]
  rw [htext, trimSlashes_append hlast, ← String.toList_inj, String.toList_ofList,
    String.toList_append, Url.Path.text, Url.toList_join]

/-- **A client is made for every such endpoint.** -/
theorem create_endpointAt (horigin : IsOrigin origin) (hss : ∀ s ∈ ss, IsPathSegment s) (n : Nat)
    {projectId : String} (hproject : projectId ≠ "") :
    Client.create ⟨projectId, some (endpointAt origin ss n)⟩ =
      .ok ⟨projectId, none, origin ++ (Url.Path.segments ss).text,
        origin ++ (Url.Path.segments ss).text⟩ := by
  have hparse : ∃ u, Url.parse (endpointAt origin ss n) = .ok u := by
    obtain ⟨authority, rest, a, hopens, -, -, hauth⟩ := horigin.exists_opens
    have htext : endpointAt origin ss n = String.ofList (origin.toList ++
        ((ss.map String.toList).flatMap ('/' :: ·) ++ List.replicate n '/')) := by
      rw [← List.append_assoc, ← toList_endpointAt, String.ofList_toList]
    have hslashed : ∀ q, ∃ u, Url.parse (String.ofList (origin.toList ++ '/' :: q)) = .ok u := by
      intro q
      rw [hopens.parse, hauth]
      exact ⟨_, rfl⟩
    rw [htext]
    cases ss with
    | cons s ss => exact hslashed _
    | nil =>
        cases n with
        | succ n => exact hslashed _
        | zero =>
            obtain ⟨u, hu, -⟩ := horigin.parses
            refine ⟨u, ?_⟩
            rw [List.map_nil, List.flatMap_nil, List.replicate_zero, List.append_nil,
              List.append_nil, String.ofList_toList, hu]
  obtain ⟨u, hu⟩ := hparse
  rw [Client.create, if_neg hproject]
  simp only [hu, trimSlashes_endpointAt horigin hss n]

end

/-- **Only the last tenant of a chain counts.** -/
theorem foldlM_forTenant {tenants : List String} (h : ∀ t ∈ tenants, t ≠ "") (c : Client) :
    tenants.foldlM Client.forTenant c =
      .ok { c with tenantId := tenants.getLast?.or c.tenantId } := by
  induction tenants generalizing c with
  | nil => rfl
  | cons t tenants ih =>
      have ht : c.forTenant t = .ok { c with tenantId := some t } :=
        if_neg (h t List.mem_cons_self)
      rw [List.foldlM_cons, ht]
      refine (ih (fun s hs => h s (List.mem_cons_of_mem _ hs)) _).trans ?_
      rw [List.getLast?_cons]
      cases tenants.getLast? <;> rfl

end AccountWire.Admin
