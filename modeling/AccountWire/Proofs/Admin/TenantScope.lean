import AccountWire.Proofs.Provider.ConfigId
import Mathlib.Data.List.Basic

/-!
# What a tenant's client addresses

The resources of a tenant lie below a path segment that stands for the tenant's id.  The id is put
into the address as it is, so what the parser makes of it decides where the requests go.

`ScopedTo` says that a request stays below its tenant.  `tenant_requests_scoped_iff` says for which
tenants all requests of a client do.
-/

namespace AccountWire.Admin

open Http (Request)
open Url (Above EndsWell IsAddressSegment IsPlainSegment Opens endsPath isBlank isQuiet shown
  stackOf trimEnd written)

/-- A request below a tenant: its path is the endpoint's path, the project, the one segment that
stands for the tenant's id (and the verb of the operation if it has one), and the operation's own
resource. -/
def ScopedTo (endpoint projectId tenantId : String) (op : Operation) (req : Request) : Prop :=
  ∃ ss segment, EndpointPath endpoint ss ∧
    req.url.path =
      .segments (ss ++ ["projects", projectId, "tenants", segment] ++ op.segments) ∧
    Percent.decode (Utf8.ofString segment) = Utf8.ofString (tenantId ++ op.verb)

/-- A tenant id that the parser leaves as it is: it is no dot segment, has none of the characters
that cut an address or do not count in it, and nothing in it is an escape. -/
def IsTenantSegment (tenantId : String) : Prop :=
  IsPlainSegment tenantId.toList ∧
    (∀ ch ∈ tenantId.toList, Url.SchemeKind.special.isSlash ch = false ∧ isQuiet ch = true) ∧
    Percent.decode (Utf8.ofString tenantId) = Utf8.ofString tenantId

instance (tenantId : String) : Decidable (IsTenantSegment tenantId) :=
  haveI := List.decidableBAll
    (fun ch => Url.SchemeKind.special.isSlash ch = false ∧ isQuiet ch = true) tenantId.toList
  inferInstanceAs (Decidable (_ ∧ _ ∧ _))

/-! ### Words -/

/-- An ASCII letter or digit, a hyphen or a low line. -/
def isNameChar (ch : Char) : Bool := Url.isLetter ch || Url.isDigit ch || ch = '-' || ch = '_'

/-- A character of a name, a dot or a colon. -/
def isWordChar (ch : Char) : Bool := isNameChar ch || ch = '.' || ch = ':'

/-- A segment of word characters. -/
structure IsWord (cs : List Char) : Prop where
  ne_nil : cs ≠ []
  plain : IsPlainSegment cs
  chars : ∀ ch ∈ cs, isWordChar ch = true

/-- The characters of words are in the first half. -/
theorem isWordChar_ascii {ch : Char} (h : isWordChar ch = true) : ch.toNat < 0x80 := by
  have hle : ∀ d : Char, ch ≤ d → d.toNat < 0x80 → ch.toNat < 0x80 := by
    intro d hd hascii
    exact Nat.lt_of_le_of_lt (UInt32.le_iff_toNat_le.mp hd) hascii
  simp only [isWordChar, isNameChar, Url.isLetter, Url.isDigit, Bool.or_eq_true,
    Bool.and_eq_true, decide_eq_true_eq] at h
  rcases h with ((((h | h) | rfl) | rfl) | rfl) | rfl
  · rcases h with h | h
    · exact hle _ h.2 (by decide)
    · exact hle _ h.2 (by decide)
  · exact hle _ h.2 (by decide)
  all_goals decide

/-- Nothing happens to a word character, wherever it stands. -/
theorem isWordChar_spec {ch : Char} (h : isWordChar ch = true) :
    isBlank ch = false ∧ isQuiet ch = true ∧ Url.SchemeKind.special.isSlash ch = false ∧
      ch ≠ '%' ∧ Percent.pathSet.escapes ch = false := by
  have hall : ∀ n, n < 0x80 → isWordChar (Char.ofNat n) = true →
      isBlank (Char.ofNat n) = false ∧ isQuiet (Char.ofNat n) = true ∧
        Url.SchemeKind.special.isSlash (Char.ofNat n) = false ∧ Char.ofNat n ≠ '%' ∧
        Percent.pathSet.escapes (Char.ofNat n) = false := by decide
  have := hall ch.toNat (isWordChar_ascii h)
  rw [Char.ofNat_toNat] at this
  exact this h

namespace IsWord

variable {cs : List Char}

theorem isAddressSegment (h : IsWord cs) : IsAddressSegment cs where
  plain := h.plain
  no_slash := fun ch hch => (isWordChar_spec (h.chars ch hch)).2.2.1
  quiet := fun ch hch => (isWordChar_spec (h.chars ch hch)).2.1

theorem endsWell (h : IsWord cs) : EndsWell cs :=
  fun ch hch => (isWordChar_spec (h.chars ch (List.mem_of_getLast? hch))).1

/-- A word is written as it is. -/
theorem written_eq (h : IsWord cs) : written cs = String.ofList cs := by
  have hencode : Percent.encode Percent.pathSet cs = cs := by
    have hchar : ∀ ch ∈ cs, Percent.encodeChar Percent.pathSet ch = [ch] := by
      intro ch hch
      have hword := h.chars ch hch
      simp [Percent.encodeChar, isWordChar_ascii hword, (isWordChar_spec hword).2.2.2.2]
    rw [Percent.encode, List.flatMap_congr hchar]
    simp
  rw [written, hencode]

theorem no_sign (h : IsWord cs) : '%' ∉ cs :=
  fun hmem => (isWordChar_spec (h.chars _ hmem)).2.2.2.1 rfl

/-- A word can be the id of a tenant that stays in its segment. -/
theorem isTenantSegment {s : String} (h : IsWord s.toList) : IsTenantSegment s := by
  refine ⟨h.plain, ?_, ?_⟩
  · intro ch hch
    have := isWordChar_spec (h.chars ch hch)
    exact ⟨this.2.2.1, this.2.1⟩
  · exact Percent.decode_of_no_sign (Percent.no_sign_encode h.no_sign)

/-- A name is a word. -/
theorem of_name {s : String} (hne : s ≠ "") (h : ∀ ch ∈ s.toList, isNameChar ch = true) :
    IsWord s.toList := by
  have hchars : ∀ ch ∈ s.toList, isWordChar ch = true := by
    intro ch hch
    simp [isWordChar, h ch hch]
  refine ⟨by simpa using hne, ?_, hchars⟩
  cases hs : s.toList with
  | nil => exact Url.isPlainSegment_nil
  | cons ch r =>
      have hname := h ch (by simp [hs])
      refine Url.isPlainSegment_of_head ?_ ?_ <;>
        · rintro rfl
          exact absurd hname (by decide)

end IsWord

theorem written_toList {s : String} (h : IsWord s.toList) : written s.toList = s := by
  rw [h.written_eq, String.ofList_toList]

/-! ### Segments of operations -/

/-- An operation whose configuration, if it has one, has an id of letters, digits, dots, hyphens and
low lines. -/
def Operation.HasWordId (op : Operation) : Prop :=
  ∀ kind id, op.config? = some (kind, id) → ∀ ch ∈ id.toList, isNameChar ch = true ∨ ch = '.'

instance (cs : List Char) : Decidable (IsWord cs) :=
  decidable_of_iff (cs ≠ [] ∧ IsPlainSegment cs ∧ cs.all isWordChar = true)
    ⟨fun h => ⟨h.1, h.2.1, List.all_eq_true.mp h.2.2⟩,
      fun h => ⟨h.ne_nil, h.plain, List.all_eq_true.mpr h.chars⟩⟩

theorem isWord_projects : IsWord "projects".toList := by decide

theorem isWord_tenants : IsWord "tenants".toList := by decide

theorem isWord_sessionVerb : IsWord ":createSessionCookie".toList := by decide

/-- The segments of an operation's own resource are words. -/
theorem segments_isWord {c : Client} {op : Operation} (hid : op.HasWordId)
    (haccepted : ¬ Refused (op.request c)) : ∀ s ∈ op.segments, IsWord s.toList := by
  have hconfig : ∀ kind id, op.config? = some (kind, id) →
      ∀ s ∈ op.segments, IsWord s.toList := by
    intro kind id hop s hs
    rw [(Operation.resource_of_config? hop).1] at hs
    simp only [List.mem_cons, List.not_mem_nil, or_false] at hs
    rcases hs with rfl | rfl
    · cases kind <;> decide
    · obtain ⟨ch, r, hcons, hch⟩ := (Provider.acceptedId_of_not_refused hop haccepted).head
      refine ⟨by simp [hcons], ?_, ?_⟩
      · rw [hcons]
        rcases hch with rfl | rfl <;> exact Url.isPlainSegment_of_head (by decide) (by decide)
      · intro d hd
        rcases hid kind s hop d hd with h | rfl
        · simp [isWordChar, h]
        · rfl
  cases hop : op.config? with
  | some q => exact hconfig q.1 q.2 hop
  | none => cases op <;> first | (simp only [Operation.segments]; decide) | cases hop

/-- The segments of an operation's address below the endpoint of its client. -/
def addressSegments (projectId tenantId : String) (op : Operation) : List String :=
  ["projects", projectId, "tenants", tenantId ++ op.verb] ++ op.segments

/-- The address of a tenant's operation is its endpoint and segments. -/
theorem address_eq_segments {c : Client} {tenantId : String} (ht : c.tenantId = some tenantId)
    (op : Operation) :
    op.address c = String.ofList ((c.endpoint op.service).toList ++
      ((addressSegments c.projectId tenantId op).map String.toList).flatMap ('/' :: ·)) := by
  have hbase : ∀ endpoint, c.base endpoint ++ op.verb =
      endpoint ++ String.join (["projects", c.projectId, "tenants", tenantId ++ op.verb].map
        ("/" ++ ·)) := by
    intro endpoint
    have hprojects : "/projects/" = "/" ++ "projects" ++ "/" := rfl
    have htenants : "/tenants/" = "/" ++ "tenants" ++ "/" := rfl
    simp only [Client.base, ht, Option.elim_some, hprojects, htenants, String.join, List.map_cons,
      List.map_nil, List.foldl_cons, List.foldl_nil, String.empty_append, String.append_assoc]
  rw [← String.toList_inj, String.toList_ofList, Operation.address, Operation.resource,
    ← String.append_assoc, hbase, String.toList_append, String.toList_append, Url.toList_join,
    Url.toList_join, addressSegments, List.map_append, List.flatMap_append, List.append_assoc]

/-! ### The tenant's segment -/

/-- The one verb is that of session cookies. -/
theorem verb_cases (op : Operation) : op.verb = "" ∨ op.verb = ":createSessionCookie" := by
  cases op <;> first | exact Or.inl rfl | exact Or.inr rfl

/-- The decoded verb is the verb, and it is no part of an escape. -/
theorem decode_tenant_verb {tenantId : String}
    (h : Percent.decode (Utf8.ofString tenantId) = Utf8.ofString tenantId) (op : Operation) :
    Percent.decode (Utf8.ofString (tenantId ++ op.verb)) = Utf8.ofString (tenantId ++ op.verb) := by
  rcases verb_cases op with hverb | hverb
  · rw [hverb, String.append_empty]
    exact h
  · have hoctets : Utf8.ofString ":createSessionCookie" =
        0x3A :: Utf8.ofString "createSessionCookie" := by decide
    have hplain : Percent.decode (Utf8.ofString "createSessionCookie") =
        Utf8.ofString "createSessionCookie" := by decide
    have hsplit : Utf8.ofString (tenantId ++ op.verb) =
        Utf8.ofString tenantId ++ 0x3A :: Utf8.ofString "createSessionCookie" := by
      rw [hverb, ← hoctets]
      unfold Utf8.ofString
      rw [String.toList_append, Utf8.encode_append]
    rw [hsplit, Percent.decode_append (by decide) (by decide), h, hplain]

/-- A tenant's segment stays one with the verb of an operation. -/
theorem IsTenantSegment.isAddressSegment {tenantId : String} (h : IsTenantSegment tenantId)
    (op : Operation) : IsAddressSegment (tenantId ++ op.verb).toList := by
  obtain ⟨hplain, hchars, -⟩ := h
  rcases verb_cases op with hverb | hverb
  · rw [hverb, String.append_empty]
    exact ⟨hplain, fun ch hch => (hchars ch hch).1, fun ch hch => (hchars ch hch).2⟩
  · have hword := isWord_sessionVerb
    rw [hverb, String.toList_append]
    refine ⟨?_, ?_, ?_⟩
    · exact Url.isPlainSegment_of_mem (List.mem_append_right _ (by decide)) (by decide : ':' ∉ _)
    · intro ch hch
      rcases List.mem_append.mp hch with hch | hch
      · exact (hchars ch hch).1
      · exact hword.isAddressSegment.no_slash ch hch
    · intro ch hch
      rcases List.mem_append.mp hch with hch | hch
      · exact (hchars ch hch).2
      · exact hword.isAddressSegment.quiet ch hch

section

variable {c : Client} {endpoint tenantId : String} {op : Operation} {req : Request}
  {scheme : String} {authority rest : List Char}

/-- An operation without segments of its own ends in its verb. -/
theorem endsWell_append_verb (h : op.segments = []) (s : String) :
    EndsWell (s ++ op.verb).toList ∧ (s ++ op.verb).toList ≠ [] := by
  have hverb : op.verb = ":createSessionCookie" := by
    cases op <;> first | (cases h; done) | rfl
  rw [hverb, String.toList_append]
  exact ⟨isWord_sessionVerb.endsWell.append isWord_sessionVerb.ne_nil _,
    List.append_ne_nil_of_right_ne_nil _ isWord_sessionVerb.ne_nil⟩

/-- An address ends in a word. -/
theorem addressSegments_endsWell (hsegments : ∀ s ∈ op.segments, IsWord s.toList) :
    EndsWell (((addressSegments c.projectId tenantId op).map String.toList).flatMap
      ('/' :: ·)) := by
  have hlast : ∀ (init : List String) (last : String), EndsWell last.toList → last.toList ≠ [] →
      EndsWell (((init ++ [last]).map String.toList).flatMap ('/' :: ·)) := by
    intro init last hend hne
    rw [List.map_append]
    exact Url.endsWell_flatMap hend hne _
  rcases List.eq_nil_or_concat op.segments with hnil | ⟨init, last, hconcat⟩
  · have hsplit : addressSegments c.projectId tenantId op =
        ["projects", c.projectId, "tenants"] ++ [tenantId ++ op.verb] := by
      rw [addressSegments, hnil, List.append_nil]
      rfl
    rw [hsplit]
    exact hlast _ _ (endsWell_append_verb hnil tenantId).1 (endsWell_append_verb hnil tenantId).2
  · have hword := hsegments last (by rw [hconcat]; simp)
    rw [addressSegments, hconcat, List.concat_eq_append, ← List.append_assoc]
    exact hlast _ _ hword.endsWell hword.ne_nil

/-- **The condition is enough.** -/
theorem scopedTo_of_isTenantSegment (ht : c.tenantId = some tenantId)
    (hproject : IsWord c.projectId.toList) (hid : op.HasWordId)
    (hopens : Opens (c.endpoint op.service).toList scheme authority rest)
    (hrest : ∀ ch ∈ rest, endsPath ch = false) {ss : List String}
    (hss : ss = (stackOf rest).reverse) (hpath : EndpointPath endpoint ss)
    (htenant : IsTenantSegment tenantId) (hreq : op.request c = .ok req) :
    ScopedTo endpoint c.projectId tenantId op req := by
  obtain ⟨u, hu, hreqPath⟩ := (Operation.request_plannedAt c op).path_of_ok hreq
  have haccepted : ¬ Refused (op.request c) := by
    rintro ⟨reason, h⟩
    rw [hreq] at h
    cases h
  have hwords := segments_isWord hid haccepted
  have hprojects := isWord_projects
  have htenants := isWord_tenants
  rw [address_eq_segments ht] at hu
  have hall : ∀ s ∈ (addressSegments c.projectId tenantId op).map String.toList,
      IsAddressSegment s := by
    intro s hs
    obtain ⟨x, hx, rfl⟩ := List.mem_map.mp hs
    rcases List.mem_append.mp hx with hx | hx
    · simp only [List.mem_cons, List.not_mem_nil, or_false] at hx
      rcases hx with rfl | rfl | rfl | rfl
      · exact hprojects.isAddressSegment
      · exact hproject.isAddressSegment
      · exact htenants.isAddressSegment
      · exact htenant.isAddressSegment op
    · exact (hwords x hx).isAddressSegment
  have hupath := hopens.path_of_segments hrest (by simp [addressSegments]) hall
    (addressSegments_endsWell hwords) hu
  refine ⟨ss, written (tenantId ++ op.verb).toList, hpath, ?_, ?_⟩
  · have hmap : op.segments.map (fun s => written s.toList) = op.segments := by
      rw [List.map_congr_left fun s hs => written_toList (hwords s hs), List.map_id']
    rw [hreqPath, hupath, ← hss, List.map_map, addressSegments, List.map_append]
    simp only [List.map_cons, List.map_nil, Function.comp_apply, written_toList hprojects,
      written_toList hproject, written_toList htenants]
    rw [show (written ∘ String.toList) = fun s => written s.toList from rfl, hmap,
      List.append_assoc]
  · rw [Utf8.ofString, written, String.toList_ofList,
      Percent.decode_encode Percent.pathSet_sparesEscapes]
    exact decode_tenant_verb htenant.2.2 op

/-- What is shown of a tenant's id and a word after it: pieces of the id, and the word. -/
theorem piece_of_tenant {t word piece : List Char} (hword : IsWord word)
    (hpiece : piece ∈ Split.pieces Url.SchemeKind.special.isSlash (shown (t ++ '/' :: word))) :
    piece.Sublist t ∨ piece = word := by
  by_cases hmark : ∃ ch ∈ t, endsPath ch = true
  · left
    rw [Url.shown_append_of_endsPath hmark (Url.trimEnd_cons_ne_nil (by decide) word)] at hpiece
    exact ((Split.sublist_of_mem_pieces hpiece).trans (List.takeWhile_sublist _)).trans
      List.filter_sublist
  · have hplain : ∀ ch ∈ t, endsPath ch = false := by simpa using hmark
    have hquiet : ∀ ch ∈ '/' :: word, isQuiet ch = true := by
      intro ch hch
      rcases List.mem_cons.mp hch with rfl | hch
      · rfl
      · exact hword.isAddressSegment.quiet ch hch
    have hend : EndsWell ('/' :: word) := hword.endsWell.append hword.ne_nil ['/']
    have hshown : shown (t ++ '/' :: word) = t.filter Url.isKept ++ '/' :: word := by
      rw [Url.shown_append hplain (Url.trimEnd_cons_ne_nil (by decide) word),
        Url.shown_of_forall hend hquiet]
    rw [hshown, Split.pieces_append Url.isSlash_slash,
      Split.pieces_of_forall hword.isAddressSegment.no_slash, List.mem_append,
      List.mem_singleton] at hpiece
    rcases hpiece with hpiece | hpiece
    · exact Or.inl ((Split.sublist_of_mem_pieces hpiece).trans List.filter_sublist)
    · exact Or.inr hpiece

/-- The path of an address with one word after the tenant's id: three words, and then the pieces of
what is shown of the id and the word. -/
theorem pushed_of_address (ht : c.tenantId = some tenantId) (hproject : IsWord c.projectId.toList)
    {word : String} (hverb : op.verb = "") (hsegments : op.segments = [word])
    (hopens : Opens (c.endpoint op.service).toList scheme authority rest)
    (hrest : ∀ ch ∈ rest, endsPath ch = false) {u : Url} (hu : Url.parse (op.address c) = .ok u) :
    u.path = .segments (Url.addSegments .special
      ("tenants" :: c.projectId :: "projects" :: stackOf rest)
      (Split.pieces Url.SchemeKind.special.isSlash
        (shown (tenantId.toList ++ '/' :: word.toList)))).reverse := by
  have hprojects := isWord_projects
  have htenants := isWord_tenants
  have hwords : ∀ s ∈ ["projects".toList, c.projectId.toList, "tenants".toList], IsWord s := by
    simp only [List.mem_cons, List.not_mem_nil, or_false]
    rintro s (rfl | rfl | rfl)
    · exact hprojects
    · exact hproject
    · exact htenants
  have hend : trimEnd (tenantId.toList ++ '/' :: word.toList) ≠ [] := by
    rw [Url.trimEnd_append (Url.trimEnd_cons_ne_nil (by decide) _)]
    exact List.append_ne_nil_of_right_ne_nil _ (Url.trimEnd_cons_ne_nil (by decide) _)
  have htext : ((addressSegments c.projectId tenantId op).map String.toList).flatMap ('/' :: ·) =
      ["projects".toList, c.projectId.toList, "tenants".toList].flatMap ('/' :: ·) ++
        '/' :: (tenantId.toList ++ '/' :: word.toList) := by
    rw [addressSegments, hverb, hsegments, String.append_empty]
    simp
  rw [address_eq_segments ht, htext, ← List.append_assoc] at hu
  have hstack : (["projects".toList, c.projectId.toList, "tenants".toList].map written).reverse =
      ["tenants", c.projectId, "projects"] := by
    rw [List.map_cons, List.map_cons, List.map_cons, List.map_nil, written_toList hprojects,
      written_toList hproject, written_toList htenants]
    rfl
  rw [hopens.path_after_segments hrest (fun s hs => (hwords s hs).isAddressSegment)
    hend hu, hstack]
  rfl

/-- **The condition is needed**, for one request with a plain resource is enough to tell. -/
theorem isTenantSegment_of_scopedTo (ht : c.tenantId = some tenantId) (hne : tenantId ≠ "")
    (hproject : IsWord c.projectId.toList) {word : String} (hword : IsWord word.toList)
    (hverb : op.verb = "") (hsegments : op.segments = [word])
    (hopens : Opens (c.endpoint op.service).toList scheme authority rest)
    (hrest : ∀ ch ∈ rest, endsPath ch = false)
    (hss : ∀ {ss}, EndpointPath endpoint ss → ss = (stackOf rest).reverse)
    (hreq : op.request c = .ok req) (h : ScopedTo endpoint c.projectId tenantId op req) :
    IsTenantSegment tenantId := by
  obtain ⟨ss, segment, hendpoint, hpath, hdecode⟩ := h
  obtain ⟨u, hu, hreqPath⟩ := (Operation.request_plannedAt c op).path_of_ok hreq
  have hbottom := hss hendpoint
  -- what the parser makes of the address: three words, and then the pieces of the tenant's id
  have hpushed : u.path = .segments (Url.addSegments .special
      ("tenants" :: c.projectId :: "projects" :: stackOf rest)
      (Split.pieces Url.SchemeKind.special.isSlash
        (shown (tenantId.toList ++ '/' :: word.toList)))).reverse :=
    pushed_of_address ht hproject hverb hsegments hopens hrest hu
  have habove : Above (ss.length + 3) (fun x => x = "" ∨ ∃ piece ∈
      Split.pieces Url.SchemeKind.special.isSlash (shown (tenantId.toList ++ '/' :: word.toList)),
      IsPlainSegment piece ∧ x = written piece) (Url.addSegments .special
        ("tenants" :: c.projectId :: "projects" :: stackOf rest)
        (Split.pieces Url.SchemeKind.special.isSlash
          (shown (tenantId.toList ++ '/' :: word.toList)))) := by
    refine Above.addSegments (.of_length_le ?_) (Or.inl rfl) ?_
    · simp [hbottom]
    · intro piece hpiece hplain
      exact Or.inr ⟨piece, hpiece, hplain, rfl⟩
  have hlists := hreqPath.symm.trans hpath
  rw [hpushed, Url.Path.segments.injEq, hsegments] at hlists
  rw [show ss ++ ["projects", c.projectId, "tenants", segment] ++ [word] =
    (ss ++ ["projects", c.projectId, "tenants"]) ++ segment :: [word] by simp] at hlists
  have hsegment := habove.of_reverse hlists (by simp)
  rw [hverb, String.append_empty] at hdecode
  rcases hsegment with hempty | ⟨piece, hpiece, hplain, hwritten⟩
  · have hnil : Percent.decode (Utf8.ofString "") = Utf8.ofString "" := by decide
    rw [hempty, hnil] at hdecode
    exact absurd (Utf8.ofString_injective hdecode).symm hne
  · have hpieceDecode : Percent.decode (Utf8.encode piece) = Utf8.encode tenantId.toList := by
      rw [hwritten, Utf8.ofString, written, String.toList_ofList,
        Percent.decode_encode Percent.pathSet_sparesEscapes] at hdecode
      exact hdecode
    rcases piece_of_tenant hword hpiece with hsub | rfl
    · -- a part of the id that stands for all of it is all of it
      have hall : piece = tenantId.toList := by
        apply Utf8.eq_of_sublist_of_length hsub
        rw [← hpieceDecode]
        exact Percent.length_decode_le _
      rw [hall] at hplain hpieceDecode hpiece
      refine ⟨hplain, ?_, hpieceDecode⟩
      intro ch hch
      exact ⟨Split.sep_of_mem_pieces hpiece ch hch,
        Url.isQuiet_of_mem_shown ((Split.sublist_of_mem_pieces hpiece).subset hch)⟩
    · have hword' := hword.isTenantSegment
      have hsame : word = tenantId :=
        Utf8.ofString_injective (hword'.2.2.symm.trans hpieceDecode)
      rw [← hsame]
      exact hword'

end

/-- Each service has an operation that is never refused and asks for one word. -/
theorem exists_page (service : Service) (c : Client) :
    ∃ (op : Operation) (word : String), op.service = service ∧ op.verb = "" ∧
      op.segments = [word] ∧ IsWord word.toList ∧ op.HasWordId ∧ ¬ Refused (op.request c) := by
  cases service with
  | users =>
      refine ⟨.userPage "", "accounts:batchGet", rfl, rfl, rfl, by decide, ?_, ?_⟩
      · intro kind id hop
        cases hop
      · unfold Operation.request User.page
        exact plan_not_refused _ _ _ _ _
  | providers =>
      refine ⟨.oidcPage "", "oauthIdpConfigs", rfl, rfl, rfl, by decide, ?_, ?_⟩
      · intro kind id hop
        cases hop
      · unfold Operation.request Provider.Oidc.page
        exact plan_not_refused _ _ _ _ _

/-- **Where a tenant's client stays with its tenant.**  For a client of an HTTP endpoint and a
project with a plain name, all requests with plain configuration ids are scoped to the tenant if
and only if, where the endpoint continued is a URL, it keeps its path and the tenant's id is a
segment of its own.  Every operation whose arguments are accepted then has a request, and an
endpoint that does not end in a blank keeps its path. -/
theorem tenant_requests_scoped_iff {config : Configuration} {p c : Client} {tenantId : String}
    (hp : ClientOf config p) (hhttp : config.IsHttp)
    (hname : ∀ ch ∈ config.projectId.toList, isNameChar ch = true)
    (ht : p.forTenant tenantId = .ok c) :
    ((∀ (op : Operation) (req : Request), op.HasWordId → op.request c = .ok req →
        ScopedTo (op.service.endpoint config) config.projectId tenantId op req) ↔
      ∀ service : Service, Continues (service.endpoint config) →
        (∃ ss, EndpointPath (service.endpoint config) ss) ∧ IsTenantSegment tenantId) ∧
    (∀ op : Operation, ¬ Refused (op.request c) → Continues (op.service.endpoint config) →
      ∃ req, op.request c = .ok req) ∧
    ∀ service : Service, EndsWell (service.endpoint config).toList →
      ∃ ss, EndpointPath (service.endpoint config) ss := by
  have hc : ClientOf config c := .tenant hp ht
  obtain ⟨hne, hcEq⟩ := forTenant_eq_ok ht
  have htenant : c.tenantId = some tenantId := by rw [hcEq]
  obtain ⟨hprojectEq, hendpoint⟩ := hc.eq_config
  have hproject : IsWord c.projectId.toList := by
    rw [hprojectEq]
    exact .of_name hc.projectId_ne hname
  have hok : ∀ op : Operation, ¬ Refused (op.request c) →
      Continues (op.service.endpoint config) → ∃ req, op.request c = .ok req := by
    intro op haccepted hcontinues
    obtain ⟨scheme, authority, rest, hopens, -⟩ := hc.opens hhttp op.service
    refine Operation.request_of_continues hopens ?_ haccepted
    rw [hendpoint]
    exact hcontinues
  rw [← hprojectEq]
  refine ⟨⟨?_, ?_⟩, hok, ?_⟩
  · intro h service hcontinues
    obtain ⟨op, word, rfl, hverb, hsegments, hword, hid, haccepted⟩ := exists_page service c
    obtain ⟨scheme, authority, rest, hopens, hrest⟩ := hc.opens hhttp op.service
    obtain ⟨req, hreq⟩ := hok op haccepted hcontinues
    have hscoped := h op req hid hreq
    refine ⟨?_, ?_⟩
    · obtain ⟨ss, -, hss, -⟩ := hscoped
      exact ⟨ss, hss⟩
    · have hss : ∀ {ss}, EndpointPath (op.service.endpoint config) ss →
          ss = (stackOf rest).reverse := by
        intro ss hss
        have hopens' := hopens
        rw [hendpoint] at hopens'
        exact hss.eq_stackOf hopens' hrest
      exact isTenantSegment_of_scopedTo htenant hne hproject hword hverb hsegments hopens hrest hss
        hreq hscoped
  · intro h op req hid hreq
    obtain ⟨scheme, authority, rest, hopens, hrest⟩ := hc.opens hhttp op.service
    have hcontinues : Continues (op.service.endpoint config) := by
      have hurl := Operation.continues_of_request hopens hreq
      rw [hendpoint] at hurl
      exact hurl
    obtain ⟨⟨ss, hss⟩, hsegment⟩ := h op.service hcontinues
    have hstack : ss = (stackOf rest).reverse := by
      have hopens' := hopens
      rw [hendpoint] at hopens'
      exact hss.eq_stackOf hopens' hrest
    exact scopedTo_of_isTenantSegment htenant hproject hid hopens hrest hstack hss hsegment hreq
  · intro service hend
    exact exists_endpointPath (hhttp.endpoint service) hend

/-- The look-up for the tenant `t` of the project `p` at `http://h` is scoped to it. -/
theorem plain_tenant_is_scoped : ∃ req : Request,
    (Operation.byUid "u").request { Provider.plainClient with tenantId := some "t" } = .ok req ∧
      ScopedTo "http://h" "p" "t" (.byUid "u") req := by
  have hp : ClientOf ⟨"p", some "http://h"⟩ Provider.plainClient := .project (by decide +kernel)
  have hhttp : Configuration.IsHttp ⟨"p", some "http://h"⟩ := by decide +kernel
  have hname : "p".toList.all isNameChar = true := by decide
  have htenant : Provider.plainClient.forTenant "t" =
      .ok { Provider.plainClient with tenantId := some "t" } := rfl
  have hpath : ∃ ss, EndpointPath "http://h" ss :=
    exists_endpointPath (by decide +kernel) (by decide +kernel)
  obtain ⟨hscoped, hok, -⟩ :=
    tenant_requests_scoped_iff hp hhttp (List.all_eq_true.mp hname) htenant
  have hcondition : ∀ service : Service, Continues (service.endpoint ⟨"p", some "http://h"⟩) →
      (∃ ss, EndpointPath (service.endpoint ⟨"p", some "http://h"⟩) ss) ∧
        IsTenantSegment "t" := by
    intro service _
    cases service <;> exact ⟨hpath, by decide +kernel⟩
  obtain ⟨req, hreq⟩ := hok (.byUid "u") (by decide +kernel) (by decide +kernel)
  refine ⟨req, hreq, hscoped.mpr hcondition (.byUid "u") req ?_ hreq⟩
  intro kind id hop
  cases hop

/-- With dots and slashes in a tenant's id, a look-up goes to a tenant of another project. -/
theorem dotted_tenant_leaves : ∃ (c : Client) (req : Request),
    Provider.plainClient.forTenant "../../q/tenants/t" = .ok c ∧
      (Operation.byUid "u").request c = .ok req ∧
      ¬ ScopedTo "http://h" "p" "../../q/tenants/t" (.byUid "u") req := by
  have hsent : ((Operation.byUid "u").request
      { Provider.plainClient with tenantId := some "../../q/tenants/t" }).toOption.map
        (·.url.path) = some (.segments ["projects", "q", "tenants", "t", "accounts:lookup"]) := by
    decide +kernel
  obtain ⟨req, hreq, hplace⟩ := exists_eq_ok_of_map hsent
  refine ⟨_, req, rfl, hreq, ?_⟩
  rintro ⟨ss, segment, -, hpath, -⟩
  rw [hpath, Url.Path.segments.injEq] at hplace
  have hlength := congrArg List.length hplace
  have hnil : ss = [] := by simpa [Operation.segments] using hlength
  simp [hnil, Operation.segments] at hplace

end AccountWire.Admin
