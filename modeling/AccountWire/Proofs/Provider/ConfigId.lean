import AccountWire.Proofs.Admin.Operation

/-!
# The id of a configuration in the path of its requests

The operations on one configuration put its id at the end of an address.  The check of the id looks
for the characters that end a segment in every URL, but the parser minds more: in an address over
HTTP a backslash is a slash, tabs and line ends do not count, and neither do blanks at the end.

`AddressesConfig` says that a request goes to the one segment below the client's base that stands
for the id.  `config_request_stays_iff` says for which clients and which accepted ids it does.
-/

namespace AccountWire.Provider

open Admin (Client ClientOf Configuration Continues Error Operation ProviderKind Refused Service
  accept)
open Http (Request)
open Url (EndsWell IsAddressSegment Opens endsPath isQuiet shown stackOf trimEnd written)

/-- A request for one configuration: its path is the base of the client, the collection of the kind,
and one more segment, which stands for the id. -/
def AddressesConfig (c : Client) (kind : ProviderKind) (id : String) (r : Except Error Request) :
    Prop :=
  ∃ req base ss segment, r = .ok req ∧
    Url.parse (c.providerUrl "/") = .ok base ∧ base.path = .segments (ss ++ [""]) ∧
    req.url.path = .segments (ss ++ [kind.collection, segment]) ∧
    '/' ∉ segment.toList ∧ Percent.decode (Utf8.ofString segment) = Utf8.ofString id

/-- An id that the parser leaves as it is: it does not end in a blank and has no backslash, tab or
line end. -/
def IsPlainId (id : String) : Prop :=
  EndsWell id.toList ∧ ∀ ch ∈ id.toList, ch ≠ '\\' ∧ ch ≠ '\t' ∧ ch ≠ '\n' ∧ ch ≠ '\r'

/-- A project and a tenant that do not end the path of the addresses below them. -/
def ScopeInPath (c : Client) : Prop :=
  ∀ ch ∈ c.projectId.toList ++ (c.tenantId.getD "").toList, ch ≠ '?' ∧ ch ≠ '#'

instance (id : String) : Decidable (IsPlainId id) :=
  haveI := List.decidableBAll (fun ch => ch ≠ '\\' ∧ ch ≠ '\t' ∧ ch ≠ '\n' ∧ ch ≠ '\r') id.toList
  inferInstanceAs (Decidable (_ ∧ _))

instance (c : Client) : Decidable (ScopeInPath c) := List.decidableBAll _ _

/-! ### Accepted ids -/

/-- An accepted id begins with the letter of its mark and has none of the four characters. -/
structure AcceptedId (id : String) : Prop where
  head : ∃ ch r, id.toList = ch :: r ∧ (ch = 'o' ∨ ch = 's')
  safe : ∀ ch ∈ id.toList, isUnsafeInId ch = false

/-- The check of an id accepts it. -/
theorem acceptedId_of_checkId {kind : ProviderKind} {id : String}
    (h : checkId kind.mark id = .ok ()) : AcceptedId id := by
  unfold checkId at h
  split at h
  · cases h
  · next hmark =>
    split at h
    · cases h
    · next hsafe =>
      rw [not_or] at hmark
      have hprefix : kind.mark.toList <+: id.toList := by simpa using hmark.1
      refine ⟨?_, ?_⟩
      · obtain ⟨r, hr⟩ := hprefix
        cases kind with
        | oidc => exact ⟨'o', _, hr.symm, Or.inl rfl⟩
        | saml => exact ⟨'s', _, hr.symm, Or.inr rfl⟩
      · intro ch hch
        rw [Bool.not_eq_true, List.any_eq_false] at hsafe
        simpa using hsafe ch hch

/-- An operation on a configuration that is not refused has an accepted id. -/
theorem acceptedId_of_not_refused {c : Client} {op : Operation} {kind : ProviderKind} {id : String}
    (hop : op.config? = some (kind, id)) (h : ¬ Refused (op.request c)) : AcceptedId id := by
  have haccept : ∀ {α : Type} {k : ProviderKind} {next : Unit → Except Error (Admin.Exchange α)},
      ¬ Refused ((accept (checkId k.mark id) >>= next).map (·.request)) → AcceptedId id := by
    intro α k next hnot
    cases hcheck : checkId k.mark id with
    | error reason => exact absurd ⟨reason, by rw [hcheck]; rfl⟩ hnot
    | ok u => exact acceptedId_of_checkId hcheck
  cases op with
  | getOidc id' => cases hop; exact haccept (k := .oidc) h
  | updateOidc id' change => cases hop; exact haccept (k := .oidc) h
  | deleteOidc id' => cases hop; exact haccept (k := .oidc) h
  | getSaml id' => cases hop; exact haccept (k := .saml) h
  | updateSaml id' change => cases hop; exact haccept (k := .saml) h
  | deleteSaml id' => cases hop; exact haccept (k := .saml) h
  | _ => cases hop

namespace AcceptedId

variable {id : String}

/-- An accepted id has no slash, no mark that ends a path and no percent sign. -/
theorem ne_of_mem (h : AcceptedId id) {ch : Char} (hch : ch ∈ id.toList) :
    ch ≠ '/' ∧ ch ≠ '?' ∧ ch ≠ '#' ∧ ch ≠ '%' := by
  have := h.safe ch hch
  simpa [isUnsafeInId, and_assoc] using this

/-- An accepted id is more than blanks. -/
theorem trimEnd_ne_nil (h : AcceptedId id) : trimEnd id.toList ≠ [] := by
  obtain ⟨ch, r, hid, hch⟩ := h.head
  rw [hid]
  refine Url.trimEnd_cons_ne_nil ?_ r
  rcases hch with rfl | rfl <;> decide

theorem not_percent (h : AcceptedId id) : '%' ∉ id.toList :=
  fun hmem => (h.ne_of_mem hmem).2.2.2 rfl

/-- A plain id is one segment of an address. -/
theorem isAddressSegment (h : AcceptedId id) (hplain : IsPlainId id) :
    IsAddressSegment id.toList := by
  refine ⟨?_, ?_, ?_⟩
  · obtain ⟨ch, r, hid, hch⟩ := h.head
    rw [hid]
    rcases hch with rfl | rfl <;> exact Url.isPlainSegment_of_head (by decide) (by decide)
  · intro ch hch
    obtain ⟨hslash, -⟩ := h.ne_of_mem hch
    simp [Url.SchemeKind.isSlash, hslash, (hplain.2 ch hch).1]
  · intro ch hch
    obtain ⟨-, hquery, hfragment, -⟩ := h.ne_of_mem hch
    obtain ⟨-, htab, hline, hreturn⟩ := hplain.2 ch hch
    simp [isQuiet, Url.isKept, endsPath, hquery, hfragment, htab, hline, hreturn]

end AcceptedId

/-! ### The path of a request -/

/-- The parser leaves the segment of a collection alone. -/
theorem collection_isAddressSegment (kind : ProviderKind) :
    IsAddressSegment kind.collection.toList ∧ written kind.collection.toList = kind.collection := by
  cases kind <;> decide

/-- An escape has no slash, and neither does a segment of a text without slashes. -/
theorem slash_not_mem_written {cs : List Char} (h : '/' ∉ cs) : '/' ∉ (written cs).toList := by
  intro hmem
  rw [written, String.toList_ofList] at hmem
  rcases Percent.mem_encode hmem with ⟨hcs, -⟩ | hescape
  · exact h hcs
  · exact absurd hescape (by decide)

/-- A segment without percent signs is decoded to what was written. -/
theorem decode_written {cs : List Char} (h : '%' ∉ cs) :
    Percent.decode (Utf8.ofString (written cs)) = Utf8.encode cs := by
  rw [Utf8.ofString, written, String.toList_ofList,
    Percent.decode_encode_of_no_sign Percent.pathSet_sparesEscapes h]

/-- The scope of a client stays in the path of an address if project and tenant do. -/
theorem scopeInPath_iff (c : Client) :
    ScopeInPath c ↔ ∀ ch ∈ c.scope, endsPath ch = false := by
  have hmark : ∀ ch, endsPath ch = false ↔ ch ≠ '?' ∧ ch ≠ '#' := by
    intro ch
    simp [endsPath]
  have hwords : (∀ ch ∈ "projects/".toList, endsPath ch = false) ∧
      ∀ ch ∈ "/tenants/".toList, endsPath ch = false := by simp [endsPath]
  have htenant : (∀ ch ∈ (c.tenantId.elim "" ("/tenants/" ++ ·)).toList, endsPath ch = false) ↔
      ∀ ch ∈ (c.tenantId.getD "").toList, endsPath ch = false := by
    cases c.tenantId with
    | none => exact Iff.rfl
    | some t =>
        rw [Option.elim_some, Option.getD_some, String.toList_append, List.forall_mem_append]
        exact and_iff_right hwords.2
  unfold ScopeInPath Client.scope
  rw [List.forall_mem_append, List.forall_mem_append, List.forall_mem_append, htenant]
  simp only [← hmark]
  exact ⟨fun h => ⟨⟨hwords.1, h.1⟩, h.2⟩, fun h => ⟨h.1.2, h.2⟩⟩

variable {c : Client} {kind : ProviderKind} {id : String}

/-- The base of a client's provider resources as text. -/
def baseText (c : Client) : List Char := c.providerEndpoint.toList ++ '/' :: c.scope

/-- The address of a configuration ends in the collection and the id. -/
theorem address_eq {op : Operation} (hop : op.config? = some (kind, id)) :
    op.address c =
      String.ofList (baseText c ++ [kind.collection.toList, id.toList].flatMap ('/' :: ·)) := by
  have hservice : c.endpoint op.service = c.providerEndpoint := by
    cases op <;> cases hop <;> rfl
  have hslash : "/".toList = ['/'] := rfl
  rw [← String.toList_inj, String.toList_ofList, Operation.address, hservice,
    (Operation.resource_of_config? hop).2, String.toList_append, Client.toList_base,
    String.toList_append, String.toList_append, String.toList_append]
  unfold baseText
  generalize c.scope = scope
  generalize kind.collection.toList = collection
  simp [hslash]

/-- The base of a client is its endpoint and its scope, and a slash. -/
theorem providerUrl_eq (c : Client) :
    c.providerUrl "/" = String.ofList (baseText c ++ '/' :: []) := by
  rw [← String.toList_inj, String.toList_ofList, Client.providerUrl, String.toList_append,
    Client.toList_base]
  rfl

section

variable {scheme : String} {authority rest : List Char}

/-- The addresses below a base are URLs when the endpoint continued is one. -/
theorem parse_of_continues (hopens : Opens c.providerEndpoint.toList scheme authority rest)
    (hcontinues : ∃ u, Url.parse (c.providerEndpoint ++ "/") = .ok u) (q : List Char) :
    ∃ u, Url.parse (String.ofList (baseText c ++ q)) = .ok u ∧ u.hasHost = true := by
  obtain ⟨u, hu⟩ := hcontinues
  rw [Admin.continued_eq] at hu
  have := hopens.parse_of_parse hu (c.scope ++ q)
  rwa [baseText, List.append_assoc, List.cons_append]

/-- The path of the base is what its text shows, and the empty segment after it. -/
theorem base_path (hbase : Opens (baseText c) scheme authority rest)
    (hrest : ∀ ch ∈ rest, endsPath ch = false) {u : Url}
    (hu : Url.parse (c.providerUrl "/") = .ok u) :
    u.path = .segments ((stackOf rest).reverse ++ [""]) := by
  rw [providerUrl_eq] at hu
  rw [hbase.path hrest hu, ← List.reverse_cons]
  rfl

/-- If a request for a configuration can be made, addresses below the endpoint are URLs. -/
theorem continues_of_addressesConfig {r : Except Error Request}
    (hopens : Opens c.providerEndpoint.toList scheme authority rest)
    (h : AddressesConfig c kind id r) : ∃ u, Url.parse (c.providerEndpoint ++ "/") = .ok u := by
  obtain ⟨-, base, -, -, -, hbaseUrl, -⟩ := h
  rw [providerUrl_eq, baseText, List.append_assoc, List.cons_append] at hbaseUrl
  obtain ⟨u, hu, -⟩ := hopens.parse_of_parse hbaseUrl []
  exact ⟨u, by rw [Admin.continued_eq, hu]⟩

/-- There is no mark in a base whose scope stays in the path. -/
theorem scope_rest_plain (hrest : ∀ ch ∈ rest, endsPath ch = false) (hscope : ScopeInPath c) :
    ∀ ch ∈ rest ++ '/' :: c.scope.filter Url.isKept, endsPath ch = false := by
  intro ch hch
  rcases List.mem_append.mp hch with hch | hch
  · exact hrest ch hch
  · rcases List.mem_cons.mp hch with rfl | hch
    · rfl
    · exact (scopeInPath_iff c).mp hscope ch (List.mem_filter.mp hch).1

/-- **The condition is enough.** -/
theorem addressesConfig_of_plain {op : Operation} (hop : op.config? = some (kind, id))
    (haccepted : ¬ Refused (op.request c))
    (hopens : Opens c.providerEndpoint.toList scheme authority rest)
    (hrest : ∀ ch ∈ rest, endsPath ch = false)
    (hcontinues : ∃ u, Url.parse (c.providerEndpoint ++ "/") = .ok u)
    (hscope : ScopeInPath c) (hid : IsPlainId id) : AddressesConfig c kind id (op.request c) := by
  have hok := acceptedId_of_not_refused hop haccepted
  have hbase : Opens (baseText c) scheme authority _ := hopens.append c.scope
  have hrest' := scope_rest_plain hrest hscope
  obtain ⟨base, hbaseUrl, -⟩ := parse_of_continues hopens hcontinues ['/']
  rw [← providerUrl_eq] at hbaseUrl
  obtain ⟨u, hu, hhost⟩ := parse_of_continues hopens hcontinues
    ([kind.collection.toList, id.toList].flatMap ('/' :: ·))
  have haddress := address_eq (c := c) hop
  rw [← haddress] at hu
  have hplanned := Operation.request_plannedAt c op
  obtain ⟨req, hreq⟩ := hplanned.ok_of_parse haccepted hu hhost
  obtain ⟨u', hu', hpath⟩ := hplanned.path_of_ok hreq
  obtain rfl : u = u' := by
    rw [hu] at hu'
    exact Except.ok.inj hu'
  have hsegments : ∀ t ∈ [kind.collection.toList, id.toList], IsAddressSegment t := by
    intro t ht
    simp only [List.mem_cons, List.not_mem_nil, or_false] at ht
    rcases ht with rfl | rfl
    · exact (collection_isAddressSegment kind).1
    · exact hok.isAddressSegment hid
  have hend : EndsWell ([kind.collection.toList, id.toList].flatMap ('/' :: ·)) := by
    refine Url.endsWell_flatMap hid.1 ?_ [kind.collection.toList]
    obtain ⟨ch, r, hcons, -⟩ := hok.head
    simp [hcons]
  rw [haddress] at hu
  have hupath := hbase.path_of_segments hrest' (by simp) hsegments hend hu
  refine ⟨req, base, _, written id.toList, hreq, hbaseUrl, base_path hbase hrest' hbaseUrl, ?_,
    slash_not_mem_written fun hmem => (hok.ne_of_mem hmem).1 rfl, decode_written hok.not_percent⟩
  rw [hpath, hupath, List.map_cons, List.map_cons, List.map_nil,
    (collection_isAddressSegment kind).2]

/-- A project or a tenant that ends the path hides the configuration. -/
theorem scopeInPath_of_addressesConfig {op : Operation} (hop : op.config? = some (kind, id))
    (hopens : Opens c.providerEndpoint.toList scheme authority rest)
    (hrest : ∀ ch ∈ rest, endsPath ch = false) (h : AddressesConfig c kind id (op.request c)) :
    ScopeInPath c := by
  obtain ⟨req, base, ss, segment, hreq, hbaseUrl, hbasePath, hpath, -, -⟩ := h
  obtain ⟨u, hu, hreqPath⟩ := (Operation.request_plannedAt c op).path_of_ok hreq
  by_contra hscope
  have hmark : ∃ ch ∈ c.scope, endsPath ch = true := by
    rw [scopeInPath_iff] at hscope
    simpa using hscope
  have hhidden : ∀ (q : List Char) (v : Url),
      Url.parse (String.ofList (baseText c ++ '/' :: q)) = .ok v →
      v.path = .segments (Url.addSegments .special (stackOf rest)
        (Split.pieces Url.SchemeKind.special.isSlash
          ((c.scope.filter Url.isKept).takeWhile (! endsPath ·)))).reverse := by
    intro q v hv
    have htext : baseText c ++ '/' :: q =
        c.providerEndpoint.toList ++ '/' :: (c.scope ++ '/' :: q) := by simp [baseText]
    rw [htext] at hv
    rw [hopens.path hrest hv,
      Url.shown_append_of_endsPath hmark (Url.trimEnd_cons_ne_nil (by decide) q)]
  rw [providerUrl_eq] at hbaseUrl
  rw [address_eq hop, List.flatMap_cons, List.cons_append] at hu
  have hsame : base.path = u.path := (hhidden _ _ hbaseUrl).trans (hhidden _ _ hu).symm
  rw [hbasePath, ← hreqPath, hpath, Url.Path.segments.injEq] at hsame
  have := congrArg List.length hsame
  simp at this

/-- The last segment of a request's path is empty or a piece of its id. -/
theorem exists_last_segment {op : Operation} (hop : op.config? = some (kind, id))
    (hok : AcceptedId id) (hbase : Opens (baseText c) scheme authority rest)
    (hrest : ∀ ch ∈ rest, endsPath ch = false) {u : Url} (hu : Url.parse (op.address c) = .ok u) :
    ∃ ss segment, u.path = .segments (ss ++ [segment]) ∧
      (segment = "" ∨ ∃ piece ∈ Split.pieces Url.SchemeKind.special.isSlash (shown id.toList),
        segment = written piece) := by
  have hcollection := (collection_isAddressSegment kind).1
  have htext : baseText c ++ [kind.collection.toList, id.toList].flatMap ('/' :: ·) =
      baseText c ++ '/' :: (kind.collection.toList ++ ['/'] ++ id.toList) := by simp
  have hquiet : ∀ ch ∈ kind.collection.toList ++ ['/'], isQuiet ch = true := by
    intro ch hch
    rcases List.mem_append.mp hch with hch | hch
    · exact hcollection.quiet ch hch
    · rw [List.mem_singleton.mp hch]
      rfl
  rw [address_eq hop, htext] at hu
  have hpath := hbase.path hrest hu
  rw [Url.shown_append_of_quiet hquiet hok.trimEnd_ne_nil, List.append_assoc, List.singleton_append,
    Split.pieces_append Url.isSlash_slash] at hpath
  obtain ⟨init, last, hpieces⟩ :=
    Split.exists_pieces_eq Url.SchemeKind.special.isSlash (shown id.toList)
  rw [hpieces, ← List.append_assoc] at hpath
  obtain ⟨segment, r, hhead, hsegment⟩ := Url.addSegments_head (stackOf rest)
    (Split.pieces Url.SchemeKind.special.isSlash kind.collection.toList ++ init) last
  refine ⟨r.reverse, segment, ?_, ?_⟩
  · rw [hpath, hhead, List.reverse_cons]
  · rcases hsegment with hempty | hwritten
    · exact Or.inl hempty
    · exact Or.inr ⟨last, by simp [hpieces], hwritten⟩

/-- An id that comes out as it is has nothing that the parser minds. -/
theorem isPlainId_of_addressesConfig {op : Operation} (hop : op.config? = some (kind, id))
    (hok : AcceptedId id) (hbase : Opens (baseText c) scheme authority rest)
    (hrest : ∀ ch ∈ rest, endsPath ch = false) (h : AddressesConfig c kind id (op.request c)) :
    IsPlainId id := by
  obtain ⟨req, -, ss, segment, hreq, -, -, hpath, -, hdecode⟩ := h
  obtain ⟨u, hu, hreqPath⟩ := (Operation.request_plannedAt c op).path_of_ok hreq
  obtain ⟨ss', last, hlast, hpiece⟩ := exists_last_segment hop hok hbase hrest hu
  have hsegment : segment = last := by
    have hlists : ss ++ [kind.collection] ++ [segment] = ss' ++ [last] := by
      rw [hreqPath, hlast, Url.Path.segments.injEq] at hpath
      simpa using hpath.symm
    simpa using (List.append_inj' hlists rfl).2
  subst hsegment
  rcases hpiece with hempty | ⟨piece, hmem, hwritten⟩
  · -- an empty segment stands for no id
    have hnil : id.toList = [] := by
      rw [hempty] at hdecode
      have hencode : Utf8.encode [] = Utf8.encode id.toList := hdecode
      exact (Utf8.encode_injective hencode).symm
    obtain ⟨ch, r, hcons, -⟩ := hok.head
    rw [hnil] at hcons
    cases hcons
  · have hsub := Split.sublist_of_mem_pieces hmem
    have hshown := Url.shown_sublist id.toList
    have hpercent : '%' ∉ piece := fun hp => hok.not_percent (hshown.subset (hsub.subset hp))
    have hpieceId : piece = id.toList := by
      rw [hwritten, decode_written hpercent] at hdecode
      exact Utf8.encode_injective hdecode
    have hall : shown id.toList = id.toList := by
      apply hshown.eq_of_length_le
      rw [← hpieceId] at hsub ⊢
      exact hsub.length_le
    obtain ⟨hend, hquiet⟩ := Url.forall_of_shown hall
    refine ⟨hend, ?_⟩
    intro ch hch
    have hslash := Split.sep_of_mem_pieces hmem ch (hpieceId ▸ hch)
    have hch' := hquiet ch hch
    simp only [isQuiet, Url.isKept, Bool.and_eq_true, Bool.not_eq_true', Bool.or_eq_false_iff,
      decide_eq_false_iff_not] at hch'
    simp only [Url.SchemeKind.isSlash, Url.SchemeKind.isSpecial, Bool.and_true,
      Bool.or_eq_false_iff, decide_eq_false_iff_not] at hslash
    exact ⟨hslash.2, hch'.1.1.1, hch'.1.1.2, hch'.1.2⟩

end

/-- A path names one configuration only. -/
theorem addressesConfig_inj {r r' : Except Error Request} {kind' : ProviderKind} {id' : String}
    (h : AddressesConfig c kind id r) (h' : AddressesConfig c kind' id' r') {req req' : Request}
    (hreq : r = .ok req) (hreq' : r' = .ok req') (hpath : req.url.path = req'.url.path) :
    kind = kind' ∧ id = id' := by
  obtain ⟨x, -, ss, segment, hx, -, -, hxPath, -, hdecode⟩ := h
  obtain ⟨x', -, ss', segment', hx', -, -, hxPath', -, hdecode'⟩ := h'
  obtain rfl : x = req := Except.ok.inj (hx.symm.trans hreq)
  obtain rfl : x' = req' := Except.ok.inj (hx'.symm.trans hreq')
  rw [hxPath, hxPath', Url.Path.segments.injEq] at hpath
  have htail := (List.append_inj' hpath rfl).2
  simp only [List.cons.injEq, and_true] at htail
  refine ⟨?_, ?_⟩
  · cases kind <;> cases kind' <;> first | rfl | exact absurd htail.1 (by decide)
  · rw [htail.2] at hdecode
    exact Utf8.ofString_injective (hdecode.symm.trans hdecode')

/-- **Where the id of a configuration stays one segment.**  For a client of an HTTP endpoint and an
id that the check accepts, the request goes to the one segment below the client's base that stands for
the id if and only if the endpoint continued is a URL, neither project nor tenant ends the path, and
the id is plain.  Requests of this kind with the same path are for the same configuration.  An
endpoint that does not end in a blank can be continued. -/
theorem config_request_stays_iff {config : Configuration} {c : Client} (hc : ClientOf config c)
    (hhttp : config.IsHttp) {op : Operation} {kind : ProviderKind} {id : String}
    (hop : op.config? = some (kind, id)) (haccepted : ¬ Refused (op.request c)) :
    (AddressesConfig c kind id (op.request c) ↔
      Continues (Service.endpoint config .providers) ∧ ScopeInPath c ∧ IsPlainId id) ∧
    (∀ (op' : Operation) (kind' : ProviderKind) (id' : String) (req req' : Request),
      AddressesConfig c kind id (op.request c) → AddressesConfig c kind' id' (op'.request c) →
      op.request c = .ok req → op'.request c = .ok req' → req.url.path = req'.url.path →
      kind = kind' ∧ id = id') ∧
    (EndsWell (Service.endpoint config .providers).toList →
      Continues (Service.endpoint config .providers)) := by
  have hok := acceptedId_of_not_refused hop haccepted
  have hendpoint : c.providerEndpoint = Admin.trimSlashes (Service.endpoint config .providers) :=
    hc.eq_config.2 .providers
  obtain ⟨scheme, authority, rest, hopens, hrest⟩ := hc.opens hhttp .providers
  refine ⟨⟨?_, ?_⟩, ?_, ?_⟩
  · intro h
    have hscope := scopeInPath_of_addressesConfig hop hopens hrest h
    refine ⟨?_, hscope, ?_⟩
    · have := continues_of_addressesConfig hopens h
      rwa [hendpoint] at this
    · exact isPlainId_of_addressesConfig hop hok (hopens.append c.scope)
        (scope_rest_plain hrest hscope) h
  · rintro ⟨hcontinues, hscope, hid⟩
    refine addressesConfig_of_plain hop haccepted hopens hrest ?_ hscope hid
    rw [hendpoint]
    exact hcontinues
  · intro op' kind' id' req req' h h' hreq hreq' hpath
    exact addressesConfig_inj h h' hreq hreq' hpath
  · intro hend
    obtain ⟨ss, hss⟩ := Admin.exists_endpointPath (hhttp.endpoint .providers) hend
    exact hss.continues

/-- The client of project `p` at `http://h`. -/
def plainClient : Client := ⟨"p", none, "http://h", "http://h"⟩

/-- The deletion of `oidc.b` goes to the segment `oidc.b`. -/
theorem delete_plain_id_stays : AddressesConfig plainClient .oidc "oidc.b"
    ((Operation.deleteOidc "oidc.b").request plainClient) := by
  have hc : ClientOf ⟨"p", some "http://h"⟩ plainClient := .project (by decide +kernel)
  have hhttp : Configuration.IsHttp ⟨"p", some "http://h"⟩ := by decide +kernel
  exact (config_request_stays_iff hc hhttp rfl (by decide +kernel)).1.mpr
    ⟨by decide +kernel, by decide +kernel, by decide +kernel⟩

/-- The deletion of an accepted id with backslashes goes to another configuration. -/
theorem delete_backslash_id_leaves :
    ¬ Refused ((Operation.deleteOidc "oidc.a\\..\\oidc.b").request plainClient) ∧
      ¬ AddressesConfig plainClient .oidc "oidc.a\\..\\oidc.b"
        ((Operation.deleteOidc "oidc.a\\..\\oidc.b").request plainClient) := by
  refine ⟨by decide +kernel, ?_⟩
  rintro ⟨req, -, ss, segment, hreq, -, -, hpath, -, hdecode⟩
  have hsent : ((Operation.deleteOidc "oidc.a\\..\\oidc.b").request plainClient).toOption.map
      (·.url.path) = some (.segments ["projects", "p", "oauthIdpConfigs", "oidc.b"]) := by
    decide +kernel
  obtain ⟨req', hreq', hplace⟩ := Admin.exists_eq_ok_of_map hsent
  obtain rfl := Except.ok.inj (hreq.symm.trans hreq')
  rw [hpath, Url.Path.segments.injEq] at hplace
  have hsegment : segment = "oidc.b" := by
    have := congrArg List.getLast? hplace
    simpa using this
  rw [hsegment] at hdecode
  exact absurd hdecode (by decide +kernel)

end AccountWire.Provider
