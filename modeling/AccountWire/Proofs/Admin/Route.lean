import AccountWire.Proofs.Admin.TenantScope

/-!
# The route of an operation

Below the endpoint of its client, the address of an operation is a list of segments: those of the
project and of the tenant, with the operation's verb glued to the last of them, and those of the
operation's own resource (`Operation.route`).  The parser cuts the text of a route up again, and the
first two pieces are always the project's (`exists_pieces_routeText`).  A route of words comes out as
it is (`path_of_route`).  What comes after the project may climb out of it if tenant or id hold dots
and slashes; plain ones never do (`staysInProject_of_plain`).
-/

namespace AccountWire.Admin

open Url (EndsWell IsAddressSegment IsPlainSegment Opens endsPath shown stackOf staysWithin written)

/-- A word is no blank, whatever follows it. -/
theorem IsWord.trimEnd_append_ne_nil {cs : List Char} (h : IsWord cs) (r : List Char) :
    Url.trimEnd (cs ++ r) ≠ [] := by
  obtain ⟨ch, t, rfl⟩ := List.exists_cons_of_ne_nil h.ne_nil
  exact Url.trimEnd_cons_ne_nil (isWordChar_spec (h.chars ch List.mem_cons_self)).1 _

namespace Operation

/-- The segments that an operation's own resource lies below. -/
def scopeSegments (c : Client) (op : Operation) : List String :=
  match c.tenantId with
  | none => ["projects", c.projectId ++ op.verb]
  | some tenantId => ["projects", c.projectId, "tenants", tenantId ++ op.verb]

/-- The segments of an operation's address below the endpoint of its client. -/
def route (c : Client) (op : Operation) : List String := op.scopeSegments c ++ op.segments

/-- The segments of a scope are the two words and the ids, the last one with the verb. -/
theorem mem_scopeSegments {c : Client} {op : Operation} {s : String}
    (h : s ∈ op.scopeSegments c) :
    s = "projects" ∨ s = c.projectId ∨ s = c.projectId ++ op.verb ∨ s = "tenants" ∨
      ∃ tenantId, c.tenantId = some tenantId ∧ s = tenantId ++ op.verb := by
  unfold scopeSegments at h
  cases ht : c.tenantId with
  | none =>
      simp only [ht, List.mem_cons, List.not_mem_nil, or_false] at h
      rcases h with rfl | rfl
      · exact Or.inl rfl
      · exact Or.inr (Or.inr (Or.inl rfl))
  | some tenantId =>
      simp only [ht, List.mem_cons, List.not_mem_nil, or_false] at h
      rcases h with rfl | rfl | rfl | rfl
      · exact Or.inl rfl
      · exact Or.inr (Or.inl rfl)
      · exact Or.inr (Or.inr (Or.inr (Or.inl rfl)))
      · exact Or.inr (Or.inr (Or.inr (Or.inr ⟨tenantId, rfl, rfl⟩)))

/-- What of an operation's verb stands in the segment of the project. -/
def projectVerb (c : Client) (op : Operation) : String :=
  if c.tenantId = none then op.verb else ""

/-- A route begins with the project, and a word follows if anything does. -/
theorem exists_route_eq (c : Client) (op : Operation) :
    ∃ below, op.route c = "projects" :: (c.projectId ++ op.projectVerb c) :: below ∧
      ∀ x, below.head? = some x → IsWord x.toList := by
  unfold route scopeSegments projectVerb
  cases c.tenantId with
  | none =>
      refine ⟨op.segments, rfl, ?_⟩
      intro x hx
      cases op <;> first
        | (obtain rfl := Option.some.inj hx; decide)
        | exact absurd hx (by simp [segments])
  | some tenantId =>
      refine ⟨"tenants" :: (tenantId ++ op.verb) :: op.segments, by simp, ?_⟩
      intro x hx
      obtain rfl := Option.some.inj hx
      exact isWord_tenants

/-- The text of a route, without its first slash. -/
def routeText (c : Client) (op : Operation) : List Char := c.scope ++ op.resource.toList

/-- The text of a route is its segments, each behind a slash. -/
theorem routeText_eq (c : Client) (op : Operation) :
    '/' :: op.routeText c = ((op.route c).map String.toList).flatMap ('/' :: ·) := by
  have hprojects : "projects/".toList = "projects".toList ++ ['/'] := by simp
  have htenants : "/tenants/".toList = '/' :: ("tenants".toList ++ ['/']) := by simp
  unfold routeText Client.scope resource route scopeSegments
  rw [String.toList_append, Url.toList_join, hprojects]
  cases c.tenantId with
  | none =>
      -- the letters of the word would be compared one by one
      generalize hword : "projects".toList = projects
      simp [hword]
  | some tenantId =>
      rw [Option.elim_some, String.toList_append, htenants]
      generalize hword : "projects".toList = projects
      generalize hword' : "tenants".toList = tenants
      simp [hword, hword']

/-- Whether an operation's route, as the parser cuts it up, never climbs out of the project. -/
def StaysInProject (c : Client) (op : Operation) : Prop :=
  staysWithin 0 ((Split.pieces Url.SchemeKind.special.isSlash (shown (op.routeText c))).drop 2) =
    true

instance (c : Client) (op : Operation) : Decidable (op.StaysInProject c) :=
  inferInstanceAs (Decidable (_ = true))

section

variable {c : Client} {op : Operation}

/-- A word stays one with the verb of an operation. -/
theorem isWord_append_verb {s : String} (h : IsWord s.toList) : IsWord (s ++ op.verb).toList := by
  rcases verb_cases op with hverb | hverb
  · rw [hverb, String.append_empty]
    exact h
  · rw [hverb, String.toList_append]
    refine ⟨List.append_ne_nil_of_left_ne_nil h.ne_nil _, ?_, ?_⟩
    · exact Url.isPlainSegment_of_mem (List.mem_append_right _ (by decide)) (by decide : ':' ∉ _)
    · intro ch hch
      rcases List.mem_append.mp hch with hch | hch
      · exact h.chars ch hch
      · exact isWord_sessionVerb.chars ch hch

/-- The segment of a project is a word if its id is. -/
theorem isWord_projectSegment (hproject : IsWord c.projectId.toList) (op : Operation) :
    IsWord (c.projectId ++ op.projectVerb c).toList := by
  unfold projectVerb
  split
  · exact isWord_append_verb hproject
  · rwa [String.append_empty]

/-- The first two pieces of a route are the project's. -/
theorem exists_pieces_routeText (hproject : IsWord c.projectId.toList) (op : Operation) :
    ∃ below, Split.pieces Url.SchemeKind.special.isSlash (shown (op.routeText c)) =
      "projects".toList :: (c.projectId ++ op.projectVerb c).toList :: below := by
  have hprojects := isWord_projects
  have hhead := isWord_projectSegment hproject op
  obtain ⟨below, hroute, hbelow⟩ := exists_route_eq c op
  have htext := op.routeText_eq c
  rw [hroute] at htext
  cases below with
  | nil =>
      have hsplit : op.routeText c = ["projects".toList].flatMap (· ++ ['/']) ++
          (c.projectId ++ op.projectVerb c).toList := by simpa using htext
      refine ⟨[], ?_⟩
      rw [hsplit, Url.pieces_shown_append (by simpa using hprojects.isAddressSegment)
        (by simpa using hhead.trimEnd_append_ne_nil []),
        Url.pieces_shown hhead.isAddressSegment hhead.endsWell]
      rfl
  | cons x below =>
      have hsplit : op.routeText c =
          ["projects".toList, (c.projectId ++ op.projectVerb c).toList].flatMap (· ++ ['/']) ++
            (x.toList ++ (below.map String.toList).flatMap ('/' :: ·)) := by simpa using htext
      have hsegments : ∀ s ∈ ["projects".toList, (c.projectId ++ op.projectVerb c).toList],
          IsAddressSegment s := by
        intro s hs
        simp only [List.mem_cons, List.not_mem_nil, or_false] at hs
        rcases hs with rfl | rfl
        · exact hprojects.isAddressSegment
        · exact hhead.isAddressSegment
      have hpieces := Url.pieces_shown_append hsegments ((hbelow x rfl).trimEnd_append_ne_nil
        ((below.map String.toList).flatMap ('/' :: ·)))
      rw [← hsplit] at hpieces
      exact ⟨_, hpieces⟩

/-- The parser leaves the segments of a scope alone if the ids are words. -/
theorem scopeSegments_isAddressSegment (hproject : IsWord c.projectId.toList)
    (htenant : ∀ tenantId, c.tenantId = some tenantId → IsTenantSegment tenantId)
    (op : Operation) : ∀ s ∈ op.scopeSegments c, IsAddressSegment s.toList := by
  intro s hs
  rcases mem_scopeSegments hs with rfl | rfl | rfl | rfl | ⟨tenantId, ht, rfl⟩
  · exact isWord_projects.isAddressSegment
  · exact hproject.isAddressSegment
  · exact (isWord_append_verb hproject).isAddressSegment
  · exact isWord_tenants.isAddressSegment
  · exact (htenant tenantId ht).isAddressSegment op

/-- What is shown of an accepted id without a backslash is one piece, and no dot segment. -/
theorem plain_of_acceptedId {id : String} (h : Provider.AcceptedId id)
    (hback : '\\' ∉ id.toList) :
    ∀ piece ∈ Split.pieces Url.SchemeKind.special.isSlash (shown id.toList),
      IsPlainSegment piece := by
  have hslash : ∀ ch ∈ shown id.toList, Url.SchemeKind.special.isSlash ch = false := by
    intro ch hch
    have hmem := (Url.shown_sublist _).subset hch
    have hne : ch ≠ '\\' := by
      rintro rfl
      exact hback hmem
    simp [Url.SchemeKind.isSlash, (h.ne_of_mem hmem).1, hne]
  rw [Split.pieces_of_forall hslash]
  obtain ⟨ch, r, hid, hch⟩ := h.head
  have hshown : ∃ t, shown id.toList = ch :: t := by
    rcases hch with rfl | rfl <;> exact ⟨_, by rw [hid, shown, Url.trimEnd_cons (by decide)]; rfl⟩
  obtain ⟨t, ht⟩ := hshown
  intro piece hpiece
  rw [List.mem_singleton.mp hpiece, ht]
  rcases hch with rfl | rfl <;> exact Url.isPlainSegment_of_head (by decide) (by decide)

/-- **A route of words** comes out of a path as it is. -/
theorem path_of_route {p authority rest : List Char} {scheme : String}
    (hopens : Opens p scheme authority rest) (hrest : ∀ ch ∈ rest, endsPath ch = false)
    (hroute : ∀ s ∈ op.route c, IsWord s.toList) {v : Url}
    (hv : Url.parse (String.ofList (p ++ '/' :: op.routeText c)) = .ok v) :
    v.path = .segments ((stackOf rest).reverse ++ op.route c) := by
  have hne : op.route c ≠ [] := by
    obtain ⟨below, hbelow, -⟩ := exists_route_eq c op
    simp [hbelow]
  have hsegments : ∀ s ∈ (op.route c).map String.toList, IsAddressSegment s := by
    intro s hs
    obtain ⟨x, hx, rfl⟩ := List.mem_map.mp hs
    exact (hroute x hx).isAddressSegment
  have hend : EndsWell (((op.route c).map String.toList).flatMap ('/' :: ·)) := by
    rcases List.eq_nil_or_concat (op.route c) with hnil | ⟨init, last, hconcat⟩
    · exact absurd hnil hne
    · have hlast := hroute last (by simp [hconcat])
      rw [hconcat, List.concat_eq_append, List.map_append]
      exact Url.endsWell_flatMap hlast.endsWell hlast.ne_nil _
  rw [routeText_eq] at hv
  have hwritten : (op.route c).map (fun s => written s.toList) = op.route c := by
    rw [List.map_congr_left fun s hs => written_toList (hroute s hs), List.map_id']
  rw [hopens.path_of_segments hrest (by simpa using hne) hsegments hend hv, List.map_map]
  exact congrArg (fun ss => Url.Path.segments ((stackOf rest).reverse ++ ss)) hwritten

/-! ### Routes that do not climb -/

/-- Only the last segment of a route may hold what the parser minds. -/
theorem staysInProject_of_last {init : List String} {last : String}
    (hroute : op.route c = init ++ [last]) (hinit : ∀ s ∈ init, IsAddressSegment s.toList)
    (hne : Url.trimEnd last.toList ≠ [])
    (hlast : ∀ piece ∈ Split.pieces Url.SchemeKind.special.isSlash (shown last.toList),
      IsPlainSegment piece) : op.StaysInProject c := by
  have hsplit : op.routeText c = (init.map String.toList).flatMap (· ++ ['/']) ++ last.toList := by
    have htext := op.routeText_eq c
    rw [hroute, List.map_append, List.flatMap_append, List.map_cons, List.map_nil,
      List.flatMap_cons, List.flatMap_nil, List.append_nil, Url.flatMap_slash] at htext
    exact (List.cons.inj htext).2
  have hinit' : ∀ s ∈ init.map String.toList, IsAddressSegment s := by
    intro s hs
    obtain ⟨x, hx, rfl⟩ := List.mem_map.mp hs
    exact hinit x hx
  refine Url.staysWithin_of_plain ?_ 0
  intro piece hpiece
  rw [hsplit, Url.pieces_shown_append hinit' hne] at hpiece
  rcases List.mem_append.mp (List.mem_of_mem_drop hpiece) with hpiece | hpiece
  · exact (hinit' piece hpiece).plain
  · exact hlast piece hpiece

/-- A route of segments that come out as they are stays in its project. -/
theorem staysInProject_of_segments {init : List String} {last : String}
    (hroute : op.route c = init ++ [last]) (hinit : ∀ s ∈ init, IsAddressSegment s.toList)
    (hlast : IsAddressSegment last.toList) (hend : EndsWell last.toList)
    (hne : last.toList ≠ []) : op.StaysInProject c := by
  refine staysInProject_of_last hroute hinit (by rwa [hend.trimEnd_eq]) ?_
  intro piece hpiece
  rw [Url.pieces_shown hlast hend, List.mem_singleton] at hpiece
  rw [hpiece]
  exact hlast.plain

/-- The verb stands in the last segment that an operation's own resource lies below. -/
theorem exists_scopeSegments_eq (c : Client) (op : Operation) :
    ∃ init s, op.scopeSegments c = init ++ [s ++ op.verb] := by
  unfold scopeSegments
  cases c.tenantId with
  | none => exact ⟨["projects"], _, rfl⟩
  | some tenantId => exact ⟨["projects", c.projectId, "tenants"], _, rfl⟩

/-- **A route with a plain tenant and a plain id never climbs out of the project.** -/
theorem staysInProject_of_plain (hproject : IsWord c.projectId.toList)
    (htenant : ∀ tenantId, c.tenantId = some tenantId → IsTenantSegment tenantId)
    (hid : ∀ kind id, op.config? = some (kind, id) → '\\' ∉ id.toList)
    (haccepted : ¬ Refused (op.request c)) : op.StaysInProject c := by
  have hscope := scopeSegments_isAddressSegment hproject htenant op
  cases hop : op.config? with
  | some q =>
      obtain ⟨kind, id⟩ := q
      have hok := Provider.acceptedId_of_not_refused hop haccepted
      have hroute : op.route c = op.scopeSegments c ++ [kind.collection] ++ [id] := by
        rw [route, (resource_of_config? hop).1, List.append_assoc]
        rfl
      refine staysInProject_of_last hroute ?_ hok.trimEnd_ne_nil
        (plain_of_acceptedId hok (hid kind id hop))
      intro s hs
      rcases List.mem_append.mp hs with hs | hs
      · exact hscope s hs
      · rw [List.mem_singleton.mp hs]
        exact (Provider.collection_isAddressSegment kind).1
  | none =>
      have hwords : ∀ s ∈ op.segments, IsWord s.toList := by
        refine segments_isWord (c := c) ?_ haccepted
        intro kind id h
        rw [hop] at h
        cases h
      rcases List.eq_nil_or_concat op.segments with hnil | ⟨init, last, hconcat⟩
      · obtain ⟨init, s, hinit⟩ := exists_scopeSegments_eq c op
        have hroute : op.route c = init ++ [s ++ op.verb] := by
          rw [route, hnil, List.append_nil, hinit]
        obtain ⟨hend, hne⟩ := endsWell_append_verb hnil s
        rw [hinit] at hscope
        exact staysInProject_of_segments hroute
          (fun x hx => hscope x (List.mem_append_left _ hx)) (hscope _ (by simp)) hend hne
      · rw [List.concat_eq_append] at hconcat
        rw [hconcat] at hwords
        have hlast := hwords last (by simp)
        have hroute : op.route c = op.scopeSegments c ++ init ++ [last] := by
          rw [route, hconcat, List.append_assoc]
        refine staysInProject_of_segments hroute ?_ hlast.isAddressSegment hlast.endsWell
          hlast.ne_nil
        intro s hs
        rcases List.mem_append.mp hs with hs | hs
        · exact hscope s hs
        · exact (hwords s (List.mem_append_left _ hs)).isAddressSegment

end

end Operation

end AccountWire.Admin
