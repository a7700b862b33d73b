import AccountWire.Echo.Server
import AccountWire.Proofs.Admin.Operation

/-!
# How requests arrive

A request is sent with its path and its query in one text, the target, and an echo server cuts the
target up again.  It finds what was sent when the path holds neither of the marks that end a path
and the query does not hold the one that begins a fragment (`HasPlainTarget`).  The parser sees to
that for every URL of a special scheme, and adding parameters keeps it.

So an operation over an echo server reads the canned body, and what is captured has the path of
the operation's address and, in their order of names, the address's own parameters and those of
the operation (`run_plan`).
-/

namespace AccountWire.Url

/-! ### Targets that can be cut up again -/

/-- A URL whose path begins at the root and ends where the query begins, and whose query ends where
the target does. -/
structure HasPlainTarget (u : Url) : Prop where
  root : u.path.text.toList.head? = some '/'
  path : ∀ c ∈ u.path.text.toList, endsPath c = false
  query : ∀ q, u.query = some q → '#' ∉ q.toList

/-- No mark that ends a path is written in a segment. -/
theorem endsPath_of_mem_written {s : List Char} {c : Char} (h : c ∈ (written s).toList) :
    endsPath c = false := by
  rw [written, String.toList_ofList] at h
  have hmark : ∀ d, Percent.pathSet.escapes d = true → d ∉ Percent.escapeChars → c ≠ d := by
    rintro d hd hd' rfl
    exact Percent.not_mem_encode hd hd' s h
  simp [endsPath, hmark '?' (by decide) (by decide), hmark '#' (by decide) (by decide)]

/-- The path of a special scheme has a segment, and no segment holds a mark that ends it. -/
theorem exists_parsePath (cs : List Char) :
    ∃ s ss, parsePath .special cs = .segments (s :: ss) ∧
      ∀ x ∈ s :: ss, ∀ c ∈ x.toList, endsPath c = false := by
  obtain ⟨body, hbody⟩ : ∃ body, parsePath .special cs = .segments
      (addSegments .special [] (Split.pieces SchemeKind.special.isSlash body)).reverse := by
    cases cs with
    | nil => exact ⟨[], rfl⟩
    | cons c r =>
        by_cases hc : SchemeKind.special.isSlash c = true
        · exact ⟨r, by simp [parsePath, hc]⟩
        · exact ⟨c :: r, by simp [parsePath, hc]⟩
  generalize hrev : addSegments .special [] (Split.pieces SchemeKind.special.isSlash body) = rev
    at hbody
  have hne : rev.reverse ≠ [] := by
    obtain ⟨init, last, hlast⟩ := Split.exists_pieces_eq SchemeKind.special.isSlash body
    obtain ⟨x, r, hhead, -⟩ := addSegments_head [] init last
    rw [← hrev, hlast, hhead]
    simp
  have hplain : Above 0 (fun x => ∀ c ∈ x.toList, endsPath c = false) rev := by
    rw [← hrev]
    refine (Above.of_length_le (Nat.le_refl 0)).addSegments (by simp) ?_
    intro s _ _ c hc
    exact endsPath_of_mem_written hc
  obtain ⟨s, ss, hss⟩ := List.exists_cons_of_ne_nil hne
  refine ⟨s, ss, by rw [hbody, hss], ?_⟩
  obtain ⟨top, bottom, htop, hlen, hall⟩ := hplain
  rw [List.length_eq_zero_iff.mp (Nat.le_zero.mp hlen), List.append_nil] at htop
  intro x hx
  rw [← hss, List.mem_reverse, htop] at hx
  exact hall x hx

/-- No number sign is written in a query. -/
theorem hash_not_mem_encodeQuery (cs : List Char) :
    '#' ∉ (encodeQuery .special cs).toList := by
  rw [encodeQuery, String.toList_ofList]
  exact Percent.not_mem_encode (by decide) (by decide) cs

/-- **URLs of special schemes name a host and have plain targets.** -/
theorem of_parse_special {address : String} {u : Url} (hu : Url.parse address = .ok u)
    (hspecial : schemeKind u.scheme = .special) : u.hasHost = true ∧ u.HasPlainTarget := by
  obtain ⟨authority, rest, a, -, hauthority, hparts⟩ := Reads.of_parse hu hspecial
  obtain ⟨s, ss, hpath, hplain⟩ := exists_parsePath (Tail.ofChars rest).path
  have htext : u.path.text.toList =
      '/' :: (s.toList ++ (ss.map String.toList).flatMap ('/' :: ·)) := by
    have hsegments : u.path = .segments (s :: ss) := by
      rw [hparts]
      exact hpath
    rw [hsegments]
    exact toList_join (s :: ss)
  refine ⟨?_, ⟨?_, ?_, ?_⟩⟩
  · rw [hparts]
    exact (parseAuthority_ok hspecial hauthority).1
  · rw [htext]
    rfl
  · intro c hc
    rw [htext, List.mem_cons, List.mem_append, List.mem_flatMap] at hc
    rcases hc with rfl | hc | ⟨cs, hcs, hc⟩
    · rfl
    · exact hplain s List.mem_cons_self c hc
    · obtain ⟨x, hx, rfl⟩ := List.mem_map.mp hcs
      rcases List.mem_cons.mp hc with rfl | hc
      · rfl
      · exact hplain x (List.mem_cons_of_mem _ hx) c hc
  · intro q hq
    rw [hparts] at hq
    obtain ⟨cs, -, rfl⟩ := Option.map_eq_some_iff.mp hq
    rw [hspecial]
    exact hash_not_mem_encodeQuery cs

namespace HasPlainTarget

variable {u : Url}

/-- Leaving out user name and password keeps the target plain. -/
theorem sentUrl (h : u.HasPlainTarget) : (Admin.sentUrl u).HasPlainTarget := by
  refine ⟨?_, ?_, ?_⟩
  · simpa using h.root
  · simpa using h.path
  · simpa using h.query

theorem addQuery (h : u.HasPlainTarget) (ps : List Query.Pair) :
    (u.addQuery ps).HasPlainTarget := by
  have hadded := Query.hash_not_mem_encodeString ps
  unfold Url.addQuery
  split
  · exact h
  · refine ⟨h.root, h.path, ?_⟩
    intro q hq
    obtain rfl := Option.some.inj hq
    split
    · exact hadded
    · exact hadded
    · next own _ hown =>
      rw [String.toList_append, String.toList_append, List.mem_append, List.mem_append]
      rintro ((hmem | hmem) | hmem)
      · exact h.query own hown hmem
      · exact absurd hmem (by decide)
      · exact hadded hmem

end HasPlainTarget

end AccountWire.Url

namespace AccountWire.Echo

open Admin (Exchange)

/-! ### What an echo server makes of a target -/

/-- A path and a query that were put together are cut apart again. -/
theorem splitQuery_append {path : List Char} (hpath : ∀ c ∈ path, (c == '?') = false)
    (query : Option String) :
    splitQuery (path ++ (query.elim "" ("?" ++ ·)).toList) = (String.ofList path, query) := by
  cases query with
  | none =>
      rw [Option.elim_none, String.toList_empty, List.append_nil, splitQuery,
        Split.atFirst?_eq_none.mpr hpath]
  | some q =>
      have hmark : ("?" ++ q).toList = '?' :: q.toList := by
        rw [String.toList_append]
        rfl
      rw [Option.elim_some, hmark, splitQuery, Split.atFirst?_cons_of_forall hpath rfl]
      simp

/-- **A plain target is cut up into the path and the query that it was made of.** -/
theorem Target.ofText_target {u : Url} (h : u.HasPlainTarget) :
    Target.ofText u.target = ⟨u.target, u.path.text, u.query⟩ := by
  have hsplit : splitQuery u.target.toList = (u.path.text, u.query) := by
    have hquestion : ∀ c ∈ u.path.text.toList, (c == '?') = false := by
      intro c hc
      have hplain := h.path c hc
      simp only [Url.endsPath, Bool.or_eq_false_iff] at hplain
      exact hplain.1
    rw [Url.target, String.toList_append, splitQuery_append hquestion, String.ofList_toList]
  have hwhole : u.target.toList.takeWhile (· ≠ '#') = u.target.toList := by
    rw [List.takeWhile_eq_self_iff]
    intro c hc
    rw [Url.target, String.toList_append, List.mem_append] at hc
    rw [decide_eq_true_iff]
    rintro rfl
    rcases hc with hc | hc
    · exact absurd (h.path _ hc) (by decide)
    · cases hquery : u.query with
      | none => simp [hquery] at hc
      | some q =>
          rw [hquery, Option.elim_some, String.toList_append, List.mem_append] at hc
          rcases hc with hc | hc
          · exact absurd hc (by decide)
          · exact h.query q hquery hc
  obtain ⟨r, hr⟩ : ∃ r, u.target.toList = '/' :: r := by
    obtain ⟨r, hr⟩ := List.head?_eq_some_iff.mp h.root
    exact ⟨_, by rw [Url.target, String.toList_append, hr, List.cons_append]⟩
  rw [Target.ofText, hwhole]
  rw [hr] at hsplit ⊢
  simp only [hsplit]
  rw [← hr, String.ofList_toList]

/-- A captured request has the path of its URL, and its query has the URL's parameters. -/
theorem capture_receivedOf {r : Http.Request} (h : r.url.HasPlainTarget) (index : Nat)
    (body : Bytes) :
    ((receivedOf r).capture index body).path = r.url.path.text ∧
      ((receivedOf r).capture index body).canonicalQuery =
        Query.encodeString (Query.sortByName r.url.parameters) := by
  have htarget : Target.ofText (receivedOf r).target =
      ⟨r.url.target, r.url.path.text, r.url.query⟩ := Target.ofText_target h
  rw [Received.capture, htarget]
  exact ⟨rfl, rfl⟩

/-! ### An operation over an echo server -/

/-- A reply with a final status goes out whole, where neither the method nor the status keeps its body
back. -/
theorem Reply.seenBy_of_whole {r : Reply} {method : String} (hstatus : 200 ≤ r.status)
    (hbody : r.isBare method = false) :
    r.seenBy method = { r with headers := r.headers.byName } := by
  have hfinal : Http.isInformational r.status = false := by
    simp only [Http.isInformational, Bool.and_eq_false_iff, decide_eq_false_iff_not]
    omega
  rw [seenBy, hfinal, hbody]
  rfl

/-- A server whose canned response tells of success and comes with its body. -/
def Server.Succeeds (s : Server) : Prop :=
  200 ≤ s.configuration.status ∧ s.configuration.status ≤ 299 ∧ s.configuration.status ≠ 204

instance (s : Server) : Decidable s.Succeeds := inferInstanceAs (Decidable (_ ∧ _ ∧ _))

/-- **One operation over an echo server**: it reads the canned body, and the server captures one
request, for the path of the operation's address and with the parameters of the address and of the
operation. -/
theorem run_plan {α : Type} (method : Http.Method) {address : String} (query : List Query.Pair)
    (body : Option Json) (interpret : Bytes → Except Admin.Error α) {u : Url} {s : Server}
    (hu : Url.parse address = .ok u) (hspecial : Url.schemeKind u.scheme = .special)
    (hs : s.Succeeds) :
    ∃ r, Admin.run (Exchange.plan method address query body interpret) (Server.transport .up) s =
        (interpret s.configuration.body, { s with log := s.log ++ [r] }) ∧
      r.path = u.path.text ∧
      r.canonicalQuery = Query.encodeString (Query.sortByName (u.parameters ++ query)) := by
  obtain ⟨hhost, hplain⟩ := Url.of_parse_special hu hspecial
  rw [Admin.plan_of_parse method query body interpret hu hhost]
  generalize hx : (⟨⟨method, (Admin.sentUrl u).addQuery query,
    body.map fun _ => "application/json", body.elim [] Json.bytes⟩, interpret⟩ : Exchange α) = x
  have hurl : x.request.url = (Admin.sentUrl u).addQuery query := by rw [← hx]
  have hmethod : x.request.method.text ≠ "HEAD" ∧ x.request.method.text ≠ "CONNECT" := by
    cases x.request.method <;> decide
  have hwhole : s.reply.isBare x.request.method.text = false := by
    obtain ⟨h200, h299, h204⟩ := hs
    have hbodiless : Http.isBodiless s.configuration.status = false := by
      simp only [Http.isBodiless, Bool.or_eq_false_iff, decide_eq_false_iff_not]
      omega
    have hprotocol : s.configuration.status ≠ switchingProtocols := by
      unfold switchingProtocols
      omega
    simp [Reply.isBare, Server.reply, hmethod, hbodiless, hprotocol]
  obtain ⟨hpath, hquery⟩ := capture_receivedOf (r := x.request)
    (by rw [hurl]; exact hplain.sentUrl.addQuery query) s.log.length x.request.body
  refine ⟨(receivedOf x.request).capture s.log.length x.request.body, ?_, ?_, ?_⟩
  · have hsend : Server.transport .up x.request s =
        (some ⟨s.configuration.status, s.configuration.body⟩, { s with log :=
          s.log ++ [(receivedOf x.request).capture s.log.length x.request.body] }) := by
      have hexchange : s.exchange .up (receivedOf x.request) =
          (some (s.reply.seenBy x.request.method.text), { s with log :=
            s.log ++ [(receivedOf x.request).capture s.log.length x.request.body] }) := rfl
      rw [Server.transport, hexchange, Reply.seenBy_of_whole hs.1 hwhole]
      rfl
    rw [Admin.run_of_success hsend (by simp [Http.Response.isSuccess, hs.1, hs.2.1]), ← hx]
  · rw [hpath, hurl, Url.path_addQuery, Admin.path_sentUrl]
  · rw [hquery, hurl, Url.parameters_addQuery, Url.parameters, Admin.query_sentUrl]
    rfl

end AccountWire.Echo
