import AccountWire.Proofs.Admin.OwnParameters
import AccountWire.Proofs.Admin.Outcome
import AccountWire.Proofs.Echo.ListingPages
import AccountWire.Proofs.Listing.Stream

/-!
# The parameters of captured requests

The parameters of a request are written into its target on one side and read off the target on the
other.  What is captured has the parameters that the address has of itself, and then those that the
operation asked with, each with its name and its whole value (`Captures.run_plan`).

A walk through a listing asks with the tokens that it was started with and handed; the requests of
a whole run are described by that sequence (`ClientListing.captured_run`).  Whether other parameters
come with them depends on the ids of the client alone (`captured_parameters_iff`).
-/

namespace AccountWire.Echo

open Admin (Client ClientOf Continues Exchange Operation)
open Listing (Fetch Reached Walk Yield answer fetchAt tokenAt)

/-- A transport that captures every request as it was sent, whatever it answers. -/
def Captures {σ : Type} (send : Http.Transport σ) (log : σ → List Captured) : Prop :=
  ∀ request s, log (send request s).2 =
    log s ++ [(receivedOf request).capture (log s).length request.body]

/-- An echo server captures every request. -/
theorem captures_server : Captures (Server.transport .up) Server.log := by
  intro request s
  rfl

/-- The parameters that the page at a token is asked for with. -/
def ClientListing.wanted (token : String) : ClientListing → List Query.Pair
  | .users => ("maxResults", "1000") :: if token = "" then [] else [("nextPageToken", token)]
  | .oidc | .saml => ("pageSize", "100") :: if token = "" then [] else [("pageToken", token)]

/-- The limits of the listings are a thousand users and a hundred configurations. -/
theorem ClientListing.parameters_eq (token : String) (l : ClientListing) :
    l.parameters token = l.wanted token := by
  have husers : toString User.maxListedUsers = "1000" := by decide
  have hconfigs : toString Provider.maxListedConfigs = "100" := by decide
  cases l <;> simp only [parameters, wanted, Provider.pageParameters, husers, hconfigs]

/-- The listing as fetches over a transport. -/
def ClientListing.fetch {σ : Type} (c : Client) (send : Http.Transport σ) (l : ClientListing) :
    Fetch σ Admin.Error l.Item :=
  fun token => Admin.run (l.page c token) send

/-- The parameter that names what an operation adds to a listing. -/
def ClientListing.created? : ClientListing → Operation → Option Query.Pair
  | .oidc, .createOidc p => some ("oauthIdpConfigId", p.id)
  | .saml, .createSaml p => some ("inboundSamlConfigId", p.id)
  | _, _ => none

/-! ### One request -/

/-- A captured request has the parameters of its URL. -/
theorem queryPairs_capture {r : Http.Request} (h : r.url.HasPlainTarget) (index : Nat)
    (body : Bytes) :
    ((receivedOf r).capture index body).queryPairs = r.url.parameters := by
  have htarget : Target.ofText (receivedOf r).target =
      ⟨r.url.target, r.url.path.text, r.url.query⟩ := Target.ofText_target h
  rw [Received.capture, htarget]
  rfl

section

variable {σ : Type} {send : Http.Transport σ} {log : σ → List Captured}

/-- An exchange leaves its request in the log. -/
theorem Captures.log_run (hsend : Captures send log) {α : Type} (x : Exchange α) (s : σ) :
    log (Admin.run (.ok x) send s).2 =
      log s ++ [(receivedOf x.request).capture (log s).length x.request.body] := by
  have hstate : (Admin.run (.ok x) send s).2 = (send x.request s).2 := by
    rw [Admin.run]
    rcases hresponse : send x.request s with ⟨_ | r, s'⟩ <;> rfl
  rw [hstate, hsend]

/-- **What is captured of a request**: the parameters of the address, then those of the plan. -/
theorem Captures.run_plan (hsend : Captures send log) {α : Type} (method : Http.Method)
    {address : String} (query : List Query.Pair) (body : Option Json)
    (interpret : Bytes → Except Admin.Error α) {u : Url} (hu : Url.parse address = .ok u)
    (hspecial : Url.schemeKind u.scheme = .special) (s : σ) :
    ∃ r, log (Admin.run (Exchange.plan method address query body interpret) send s).2 =
        log s ++ [r] ∧ r.queryPairs = u.parameters ++ query := by
  obtain ⟨hhost, hplain⟩ := Url.of_parse_special hu hspecial
  rw [Admin.plan_of_parse method query body interpret hu hhost]
  generalize hx : (⟨⟨method, (Admin.sentUrl u).addQuery query,
    body.map fun _ => "application/json", body.elim [] Json.bytes⟩, interpret⟩ : Exchange α) = x
  have hurl : x.request.url = (Admin.sentUrl u).addQuery query := by rw [← hx]
  refine ⟨_, hsend.log_run x s, ?_⟩
  rw [queryPairs_capture (by rw [hurl]; exact hplain.sentUrl.addQuery query), hurl,
    Url.parameters_addQuery, Url.parameters, Admin.query_sentUrl]
  rfl

namespace ClientListing

variable {c : Client} {l : ClientListing}

/-- A page is asked for with the parameters of the address, the page size and the token. -/
theorem captured_page (hsend : Captures send log) {u : Url} (hu : Url.parse (l.address c) = .ok u)
    (hspecial : Url.schemeKind u.scheme = .special) (token : String) (s : σ) :
    ∃ r, log (l.fetch c send token s).2 = log s ++ [r] ∧
      r.queryPairs = u.parameters ++ l.wanted token := by
  rw [fetch, page_eq, ← parameters_eq]
  exact hsend.run_plan .get _ none l.interpret hu hspecial s

/-- An accepted creation is sent to the address of the listing, with the id as its parameter. -/
theorem plan_of_created {op : Operation} {pair : Query.Pair} (h : l.created? op = some pair)
    (haccepts : op.Accepts) : ∃ body interpret,
      op.plan c = Exchange.plan .post (l.address c) [pair] body interpret := by
  cases l <;> cases op <;> cases h
  · next p =>
    obtain ⟨ms, hms⟩ := Provider.Oidc.New.passes_request.mpr haccepts
    have hplan : Provider.Oidc.create c p = Exchange.plan .post (ClientListing.oidc.address c)
        [("oauthIdpConfigId", p.id)] (some (.obj ms)) (Exchange.readBody Provider.Oidc.ofTree?) := by
      have haddress : ClientListing.oidc.address c = c.providerUrl Provider.Oidc.collection := rfl
      rw [Provider.Oidc.create, hms, Admin.accept_ok_bind, haddress]
    exact ⟨_, _, hplan⟩
  · next p =>
    obtain ⟨ms, hms⟩ := Provider.Saml.New.passes_request.mpr haccepts
    have hplan : Provider.Saml.create c p = Exchange.plan .post (ClientListing.saml.address c)
        [("inboundSamlConfigId", p.id)] (some (.obj ms))
        (Exchange.readBody Provider.Saml.ofTree?) := by
      have haddress : ClientListing.saml.address c = c.providerUrl Provider.Saml.collection := rfl
      rw [Provider.Saml.create, hms, Admin.accept_ok_bind, haddress]
    exact ⟨_, _, hplan⟩

/-! ### The requests of a walk -/

/-- Each fetch of a walk is captured with the token that it was made with. -/
theorem captured_fetches (hsend : Captures send log) {u : Url}
    (hu : Url.parse (l.address c) = .ok u) (hspecial : Url.schemeKind u.scheme = .special)
    (token : String) (s : σ) (k : Nat) :
    ∃ captured, log (fetchAt (l.fetch c send) token s k).2 = log s ++ captured ∧
      captured.map (·.queryPairs) = (List.range k).map fun i =>
        u.parameters ++ l.wanted (tokenAt token (answer (l.fetch c send) token s) i) := by
  induction k with
  | zero => exact ⟨[], by simp [fetchAt], rfl⟩
  | succ k ih =>
      obtain ⟨captured, hlog, hpairs⟩ := ih
      obtain ⟨r, hr, hquery⟩ := captured_page hsend hu hspecial
        (fetchAt (l.fetch c send) token s k).1 (fetchAt (l.fetch c send) token s k).2
      refine ⟨captured ++ [r], ?_, ?_⟩
      · rw [fetchAt, hr, hlog, List.append_assoc]
      · rw [List.map_append, hpairs, List.range_succ, List.map_append, List.map_singleton, hquery,
          Listing.fetchAt_fst]
        rfl

/-- **The requests of a walk**: the first asks for the token of the start, every other one for the
token of the page that came before it. -/
theorem captured_run (hsend : Captures send log) {u : Url} (hu : Url.parse (l.address c) = .ok u)
    (hspecial : Url.schemeKind u.scheme = .special) {token : String} {s s' : σ}
    {ys : List (Yield Admin.Error l.Item)} {w' : Walk l.Item}
    (hrun : Walk.Run (l.fetch c send) (Walk.start token) s ys w' s') :
    ∃ k captured, log s' = log s ++ captured ∧ (ys ≠ [] → 0 < k) ∧
      captured.map (·.queryPairs) = ((List.range k).map fun i =>
        u.parameters ++ l.wanted (tokenAt token (answer (l.fetch c send) token s) i)) ∧
      ∀ i, i + 1 < k → ∃ page, answer (l.fetch c send) token s i = .ok page ∧
        tokenAt token (answer (l.fetch c send) token s) (i + 1) = page.nextPageToken := by
  obtain ⟨⟨k, hreached⟩, -⟩ := (Reached.start (l.fetch c send) token s).run hrun
  obtain ⟨captured, hlog, hpairs⟩ := captured_fetches hsend hu hspecial token s k
  rw [hreached.point] at hlog
  refine ⟨k, captured, hlog, ?_, hpairs, ?_⟩
  · intro hys
    refine Nat.pos_of_ne_zero ?_
    rintro rfl
    have hfresh : w'.exhausted = false := by
      rw [Bool.eq_false_iff]
      intro hx
      obtain ⟨i, hi, -⟩ := hreached.exhausted_iff.mp hx
      omega
    have hwithin := hreached.within hfresh
    rw [Nat.zero_add] at hwithin
    exact hys (List.eq_nil_of_length_eq_zero (Nat.le_zero.mp hwithin))
  · intro i hi
    cases hanswer : answer (l.fetch c send) token s i with
    | error e => exact absurd (by rw [hanswer]; trivial) (hreached.open_before i hi)
    | ok page => exact ⟨page, rfl, by rw [tokenAt, hanswer]; rfl⟩

/-- Pages are asked for at a resource without marks. -/
theorem resource_plain (l : ClientListing) :
    (∀ ch ∈ (l.operation "").resource.toList, Url.endsPath ch = false) ∧
      '/' ∈ (l.operation "").resource.toList := by
  have hall : ((l.operation "").resource.toList.all (! Url.endsPath ·) &&
      (l.operation "").resource.toList.contains '/') = true := by
    cases l <;> decide +kernel
  simpa only [Bool.and_eq_true, List.all_eq_true, List.contains_iff_mem, Bool.not_eq_true'] using hall

/-- All addresses below an endpoint are URLs, or none is. -/
theorem address_of_continues {config : Admin.Configuration} (hc : ClientOf config c)
    (hhttp : config.IsHttp) :
    (Continues (l.service.endpoint config) → ∃ u, Url.parse (l.address c) = .ok u ∧
      Url.schemeKind u.scheme = .special ∧ (u.parameters = [] ↔ c.AddsNoParameters)) ∧
    (¬ Continues (l.service.endpoint config) → ∃ e, Url.parse (l.address c) = .error e) := by
  obtain ⟨scheme, authority, rest, hopens, -⟩ := hc.opens hhttp l.service
  obtain ⟨q, hq⟩ := Operation.exists_address_eq c (l.operation "")
  have haddress : l.address c =
      String.ofList ((c.endpoint l.service).toList ++ '/' :: q) := hq
  refine ⟨?_, ?_⟩
  · rintro ⟨v, hv⟩
    rw [← hc.eq_config.2 l.service, Admin.continued_eq] at hv
    obtain ⟨u, hu, -⟩ := hopens.parse_of_parse hv q
    rw [← haddress] at hu
    obtain ⟨hmarks, hslash⟩ := l.resource_plain
    exact ⟨u, hu, hopens.special_of_parse (haddress ▸ hu),
      Operation.parameters_eq_nil_iff hc hhttp hmarks hslash hu⟩
  · intro hnot
    cases hparse : Url.parse (l.address c) with
    | error e => exact ⟨e, rfl⟩
    | ok u =>
        rw [haddress] at hparse
        obtain ⟨v, hv, -⟩ := hopens.parse_of_parse hparse []
        refine absurd ⟨v, ?_⟩ hnot
        rw [← hc.eq_config.2 l.service, Admin.continued_eq]
        exact hv

end ClientListing

end

/-- **The parameters that arrive.**  A client over HTTP walks through a listing over any transport
that captures what is sent.  The first request has the page size and the token that the walk was
started with, every other one the page size and the token of the page before, empty tokens left out;
a creation has the one parameter that names the new item.  All values arrive as they are.  In front
of them stand the parameters, the same ones each time, that the address has of itself; there are
none exactly when the ids of the client add none.  Nothing is sent if the endpoint is no URL when
something follows it. -/
theorem captured_parameters_iff {σ : Type} {config : Admin.Configuration} {c : Client}
    (hc : ClientOf config c) (hhttp : config.IsHttp) {send : Http.Transport σ}
    {log : σ → List Captured} (hsend : Captures send log) (l : ClientListing) :
    (Continues (l.service.endpoint config) →
      ∃ own : List Query.Pair, (own = [] ↔ c.AddsNoParameters) ∧
        (∀ token s ys w' s', Walk.Run (l.fetch c send) (Walk.start token) s ys w' s' →
          ∃ k captured, log s' = log s ++ captured ∧ (ys ≠ [] → 0 < k) ∧
            captured.map (·.queryPairs) = ((List.range k).map fun i =>
              own ++ l.wanted (tokenAt token (answer (l.fetch c send) token s) i)) ∧
            ∀ i, i + 1 < k → ∃ page, answer (l.fetch c send) token s i = .ok page ∧
              tokenAt token (answer (l.fetch c send) token s) (i + 1) = page.nextPageToken) ∧
        ∀ op pair, l.created? op = some pair → op.Accepts → ∀ s,
          ∃ r, log (Admin.run (op.plan c) send s).2 = log s ++ [r] ∧
            r.queryPairs = own ++ [pair]) ∧
    (¬ Continues (l.service.endpoint config) →
      (∀ token s, (l.fetch c send token s).2 = s) ∧
      ∀ op pair, l.created? op = some pair → op.Accepts → ∀ s,
        (Admin.run (op.plan c) send s).2 = s) := by
  obtain ⟨hurl, hnone⟩ := ClientListing.address_of_continues (l := l) hc hhttp
  refine ⟨?_, ?_⟩
  · intro hcontinues
    obtain ⟨u, hu, hspecial, hown⟩ := hurl hcontinues
    refine ⟨u.parameters, hown, ?_, ?_⟩
    · intro token s ys w' s' hrun
      exact ClientListing.captured_run hsend hu hspecial hrun
    · intro op pair hpair haccepts s
      obtain ⟨body, interpret, hplan⟩ := ClientListing.plan_of_created hpair haccepts
      rw [hplan]
      exact hsend.run_plan .post [pair] body interpret hu hspecial s
  · intro hcontinues
    obtain ⟨e, he⟩ := hnone hcontinues
    refine ⟨?_, ?_⟩
    · intro token s
      rw [ClientListing.fetch, ClientListing.page_eq, Exchange.plan, he]
      rfl
    · intro op pair hpair haccepts s
      obtain ⟨body, interpret, hplan⟩ := ClientListing.plan_of_created (c := c) hpair haccepts
      rw [hplan, Exchange.plan, he]
      rfl

/-- A token of separators, signs and blanks arrives as the backend handed it out. -/
theorem token_arrives_whole :
    let body := (Json.object [("oauthIdpConfigs", .arr [Json.object [("name", .str "oidc.b")]]),
      ("nextPageToken", .str "a&b=c+ %41#\u00e9")]).bytes
    ∃ w' s', Walk.Run (ClientListing.oidc.fetch tenantClient (Server.transport .up))
        (Walk.start "") (Server.start (.json body))
        [some (.ok ⟨"oidc.b", "", false, "", ""⟩), some (.ok ⟨"oidc.b", "", false, "", ""⟩)] w' s' ∧
      s'.log.map (·.queryPairs) =
        [[("pageSize", "100")], [("pageSize", "100"), ("pageToken", "a&b=c+ %41#\u00e9")]] := by
  intro body
  have hproject : ClientOf ⟨"p", some "http://h"⟩ ⟨"p", none, "http://h", "http://h"⟩ :=
    .project (by decide +kernel)
  have htenant : Client.forTenant ⟨"p", none, "http://h", "http://h"⟩ "t" = .ok tenantClient := rfl
  obtain ⟨u, hu, hspecial, -, -⟩ := tenant_providers_url
  obtain ⟨page, hpage, hitems, htoken⟩ : ∃ page, ClientListing.oidc.interpret body = .ok page ∧
      page.items = [⟨"oidc.b", "", false, "", ""⟩] ∧ page.nextPageToken = "a&b=c+ %41#\u00e9" := by
    have hread : (Exchange.readBody Provider.Oidc.pageOfTree? body).toOption.map
        (fun page => (page.items, page.nextPageToken)) =
        some ([⟨"oidc.b", "", false, "", ""⟩], "a&b=c+ %41#\u00e9") := by decide +kernel
    obtain ⟨page, hpage, heq⟩ := Admin.exists_eq_ok_of_map hread
    exact ⟨page, hpage, Prod.mk.inj heq⟩
  have hsucceeds : (Server.start (.json body)).Succeeds := by decide
  -- an echo server gives every request the same page
  have hfetch : ∀ (token : String) (log : List Captured), ∃ r,
      ClientListing.oidc.fetch tenantClient (Server.transport .up) token
        { Server.start (.json body) with log := log } =
      (.ok page, { Server.start (.json body) with log := log ++ [r] }) := by
    intro token log
    obtain ⟨r, hrun, -⟩ := run_plan .get (ClientListing.oidc.parameters token) none
      ClientListing.oidc.interpret (s := { Server.start (.json body) with log := log }) hu hspecial
      hsucceeds
    have hbody : { Server.start (.json body) with log := log }.configuration.body = body := rfl
    rw [← ClientListing.page_eq, hbody, hpage] at hrun
    exact ⟨r, hrun⟩
  obtain ⟨r₁, hfirst⟩ := hfetch "" []
  obtain ⟨r₂, hsecond⟩ := hfetch page.nextPageToken [r₁]
  have hopen : page.nextPageToken ≠ "" := by rw [htoken]; decide
  have hcall : Walk.Returns (ClientListing.oidc.fetch tenantClient (Server.transport .up))
      (Walk.start "") (Server.start (.json body)) (some (.ok ⟨"oidc.b", "", false, "", ""⟩))
      ⟨page.nextPageToken, [], false⟩ { Server.start (.json body) with log := [r₁] } := by
    have hstart : ClientListing.oidc.fetch tenantClient (Server.transport .up) ""
        (Server.start (.json body)) = _ := hfirst
    exact ⟨1, by simp [Walk.next, Walk.advance, Walk.start, hstart, hitems, hopen]⟩
  have hcall' : Walk.Returns (ClientListing.oidc.fetch tenantClient (Server.transport .up))
      ⟨page.nextPageToken, [], false⟩ { Server.start (.json body) with log := [r₁] }
      (some (.ok ⟨"oidc.b", "", false, "", ""⟩))
      ⟨page.nextPageToken, [], false⟩ { Server.start (.json body) with log := [r₁, r₂] } :=
    ⟨1, by simp [Walk.next, Walk.advance, hsecond, hitems, hopen]⟩
  have hrun := Walk.Run.cons hcall (.cons hcall' (.nil _ _))
  refine ⟨_, _, hrun, ?_⟩
  obtain ⟨own, hown, hruns, -⟩ := (captured_parameters_iff (.tenant hproject htenant)
    (by decide +kernel) captures_server .oidc).1 (by decide +kernel)
  obtain rfl : own = [] :=
    hown.mpr (Client.addsNoParameters_of_no_mark (by decide) (by simp [tenantClient]))
  obtain ⟨k, captured, hlog, -, hpairs, hsteps⟩ := hruns _ _ _ _ _ hrun
  obtain rfl : captured = [r₁, r₂] := hlog.symm
  obtain rfl : 2 = k := by simpa using congrArg List.length hpairs
  obtain ⟨page', hanswer, hnext⟩ := hsteps 0 (by decide)
  obtain rfl : page = page' :=
    Except.ok.inj ((congrArg Prod.fst hfirst).symm.trans hanswer)
  have hwanted₁ : ClientListing.oidc.wanted "" = [("pageSize", "100")] := by decide
  have hwanted₂ : ClientListing.oidc.wanted page.nextPageToken =
      [("pageSize", "100"), ("pageToken", "a&b=c+ %41#\u00e9")] := by
    rw [htoken]
    decide
  calc [r₁, r₂].map (·.queryPairs) = [ClientListing.oidc.wanted "",
        ClientListing.oidc.wanted (tokenAt "" (answer (ClientListing.oidc.fetch tenantClient
          (Server.transport .up)) "" (Server.start (.json body))) 1)] := hpairs
    _ = _ := by rw [hnext, hwanted₁, hwanted₂]

/-- A question mark in the id of a tenant brings a parameter along that nobody asked for. -/
theorem marked_tenant_adds_parameter :
    ∃ c, Client.forTenant ⟨"p", none, "http://h", "http://h"⟩ "t?x=1" = .ok c ∧
      ((ClientListing.users.fetch c (Server.transport .up) ""
        (Server.start (.json (Utf8.ofString "\x7b\x7d")))).2.log.map (·.queryPairs)) =
        [[("x", "1/accounts:batchGet"), ("maxResults", "1000")]] ∧
      ((ClientListing.users.fetch c (Server.transport .up) ""
        (Server.start (.json (Utf8.ofString "\x7b\x7d")))).2.log.map (·.queryPairs)) ≠
        [ClientListing.users.wanted ""] :=
  ⟨_, rfl, by decide +kernel, by decide +kernel⟩

end AccountWire.Echo
