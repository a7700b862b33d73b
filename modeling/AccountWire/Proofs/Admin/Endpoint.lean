import AccountWire.Admin.Client
import AccountWire.Proofs.Url.Opening

/-!
# Endpoints and the clients made from them

The addresses of a client begin with an endpoint that was a URL when the client was made.  Its
slashes at the end are gone, and text follows that the parser did not see then; `Continuation` says
how it is read after that (`exists_continuation`).  An endpoint over HTTP without query and fragment
opens every such address (`opens_of_isHttpEndpoint`).  Unless it ends in a blank, which only the end
of a URL may do, its path is also the beginning of theirs (`exists_endpointPath`).
-/

namespace AccountWire.Admin

open Url (Opens EndsWell stackOf endsPath isBlank isKept Reads)

/-! ### Endpoints -/

/-- An endpoint over HTTP without query and fragment. -/
def IsHttpEndpoint (endpoint : String) : Prop :=
  ∃ u, Url.parse endpoint = .ok u ∧ (u.scheme = "http" ∨ u.scheme = "https") ∧
    u.query = none ∧ u.fragment = none

instance (endpoint : String) : Decidable (IsHttpEndpoint endpoint) :=
  decidable_of_iff ((Url.parse endpoint).toOption.any fun u =>
      (u.scheme = "http" || u.scheme = "https") && u.query = none && u.fragment = none) (by
    unfold IsHttpEndpoint
    cases Url.parse endpoint <;> simp [Except.toOption, and_assoc])

/-- The segments of an endpoint's path without empty ones at its end: the endpoint shows them, and
so does the endpoint with something more to come. -/
def EndpointPath (endpoint : String) (ss : List String) : Prop :=
  ∃ u u' k, Url.parse endpoint = .ok u ∧ u.path = .segments (ss ++ List.replicate k "") ∧
    Url.parse (trimSlashes endpoint ++ "/") = .ok u' ∧ u'.path = .segments (ss ++ [""])

/-- Whether an endpoint is still a URL when something follows it. -/
def Continues (endpoint : String) : Prop :=
  ∃ u, Url.parse (trimSlashes endpoint ++ "/") = .ok u

instance (endpoint : String) : Decidable (Continues endpoint) :=
  decidable_of_iff ((Url.parse (trimSlashes endpoint ++ "/")).toOption.isSome = true) (by
    unfold Continues
    cases Url.parse (trimSlashes endpoint ++ "/") <;> simp [Except.toOption])

theorem continued_eq (endpoint : String) :
    endpoint ++ "/" = String.ofList (endpoint.toList ++ '/' :: []) := by
  rw [← String.toList_inj, String.toList_ofList, String.toList_append]
  rfl

theorem EndpointPath.continues {endpoint : String} {ss : List String}
    (h : EndpointPath endpoint ss) : Continues endpoint := by
  obtain ⟨-, u', -, -, -, hu', -⟩ := h
  exact ⟨u', hu'⟩

/-- Slashes are trimmed from the end. -/
theorem toList_trimSlashes (s : String) :
    (trimSlashes s).toList = (s.toList.reverse.dropWhile (· = '/')).reverse := by
  rw [trimSlashes, String.toList_ofList]

/-- An endpoint is what is left of it, and slashes. -/
theorem exists_trimSlashes_append (s : String) :
    ∃ n, s.toList = (trimSlashes s).toList ++ List.replicate n '/' := by
  refine ⟨(s.toList.reverse.takeWhile (· = '/')).length, ?_⟩
  have hslash : s.toList.reverse.takeWhile (· = '/') =
      List.replicate (s.toList.reverse.takeWhile (· = '/')).length '/' := by
    rw [List.eq_replicate_iff]
    refine ⟨rfl, ?_⟩
    intro c hc
    simpa using List.all_eq_true.mp List.all_takeWhile c hc
  rw [toList_trimSlashes, ← List.reverse_replicate, ← hslash, ← List.reverse_append,
    List.takeWhile_append_dropWhile, List.reverse_reverse]

/-- A blank neither ends an authority nor a path. -/
theorem plain_of_isBlank {c : Char} (h : isBlank c = true) :
    Url.SchemeKind.special.endsAuthority c = false ∧ endsPath c = false := by
  have hne : ∀ d : Char, 0x20 < d.toNat → c ≠ d := by
    rintro d hd rfl
    simp only [isBlank, decide_eq_true_eq] at h
    omega
  have h1 := hne '/' (by decide)
  have h2 := hne '\\' (by decide)
  have h3 := hne '?' (by decide)
  have h4 := hne '#' (by decide)
  simp [Url.SchemeKind.endsAuthority, Url.SchemeKind.isSlash, endsPath, h1, h2, h3, h4]

/-- What becomes of an endpoint's authority and of all that follows it when the endpoint is
continued: slashes at its end are gone, and blanks there, which do not count in the endpoint itself,
count then. -/
inductive Continuation (authority : List Char) : (rest authority' rest' : List Char) → Prop where
  | slashes (rest : List Char) (n : Nat) :
    Continuation authority (rest ++ List.replicate n '/') authority rest
  | blankAuthority (authority' : List Char) : Continuation authority [] authority' []
  | blankRest {rest blanks : List Char} (hrest : rest ≠ []) (hne : blanks ≠ [])
    (hblanks : ∀ c ∈ blanks, isBlank c = true) :
    Continuation authority rest authority (rest ++ blanks)

/-- Marks are neither gained nor lost. -/
theorem Continuation.exists_endsPath_iff {authority rest authority' rest' : List Char}
    (h : Continuation authority rest authority' rest') :
    (∃ c ∈ rest', endsPath c = true) ↔ ∃ c ∈ rest, endsPath c = true := by
  have happend : ∀ {l r : List Char}, (∀ c ∈ r, endsPath c = false) →
      ((∃ c ∈ l ++ r, endsPath c = true) ↔ ∃ c ∈ l, endsPath c = true) := by
    intro l r hr
    constructor
    · rintro ⟨c, hc, hend⟩
      rcases List.mem_append.mp hc with hc | hc
      · exact ⟨c, hc, hend⟩
      · rw [hr c hc] at hend
        cases hend
    · rintro ⟨c, hc, hend⟩
      exact ⟨c, List.mem_append_left _ hc, hend⟩
  cases h with
  | slashes _ n =>
      refine (happend fun c hc => ?_).symm
      rw [List.eq_of_mem_replicate hc]
      rfl
  | blankAuthority => exact Iff.rfl
  | blankRest hrest hne hblanks => exact happend fun c hc => (plain_of_isBlank (hblanks c hc)).2

/-- There is a mark in what follows an authority exactly if there was one before. -/
theorem Continuation.plain_iff {authority rest authority' rest' : List Char}
    (h : Continuation authority rest authority' rest') :
    (∀ c ∈ rest', endsPath c = false) ↔ ∀ c ∈ rest, endsPath c = false := by
  simpa using not_congr h.exists_endsPath_iff

/-- An endpoint without slashes at its end is continued right after its last character. -/
theorem exists_continuation_of_reads {p authority rest : List Char} {scheme : String}
    (h : Reads (Url.clean p) scheme authority rest) :
    ∃ authority' rest', Opens p scheme authority' rest' ∧
      Continuation authority rest authority' rest' ∧
      (EndsWell p → authority' = authority ∧ rest' = rest) := by
  obtain ⟨blanks, hkept, hblank, hwell⟩ := Url.exists_kept_eq p
  by_cases hnone : blanks = []
  · refine ⟨authority, rest, ?_, ?_, fun _ => ⟨rfl, rfl⟩⟩
    · rw [Opens, hkept, hnone, List.append_nil]
      exact h
    · simpa using Continuation.slashes rest 0
  · have hend : ¬ EndsWell p := fun hp => hnone (hwell hp)
    have happend := h.append_plain (r := blanks) fun c hc => (plain_of_isBlank (hblank c hc)).1
    rw [← hkept] at happend
    split at happend
    · next hrest =>
      subst hrest
      exact ⟨_, [], happend, .blankAuthority _, fun hp => absurd hp hend⟩
    · next hrest =>
      exact ⟨_, _, happend, .blankRest hrest hnone hblank, fun hp => absurd hp hend⟩

/-- How an endpoint is read that is continued. -/
theorem exists_continuation {endpoint : String} {u : Url} (hu : Url.parse endpoint = .ok u)
    (hspecial : Url.schemeKind u.scheme = .special) :
    ∃ authority rest authority' rest' a, Url.parseAuthority u.scheme authority true = .ok (a, []) ∧
      u = Url.assemble u.scheme (some a) (Url.parsePath .special) (Url.Tail.ofChars rest) ∧
      Opens (trimSlashes endpoint).toList u.scheme authority' rest' ∧
      Continuation authority rest authority' rest' ∧
      (EndsWell endpoint.toList →
        authority' = authority ∧ ∃ n, rest = rest' ++ List.replicate n '/') := by
  obtain ⟨authority, rest, a, hreads, hauth, hparts⟩ := Reads.of_parse hu hspecial
  obtain ⟨n, hn⟩ := exists_trimSlashes_append endpoint
  rw [hn] at hreads ⊢
  generalize (trimSlashes endpoint).toList = p at hreads ⊢
  cases n with
  | zero =>
      rw [List.replicate_zero, List.append_nil] at hreads ⊢
      obtain ⟨authority', rest', hopens, hcont, hwell⟩ := exists_continuation_of_reads hreads
      refine ⟨authority, rest, authority', rest', a, hauth, hparts, hopens, hcont, ?_⟩
      intro hend
      obtain ⟨rfl, rfl⟩ := hwell hend
      exact ⟨rfl, 0, by simp⟩
  | succ m =>
      have hslashes : Url.trimEnd (List.replicate m '/') = List.replicate m '/' := by
        apply EndsWell.trimEnd_eq
        intro c hc
        rw [List.eq_of_mem_replicate (List.mem_of_getLast? hc)]
        rfl
      have hclean : Url.clean (p ++ List.replicate (m + 1) '/') =
          Url.kept p ++ List.replicate (m + 1) '/' := by
        rw [List.replicate_succ, Url.clean_append (by decide), hslashes]
        simp [isKept]
      rw [hclean] at hreads
      obtain ⟨rest', hopens, rfl⟩ := hreads.of_append_slashes
      exact ⟨authority, _, authority, rest', a, hauth, hparts, hopens, .slashes _ _,
        fun _ => ⟨rfl, m + 1, rfl⟩⟩

/-- How an endpoint without query and fragment is read that is continued. -/
theorem exists_opens {endpoint : String} {u : Url} (hu : Url.parse endpoint = .ok u)
    (hspecial : Url.schemeKind u.scheme = .special) (hquery : u.query = none)
    (hfragment : u.fragment = none) :
    ∃ authority rest, Opens (trimSlashes endpoint).toList u.scheme authority rest ∧
      (∀ c ∈ rest, endsPath c = false) ∧
      (EndsWell endpoint.toList →
        (∃ a, Url.parseAuthority u.scheme authority true = .ok a) ∧
        ∃ k, u.path = .segments ((stackOf rest).reverse ++ List.replicate k "")) := by
  obtain ⟨authority, rest, authority', rest', a, hauth, hparts, hopens, hcont, hwell⟩ :=
    exists_continuation hu hspecial
  have hplain : ∀ c ∈ rest, endsPath c = false := by
    rw [hparts] at hquery hfragment
    exact Url.Tail.forall_of_none (by simpa [Url.assemble] using hquery)
      (by simpa [Url.assemble] using hfragment)
  have hplain' := hcont.plain_iff.mpr hplain
  refine ⟨authority', rest', hopens, hplain', ?_⟩
  intro hend
  obtain ⟨rfl, n, rfl⟩ := hwell hend
  refine ⟨⟨_, hauth⟩, ?_⟩
  have hpath : u.path = Url.parsePath .special (rest' ++ List.replicate n '/') := by
    rw [hparts, Url.path_assemble_of_forall _ _ hplain]
  rw [hpath]
  exact Url.parsePath_append_slashes (hopens.rest_slash hplain') n

/-- The schemes of HTTP are special. -/
theorem schemeKind_of_http {scheme : String} (h : scheme = "http" ∨ scheme = "https") :
    Url.schemeKind scheme = .special := by
  rcases h with rfl | rfl <;> decide

/-- **An endpoint over HTTP opens all addresses that begin with it.** -/
theorem opens_of_isHttpEndpoint {endpoint : String} (h : IsHttpEndpoint endpoint) :
    ∃ scheme authority rest, Opens (trimSlashes endpoint).toList scheme authority rest ∧
      ∀ c ∈ rest, endsPath c = false := by
  obtain ⟨u, hu, hscheme, hquery, hfragment⟩ := h
  obtain ⟨authority, rest, hopens, hplain, -⟩ :=
    exists_opens hu (schemeKind_of_http hscheme) hquery hfragment
  exact ⟨u.scheme, authority, rest, hopens, hplain⟩

/-- The path of a continued endpoint is where its resources are read from. -/
theorem EndpointPath.eq_stackOf {endpoint scheme : String} {authority rest : List Char}
    {ss : List String} (h : EndpointPath endpoint ss)
    (hopens : Opens (trimSlashes endpoint).toList scheme authority rest)
    (hplain : ∀ c ∈ rest, endsPath c = false) : ss = (stackOf rest).reverse := by
  obtain ⟨-, u', -, -, -, hu', hpath⟩ := h
  rw [continued_eq] at hu'
  rw [hopens.path hplain hu'] at hpath
  have hempty : Url.addSegments .special (stackOf rest)
      (Split.pieces Url.SchemeKind.special.isSlash (Url.shown [])) = "" :: stackOf rest := rfl
  rw [hempty, List.reverse_cons, Url.Path.segments.injEq] at hpath
  exact (List.append_cancel_right hpath).symm

/-- **An endpoint that does not end in a blank has a path**: requests can be made for the addresses
that begin with it, and their paths begin with its path. -/
theorem exists_endpointPath {endpoint : String} (h : IsHttpEndpoint endpoint)
    (hend : EndsWell endpoint.toList) : ∃ ss, EndpointPath endpoint ss := by
  obtain ⟨u, hu, hscheme, hquery, hfragment⟩ := h
  obtain ⟨authority, rest, hopens, hplain, hwell⟩ :=
    exists_opens hu (schemeKind_of_http hscheme) hquery hfragment
  obtain ⟨⟨a, hauth⟩, k, hpath⟩ := hwell hend
  have hparse := hopens.parse []
  rw [hauth] at hparse
  have hu' : Url.parse (trimSlashes endpoint ++ "/") = .ok (Url.assemble u.scheme (some a.1)
      (Url.parsePath .special) (Url.Tail.ofChars (rest ++ ['/']))) := by
    rw [continued_eq]
    exact hparse
  refine ⟨(stackOf rest).reverse, u, _, k, hu, hpath, hu', ?_⟩
  rw [continued_eq] at hu'
  have hlast := hopens.path hplain hu'
  rw [hlast, ← List.reverse_cons]
  rfl

/-! ### Clients -/

/-- The two services of the backend; a client knows an endpoint for each. -/
inductive Service where
  | users
  | providers
deriving DecidableEq, Repr

/-- The endpoint of a service as a configuration gives it. -/
def Service.endpoint (config : Configuration) : Service → String
  | .users => config.endpoint.getD defaultUserEndpoint
  | .providers => config.endpoint.getD defaultProviderEndpoint

/-- The endpoint of a service that a client uses. -/
def Client.endpoint (c : Client) : Service → String
  | .users => c.userEndpoint
  | .providers => c.providerEndpoint

/-- The clients of a configuration: the one for the project, and those for its tenants. -/
inductive ClientOf (config : Configuration) : Client → Prop where
  | project {c : Client} (h : Client.create config = .ok c) : ClientOf config c
  | tenant {p c : Client} {tenantId : String} (hp : ClientOf config p)
      (h : p.forTenant tenantId = .ok c) : ClientOf config c

/-- A configuration with an endpoint over HTTP, if it has one. -/
def Configuration.IsHttp (config : Configuration) : Prop :=
  ∀ endpoint, config.endpoint = some endpoint → IsHttpEndpoint endpoint

instance (config : Configuration) : Decidable config.IsHttp :=
  decidable_of_iff (config.endpoint.all fun endpoint => decide (IsHttpEndpoint endpoint)) (by
    unfold Configuration.IsHttp
    cases config.endpoint <;> simp)

/-- The client of a tenant is the client of its project with the id of the tenant. -/
theorem forTenant_eq_ok {p c : Client} {tenantId : String} (h : p.forTenant tenantId = .ok c) :
    tenantId ≠ "" ∧ c = { p with tenantId := some tenantId } := by
  unfold Client.forTenant at h
  split at h
  · cases h
  · next hne => exact ⟨hne, (Except.ok.inj h).symm⟩

/-- A client of a configuration is for its project and uses its endpoints without slashes at their
ends. -/
theorem ClientOf.eq_config {config : Configuration} {c : Client} (h : ClientOf config c) :
    c.projectId = config.projectId ∧
      ∀ service, c.endpoint service = trimSlashes (Service.endpoint config service) := by
  induction h with
  | project h =>
      unfold Client.create at h
      split at h
      · cases h
      · cases hendpoint : config.endpoint with
        | none =>
            simp only [hendpoint, Except.ok.injEq] at h
            subst h
            refine ⟨rfl, ?_⟩
            intro service
            cases service <;> simp only [Client.endpoint, Service.endpoint, hendpoint] <;> rfl
        | some endpoint =>
            simp only [hendpoint] at h
            split at h
            · cases h
            · cases h
              refine ⟨rfl, ?_⟩
              intro service
              cases service <;> simp [Client.endpoint, Service.endpoint, hendpoint]
  | tenant hp h ih =>
      rw [(forTenant_eq_ok h).2]
      exact ih

/-- The endpoints that a configuration need not name are over HTTP, too. -/
theorem Configuration.IsHttp.endpoint {config : Configuration} (h : config.IsHttp)
    (service : Service) : IsHttpEndpoint (service.endpoint config) := by
  cases hendpoint : config.endpoint with
  | some endpoint => cases service <;> simpa [Service.endpoint, hendpoint] using h _ hendpoint
  | none =>
      cases service with
      | users =>
          simp only [Service.endpoint, hendpoint]
          decide
      | providers =>
          simp only [Service.endpoint, hendpoint]
          decide +kernel

theorem ClientOf.projectId_ne {config : Configuration} {c : Client} (h : ClientOf config c) :
    config.projectId ≠ "" := by
  induction h with
  | project h =>
      unfold Client.create at h
      split at h
      · cases h
      · next hne => exact hne
  | tenant hp h ih => exact ih

/-- **The endpoint of a client over HTTP** opens its addresses. -/
theorem ClientOf.opens {config : Configuration} {c : Client} (h : ClientOf config c)
    (hhttp : config.IsHttp) (service : Service) :
    ∃ scheme authority rest, Opens (c.endpoint service).toList scheme authority rest ∧
      ∀ ch ∈ rest, endsPath ch = false := by
  rw [h.eq_config.2 service]
  exact opens_of_isHttpEndpoint (hhttp.endpoint service)

/-- The resource that all others of a client lie below, without the slash before it. -/
def Client.scope (c : Client) : List Char :=
  "projects/".toList ++ c.projectId.toList ++ (c.tenantId.elim "" ("/tenants/" ++ ·)).toList

/-- The base of a client is the endpoint, a slash and the scope. -/
theorem Client.toList_base (c : Client) (endpoint : String) :
    (c.base endpoint).toList = endpoint.toList ++ '/' :: c.scope := by
  have hslash : "/projects/".toList = '/' :: "projects/".toList := by simp
  unfold Client.base Client.scope
  rw [String.toList_append, String.toList_append, String.toList_append, hslash]
  -- the letters of the word would be compared one by one
  generalize "projects/".toList = word
  simp only [List.append_assoc, List.cons_append]

end AccountWire.Admin
