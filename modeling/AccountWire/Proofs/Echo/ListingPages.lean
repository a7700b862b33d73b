import AccountWire.Proofs.Echo.Arrival
import AccountWire.Proofs.Echo.ListingContract
import AccountWire.Proofs.Json.Members
import AccountWire.Proofs.Json.Patch

/-!
# The listings of a client, checked over an echo server

An echo server gives every request the same response.  When that is the last page of a listing, the
listing is one page long: a walk through it makes one request, in its first call, and has nothing
but a buffer from then on (`stateAfter_onePage`, `yieldAt_onePage`).

The checker counts the requests before it asks for the end.  With items on the page, the request is
counted then, and the walk keeps the contract (`keepsContract_onePage`).  Without items, the call
that finds the end is the first one, so the request comes after the count
(`verifyListing_emptyPage`).  The three listings of a client differ in what a page holds and how it
is asked for, and in nothing else (`ClientListing.page_eq`).
-/

namespace AccountWire.User

instance : ReflBEq ExportedUser where
  rfl {u} := by
    have hclaims : ∀ claims, sameClaims claims claims = true := by
      intro claims
      cases claims with
      | none => rfl
      | some ms => exact Json.sameMembers_self ms
    show ExportedUser.same u u = true
    simp [ExportedUser.same, Record.same, hclaims]

end AccountWire.User

namespace AccountWire.Echo

open Admin (Client ClientOf Continues Exchange Operation Service continued_eq)
open Json (Tree)
open Listing (Fetch Page Walk Yield)

/-! ### A walk over one page -/

section

variable {σ ε α : Type} {fetch : Fetch σ ε α}

/-- A walk that is exhausted hands out what it holds, and fetches nothing. -/
theorem nextWithin_exhausted (fetches : Nat) (items : List α) (s : σ) :
    Walk.nextWithin fetch fetches (⟨"", items, true⟩, s) =
      (items.head?.map .ok, ⟨"", items.tail, true⟩, s) := by
  cases items <;> cases fetches <;> rfl

/-- A walk that fetches nothing any more has its buffer for its state. -/
theorem stateAfter_exhausted (fetches : Nat) (items : List α) (s : σ) (n : Nat) :
    stateAfter (Walk.nextWithin fetch fetches) (⟨"", items, true⟩, s) n =
      (⟨"", items.drop n, true⟩, s) := by
  induction n generalizing items with
  | zero => rfl
  | succ n ih => rw [stateAfter_succ, nextWithin_exhausted, ih, List.drop_tail]

/-- The calls of an exhausted walk answer the items that it holds, and then that it has ended. -/
theorem yieldAt_exhausted (fetches : Nat) (items : List α) (s : σ) (n : Nat) :
    yieldAt (Walk.nextWithin fetch fetches) (⟨"", items, true⟩, s) n = items[n]?.map .ok := by
  rw [yieldAt, stateAfter_exhausted, nextWithin_exhausted, List.head?_drop]

variable {token : String} {s s' : σ} {items : List α}
  (hfetch : fetch token s = (.ok ⟨items, ""⟩, s')) (fetches : Nat)

include hfetch

/-- The first call of a walk fetches the page and then answers from it. -/
theorem nextWithin_start :
    Walk.nextWithin fetch (fetches + 1) (Walk.start token, s) =
      (items.head?.map .ok, ⟨"", items.tail, true⟩, s') := by
  have hadvance : Walk.advance fetch (Walk.start token) s = .fetched ⟨"", items, true⟩ s' := by
    simp [Walk.advance, Walk.start, hfetch]
  rw [Walk.nextWithin, Walk.next, hadvance]
  cases items <;> cases fetches <;> rfl

/-- After the first call of a listing with one page there is nothing left to fetch. -/
theorem stateAfter_onePage (n : Nat) :
    stateAfter (Walk.nextWithin fetch (fetches + 1)) (Walk.start token, s) (n + 1) =
      (⟨"", items.drop (n + 1), true⟩, s') := by
  rw [stateAfter_succ, nextWithin_start hfetch, stateAfter_exhausted, List.drop_tail]

/-- A listing with one page answers the items of this page, and then that it has ended. -/
theorem yieldAt_onePage (n : Nat) :
    yieldAt (Walk.nextWithin fetch (fetches + 1)) (Walk.start token, s) n = items[n]?.map .ok := by
  cases n with
  | zero => rw [yieldAt_zero, nextWithin_start hfetch, List.head?_eq_getElem?]
  | succ n =>
      rw [yieldAt_succ, nextWithin_start hfetch, yieldAt_exhausted, List.getElem?_tail]

variable [BEq α]

/-- **A page with items keeps the contract**: its one request is made before the last item. -/
theorem keepsContract_onePage [ReflBEq α] {log : σ → List Captured} {r : Captured}
    (hlog : log s' = log s ++ [r]) (hitems : items ≠ []) :
    KeepsContract (Walk.nextWithin fetch (fetches + 1)) (fun w => log w.2) items
      ⟨r.path, r.canonicalQuery⟩ (Walk.start token, s) := by
  have hended : ∀ n, items.length ≤ n →
      stateAfter (Walk.nextWithin fetch (fetches + 1)) (Walk.start token, s) n =
        (⟨"", [], true⟩, s') := by
    intro n hn
    have hpos := List.length_pos_iff.mpr hitems
    obtain ⟨m, rfl⟩ : ∃ m, n = m + 1 := ⟨n - 1, by omega⟩
    rw [stateAfter_onePage hfetch, List.drop_eq_nil_of_le hn]
  refine ⟨?_, ?_, ?_, r, ?_, rfl, rfl⟩
  · intro i want hwant
    exact ⟨want, by rw [yieldAt_onePage hfetch, hwant]; rfl, BEq.rfl⟩
  · intro i _
    rw [yieldAt_onePage hfetch, List.getElem?_eq_none (Nat.le_add_right _ _)]
    rfl
  · rw [hended _ (Nat.le_add_right _ _), hended _ (Nat.le_refl _)]
  · rw [hended _ (Nat.le_add_right _ _), hlog, List.getLast?_concat]

variable [Outline α] (context : String) (message : ε → String)

/-- **A page without items is reported**: its one request is made by the call that finds the end,
and the count was taken before. -/
theorem verifyListing_emptyPage {log : σ → List Captured} {r : Captured}
    (hlog : log s' = log s ++ [r]) (hitems : items = []) :
    (verifyListing context message (Walk.nextWithin fetch (fetches + 1)) (fun w => log w.2) items
        ⟨r.path, r.canonicalQuery⟩ (Walk.start token, s)).1.failures =
      [Mismatches.difference (context ++ " requests after exhaustion")
        (toString ((log s).length + 1)) (toString (log s).length)] := by
  subst hitems
  have hfirst : Walk.nextWithin fetch (fetches + 1) (Walk.start token, s) =
      (none, ⟨"", [], true⟩, s') := nextWithin_start hfetch fetches
  have hagain : Walk.nextWithin fetch (fetches + 1) (⟨"", [], true⟩, s') =
      (none, ⟨"", [], true⟩, s') := nextWithin_exhausted (fetches + 1) [] s'
  have hcount : ((log s).length + 1 == (log s).length) = false := by simp
  simp [verifyListing, verifyItems, verifyEnd, verifyStaysEnded, verifyLastRequest, extraCalls,
    hfirst, hagain, hlog, Mismatches.check, Mismatches.checkEq, Mismatches.checkPath,
    Mismatches.checkQuery, Mismatches.record, Mismatches.empty, outline, List.range_succ]

/-- **A listing with one page** keeps the contract unless it is empty: then its one request is made
by the call that finds the end. -/
theorem verifyListing_onePage [ReflBEq α] {log : σ → List Captured} {r : Captured}
    (hlog : log s' = log s ++ [r]) :
    (verifyListing context message (Walk.nextWithin fetch (fetches + 1)) (fun w => log w.2) items
        ⟨r.path, r.canonicalQuery⟩ (Walk.start token, s)).1.failures =
      if items = [] then
        [Mismatches.difference (context ++ " requests after exhaustion")
          (toString ((log s).length + 1)) (toString (log s).length)]
      else [] := by
  by_cases hitems : items = []
  · rw [if_pos hitems]
    exact verifyListing_emptyPage hfetch fetches context message hlog hitems
  · rw [if_neg hitems]
    have hkept := keepsContract_onePage hfetch fetches hlog hitems
    exact List.isEmpty_iff.mp ((verifyListing_isEmpty_iff context message _ _ _ _ _).mpr hkept)

end

/-! ### Pages in a body -/

section

variable {α : Type} {read : Tree → Option α} {name : String} {items : List α} {body : Bytes}

/-- A body is the last page of a listing: the text of an object that has an array of the items
under a name, and no token for another page. -/
def HoldsPage (read : Tree → Option α) (name : String) (items : List α) (body : Bytes) : Prop :=
  ∃ t, Tree.ofBytes? body = some t ∧ t.IsObject ∧ t.isNamed = true ∧
    t.field? name (Tree.items? read) [] = some items ∧
    t.field? "nextPageToken" Tree.text? "" = some ""

/-- A reader of pages reads the last page. -/
theorem HoldsPage.readBody {reader : Tree → Option (Page α)} (h : HoldsPage read name items body)
    (hreader : ∀ t, reader t = do
      let fs ← t.fields? [name, "nextPageToken"]
      return ⟨← fs.list? name read, ← fs.text? "nextPageToken"⟩) :
    Exchange.readBody reader body = .ok ⟨items, ""⟩ := by
  obtain ⟨t, hbody, hobject, hnamed, hitems, htoken⟩ := h
  rcases Tree.fields?_of_isObject hobject [name, "nextPageToken"] with
    ⟨-, hunnamed⟩ | ⟨fs, hfields, -, hget⟩
  · rw [hnamed] at hunnamed
    cases hunnamed
  · have hpage : reader t = some ⟨items, ""⟩ := by
      rw [hreader, hfields]
      simp only [Json.Fields.list?, Json.Fields.text?, hget, hitems, htoken, Option.bind_eq_bind,
        Option.bind_some, Option.pure_def]
    rw [Exchange.readBody, hbody, Option.bind_some, hpage]

end

/-! ### The listings of a client -/

/-- The listings of a client. -/
inductive ClientListing where
  | users
  | oidc
  | saml
deriving DecidableEq, Repr

namespace ClientListing

/-- What a listing yields. -/
def Item : ClientListing → Type
  | .users => User.ExportedUser
  | .oidc => Provider.Oidc
  | .saml => Provider.Saml

instance (l : ClientListing) : BEq l.Item :=
  match l with
  | .users => inferInstanceAs (BEq User.ExportedUser)
  | .oidc => inferInstanceAs (BEq Provider.Oidc)
  | .saml => inferInstanceAs (BEq Provider.Saml)

instance (l : ClientListing) : ReflBEq l.Item :=
  match l with
  | .users => inferInstanceAs (ReflBEq User.ExportedUser)
  | .oidc => inferInstanceAs (ReflBEq Provider.Oidc)
  | .saml => inferInstanceAs (ReflBEq Provider.Saml)

instance (l : ClientListing) : Outline l.Item :=
  match l with
  | .users => inferInstanceAs (Outline User.ExportedUser)
  | .oidc => inferInstanceAs (Outline Provider.Oidc)
  | .saml => inferInstanceAs (Outline Provider.Saml)

/-- The operation that asks for the page at a token. -/
def operation (token : String) : ClientListing → Operation
  | .users => .userPage token
  | .oidc => .oidcPage token
  | .saml => .samlPage token

/-- The service that a listing belongs to. -/
def service (l : ClientListing) : Service := (l.operation "").service

/-- The address of all pages. -/
def address (c : Client) (l : ClientListing) : String := (l.operation "").address c

/-- The parameters of the page at a token: its size, and the token unless it is empty. -/
def parameters (token : String) : ClientListing → List Query.Pair
  | .users =>
    ("maxResults", toString User.maxListedUsers) ::
      if token = "" then [] else [("nextPageToken", token)]
  | .oidc | .saml => Provider.pageParameters token

/-- Asks for the page at a token. -/
def page (c : Client) (token : String) :
    (l : ClientListing) → Except Admin.Error (Exchange (Page l.Item))
  | .users => User.page c token
  | .oidc => Provider.Oidc.page c token
  | .saml => Provider.Saml.page c token

/-- Reads a page. -/
def interpret : (l : ClientListing) → Bytes → Except Admin.Error (Page l.Item)
  | .users => User.interpretPage
  | .oidc => Exchange.readBody Provider.Oidc.pageOfTree?
  | .saml => Exchange.readBody Provider.Saml.pageOfTree?

/-- The listing as an iterator over an echo server, with the most fetches of one call. -/
def next (c : Client) (fetches : Nat) (l : ClientListing) :
    Walk l.Item × Server → Yield Admin.Error l.Item × (Walk l.Item × Server) :=
  Walk.nextWithin (fun token => Admin.run (l.page c token) (Server.transport .up)) fetches

/-- A body is the last page of a listing, with these items; users are shown, not as stored. -/
def Holds : (l : ClientListing) → List l.Item → Bytes → Prop
  | .users, items, body => ∃ stored : List User.StoredUser,
    HoldsPage User.StoredUser.ofTree? "users" stored body ∧ stored.mapM (·.export) = .ok items
  | .oidc, items, body => HoldsPage Provider.Oidc.ofTree? "oauthIdpConfigs" items body
  | .saml, items, body => HoldsPage Provider.Saml.ofTree? "inboundSamlConfigs" items body

/-- A page is planned for the address of its listing, with its parameters. -/
theorem page_eq (c : Client) (token : String) (l : ClientListing) :
    l.page c token =
      Exchange.plan .get (l.address c) (l.parameters token) none l.interpret := by
  cases l <;> rfl

/-- The last page is read as its items. -/
theorem interpret_of_holds {l : ClientListing} {items : List l.Item} {body : Bytes}
    (h : l.Holds items body) : l.interpret body = .ok ⟨items, ""⟩ := by
  cases l with
  | users =>
      obtain ⟨stored, hpage, hitems⟩ := h
      have hread : Exchange.readBody User.pageOfTree? body = .ok ⟨stored, ""⟩ :=
        hpage.readBody fun _ => rfl
      have hshown : stored.mapM User.StoredUser.export = .ok items := hitems
      show User.interpretPage body = _
      simp only [User.interpretPage, hread, hshown, bind, Except.bind]
      rfl
  | oidc => exact HoldsPage.readBody h fun _ => rfl
  | saml => exact HoldsPage.readBody h fun _ => rfl

/-- The listing of one page, at an address that is a URL. -/
theorem check_of_parse {c : Client} {l : ClientListing} {u : Url}
    (hu : Url.parse (l.address c) = .ok u) (hspecial : Url.schemeKind u.scheme = .special)
    (token context : String) (fetches : Nat) {s : Server} (hs : s.Succeeds) {items : List l.Item}
    (hitems : l.Holds items s.configuration.body) :
    (verifyListing context Admin.Error.message (l.next c (fetches + 1)) (fun w => w.2.log) items
        ⟨u.path.text, Query.encodeString (Query.sortByName (u.parameters ++ l.parameters token))⟩
        (Walk.start token, s)).1.failures =
      if items = [] then
        [Mismatches.difference (context ++ " requests after exhaustion")
          (toString (s.log.length + 1)) (toString s.log.length)]
      else [] := by
  obtain ⟨r, hrun, hpath, hquery⟩ := run_plan .get (l.parameters token) none l.interpret
    hu hspecial hs
  rw [← page_eq, interpret_of_holds hitems] at hrun
  rw [← hpath, ← hquery]
  exact verifyListing_onePage hrun fetches context Admin.Error.message rfl

end ClientListing

/-- **The listing of one page, checked.**  A client over HTTP lists the items of a page that is the
last one, from any token.  The checker has nothing to report if there are items.  If there are
none, it reports one failure and nothing else: it has counted the requests before the call that
finds the end, and takes the page's own request for one after the end. -/
theorem one_page_listing_checked {config : Admin.Configuration} {c : Client}
    (hc : ClientOf config c) (hhttp : config.IsHttp) (l : ClientListing)
    (hcontinues : Continues (l.service.endpoint config))
    (token context : String) (fetches : Nat) {s : Server} (hs : s.Succeeds) {items : List l.Item}
    (hitems : l.Holds items s.configuration.body) :
    ∃ u, Url.parse (l.address c) = .ok u ∧
      (verifyListing context Admin.Error.message (l.next c (fetches + 1)) (fun w => w.2.log) items
          ⟨u.path.text, Query.encodeString (Query.sortByName (u.parameters ++ l.parameters token))⟩
          (Walk.start token, s)).1.failures =
        if items = [] then
          [Mismatches.difference (context ++ " requests after exhaustion")
            (toString (s.log.length + 1)) (toString s.log.length)]
        else [] := by
  obtain ⟨scheme, authority, rest, hopens, -⟩ := hc.opens hhttp l.service
  obtain ⟨q, hq⟩ := Operation.exists_address_eq c (l.operation "")
  obtain ⟨v, hv⟩ := hcontinues
  rw [← hc.eq_config.2 l.service, continued_eq] at hv
  obtain ⟨u, hu, -⟩ := hopens.parse_of_parse hv q
  have haddress : Url.parse (l.address c) = .ok u := by
    rw [ClientListing.address, hq]
    exact hu
  exact ⟨u, haddress, ClientListing.check_of_parse haddress (hopens.special_of_parse hu) token
    context fetches hs hitems⟩

/-- A client for a tenant, over HTTP. -/
def tenantClient : Client := ⟨"p", some "t", "http://h", "http://h"⟩

/-- Where the tenant's providers are. -/
theorem tenant_providers_url : ∃ u, Url.parse (ClientListing.oidc.address tenantClient) = .ok u ∧
    Url.schemeKind u.scheme = .special ∧
    u.path.text = "/projects/p/tenants/t/oauthIdpConfigs" ∧ u.parameters = [] :=
  ⟨⟨"http", some ⟨"", none, some (.domain "h"), none⟩,
    .segments ["projects", "p", "tenants", "t", "oauthIdpConfigs"], none, none⟩,
    Admin.eq_ok_of_toOption (by decide +kernel), by decide, by decide, rfl⟩

/-- A page of one provider, asked for at a token, is accepted. -/
theorem one_provider_accepted :
    let body := (Json.object [("oauthIdpConfigs", .arr [Json.object
      [("name", .str "projects/p/oauthIdpConfigs/oidc.b"), ("enabled", .bool true)]]),
      ("nextPageToken", .str "")]).bytes
    let items : List ClientListing.oidc.Item := [⟨"oidc.b", "", true, "", ""⟩]
    (verifyListing "oidc()" Admin.Error.message (ClientListing.oidc.next tenantClient 1)
      (fun w => w.2.log) items
      ⟨"/projects/p/tenants/t/oauthIdpConfigs", "pageSize=100&pageToken=a+b"⟩
      (Walk.start "a b", Server.start (.json body))).1.isEmpty = true := by
  intro body items
  have hproject : ClientOf ⟨"p", some "http://h"⟩ ⟨"p", none, "http://h", "http://h"⟩ :=
    .project (by decide +kernel)
  have htenant : Client.forTenant ⟨"p", none, "http://h", "http://h"⟩ "t" = .ok tenantClient := rfl
  have hpage : ClientListing.oidc.Holds items body :=
    ⟨_, Tree.ofBytes?_bytes (by decide +kernel), ⟨_, rfl⟩, by decide +kernel, by decide +kernel,
      by decide +kernel⟩
  obtain ⟨u, hu, hchecked⟩ := one_page_listing_checked (.tenant hproject htenant)
    (by decide +kernel) .oidc (by decide +kernel) "a b" "oidc()" 0 (s := Server.start (.json body))
    (by decide) hpage
  obtain ⟨v, hv, -, hpath, hparameters⟩ := tenant_providers_url
  obtain rfl := Except.ok.inj (hu.symm.trans hv)
  have hquery : Query.encodeString (Query.sortByName ([] ++ ClientListing.oidc.parameters "a b")) =
      "pageSize=100&pageToken=a+b" := by decide +kernel
  have hitems : items ≠ [] := List.cons_ne_nil _ _
  rw [hpath, hparameters, hquery, if_neg hitems, Nat.zero_add] at hchecked
  exact List.isEmpty_iff.mpr hchecked

/-- A page without providers is a correct listing, and yet it is reported. -/
theorem no_provider_reported :
    let body := (Json.object [("oauthIdpConfigs", .arr []), ("nextPageToken", .str "")]).bytes
    ClientListing.oidc.Holds [] body ∧
    (verifyListing "oidc()" Admin.Error.message (ClientListing.oidc.next tenantClient 1)
      (fun w => w.2.log) [] ⟨"/projects/p/tenants/t/oauthIdpConfigs", "pageSize=100"⟩
      (Walk.start "", Server.start (.json body))).1.failures =
      ["oidc() requests after exhaustion = 1; want = 0"] := by
  intro body
  have hpage : ClientListing.oidc.Holds [] body :=
    ⟨_, Tree.ofBytes?_bytes (by decide +kernel), ⟨_, rfl⟩, by decide +kernel, by decide +kernel,
      by decide +kernel⟩
  obtain ⟨u, hu, hspecial, hpath, hparameters⟩ := tenant_providers_url
  have hchecked := ClientListing.check_of_parse hu hspecial "" "oidc()" 0
    (s := Server.start (.json body)) (by decide) hpage
  have hquery : Query.encodeString (Query.sortByName ([] ++ ClientListing.oidc.parameters "")) =
      "pageSize=100" := by decide +kernel
  rw [hpath, hparameters, hquery] at hchecked
  exact ⟨hpage, hchecked.trans (by decide +kernel)⟩

end AccountWire.Echo
