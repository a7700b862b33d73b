import AccountWire.Proofs.Admin.Outcome
import AccountWire.Proofs.Listing.Pages

/-!
# A page of users, or its error

The page that a response holds can be spoilt in three places: the response may tell of failure, its
body may not be read as a page, and one of the stored users may have a text that cannot be read.
`HoldsUsers` says when none of this is so, and `Spoils` which error comes of it otherwise.  A walk
through the users of a scripted backend then takes the responses in turn: it yields the users of all
pages up to the first one that is spoilt, of that page the error alone, and asks for nothing more.
-/

namespace AccountWire.Http.Script

/-- A response as it arrives: with some statuses, never with a body. -/
def arriving (r : Response) : Response :=
  if isBodiless r.status then { r with body := [] } else r

/-- The response to the `i`-th request. -/
def responseAt (rs : List Response) (i : Nat) : Response := arriving (rs[i]?.getD exhausted)

/-- **The n-th request gets the n-th response.** -/
theorem transport_eq (request : Request) (rs : List Response) (i : Nat) (received : List Request) :
    transport request ⟨rs.drop i, received⟩ =
      (some (responseAt rs i), ⟨rs.drop (i + 1), request :: received⟩) := by
  rw [transport, List.headD_eq_head?_getD, List.head?_drop, List.drop_drop]
  rfl

end AccountWire.Http.Script

namespace AccountWire.User

open Admin (Client Error Exchange bind_eq_error_iff errorCode mapM_eq_error_iff mapM_eq_ok_iff
  of_bind_eq_error of_bind_eq_ok readBody_eq_error_iff readBody_eq_ok_iff)
open Http (Request Response Script Transport)
open Listing (Answer BeginsWith Breaks Delivers Fetch Page Walk answer fetchAt lastToken tokenAt
  asYields tokensOf)

/-- The listing of users as fetches over a transport. -/
def listing {σ : Type} (c : Client) (send : Transport σ) : Fetch σ Error ExportedUser :=
  fun token => Admin.run (page c token) send

/-- The request for the page at a token, if there is a place to send it to. -/
def pageRequest? (c : Client) (token : String) : Option Request :=
  (page c token).toOption.map (·.request)

/-! ### What a response holds -/

/-- The status tells of success. -/
def Succeeds (r : Response) : Prop := 200 ≤ r.status ∧ r.status ≤ 299

instance (r : Response) : Decidable (Succeeds r) := inferInstanceAs (Decidable (_ ∧ _))

/-- A body is read as a page of stored users. -/
def ReadsAs (body : Bytes) (stored : Page StoredUser) : Prop :=
  (Json.Tree.ofBytes? body).bind pageOfTree? = some stored

/-- A response holds a page of users: all that are stored in it, as they are shown, in their
order. -/
def HoldsUsers (r : Response) (shown : Page ExportedUser) : Prop :=
  Succeeds r ∧ ∃ stored, ReadsAs r.body stored ∧
    List.Forall₂ (fun u x => u.export = .ok x) stored.items shown.items ∧
    shown.nextPageToken = stored.nextPageToken

/-- What spoils the page that a response was to hold. -/
inductive Spoils (r : Response) : Error → Prop
  | status (h : ¬ Succeeds r) : Spoils r (.backend r.status (errorCode r.body))
  | body (hstatus : Succeeds r) (h : ¬ ∃ stored, ReadsAs r.body stored) : Spoils r .unreadable
  /-- The first user that cannot be shown; those after it do not matter. -/
  | user (hstatus : Succeeds r) {stored : Page StoredUser} (hread : ReadsAs r.body stored)
      {before after : List StoredUser} {u : StoredUser}
      (hsplit : stored.items = before ++ u :: after) (hbefore : ∀ v ∈ before, ∃ x, v.export = .ok x)
      {e : Error} (h : u.export = .error e) : Spoils r e

/-- What the page of a response is taken for. -/
def pageOf (r : Response) : Answer Error ExportedUser :=
  if r.isSuccess then interpretPage r.body else .error (.backend r.status (errorCode r.body))

theorem isSuccess_iff {r : Response} : r.isSuccess = true ↔ Succeeds r := by
  simp [Response.isSuccess, Succeeds]

/-- A response is shown as a page exactly if it holds its users. -/
theorem pageOf_eq_ok_iff {r : Response} {shown : Page ExportedUser} :
    pageOf r = .ok shown ↔ HoldsUsers r shown := by
  by_cases hstatus : Succeeds r
  · rw [pageOf, if_pos (isSuccess_iff.mpr hstatus), HoldsUsers, and_iff_right hstatus]
    constructor
    · intro h
      obtain ⟨stored, hread, h⟩ := of_bind_eq_ok h
      obtain ⟨items, hitems, h⟩ := of_bind_eq_ok h
      obtain rfl := Except.ok.inj h
      exact ⟨stored, readBody_eq_ok_iff.mp hread, mapM_eq_ok_iff.mp hitems, rfl⟩
    · rintro ⟨stored, hread, hitems, htoken⟩
      obtain ⟨items, token⟩ := shown
      obtain rfl : token = stored.nextPageToken := htoken
      have hread : Exchange.readBody pageOfTree? r.body = .ok stored := readBody_eq_ok_iff.mpr hread
      have hitems : stored.items.mapM (·.export) = .ok items := mapM_eq_ok_iff.mpr hitems
      simp only [interpretPage, hread, hitems, bind, Except.bind]
      rfl
  · rw [pageOf, if_neg (mt isSuccess_iff.mp hstatus)]
    exact iff_of_false (by simp) fun h => hstatus h.1

/-- A response is reported exactly as what spoils it. -/
theorem pageOf_eq_error_iff {r : Response} {e : Error} : pageOf r = .error e ↔ Spoils r e := by
  by_cases hstatus : Succeeds r
  · rw [pageOf, if_pos (isSuccess_iff.mpr hstatus)]
    constructor
    · intro h
      rcases of_bind_eq_error h with h | ⟨stored, hread, h⟩
      · obtain ⟨hnone, rfl⟩ := readBody_eq_error_iff.mp h
        exact .body hstatus hnone
      · rcases of_bind_eq_error h with h | ⟨items, -, h⟩
        · obtain ⟨before, u, after, hsplit, hbefore, hu⟩ := mapM_eq_error_iff.mp h
          exact .user hstatus (readBody_eq_ok_iff.mp hread) hsplit hbefore hu
        · cases h
    · intro h
      cases h with
      | status hnot => exact absurd hstatus hnot
      | body _ hnone =>
          exact bind_eq_error_iff.mpr (Or.inl (readBody_eq_error_iff.mpr ⟨hnone, rfl⟩))
      | user _ hread hsplit hbefore hu =>
          refine bind_eq_error_iff.mpr (Or.inr ⟨_, readBody_eq_ok_iff.mpr hread, ?_⟩)
          exact bind_eq_error_iff.mpr
            (Or.inl (mapM_eq_error_iff.mpr ⟨_, _, _, hsplit, hbefore, hu⟩))
  · rw [pageOf, if_neg (mt isSuccess_iff.mp hstatus)]
    constructor
    · intro h
      obtain rfl := Except.error.inj h
      exact .status hstatus
    · intro h
      cases h with
      | status => rfl
      | body h | user h => exact absurd h hstatus

/-! ### Fetches over a script -/

variable {c : Client} {token : String} {rs : List Response}

/-- **One fetch**: the request for the page, answered by the next response. -/
theorem listing_eq (hlocates : Url.Locates (c.userUrl "/accounts:batchGet")) (token : String)
    (rs : List Response) (i : Nat) (received : List Request) :
    ∃ request, pageRequest? c token = some request ∧
      listing c Script.transport token ⟨rs.drop i, received⟩ =
        (pageOf (Script.responseAt rs i), ⟨rs.drop (i + 1), request :: received⟩) := by
  obtain ⟨x, hx⟩ : ∃ x, page c token = .ok x := Admin.exists_plan_iff.mpr hlocates
  refine ⟨x.request, by rw [pageRequest?, hx]; rfl, ?_⟩
  have hinterpret : x.interpret = interpretPage := (Admin.of_plan_eq_ok hx).2
  rw [listing, hx, Admin.run, Script.transport_eq]
  simp only [Exchange.conclude, hinterpret, pageOf]

/-- Each fetch takes one response of the script, and asks for the token of the page before. -/
theorem fetchAt_listing (hlocates : Url.Locates (c.userUrl "/accounts:batchGet")) (token : String)
    (rs : List Response) (k : Nat) :
    ∃ received, (fetchAt (listing c Script.transport) token ⟨rs, []⟩ k).2 = ⟨rs.drop k, received⟩ ∧
      received.reverse.map some = (List.range k).map fun i =>
        pageRequest? c (tokenAt token (answer (listing c Script.transport) token ⟨rs, []⟩) i) := by
  induction k with
  | zero => exact ⟨[], rfl, rfl⟩
  | succ k ih =>
      obtain ⟨received, hstate, hreceived⟩ := ih
      obtain ⟨request, hrequest, hfetch⟩ := listing_eq hlocates
        (fetchAt (listing c Script.transport) token ⟨rs, []⟩ k).1 rs k received
      refine ⟨request :: received, ?_, ?_⟩
      · rw [fetchAt, hstate, hfetch]
      · rw [List.reverse_cons, List.map_append, hreceived, List.range_succ, List.map_append,
          List.map_singleton, List.map_singleton, ← Listing.fetchAt_fst, hrequest]

/-- The answers are what the responses are taken for. -/
theorem answer_listing (hlocates : Url.Locates (c.userUrl "/accounts:batchGet")) (token : String)
    (rs : List Response) (i : Nat) :
    answer (listing c Script.transport) token ⟨rs, []⟩ i = pageOf (Script.responseAt rs i) := by
  obtain ⟨received, hstate, -⟩ := fetchAt_listing hlocates token rs i
  obtain ⟨request, -, hfetch⟩ := listing_eq hlocates
    (fetchAt (listing c Script.transport) token ⟨rs, []⟩ i).1 rs i received
  rw [answer, hstate, hfetch]

/-- As many requests were received as pages were fetched, each for the token of its fetch. -/
theorem received_of_fetchAt (hlocates : Url.Locates (c.userUrl "/accounts:batchGet")) {k : Nat}
    {token' : String} {s : Script}
    (h : fetchAt (listing c Script.transport) token ⟨rs, []⟩ k = (token', s)) :
    s.received.length = k ∧ s.received.reverse.map some = (List.range k).map fun i =>
      pageRequest? c (tokenAt token (answer (listing c Script.transport) token ⟨rs, []⟩) i) := by
  obtain ⟨received, hstate, hreceived⟩ := fetchAt_listing hlocates token rs k
  rw [h] at hstate
  obtain rfl : s = ⟨rs.drop k, received⟩ := hstate
  exact ⟨by simpa using congrArg List.length hreceived, hreceived⟩

/-- Without a place to send it to, no request is made. -/
theorem listing_of_not_locates (hnot : ¬ Url.Locates (c.userUrl "/accounts:batchGet")) {σ : Type}
    (send : Transport σ) (token : String) (s : σ) :
    ∃ url, listing c send token s = (.error (.transport url), s) := by
  cases hpage : page c token with
  | ok x => exact absurd (Admin.exists_plan_iff.mp ⟨x, hpage⟩) hnot
  | error e =>
      obtain ⟨url, rfl⟩ := Admin.of_plan_eq_error hpage
      exact ⟨url, by rw [listing, hpage, Admin.run]⟩

/-! ### Walks -/

/-- Calls of `next` on a walk through the users of a scripted backend, from a token on. -/
def WalksUsers (c : Client) (token : String) (rs : List Response)
    (ys : List (Listing.Yield Error ExportedUser)) (w : Walk ExportedUser) (s : Script) : Prop :=
  Walk.Run (listing c Script.transport) (Walk.start token) ⟨rs, []⟩ ys w s

/-- Behind the script, a response tells of failure. -/
theorem ends_responses (rs : List Response) :
    Listing.Ends (pageOf (Script.responseAt rs rs.length)) := by
  have hresponse : Script.responseAt rs rs.length = Script.exhausted := by
    rw [Script.responseAt, List.getElem?_eq_none (Nat.le_refl _)]
    rfl
  rw [hresponse]
  trivial

/-- The last request is the one for the last token. -/
theorem head?_received {received : List Request} {request? : Nat → Option Request} {k : Nat}
    (h : received.reverse.map some = (List.range (k + 1)).map request?) :
    received.head? = request? k := by
  have hlast := congrArg List.getLast? h
  rw [List.range_succ, List.map_append, List.map_singleton, List.getLast?_concat,
    List.getLast?_map, List.getLast?_reverse] at hlast
  obtain ⟨request, hhead, hrequest⟩ := Option.map_eq_some_iff.mp hlast
  rw [hhead, hrequest]

/-- The first responses hold these pages, in turn. -/
def HoldInTurn (rs : List Response) (pages : List (Page ExportedUser)) : Prop :=
  ∀ (i : Nat) shown, pages[i]? = some shown → HoldsUsers (Script.responseAt rs i) shown

/-- Responses hold pages in turn exactly if the answers of the listing begin with these pages. -/
theorem holdInTurn_iff (hlocates : Url.Locates (c.userUrl "/accounts:batchGet"))
    {pages : List (Page ExportedUser)} :
    HoldInTurn rs pages ↔
      BeginsWith (answer (listing c Script.transport) token ⟨rs, []⟩) pages := by
  simp only [HoldInTurn, BeginsWith, answer_listing hlocates, pageOf_eq_ok_iff]

/-- The requests were those for the token of the start and for the tokens of the pages. -/
theorem received_of_pages (hlocates : Url.Locates (c.userUrl "/accounts:batchGet"))
    {pages : List (Page ExportedUser)}
    (hpages : BeginsWith (answer (listing c Script.transport) token ⟨rs, []⟩) pages) {k : Nat}
    (hk : k ≤ pages.length + 1) {token' : String} {s : Script}
    (h : fetchAt (listing c Script.transport) token ⟨rs, []⟩ k = (token', s)) :
    s.received.reverse.map some =
      ((tokensOf token pages).take s.received.length).map (pageRequest? c) := by
  obtain ⟨hlength, hreceived⟩ := received_of_fetchAt hlocates h
  rw [hreceived, hlength, hpages.take_tokensOf token hk, List.map_map]
  rfl

/-- What a walk tells of the responses. -/
theorem exists_pages_of_walk (hlocates : Url.Locates (c.userUrl "/accounts:batchGet"))
    {ys : List (Listing.Yield Error ExportedUser)} {w : Walk ExportedUser} {s : Script}
    (hwalk : WalksUsers c token rs ys w s) : ∃ pages, HoldInTurn rs pages ∧
      s.received.reverse.map some =
        ((tokensOf token pages).take s.received.length).map (pageRequest? c) ∧
      w.pageToken = lastToken token pages ∧
      (Delivers pages ys w ∧ s.received.length = pages.length ∨
        ∃ e, Spoils (Script.responseAt rs pages.length) e ∧ Breaks pages e ys w ∧
          s.received.length = pages.length + 1 ∧
          s.received.head? = pageRequest? c w.pageToken) := by
  obtain ⟨pages, hpages, htoken, hcases⟩ := Listing.run_delivers_or_breaks hwalk
  refine ⟨pages, (holdInTurn_iff hlocates).mpr hpages, ?_, htoken, ?_⟩
  · rcases hcases with ⟨-, hpoint⟩ | ⟨e, -, -, hpoint⟩
    · exact received_of_pages hlocates hpages (by omega) hpoint
    · exact received_of_pages hlocates hpages (by omega) hpoint
  · rcases hcases with ⟨hdelivers, hpoint⟩ | ⟨e, hbreaks, herror, hpoint⟩
    · exact Or.inl ⟨hdelivers, (received_of_fetchAt hlocates hpoint).1⟩
    · obtain ⟨hlength, hreceived⟩ := received_of_fetchAt hlocates hpoint
      rw [answer_listing hlocates, pageOf_eq_error_iff] at herror
      refine Or.inr ⟨e, herror, hbreaks, hlength, ?_⟩
      rw [head?_received hreceived, hpages.tokenAt_length, htoken]

/-- A walk that has no place to send its requests to. -/
theorem walk_of_not_locates (hnot : ¬ Url.Locates (c.userUrl "/accounts:batchGet"))
    {ys : List (Listing.Yield Error ExportedUser)} {w : Walk ExportedUser} {s : Script}
    (hwalk : WalksUsers c token rs ys w s) : s = ⟨rs, []⟩ ∧ w.pageToken = token ∧
      (ys = [] ∨ ∃ url, Breaks [] (.transport url) ys w) := by
  obtain ⟨url, hfetch⟩ := listing_of_not_locates hnot Script.transport token ⟨rs, []⟩
  have hanswer : answer (listing c Script.transport) token ⟨rs, []⟩ 0 =
      .error (.transport url) := by
    rw [answer, fetchAt, hfetch]
  obtain ⟨pages, hpages, htoken, hcases⟩ := Listing.run_delivers_or_breaks hwalk
  have hnone : pages = [] := by
    cases pages with
    | nil => rfl
    | cons page pages =>
        have hfirst := hpages 0 page rfl
        rw [hanswer] at hfirst
        cases hfirst
  subst hnone
  rcases hcases with ⟨hdelivers, hpoint⟩ | ⟨e, hbreaks, herror, hpoint⟩
  · obtain ⟨nones, hyielded, hlast⟩ := hdelivers.yielded
    obtain rfl : nones = 0 := by
      by_contra hne
      obtain ⟨page, hpage, -⟩ := hlast hne
      cases hpage
    have hs : s = ⟨rs, []⟩ := (congrArg Prod.snd hpoint).symm
    exact ⟨hs, htoken, Or.inl (List.append_eq_nil_iff.mp hyielded).1⟩
  · have hs : s = ⟨rs, []⟩ := by
      have hstate := congrArg Prod.snd hpoint
      rw [List.length_nil, fetchAt, fetchAt, hfetch] at hstate
      exact hstate.symm
    obtain rfl : e = .transport url := Except.error.inj (herror.symm.trans hanswer)
    exact ⟨hs, htoken, Or.inr ⟨url, hbreaks⟩⟩

/-- **A page of users is yielded in full, or its error is.**  A walk over a scripted backend can be
taken to any length.  After any number of calls there are pages that the first responses hold, and
the requests were those for the token of the start and for the tokens of these pages.  Either as
many requests were made as there are pages, and their users were yielded or are held back, in their
order; or the response after them holds no page, the walk has yielded all users of the pages and
then the one error that spoils it, nothing else was asked for, and the token is still the one that
the last request was made with.  This error is indeed yielded whenever pages that go on come before
a response that is spoilt.

A client without a place to send its requests to has the walk yield one error and send nothing. -/
theorem users_page_all_or_nothing (c : Client) (token : String) (rs : List Response) :
    (Url.Locates (c.userUrl "/accounts:batchGet") →
      (∀ n, ∃ ys w s, ys.length = n ∧ WalksUsers c token rs ys w s) ∧
      (∀ ys w s, WalksUsers c token rs ys w s → ∃ pages, HoldInTurn rs pages ∧
        s.received.reverse.map some =
          ((tokensOf token pages).take s.received.length).map (pageRequest? c) ∧
        w.pageToken = lastToken token pages ∧
        (Delivers pages ys w ∧ s.received.length = pages.length ∨
          ∃ e, Spoils (Script.responseAt rs pages.length) e ∧ Breaks pages e ys w ∧
            s.received.length = pages.length + 1 ∧
            s.received.head? = pageRequest? c w.pageToken)) ∧
      ∀ pages e, HoldInTurn rs pages → (∀ page ∈ pages, page.nextPageToken ≠ "") →
        Spoils (Script.responseAt rs pages.length) e → ∀ nones, ∃ w s,
          WalksUsers c token rs (asYields (pages.flatMap (·.items)) ++
            some (.error e) :: List.replicate nones none) w s) ∧
    (¬ Url.Locates (c.userUrl "/accounts:batchGet") →
      ∀ ys w s, WalksUsers c token rs ys w s → s = ⟨rs, []⟩ ∧ w.pageToken = token ∧
        (ys = [] ∨ ∃ url, Breaks [] (.transport url) ys w)) := by
  refine ⟨?_, fun hnot ys w s => walk_of_not_locates hnot⟩
  intro hlocates
  have hanswer := answer_listing hlocates token rs
  refine ⟨?_, fun ys w s => exists_pages_of_walk hlocates, ?_⟩
  · intro n
    exact Listing.exists_run_of_ends (by rw [hanswer]; exact ends_responses rs) n
  · intro pages e hheld hopen hspoils
    rw [← pageOf_eq_error_iff, ← hanswer] at hspoils
    exact Listing.exists_run_of_error ((holdInTurn_iff hlocates).mp hheld) hopen hspoils

/-- A page of one user, and then a page whose second user has a time that is no number: the first
user of that page is not yielded. -/
theorem spoilt_page_ends_walk :
    let c : Client := ⟨"p", none, "http://h", "http://h"⟩
    let user (uid createdAt : String) :=
      Json.object [("localId", .str uid), ("createdAt", .str createdAt)]
    let rs : List Response := [
      ⟨200, (Json.object [("users", .arr [user "a" "1"]), ("nextPageToken", .str "n")]).bytes⟩,
      ⟨200, (Json.object [("users", .arr [user "b" "2", user "c" "now"])]).bytes⟩]
    let fault : Error := .unexpectedResponse (.badTimestamp "createdAt" "now")
    ∃ x w s pages e, x.record.profile.uid = "a" ∧
      WalksUsers c "" rs [some (.ok x), some (.error fault), none] w s ∧
      Breaks pages e [some (.ok x), some (.error fault), none] w ∧
      s.received.length = pages.length + 1 ∧ s.received.head? = pageRequest? c w.pageToken := by
  intro c user rs fault
  have hlocates : Url.Locates (c.userUrl "/accounts:batchGet") :=
    Url.namesHost_iff.mp (by decide +kernel)
  obtain ⟨-, hruns, herrors⟩ := (users_page_all_or_nothing c "" rs).1 hlocates
  have hread : (pageOf (Script.responseAt rs 0)).toOption.map
      (fun page => (page.items.map (·.record.profile.uid), page.nextPageToken)) =
      some (["a"], "n") := by decide +kernel
  obtain ⟨page, hpage, hfields⟩ := Admin.exists_eq_ok_of_map hread
  obtain ⟨huids, htoken⟩ := Prod.mk.inj hfields
  obtain ⟨x, hitems, huid⟩ : ∃ x, page.items = [x] ∧ x.record.profile.uid = "a" := by
    obtain ⟨x, items, hitems, huid, hnil⟩ := List.map_eq_cons_iff.mp huids
    exact ⟨x, by rw [hitems, List.map_eq_nil_iff.mp hnil], huid⟩
  have hspoils : Spoils (Script.responseAt rs 1) fault := by
    let stored (uid createdAt : String) : StoredUser :=
      ⟨uid, "", "", "", "", false, false, [], "", "", "", createdAt, "", "", ""⟩
    have hread : ((Json.Tree.ofBytes? (Script.responseAt rs 1).body).bind pageOfTree?).map
        (·.items) = some [stored "b" "2", stored "c" "now"] := by decide +kernel
    obtain ⟨page, hpage, hsplit⟩ := Option.map_eq_some_iff.mp hread
    obtain ⟨shown, hshown⟩ := Admin.exists_eq_ok
      (show (stored "b" "2").export.toOption.isSome = true by decide +kernel)
    have hbefore : ∀ v ∈ [stored "b" "2"], ∃ x, v.export = .ok x := by simp [hshown]
    have hfault : (stored "c" "now").export.map (fun _ => ()) = .error fault := by decide +kernel
    exact .user (by decide +kernel) hpage hsplit hbefore (Admin.eq_error_of_map hfault)
  have hheld : HoldInTurn rs [page] := by
    intro i shown hi
    obtain ⟨rfl, rfl⟩ : i = 0 ∧ page = shown := by
      cases i with
      | zero => exact ⟨rfl, Option.some.inj hi⟩
      | succ i => simp at hi
    exact pageOf_eq_ok_iff.mp hpage
  obtain ⟨w, s, hrun⟩ := herrors [page] fault hheld (by simp [htoken]) hspoils 1
  have hys : asYields ([page].flatMap (·.items)) ++ some (.error fault) :: List.replicate 1 none =
      [some (.ok x), some (.error fault), none] := by simp [hitems, asYields]
  rw [hys] at hrun
  obtain ⟨pages, -, -, -, hdelivers | ⟨e, -, hbreaks, hlength, hlast⟩⟩ := hruns _ w s hrun
  · obtain ⟨nones, hyielded, -⟩ := hdelivers.1.yielded
    have herror : some (.error fault) ∈ asYields (pages.flatMap (·.items)) ++
        List.replicate nones none := by simp [← hyielded]
    simp [asYields] at herror
  · exact ⟨x, w, s, pages, e, huid, hrun, hbreaks, hlength, hlast⟩

end AccountWire.User
