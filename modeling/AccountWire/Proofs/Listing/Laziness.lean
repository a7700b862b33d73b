import AccountWire.Proofs.Listing.Pages

/-!
# What a walk shows of its fetches

A walk shows its token, the number of items it holds back, and whether it has ended.  All three are
told by the fetches so far and by what calls have returned (`Accounts`): nothing that was fetched is
lost, and nothing is fetched before it is needed.

A walk is followed turn by turn, so that it is also seen while a call is fetching.
`Accounts.fetched` and `Accounts.yield` say that a turn keeps the account, and `Accounts.run` follows
the calls.  For the number of fetches, `returns_iff` takes a call apart into the pages that it
fetches and the turn that yields: a page is followed by another one only if it is skipped
(`exists_made`).
-/

namespace AccountWire.Listing

open Relation (ReflTransGen)

variable {σ ε α : Type}

/-- The pages among what fetches were answered with. -/
def pagesOf (calls : List (String × Answer ε α)) : List (Page α) :=
  calls.filterMap (·.2.toOption)

/-- What a walk shows, told by the fetches so far and by what calls have returned. -/
structure Accounts (token : String) (calls : List (String × Answer ε α)) (ys : List (Yield ε α))
    (w : Walk α) : Prop where
  /-- What was fetched was yielded or is held back, in the order of the pages. -/
  items : (pagesOf calls).flatMap (·.items) = itemsOf ys ++ w.buffer
  remaining : w.remaining = w.buffer.length
  /-- The token is the one of the last page; before the first page, the one of the start. -/
  pageToken : w.pageToken = lastToken token (pagesOf calls)
  /-- A walk has ended when a fetch has failed or the last page had no token. -/
  exhausted_iff : w.exhausted = true ↔ (∃ call ∈ calls, ∃ e, call.2 = .error e) ∨
    ∃ page, (pagesOf calls).getLast? = some page ∧ page.nextPageToken = ""

/-- An answer that gives a call nothing to yield: an empty page, but not the last one. -/
def IsSkipped (a : Answer ε α) : Prop :=
  ∃ page, a = .ok page ∧ page.items = [] ∧ page.nextPageToken ≠ ""

/-- All fetches but the last one were answered with pages that are skipped. -/
def AllButLastSkipped (made : List (String × Answer ε α)) : Prop :=
  ∀ call ∈ made.dropLast, IsSkipped call.2

/-- Nothing is held back and the walk goes on: its next turn is a fetch. -/
def Walk.NeedsPage (w : Walk α) : Prop := w.buffer = [] ∧ w.exhausted = false

/-- One turn in which a walk fetches a page, the call going on. -/
def Walk.Fetches (fetch : Fetch σ ε α) (p q : Walk α × σ) : Prop :=
  p.1.advance fetch p.2 = .fetched q.1 q.2

/-! ### Turns that are recorded -/

variable {fetch : Fetch σ ε α} {token : String} {w w₁ : Walk α} {s₀ s s₁ : σ}
  {calls calls₁ : List (String × Answer ε α)} {y : Yield ε α} {ys : List (Yield ε α)}

/-- What a turn that fetches a page has recorded. -/
theorem of_advance_fetched
    (h : w.advance (recorded fetch) (s, calls) = .fetched w₁ (s₁, calls₁)) :
    w.buffer = [] ∧ w.exhausted = false ∧ ∃ page, calls₁ = calls ++ [(w.pageToken, .ok page)] ∧
      w₁ = ⟨page.nextPageToken, page.items, page.nextPageToken = ""⟩ := by
  rcases advance_cases (recorded fetch) w (s, calls) with ⟨_, _, _, heq⟩ | ⟨_, _, heq⟩ |
    ⟨hbuffer, hexhausted, page, t, hfetch, heq⟩ | ⟨_, _, _, _, _, heq⟩
  · simp [h] at heq
  · simp [h] at heq
  · rw [h] at heq
    cases heq
    simp only [recorded, Prod.mk.injEq] at hfetch
    obtain ⟨hanswer, -, rfl⟩ := hfetch
    exact ⟨hbuffer, hexhausted, page, by rw [hanswer], rfl⟩
  · simp [h] at heq

/-- What a turn that yields has recorded. -/
inductive YieldTurn (w : Walk α) (calls : List (String × Answer ε α)) :
    Yield ε α → Walk α → List (String × Answer ε α) → Prop
  | item {x : α} {rest : List α} (held : w.buffer = x :: rest) :
      YieldTurn w calls (some (.ok x)) { w with buffer := rest } calls
  | nothing (held : w.buffer = []) (ended : w.exhausted = true) : YieldTurn w calls none w calls
  | failure {e : ε} (held : w.buffer = []) (goes : w.exhausted = false) :
      YieldTurn w calls (some (.error e)) { w with exhausted := true }
        (calls ++ [(w.pageToken, .error e)])

/-- A turn that yields hands out an item, finds the end, or reports a fetch that failed. -/
theorem of_advance_yield
    (h : w.advance (recorded fetch) (s, calls) = .yield y w₁ (s₁, calls₁)) :
    YieldTurn w calls y w₁ calls₁ := by
  rcases advance_cases (recorded fetch) w (s, calls) with ⟨x, rest, hbuffer, heq⟩ |
    ⟨hbuffer, hexhausted, heq⟩ | ⟨_, _, _, _, _, heq⟩ | ⟨hbuffer, hexhausted, e, t, hfetch, heq⟩
  · rw [h] at heq
    cases heq
    exact .item hbuffer
  · rw [h] at heq
    cases heq
    exact .nothing hbuffer hexhausted
  · simp [h] at heq
  · rw [h] at heq
    cases heq
    simp only [recorded, Prod.mk.injEq] at hfetch
    obtain ⟨hanswer, -, rfl⟩ := hfetch
    rw [hanswer]
    exact .failure hbuffer hexhausted

/-- **A call fetches pages, one after the other, and then yields.** -/
theorem returns_iff : w.Returns fetch s y w₁ s₁ ↔
    ∃ q, ReflTransGen (Walk.Fetches fetch) (w, s) q ∧ q.1.advance fetch q.2 = .yield y w₁ s₁ := by
  constructor
  · intro hcall
    refine hcall.turns (P := fun w s => ∃ q, ReflTransGen (Walk.Fetches fetch) (w, s) q ∧
      q.1.advance fetch q.2 = .yield y w₁ s₁) ?_ ?_
    · exact fun w s hyield => ⟨(w, s), .refl, hyield⟩
    · rintro w s w' s' hfetched - ⟨q, hq, hyield⟩
      have hstep : Walk.Fetches fetch (w, s) (w', s') := hfetched
      exact ⟨q, .head hstep hq, hyield⟩
  · rintro ⟨q, hq, hyield⟩
    suffices ∀ p, ReflTransGen (Walk.Fetches fetch) p q → p.1.Returns fetch p.2 y w₁ s₁ from
      this (w, s) hq
    intro p hp
    induction hp using ReflTransGen.head_induction_on with
    | refl => exact (returns_of_yield hyield).mpr rfl
    | head hfetched _ ih => exact (returns_of_fetched hfetched).mpr ih

/-! ### The account -/

@[simp] theorem pagesOf_append (calls calls' : List (String × Answer ε α)) :
    pagesOf (calls ++ calls') = pagesOf calls ++ pagesOf calls' := List.filterMap_append

@[simp] theorem pagesOf_ok (token : String) (page : Page α) :
    pagesOf [((token, .ok page) : String × Answer ε α)] = [page] := rfl

@[simp] theorem pagesOf_error (token : String) (e : ε) :
    pagesOf [((token, .error e) : String × Answer ε α)] = [] := rfl

theorem itemsOf_append (ys zs : List (Yield ε α)) :
    itemsOf (ys ++ zs) = itemsOf ys ++ itemsOf zs := List.filterMap_append

namespace Accounts

/-- A walk that begins has made no call and holds no item. -/
theorem start (token : String) :
    Accounts token ([] : List (String × Answer ε α)) [] (Walk.start token) where
  items := rfl
  remaining := rfl
  pageToken := rfl
  exhausted_iff := by simp [Walk.start, pagesOf]

/-- While a walk goes on, no fetch has failed. -/
theorem no_error (h : Accounts token calls ys w) (hgoes : w.exhausted = false) :
    ¬ ∃ call ∈ calls, ∃ e, call.2 = .error e := by
  intro herror
  have hended := h.exhausted_iff.mpr (Or.inl herror)
  rw [hgoes] at hended
  cases hended

/-- **A turn that fetches a page keeps the account**: its items are all held back. -/
theorem fetched (h : Accounts token calls ys w)
    (hturn : w.advance (recorded fetch) (s, calls) = .fetched w₁ (s₁, calls₁)) :
    Accounts token calls₁ ys w₁ := by
  obtain ⟨hbuffer, hgoes, page, rfl, rfl⟩ := of_advance_fetched hturn
  have hitems := h.items
  rw [hbuffer, List.append_nil] at hitems
  have herror : ¬ ∃ call ∈ calls ++ [(w.pageToken, .ok page)], ∃ e, call.2 = .error e := by
    simpa using h.no_error hgoes
  refine ⟨?_, rfl, ?_, ?_⟩
  · simp [hitems]
  · simp [lastToken]
  · rw [or_iff_right herror]
    simp

/-- **A turn that yields keeps the account.** -/
theorem yield (h : Accounts token calls ys w)
    (hturn : w.advance (recorded fetch) (s, calls) = .yield y w₁ (s₁, calls₁)) :
    Accounts token calls₁ (ys ++ [y]) w₁ := by
  have hitems := h.items
  cases of_advance_yield hturn with
  | item held =>
      refine ⟨?_, rfl, h.pageToken, h.exhausted_iff⟩
      simp [hitems, held, itemsOf_append]
  | nothing held ended =>
      refine ⟨?_, rfl, h.pageToken, h.exhausted_iff⟩
      simp [hitems, itemsOf_append]
  | @failure e held goes =>
      refine ⟨?_, rfl, ?_, ?_⟩
      · simp [hitems, held, itemsOf_append]
      · simp [h.pageToken]
      · exact iff_of_true rfl (Or.inl ⟨_, List.mem_concat_self, e, rfl⟩)

/-- The account is kept however many pages a call fetches. -/
theorem fetches {q : Walk α × σ × List (String × Answer ε α)} (h : Accounts token calls ys w)
    (hfetches : ReflTransGen (Walk.Fetches (recorded fetch)) (w, (s, calls)) q) :
    Accounts token q.2.2 ys q.1 := by
  induction hfetches with
  | refl => exact h
  | tail _ hfetched ih => exact ih.fetched hfetched

/-- **A run of calls keeps the account.** -/
theorem run {zs : List (Yield ε α)} {p q : σ × List (String × Answer ε α)}
    (h : Accounts token p.2 ys w) (hrun : Walk.Run (recorded fetch) w p zs w₁ q) :
    Accounts token q.2 (ys ++ zs) w₁ := by
  induction hrun generalizing ys with
  | nil => simpa using h
  | @cons w w' w'' p p' p'' z zs call rest ih =>
      obtain ⟨m, hfetches, hyield⟩ := returns_iff.mp call
      have hcall := (h.fetches hfetches).yield hyield
      simpa using ih hcall

end Accounts

/-! ### The fetches of one call -/

/-- A call in front of others counts as skipped if it is, and needs not be if it is the last one. -/
theorem AllButLastSkipped.cons {call : String × Answer ε α} {made : List (String × Answer ε α)}
    (h : AllButLastSkipped made) (hcall : made ≠ [] → IsSkipped call.2) :
    AllButLastSkipped (call :: made) := by
  cases made with
  | nil => simp [AllButLastSkipped]
  | cons next made =>
      rw [AllButLastSkipped, List.dropLast_cons_cons, List.forall_mem_cons]
      exact ⟨hcall (List.cons_ne_nil _ _), h⟩

/-- **Another fetch is made only after a page that is skipped.**  The induction starts from the last
fetch, since whether a page is skipped is seen by the walk that it leaves; `last` are the fetches
made after the pages. -/
theorem exists_made {p q : Walk α × σ × List (String × Answer ε α)}
    {last : List (String × Answer ε α)}
    (h : ReflTransGen (Walk.Fetches (recorded fetch)) p q) (hlast : last ≠ [] → q.1.NeedsPage)
    (hskipped : AllButLastSkipped last) :
    ∃ made, q.2.2 ++ last = p.2.2 ++ made ∧ (made = [] → p = q ∧ last = []) ∧
      (made ≠ [] → p.1.NeedsPage) ∧ AllButLastSkipped made := by
  induction h using ReflTransGen.head_induction_on with
  | refl => exact ⟨last, rfl, fun h => ⟨rfl, h⟩, hlast, hskipped⟩
  | @head p p' hfetched _ ih =>
      obtain ⟨made, hmade, -, hneeds, hskipped'⟩ := ih
      obtain ⟨hbuffer, hgoes, page, hcalls, hwalk⟩ := of_advance_fetched hfetched
      refine ⟨(p.1.pageToken, .ok page) :: made, ?_, by simp, fun _ => ⟨hbuffer, hgoes⟩, ?_⟩
      · rw [hmade, hcalls, List.append_assoc, List.singleton_append]
      · refine hskipped'.cons fun hmore => ⟨page, rfl, ?_⟩
        have hneeds' := hneeds hmore
        rw [hwalk] at hneeds'
        exact ⟨hneeds'.1, of_decide_eq_false hneeds'.2⟩

/-- The fetches of a call that returns: there are some exactly when the walk needs a page. -/
theorem exists_made_of_returns
    (hcall : w.Returns (recorded fetch) (s, calls) y w₁ (s₁, calls₁)) :
    ∃ made, calls₁ = calls ++ made ∧ (made ≠ [] ↔ w.NeedsPage) ∧ AllButLastSkipped made := by
  obtain ⟨q, hfetches, hyield⟩ := returns_iff.mp hcall
  have hturn := of_advance_yield hyield
  obtain ⟨last, hcalls, hlast, hskipped⟩ : ∃ last, calls₁ = q.2.2 ++ last ∧
      (last ≠ [] ↔ q.1.NeedsPage) ∧ AllButLastSkipped last := by
    cases hturn with
    | item held => exact ⟨[], by simp, by simp [Walk.NeedsPage, held], by simp [AllButLastSkipped]⟩
    | nothing held ended =>
        exact ⟨[], by simp, by simp [Walk.NeedsPage, ended], by simp [AllButLastSkipped]⟩
    | failure held goes =>
        exact ⟨_, rfl, by simp [Walk.NeedsPage, held, goes], by simp [AllButLastSkipped]⟩
  obtain ⟨made, hmade, hnone, hsome, hskipped'⟩ := exists_made hfetches hlast.mp hskipped
  refine ⟨made, hcalls.trans hmade, ⟨hsome, fun hneeds hnil => ?_⟩, hskipped'⟩
  obtain ⟨rfl, hnil'⟩ := hnone hnil
  exact hlast.mpr hneeds hnil'

/-- **A walk is lazy and loses nothing.**  After every run of calls on a fresh walk, and also while
the next call is still fetching, the walk shows what `Accounts` says: its items, its token, and
whether it has ended.  The next call fetches exactly when nothing is held back and the walk goes on,
and fetches again only after an empty page that is not the last one; this holds of the fetches made
so far, too, of a call that does not come back. -/
theorem walk_is_lazy (hrun : Walk.Run fetch (Walk.start token) s₀ ys w s) :
    ∃ calls, Walk.Run (recorded fetch) (Walk.start token) (s₀, []) ys w (s, calls) ∧
      Accounts token calls ys w ∧
      (∀ w₁ s₁ calls₁, ReflTransGen (Walk.Fetches (recorded fetch)) (w, (s, calls))
          (w₁, (s₁, calls₁)) →
        Accounts token calls₁ ys w₁ ∧ ∃ made, calls₁ = calls ++ made ∧
          (made ≠ [] → w.NeedsPage) ∧ AllButLastSkipped made) ∧
      ∀ y w₁ s₁ calls₁, w.Returns (recorded fetch) (s, calls) y w₁ (s₁, calls₁) →
        Accounts token calls₁ (ys ++ [y]) w₁ ∧ ∃ made, calls₁ = calls ++ made ∧
          (made ≠ [] ↔ w.NeedsPage) ∧ AllButLastSkipped made := by
  obtain ⟨calls, hrecorded⟩ := run_recorded hrun []
  have haccounts : Accounts token calls ys w := (Accounts.start token).run hrecorded
  refine ⟨calls, hrecorded, haccounts, ?_, ?_⟩
  · intro w₁ s₁ calls₁ hfetches
    refine ⟨haccounts.fetches hfetches, ?_⟩
    have hnothing : AllButLastSkipped ([] : List (String × Answer ε α)) := by
      simp [AllButLastSkipped]
    obtain ⟨made, hmade, -, hneeds, hskipped⟩ := exists_made hfetches (absurd rfl) hnothing
    exact ⟨made, by simpa using hmade, hneeds, hskipped⟩
  · intro y w₁ s₁ calls₁ hcall
    refine ⟨?_, exists_made_of_returns hcall⟩
    exact haccounts.run (.cons hcall (.nil _ _))

/-- After both items of its first page, the interrupted listing lets a call fetch an empty page and
then fail. -/
theorem interrupted_walk_is_lazy :
    Walk.Run (scripted interrupted) (Walk.start "a") 0 [some (.ok 1), some (.ok 2)]
        ⟨"b", [], false⟩ 1 ∧
      ∃ calls, Walk.Run (recorded (scripted interrupted)) (Walk.start "a") (0, [])
          [some (.ok 1), some (.ok 2)] ⟨"b", [], false⟩ (1, calls) ∧
        Accounts "a" calls [some (.ok 1), some (.ok 2)] ⟨"b", [], false⟩ ∧
        ∃ made, Walk.Returns (recorded (scripted interrupted)) ⟨"b", [], false⟩ (1, calls)
            (some (.error "down")) ⟨"c", [], true⟩ (3, calls ++ made) ∧
          made.length = 2 ∧ AllButLastSkipped made := by
  have hrun : Walk.Run (scripted interrupted) (Walk.start "a") 0 [some (.ok 1), some (.ok 2)]
      ⟨"b", [], false⟩ 1 := .cons ⟨1, rfl⟩ (.cons ⟨0, rfl⟩ (.nil _ _))
  obtain ⟨calls, hrecorded, haccounts, -, hreturns⟩ := walk_is_lazy hrun
  have hcall : Walk.Returns (recorded (scripted interrupted)) ⟨"b", [], false⟩ (1, calls)
      (some (.error "down")) ⟨"c", [], true⟩
      (3, calls ++ [("b", .ok ⟨[], "c"⟩)] ++ [("c", .error "down")]) := ⟨1, rfl⟩
  obtain ⟨-, made, hmade, -, hskipped⟩ := hreturns _ _ _ _ hcall
  rw [List.append_assoc] at hmade
  refine ⟨hrun, calls, hrecorded, haccounts, made, hmade ▸ ?_, ?_, hskipped⟩
  · rw [← List.append_assoc]
    exact hcall
  · rw [← List.append_cancel_left hmade]
    rfl

end AccountWire.Listing
