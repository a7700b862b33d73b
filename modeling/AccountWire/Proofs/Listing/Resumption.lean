import AccountWire.Proofs.Listing.Settling

/-!
# Resuming a walk

A walk moves its token together with its buffer, and a fetch that fails moves neither.  So the token
always stands for what was not fetched yet, and a fresh walk from there yields what the old one
would have yielded after its buffer.

The comparison is between two walks.  One is interrupted, over fetches that may fail
(`HandsOut`); the other goes through, over a backend without state.  `CanYield` says what a walk of
the second kind yields first.  The step lemma `call_continues` says what one call of the interrupted
walk does to it, and `run_continues` follows a run.
-/

namespace AccountWire.Listing

variable {σ ε α : Type} {g : String → Answer ε α} {fetch : Fetch σ ε α}

/-- The items among what calls have returned. -/
def itemsOf (ys : List (Yield ε α)) : List α := ys.filterMap fun y => y.bind Except.toOption

/-- Items as calls return them. -/
def asYields (items : List α) : List (Yield ε α) := items.map fun x => some (.ok x)

/-- Every page that is fetched is the one that `g` has for its token; any fetch may fail. -/
def HandsOut (g : String → Answer ε α) (fetch : Fetch σ ε α) : Prop :=
  ∀ token s page s', fetch token s = (.ok page, s') → g token = .ok page

/-- A backend that answers by token hands out what it has for a token. -/
theorem handsOut_byToken (g : String → Answer ε α) : HandsOut g (byToken g) := by
  intro token s page s' hfetch
  exact congrArg Prod.fst hfetch

/-- A backend that fails at one token and otherwise agrees with `g`. -/
theorem handsOut_of_agrees {g' : String → Answer ε α} (failing : String) {e : ε}
    (hfail : g' failing = .error e) (hagree : ∀ token, token ≠ failing → g' token = g token) :
    HandsOut g (byToken g') := by
  intro token s page s' hfetch
  have hpage : g' token = .ok page := congrArg Prod.fst hfetch
  by_cases htoken : token = failing
  · rw [htoken, hfail] at hpage
    cases hpage
  · rw [← hagree token htoken, hpage]

/-- Calls have left a walk before its last page: it would still fetch, or a fetch has failed. -/
def LeftEarly (ys : List (Yield ε α)) (w : Walk α) : Prop :=
  w.exhausted = false ∨ ∃ e, some (.error e) ∈ ys

/-- What a walk yields first over a backend that has no state. -/
def CanYield (g : String → Answer ε α) (w : Walk α) (ys : List (Yield ε α)) : Prop :=
  ∃ w', Walk.Run (byToken g) w () ys w' ()

/-! ### What has been yielded -/

@[simp] theorem itemsOf_nil : itemsOf ([] : List (Yield ε α)) = [] := rfl

@[simp] theorem itemsOf_ok (x : α) (ys : List (Yield ε α)) :
    itemsOf (some (.ok x) :: ys) = x :: itemsOf ys := rfl

@[simp] theorem itemsOf_error (e : ε) (ys : List (Yield ε α)) :
    itemsOf (some (.error e) :: ys) = itemsOf ys := rfl

@[simp] theorem itemsOf_none (ys : List (Yield ε α)) : itemsOf (none :: ys) = itemsOf ys := rfl

@[simp] theorem asYields_nil : asYields [] = ([] : List (Yield ε α)) := rfl

@[simp] theorem asYields_cons (x : α) (items : List α) :
    asYields (x :: items) = (some (.ok x) :: asYields items : List (Yield ε α)) := rfl

/-! ### A walk over a backend without state -/

section

variable {w w' : Walk α} {y z : Yield ε α} {zs : List (Yield ε α)}

theorem canYield_nil (g : String → Answer ε α) (w : Walk α) : CanYield g w [] := ⟨w, .nil w ()⟩

/-- A walk can answer a row if a call can answer the first one and the walk after it the others. -/
theorem canYield_cons :
    CanYield g w (z :: zs) ↔ ∃ w', w.Returns (byToken g) () z w' () ∧ CanYield g w' zs := by
  constructor
  · rintro ⟨w'', hrun⟩
    cases hrun with
    | cons call rest => exact ⟨_, call, w'', rest⟩
  · rintro ⟨w', hcall, w'', hrun⟩
    exact ⟨w'', .cons hcall hrun⟩

/-- Where the next turn yields, the first answer is the one of this turn. -/
theorem canYield_of_yield (h : w.advance (byToken g) () = .yield y w' ()) :
    CanYield g w (z :: zs) ↔ z = y ∧ CanYield g w' zs := by
  simp only [canYield_cons, returns_of_yield h, Prod.mk.injEq, and_true]
  constructor
  · rintro ⟨w₁, ⟨rfl, rfl⟩, hzs⟩
    exact ⟨rfl, hzs⟩
  · rintro ⟨rfl, hzs⟩
    exact ⟨w', ⟨rfl, rfl⟩, hzs⟩

/-- A turn that fetches changes nothing in what can be answered. -/
theorem canYield_of_fetched (h : w.advance (byToken g) () = .fetched w' ()) :
    CanYield g w zs ↔ CanYield g w' zs := by
  cases zs with
  | nil => exact iff_of_true (canYield_nil g w) (canYield_nil g w')
  | cons z zs => simp only [canYield_cons, returns_of_fetched h]

/-- The buffer comes first, and the token makes the rest. -/
theorem canYield_buffer (token : String) (buffer : List α) :
    CanYield g ⟨token, buffer, false⟩ (asYields buffer ++ zs) ↔
      CanYield g (Walk.start token) zs := by
  induction buffer with
  | nil => rfl
  | cons item rest ih =>
      have hadvance : Walk.advance (byToken g) ⟨token, item :: rest, false⟩ () =
          .yield (some (.ok item)) ⟨token, rest, false⟩ () := rfl
      rw [asYields_cons, List.cons_append, canYield_of_yield hadvance, ih]
      exact and_iff_right rfl

end

/-! ### The interrupted walk -/

variable {w w' w₁ : Walk α} {s s' s₁ : σ} {y : Yield ε α} {ys : List (Yield ε α)}

/-- The buffer is what the next calls return, and they fetch nothing. -/
theorem run_buffer (fetch : Fetch σ ε α) (w : Walk α) (s : σ) :
    Walk.Run fetch w s (asYields w.buffer) { w with buffer := [] } s := by
  obtain ⟨token, buffer, exhausted⟩ := w
  induction buffer with
  | nil => exact .nil _ s
  | cons item rest ih => exact .cons ((returns_of_yield rfl).mpr rfl) ih

/-- A walk that has ended yields its buffer and nothing else. -/
theorem run_exhausted (hrun : Walk.Run fetch w s ys w' s') (hx : w.exhausted = true) :
    w'.exhausted = true ∧ w'.pageToken = w.pageToken ∧ itemsOf ys ++ w'.buffer = w.buffer ∧
      ∀ e, some (.error e) ∉ ys := by
  induction hrun with
  | nil => exact ⟨hx, rfl, rfl, fun _ => List.not_mem_nil⟩
  | @cons w w₁ w' s s₁ s' y ys call rest ih =>
      have hresult := (returns_at_once (Or.inr hx)).mp call
      simp only [Prod.mk.injEq] at hresult
      obtain ⟨rfl, rfl, rfl⟩ := hresult
      obtain ⟨hx', htoken, hitems, herror⟩ := ih hx
      refine ⟨hx', htoken, ?_, ?_⟩
      · cases hbuffer : w.buffer with
        | nil => simpa [hbuffer] using hitems
        | cons item buffer => simpa [hbuffer] using hitems
      · intro e he
        rcases List.mem_cons.mp he with he | he
        · cases hbuffer : w.buffer <;> simp [hbuffer] at he
        · exact herror e he

/-- What a call of a walk that has not ended has done, told by a walk over a backend that has no
state: from `w` to `w₁`, and it has returned the yield. -/
inductive Continues (g : String → Answer ε α) (w w₁ : Walk α) : Yield ε α → Prop where
  /-- The last page was fetched. -/
  | last {y : Yield ε α} (ended : w₁.exhausted = true) (fine : ∀ e, y ≠ some (.error e)) :
      Continues g w w₁ y
  /-- A fetch has failed, and the token stands for all that is to come. -/
  | failed (e : ε) (ended : w₁.exhausted = true) (nothing : w₁.buffer = [])
      (rest : ∀ zs, CanYield g w zs ↔ CanYield g (Walk.start w₁.pageToken) zs) :
      Continues g w w₁ (some (.error e))
  /-- The next item was yielded. -/
  | item (x : α) (goes : w₁.exhausted = false)
      (rest : ∀ zs, CanYield g w (some (.ok x) :: zs) ↔ CanYield g w₁ zs) :
      Continues g w w₁ (some (.ok x))

/-- A turn over a page keeps what the call has done. -/
theorem Continues.of_fetched {w₂ : Walk α} (h : w.advance (byToken g) () = .fetched w₂ ())
    (hrest : Continues g w₂ w₁ y) : Continues g w w₁ y := by
  cases hrest with
  | last ended fine => exact .last ended fine
  | failed e ended nothing rest =>
      exact .failed e ended nothing fun zs => (canYield_of_fetched h).trans (rest zs)
  | item x goes rest => exact .item x goes fun zs => (canYield_of_fetched h).trans (rest zs)

/-- **One call of a walk that has not ended.** -/
theorem call_continues (hpages : HandsOut g fetch) (hx : w.exhausted = false)
    (hcall : w.Returns fetch s y w₁ s₁) : Continues g w w₁ y := by
  refine hcall.turns (P := fun w _ => w.exhausted = false → Continues g w w₁ y) ?_ ?_ hx
  · intro w s hyield hx
    rcases advance_cases fetch w s with ⟨item, rest, hb, heq⟩ | ⟨hb, hx', heq⟩ |
      ⟨hb, -, page, s', hf, heq⟩ | ⟨hb, -, e, s', hf, heq⟩
    · rw [heq] at hyield
      cases hyield
      have hadvance : w.advance (byToken g) () =
          .yield (some (.ok item)) { w with buffer := rest } () := by
        simp [Walk.advance, hb]
      refine .item item hx fun zs => ?_
      rw [canYield_of_yield hadvance]
      exact and_iff_right rfl
    · rw [hx] at hx'
      cases hx'
    · rw [heq] at hyield
      cases hyield
    · rw [heq] at hyield
      cases hyield
      obtain ⟨token, buffer, exhausted⟩ := w
      obtain rfl : buffer = [] := hb
      obtain rfl : exhausted = false := hx
      exact .failed e rfl rfl fun zs => Iff.rfl
  · intro w s w₂ s₂ hfetched hrest ih hx
    rcases advance_cases fetch w s with ⟨item, rest, hb, heq⟩ | ⟨hb, hx', heq⟩ |
      ⟨hb, -, page, s', hf, heq⟩ | ⟨hb, -, e, s', hf, heq⟩
    · rw [heq] at hfetched
      cases hfetched
    · rw [heq] at hfetched
      cases hfetched
    · rw [heq] at hfetched
      cases hfetched
      by_cases htoken : page.nextPageToken = ""
      · obtain ⟨ended, -, -, fine⟩ :=
          run_exhausted (.cons hrest (.nil _ _)) (by simpa using htoken)
        exact .last ended fun e he => fine e (by simp [he])
      · refine .of_fetched ?_ (ih (by simpa using htoken))
        simp [Walk.advance, hb, hx, byToken, hpages _ _ _ _ hf]
    · rw [heq] at hfetched
      cases hfetched

/-- **A run that left a walk early.**  What it has yielded and what is buffered come first, and the
token makes the rest. -/
theorem run_continues (hpages : HandsOut g fetch) (hrun : Walk.Run fetch w s ys w' s')
    (hx : w.exhausted = false) (hearly : LeftEarly ys w') (zs : List (Yield ε α)) :
    CanYield g w (asYields (itemsOf ys ++ w'.buffer) ++ zs) ↔
      CanYield g (Walk.start w'.pageToken) zs := by
  induction hrun with
  | nil w s =>
      obtain ⟨token, buffer, exhausted⟩ := w
      obtain rfl : exhausted = false := hx
      exact canYield_buffer token buffer
  | @cons w w₁ w' s s₁ s' y ys call rest ih =>
      cases call_continues hpages hx call with
      | last ended fine =>
          obtain ⟨hx', -, -, herror⟩ := run_exhausted rest ended
          rcases hearly with hgoes | ⟨e, he⟩
          · rw [hx'] at hgoes
            cases hgoes
          · rcases List.mem_cons.mp he with he | he
            · exact absurd he.symm (fine e)
            · exact absurd he (herror e)
      | failed e ended nothing hrest =>
          obtain ⟨-, htoken, hitems, -⟩ := run_exhausted rest ended
          rw [itemsOf_error, hitems, nothing, htoken]
          exact hrest zs
      | item x goes hrest =>
          have hearly' : LeftEarly ys w' := by
            rcases hearly with hgoes | ⟨e, he⟩
            · exact Or.inl hgoes
            · exact Or.inr ⟨e, by simpa using he⟩
          rw [itemsOf_ok, List.cons_append, asYields_cons, List.cons_append, hrest]
          exact ih goes hearly'

/-- **A walk that was left early is resumed from its token.**  Let a walk be interrupted, over
fetches that hand out the pages of `g` and may fail.  What it holds back is what its next calls
would return, without a fetch.  A fresh walk over `g` from its token yields `zs` exactly when the
walk over `g` that was never interrupted yields the items so far, then those held back, and then
`zs`. -/
theorem walk_is_resumed (hpages : HandsOut g fetch) {token : String}
    (hrun : Walk.Run fetch (Walk.start token) s ys w s') (hearly : LeftEarly ys w) :
    ∃ held : List α, held.length = w.remaining ∧
      Walk.Run fetch w s' (asYields held) { w with buffer := [] } s' ∧
      ∀ zs, CanYield g (Walk.start w.pageToken) zs ↔
        CanYield g (Walk.start token) (asYields (itemsOf ys ++ held) ++ zs) :=
  ⟨w.buffer, rfl, run_buffer fetch w s', fun zs => (run_continues hpages hrun rfl hearly zs).symm⟩

/-- A page of two items, an empty page, and a page of one item. -/
def threePages : String → Answer String Nat := fun token =>
  if token = "c" then .ok ⟨[3], ""⟩
  else if token = "b" then .ok ⟨[], "c"⟩
  else .ok ⟨[1, 2], "b"⟩

/-- The same pages, the last of which cannot be fetched. -/
def twoPages : String → Answer String Nat := fun token =>
  if token = "c" then .error "down" else threePages token

/-- A walk is left in the middle of a page, and another one after a fetch has failed. -/
theorem left_walks_are_resumed :
    Walk.Run (byToken threePages) (Walk.start "") () [some (.ok 1)] ⟨"b", [2], false⟩ () ∧
    (∃ held : List Nat, held.length = 1 ∧
      ∀ zs, CanYield threePages (Walk.start "b") zs ↔
        CanYield threePages (Walk.start "") (asYields ([1] ++ held) ++ zs)) ∧
    Walk.Run (byToken twoPages) (Walk.start "") ()
      [some (.ok 1), some (.ok 2), some (.error "down"), none] ⟨"c", [], true⟩ () ∧
    ∀ zs, CanYield threePages (Walk.start "c") zs ↔
      CanYield threePages (Walk.start "") (asYields [1, 2] ++ zs) := by
  have hstopped : Walk.Run (byToken threePages) (Walk.start "") () [some (.ok 1)]
      ⟨"b", [2], false⟩ () := .cons ⟨1, rfl⟩ (.nil _ _)
  have hfailed : Walk.Run (byToken twoPages) (Walk.start "") ()
      [some (.ok 1), some (.ok 2), some (.error "down"), none] ⟨"c", [], true⟩ () :=
    .cons ⟨1, rfl⟩ (.cons ⟨0, rfl⟩ (.cons ⟨1, rfl⟩ (.cons ⟨0, rfl⟩ (.nil _ _))))
  have hagree : HandsOut threePages (byToken twoPages) :=
    handsOut_of_agrees "c" rfl fun token htoken => if_neg htoken
  obtain ⟨held, hlength, -, hresumed⟩ :=
    walk_is_resumed (handsOut_byToken threePages) hstopped (Or.inl rfl)
  obtain ⟨held', hlength', -, hresumed'⟩ :=
    walk_is_resumed hagree hfailed (Or.inr ⟨"down", by simp⟩)
  obtain rfl : held' = [] := List.eq_nil_of_length_eq_zero hlength'
  exact ⟨hstopped, ⟨held, hlength, hresumed⟩, hfailed, hresumed'⟩

end AccountWire.Listing
