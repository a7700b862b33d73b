import AccountWire.Proofs.Listing.Stream
import Mathlib.Data.Finset.Card
import Mathlib.Data.Finset.Insert
import Mathlib.Logic.Relation

/-!
# When a call returns

A call of `next` that finds nothing buffered goes from page to page until one of them has an item,
is the last, or cannot be fetched.  A backend that answers by the token alone may send it from one
empty page to another, and the measure of the loop is the tokens that the backend hands out.

`Skips` is one such step from token to token, and `Settles` lists the tokens that a call asks for
if it comes to an end.  A call returns exactly when its token settles (`returns_iff_settles`), and
it then asks for each token once (`Settles.nodup`).  Among finitely many tokens, the only other way
is a circle of empty pages (`settles_or_circles`, `Circles.not_settles`), in which a call fetches
without end.
-/

namespace AccountWire.Listing

open Relation (ReflTransGen TransGen)

variable {σ ε α : Type} {g : String → Answer ε α} {a b : String} {l l' : List String}

/-- Fetches that are answered by the token alone, in all states that the backend can be in. -/
structure AnswersBy (g : String → Answer ε α) (fetch : Fetch σ ε α) (live : σ → Prop) : Prop where
  answer : ∀ token s, live s → (fetch token s).1 = g token
  stays : ∀ token s, live s → live (fetch token s).2

/-- The page at a token is empty and not the last, so that a call goes on with the next one. -/
def Skips (g : String → Answer ε α) (a b : String) : Prop :=
  ∃ page, g a = .ok page ∧ page.items = [] ∧ page.nextPageToken = b ∧ b ≠ ""

/-- Ahead of a token lies a circle of empty pages. -/
def Circles (g : String → Answer ε α) (a : String) : Prop :=
  ∃ b, ReflTransGen (Skips g) a b ∧ TransGen (Skips g) b b

/-- The tokens that are asked for from a token on, up to one whose page is not skipped. -/
inductive Settles (g : String → Answer ε α) : String → List String → Prop
  | here {a : String} (h : ∀ b, ¬ Skips g a b) : Settles g a [a]
  | skip {a b : String} {l : List String} (h : Skips g a b) (rest : Settles g b l) :
      Settles g a (a :: l)

/-! ### From token to token -/

/-- A token is skipped to one other token only. -/
theorem Skips.unique {c : String} (h : Skips g a b) (h' : Skips g a c) : b = c := by
  obtain ⟨page, hpage, -, rfl, -⟩ := h
  obtain ⟨page', hpage', -, rfl, -⟩ := h'
  obtain rfl := Except.ok.inj (hpage.symm.trans hpage')
  rfl

namespace Settles

/-- Where the first token is skipped, the others settle. -/
theorem tail (h : Settles g a l) (hskip : Skips g a b) :
    ∃ l', Settles g b l' ∧ l = a :: l' := by
  cases h with
  | here hend => exact absurd hskip (hend b)
  | skip hskip' rest =>
      obtain rfl := hskip'.unique hskip
      exact ⟨_, rest, rfl⟩

/-- A token settles through one row of tokens only. -/
theorem unique (h : Settles g a l) (h' : Settles g a l') : l = l' := by
  induction h generalizing l' with
  | here hend =>
      cases h' with
      | here => rfl
      | skip hskip => exact absurd hskip (hend _)
  | skip hskip _ ih =>
      obtain ⟨l₁, h₁, rfl⟩ := h'.tail hskip
      rw [ih h₁]

/-- From each token that is asked for, the rest of the way settles. -/
theorem of_mem (h : Settles g a l) (hb : b ∈ l) : ∃ l', Settles g b l' ∧ l' <:+ l := by
  induction h with
  | here hend =>
      obtain rfl := List.mem_singleton.mp hb
      exact ⟨_, .here hend, List.suffix_refl _⟩
  | skip hskip rest ih =>
      rcases List.mem_cons.mp hb with rfl | hb
      · exact ⟨_, .skip hskip rest, List.suffix_refl _⟩
      · obtain ⟨l', hl', hsuffix⟩ := ih hb
        exact ⟨l', hl', hsuffix.trans (List.suffix_cons _ _)⟩

/-- **No token is asked for twice**: the way from it would be shorter than itself. -/
theorem nodup (h : Settles g a l) : l.Nodup := by
  induction h with
  | here => exact List.nodup_singleton _
  | @skip a b l hskip rest ih =>
      refine List.nodup_cons.mpr ⟨?_, ih⟩
      intro ha
      obtain ⟨l', hl', hsuffix⟩ := rest.of_mem ha
      have hlength := hsuffix.length_le
      rw [hl'.unique (.skip hskip rest), List.length_cons] at hlength
      omega

/-- After the first token, all that are asked for were handed out with a page. -/
theorem mem_tokens {tokens : Finset String}
    (htokens : ∀ token page, g token = .ok page → page.nextPageToken ∈ tokens)
    (h : Settles g a l) : ∀ b ∈ l, b = a ∨ b ∈ tokens := by
  induction h with
  | here => simp
  | skip hskip _ ih =>
      intro c hc
      rcases List.mem_cons.mp hc with rfl | hc
      · exact Or.inl rfl
      · rcases ih c hc with rfl | hc
        · obtain ⟨page, hpage, -, rfl, -⟩ := hskip
          exact Or.inr (htokens _ page hpage)
        · exact Or.inr hc

/-- **At most one fetch for each token that is handed out, and one for the first.** -/
theorem length_le {tokens : Finset String}
    (htokens : ∀ token page, g token = .ok page → page.nextPageToken ∈ tokens)
    (h : Settles g a l) : l.length ≤ tokens.card + 1 := by
  have hsubset : l.toFinset ⊆ insert a tokens := by
    intro b hb
    rw [List.mem_toFinset] at hb
    exact Finset.mem_insert.mpr (h.mem_tokens htokens b hb)
  calc l.length = l.toFinset.card := (List.toFinset_card_of_nodup h.nodup).symm
    _ ≤ (insert a tokens).card := Finset.card_le_card hsubset
    _ ≤ tokens.card + 1 := Finset.card_insert_le a tokens

/-- Tokens that are skipped to settle through what is left of the row. -/
theorem of_reflTransGen (h : Settles g a l) (hab : ReflTransGen (Skips g) a b) :
    ∃ l', Settles g b l' ∧ l' <:+ l := by
  induction hab with
  | refl => exact ⟨l, h, List.suffix_refl l⟩
  | tail _ hskip ih =>
      obtain ⟨l₁, h₁, hsuffix⟩ := ih
      obtain ⟨l₂, h₂, rfl⟩ := h₁.tail hskip
      exact ⟨l₂, h₂, (List.suffix_cons _ _).trans hsuffix⟩

end Settles

/-- In a circle, no way comes to an end. -/
theorem Circles.not_settles (h : Circles g a) : ¬ Settles g a l := by
  obtain ⟨b, hab, hcircle⟩ := h
  intro hl
  obtain ⟨l₁, h₁, -⟩ := hl.of_reflTransGen hab
  obtain ⟨c, hskip, hback⟩ := TransGen.head'_iff.mp hcircle
  obtain ⟨l₂, h₂, rfl⟩ := h₁.tail hskip
  obtain ⟨l₃, h₃, hsuffix⟩ := h₂.of_reflTransGen hback
  have hlength := hsuffix.length_le
  rw [h₃.unique h₁, List.length_cons] at hlength
  omega

/-- **Among finitely many tokens, a way that does not end is a circle.**  The induction is on the
tokens that were not seen on the way. -/
theorem settles_or_circles {tokens : Finset String}
    (htokens : ∀ token page, g token = .ok page → page.nextPageToken ∈ tokens) (a : String) :
    (∃ l, Settles g a l) ∨ Circles g a := by
  have hway : ∀ (n : Nat) (seen : Finset String) (a : String), (tokens \ seen).card = n →
      (∀ c ∈ seen, ReflTransGen (Skips g) c a) → (∃ l, Settles g a l) ∨ Circles g a := by
    intro n
    induction n using Nat.strong_induction_on with
    | _ n ih =>
        intro seen a hcard hseen
        by_cases hskip : ∃ b, Skips g a b
        · obtain ⟨b, hskip⟩ := hskip
          by_cases hb : b ∈ seen
          · exact Or.inr ⟨b, .single hskip, .tail' (hseen b hb) hskip⟩
          · have hnew : b ∈ tokens \ seen := by
              obtain ⟨page, hpage, -, rfl, -⟩ := hskip
              exact Finset.mem_sdiff.mpr ⟨htokens _ page hpage, hb⟩
            have hless : (tokens \ insert b seen).card < n := by
              rw [← hcard, Finset.sdiff_insert]
              exact Finset.card_erase_lt_of_mem hnew
            have hseen' : ∀ c ∈ insert b seen, ReflTransGen (Skips g) c b := by
              intro c hc
              rcases Finset.mem_insert.mp hc with rfl | hc
              · exact .refl
              · exact .tail (hseen c hc) hskip
            rcases ih _ hless (insert b seen) b rfl hseen' with ⟨l, hl⟩ | ⟨c, hc, hcircle⟩
            · exact Or.inl ⟨a :: l, .skip hskip hl⟩
            · exact Or.inr ⟨c, .head hskip hc, hcircle⟩
        · exact Or.inl ⟨[a], .here fun b h => hskip ⟨b, h⟩⟩
  exact hway _ ∅ a rfl (by simp)

/-! ### From call to call -/

section

variable {fetch : Fetch σ ε α} {w w' w₁ : Walk α} {s s' s₁ : σ} {y y₁ : Yield ε α}

/-- A turn that yields is all that a call does. -/
theorem returns_of_yield (h : w.advance fetch s = .yield y w' s') :
    w.Returns fetch s y₁ w₁ s₁ ↔ (y₁, w₁, s₁) = (y, w', s') := by
  have hnext : ∀ fetches, Walk.next fetch fetches w s = some (y, w', s') := by
    intro fetches
    rw [Walk.next, h]
  simp only [Walk.Returns, hnext, Option.some.injEq, exists_const]
  exact eq_comm

/-- After a turn that fetches a page, a call returns what a call from then on returns. -/
theorem returns_of_fetched (h : w.advance fetch s = .fetched w₁ s₁) :
    w.Returns fetch s y w' s' ↔ w₁.Returns fetch s₁ y w' s' := by
  constructor
  · rintro ⟨fetches, hcall⟩
    rw [Walk.next, h] at hcall
    cases fetches with
    | zero => cases hcall
    | succ fetches => exact ⟨fetches, hcall⟩
  · rintro ⟨fetches, hcall⟩
    refine ⟨fetches + 1, ?_⟩
    rw [Walk.next, h]
    exact hcall

/-- **A call, turn by turn**: what holds before a turn that yields, and before one that fetches a
page if it holds after it, holds before every call that returns. -/
theorem Walk.Returns.turns {P : Walk α → σ → Prop} (hcall : w.Returns fetch s y w' s')
    (hyield : ∀ w s, w.advance fetch s = .yield y w' s' → P w s)
    (hfetched : ∀ w s w₁ s₁, w.advance fetch s = .fetched w₁ s₁ →
      w₁.Returns fetch s₁ y w' s' → P w₁ s₁ → P w s) : P w s := by
  obtain ⟨fetches, hcall⟩ := hcall
  induction fetches generalizing w s with
  | zero =>
      rw [Walk.next] at hcall
      split at hcall
      · next hadvance =>
        cases hcall
        exact hyield w s hadvance
      · cases hcall
  | succ fetches ih =>
      rw [Walk.next] at hcall
      split at hcall
      · next hadvance =>
        cases hcall
        exact hyield w s hadvance
      · next hadvance => exact hfetched w s _ _ hadvance ⟨fetches, hcall⟩ (ih hcall)

variable {live : σ → Prop}

/-- A skipped page leaves nothing but the next token. -/
theorem AnswersBy.advance_of_skips (h : AnswersBy g fetch live) (hs : live s)
    (hskip : Skips g a b) :
    Walk.advance fetch ⟨a, [], false⟩ s = .fetched ⟨b, [], false⟩ (fetch a s).2 := by
  obtain ⟨page, hpage, hitems, rfl, htoken⟩ := hskip
  have hfetch : fetch a s = (.ok page, (fetch a s).2) := by rw [← hpage, ← h.answer a s hs]
  rw [Walk.advance, hfetch]
  simp [hitems, htoken]

/-- Whatever is not skipped makes a call return, with no other fetch. -/
theorem AnswersBy.returns_of_not_skips (h : AnswersBy g fetch live) (hs : live s)
    (hend : ∀ b, ¬ Skips g a b) :
    ∃ y w', ∀ y₁ w₁ s₁, Walk.Returns fetch ⟨a, [], false⟩ s y₁ w₁ s₁ ↔
      (y₁, w₁, s₁) = (y, w', (fetch a s).2) := by
  have hfetch : fetch a s = (g a, (fetch a s).2) := by rw [← h.answer a s hs]
  cases hpage : g a with
  | error e =>
      rw [hpage] at hfetch
      refine ⟨some (.error e), ⟨a, [], true⟩, fun y₁ w₁ s₁ => returns_of_yield ?_⟩
      rw [Walk.advance, hfetch]
      rfl
  | ok page =>
      rw [hpage] at hfetch
      have hfetched : Walk.advance fetch ⟨a, [], false⟩ s =
          .fetched ⟨page.nextPageToken, page.items, page.nextPageToken = ""⟩ (fetch a s).2 := by
        rw [Walk.advance, hfetch]
        rfl
      cases hitems : page.items with
      | cons item rest =>
          rw [hitems] at hfetched
          refine ⟨some (.ok item), ⟨page.nextPageToken, rest, page.nextPageToken = ""⟩, ?_⟩
          intro y₁ w₁ s₁
          exact (returns_of_fetched hfetched).trans (returns_of_yield rfl)
      | nil =>
          have hlast : page.nextPageToken = "" := by
            by_contra htoken
            exact hend _ ⟨page, hpage, hitems, rfl, htoken⟩
          rw [hitems] at hfetched
          refine ⟨none, ⟨page.nextPageToken, [], page.nextPageToken = ""⟩, ?_⟩
          intro y₁ w₁ s₁
          refine (returns_of_fetched hfetched).trans (returns_of_yield ?_)
          simp [Walk.advance, hlast]

/-- A call returns when its token settles. -/
theorem AnswersBy.returns_of_settles (h : AnswersBy g fetch live) (hl : Settles g a l)
    (hs : live s) : ∃ y w' s', Walk.Returns fetch ⟨a, [], false⟩ s y w' s' := by
  induction hl generalizing s with
  | here hend =>
      obtain ⟨y, w', hreturns⟩ := h.returns_of_not_skips hs hend
      exact ⟨y, w', _, (hreturns _ _ _).mpr rfl⟩
  | skip hskip _ ih =>
      obtain ⟨y, w', s', hcall⟩ := ih (h.stays _ s hs)
      exact ⟨y, w', s', (returns_of_fetched (h.advance_of_skips hs hskip)).mpr hcall⟩

/-- Recording the calls changes no answer. -/
theorem AnswersBy.recorded (h : AnswersBy g fetch live) :
    AnswersBy g (recorded fetch) fun s => live s.1 where
  answer token s hs := h.answer token s.1 hs
  stays token s hs := h.stays token s.1 hs

section

variable {calls calls' : List (String × Answer ε α)}

/-- A call that does not skip its first page has asked for one token. -/
theorem AnswersBy.calls_of_not_skips (h : AnswersBy g fetch live) (hs : live s)
    (hend : ∀ b, ¬ Skips g a b)
    (hcall : Walk.Returns (Listing.recorded fetch) ⟨a, [], false⟩ (s, calls) y w' (s', calls')) :
    calls'.map (·.1) = calls.map (·.1) ++ [a] := by
  obtain ⟨y₁, w₁, hreturns⟩ := h.recorded.returns_of_not_skips (s := (s, calls)) hs hend
  have hresult := (hreturns _ _ _).mp hcall
  simp only [Prod.mk.injEq, Listing.recorded] at hresult
  rw [hresult.2.2.2, List.map_append]
  rfl

/-- **A call that returns has asked for the tokens on the way to one that settles.** -/
theorem AnswersBy.settles_of_returns (h : AnswersBy g fetch live) (hs : live s)
    (hcall : Walk.Returns (Listing.recorded fetch) ⟨a, [], false⟩ (s, calls) y w' (s', calls')) :
    ∃ l, Settles g a l ∧ calls'.map (·.1) = calls.map (·.1) ++ l := by
  have hway := hcall.turns (P := fun w t => ∀ a, w = ⟨a, [], false⟩ → live t.1 →
    ∃ l, Settles g a l ∧ calls'.map (·.1) = t.2.map (·.1) ++ l) ?_ ?_
  · exact hway a rfl hs
  · rintro _ ⟨s, calls⟩ hyield a rfl hs
    have hend : ∀ b, ¬ Skips g a b := by
      intro b hskip
      rw [h.recorded.advance_of_skips hs hskip] at hyield
      cases hyield
    exact ⟨[a], .here hend, h.calls_of_not_skips hs hend ((returns_of_yield hyield).mpr rfl)⟩
  · rintro _ ⟨s, calls⟩ w₁ t₁ hfetched hrest ih a rfl hs
    by_cases hskip : ∃ b, Skips g a b
    · obtain ⟨b, hskip⟩ := hskip
      obtain ⟨rfl, rfl⟩ : _ = w₁ ∧ _ = t₁ := by
        simpa [h.recorded.advance_of_skips (s := (s, calls)) hs hskip] using hfetched
      obtain ⟨l, hl, hcalls⟩ := ih b rfl (h.stays a s hs)
      refine ⟨a :: l, .skip hskip hl, ?_⟩
      rw [hcalls]
      simp [Listing.recorded]
    · have hend : ∀ b, ¬ Skips g a b := not_exists.mp hskip
      exact ⟨[a], .here hend,
        h.calls_of_not_skips hs hend ((returns_of_fetched hfetched).mpr hrest)⟩

end

/-- **A call returns exactly when its token settles.** -/
theorem AnswersBy.returns_iff_settles (h : AnswersBy g fetch live) (hs : live s) :
    (∃ y w' s', Walk.Returns fetch ⟨a, [], false⟩ s y w' s') ↔ ∃ l, Settles g a l := by
  constructor
  · rintro ⟨y, w', s', fetches, hcall⟩
    obtain ⟨calls, hrecorded⟩ := next_recorded hcall []
    obtain ⟨l, hl, -⟩ := h.settles_of_returns hs ⟨fetches, hrecorded⟩
    exact ⟨l, hl⟩
  · rintro ⟨l, hl⟩
    exact h.returns_of_settles hl hs

/-- A walk that has an item or has ended returns without a fetch. -/
theorem returns_at_once (h : w.buffer ≠ [] ∨ w.exhausted = true) :
    w.Returns fetch s y₁ w₁ s₁ ↔
      (y₁, w₁, s₁) = (w.buffer.head?.map .ok, { w with buffer := w.buffer.tail }, s) := by
  obtain ⟨token, buffer, exhausted⟩ := w
  cases buffer with
  | cons item rest => exact returns_of_yield rfl
  | nil =>
      obtain rfl : exhausted = true := by simpa using h
      exact returns_of_yield rfl

end

/-- **A call returns unless a circle of empty pages lies ahead.**  Let a backend answer by the token
alone, and let it hand out finitely many tokens.  From any state of a walk, a call returns exactly
when the walk has an item, has ended, or has no circle of empty pages ahead of its token.  A call
that returns has asked for no token twice: it makes at most one fetch for each token that the
backend hands out, and one more. -/
theorem call_returns_unless_circle {fetch : Fetch σ ε α} {live : σ → Prop}
    (h : AnswersBy g fetch live) {tokens : Finset String}
    (htokens : ∀ token page, g token = .ok page → page.nextPageToken ∈ tokens) (w : Walk α)
    {s : σ} (hs : live s) :
    ((∃ y w' s', w.Returns fetch s y w' s') ↔
      (w.buffer = [] → w.exhausted = false → ¬ Circles g w.pageToken)) ∧
    ∀ y w' s', w.Returns fetch s y w' s' →
      ∃ calls, w.Returns (recorded fetch) (s, []) y w' (s', calls) ∧
        (calls.map (·.1)).Nodup ∧ calls.length ≤ tokens.card + 1 := by
  by_cases hready : w.buffer ≠ [] ∨ w.exhausted = true
  · refine ⟨iff_of_true ⟨_, _, _, (returns_at_once hready).mpr rfl⟩ ?_, ?_⟩
    · intro hbuffer hexhausted
      rw [hbuffer, hexhausted] at hready
      simp at hready
    · intro y w' s' hcall
      have hresult := (returns_at_once hready).mp hcall
      simp only [Prod.mk.injEq] at hresult
      obtain ⟨rfl, rfl, rfl⟩ := hresult
      exact ⟨[], (returns_at_once hready).mpr rfl, List.nodup_nil, Nat.zero_le _⟩
  · obtain ⟨token, buffer, exhausted⟩ := w
    obtain ⟨rfl, rfl⟩ : buffer = [] ∧ exhausted = false := by simpa using hready
    refine ⟨?_, ?_⟩
    · rw [h.returns_iff_settles hs]
      constructor
      · rintro ⟨l, hl⟩ - - hcircle
        exact hcircle.not_settles hl
      · intro hopen
        exact (settles_or_circles htokens token).resolve_right (hopen rfl rfl)
    · rintro y w' s' ⟨fetches, hcall⟩
      obtain ⟨calls, hrecorded⟩ := next_recorded hcall []
      obtain ⟨l, hl, hcalls⟩ := h.settles_of_returns hs ⟨fetches, hrecorded⟩
      rw [List.map_nil, List.nil_append] at hcalls
      refine ⟨calls, ⟨fetches, hrecorded⟩, hcalls ▸ hl.nodup, ?_⟩
      calc calls.length = l.length := by rw [← hcalls, List.length_map]
        _ ≤ tokens.card + 1 := hl.length_le htokens

/-- Fetches from a backend that has no state. -/
def byToken (g : String → Answer ε α) : Fetch Unit ε α := fun token s => (g token, s)

/-- A backend that answers by token does so in every state. -/
theorem answersBy_byToken (g : String → Answer ε α) :
    AnswersBy g (byToken g) fun _ => True where
  answer _ _ _ := rfl
  stays _ _ _ := trivial

/-- Two empty pages, and a page of one item that leads back to the second of them. -/
def detour : String → Answer String Nat := fun token =>
  if token = "c" then .ok ⟨[7], "b"⟩
  else if token = "b" then .ok ⟨[], "c"⟩
  else .ok ⟨[], "b"⟩

/-- The first call on the detour makes three fetches, for two tokens that are handed out. -/
theorem detour_call_returns :
    Walk.Returns (byToken detour) (Walk.start "") () (some (.ok 7)) ⟨"b", [], false⟩ () ∧
      ¬ Circles detour "" ∧
      ∃ calls, Walk.Returns (recorded (byToken detour)) (Walk.start "") ((), []) (some (.ok 7))
          ⟨"b", [], false⟩ ((), calls) ∧
        (calls.map (·.1)).Nodup ∧ calls.length ≤ 3 := by
  have htokens : ∀ token page, detour token = .ok page →
      page.nextPageToken ∈ ({"b", "c"} : Finset String) := by
    intro token page hpage
    unfold detour at hpage
    split at hpage
    · cases hpage
      decide
    · split at hpage <;>
        · cases hpage
          decide
  have hcall : Walk.Returns (byToken detour) (Walk.start "") () (some (.ok 7))
      ⟨"b", [], false⟩ () := ⟨3, rfl⟩
  obtain ⟨hiff, hcalls⟩ := call_returns_unless_circle (answersBy_byToken detour) htokens
    (Walk.start "") (s := ()) trivial
  exact ⟨hcall, hiff.mp ⟨_, _, _, hcall⟩ rfl rfl, hcalls _ _ _ hcall⟩

/-- One empty page for every request, with a token of its own: the first call never returns. -/
theorem canned_empty_page_never_returns :
    (∀ token page, (fun _ => .ok ⟨[], "t"⟩ : String → Answer String Nat) token = .ok page →
      page.nextPageToken ∈ ({"t"} : Finset String)) ∧
    ¬ ∃ y w' s', Walk.Returns (byToken fun _ => .ok ⟨[], "t"⟩ : Fetch Unit String Nat)
      (Walk.start "") () y w' s' := by
  refine ⟨?_, ?_⟩
  · intro token page hpage
    cases hpage
    decide
  · have hskip : ∀ a, Skips (fun _ => .ok ⟨[], "t"⟩ : String → Answer String Nat) a "t" :=
      fun a => ⟨⟨[], "t"⟩, rfl, rfl, rfl, by decide⟩
    rintro ⟨y, w', s', hcall⟩
    obtain ⟨l, hl⟩ := ((answersBy_byToken _).returns_iff_settles trivial).mp ⟨y, w', s', hcall⟩
    exact Circles.not_settles ⟨"t", .single (hskip ""), .single (hskip "t")⟩ hl

end AccountWire.Listing
