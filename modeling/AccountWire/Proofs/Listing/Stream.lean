import AccountWire.Listing.Walk

/-!
# What a walk yields, as one stream

The fetches of a walk are answered one after the other, each by a page or an error.  The sequence
of answers alone determines what the walk yields: the items of the pages in order, up to the first
page without a token or the first error, which is yielded too, and nothing from then on.

The definitions come first: calls of `next` that return (`Returns`), runs of such calls (`Run`),
and the stream of a sequence of answers (`StreamAt`).  The proofs then follow the walk turn by
turn.  `Reached` says where a walk stands after a number of fetches and yields:

* `advance_yield`, `advance_fetched` — one turn keeps `Reached`;
* `Reached.next`, `Reached.run` — so do one call and a run of calls, and what they yield is the
  stream's;
* `Reached.returns` — a call returns as soon as the stream goes on or has ended;
* `run_yields_stream` — the whole walk.
-/

namespace AccountWire.Listing

variable {σ ε α : Type}

/-- What a fetch is answered with. -/
abbrev Answer (ε α : Type) := Except ε (Page α)

/-- An answer ends the walk: it is an error, or a page without a token. -/
def Ends : Answer ε α → Prop
  | .error _ => True
  | .ok page => page.nextPageToken = ""

/-- What a list of answers makes a walk yield. -/
def yields : List (Answer ε α) → List (Except ε α)
  | [] => []
  | .error e :: _ => [.error e]
  | .ok page :: rest =>
    page.items.map .ok ++ if page.nextPageToken = "" then [] else yields rest

/-- The first `k` answers of a sequence. -/
def firstAnswers (r : Nat → Answer ε α) (k : Nat) : List (Answer ε α) := (List.range k).map r

/-- The stream of a sequence of answers has `y` at place `n`: an item or an error that finitely
many answers make a walk yield there, or nothing when the answers have ended before. -/
def StreamAt (r : Nat → Answer ε α) (n : Nat) : Yield ε α → Prop
  | some x => ∃ k, (yields (firstAnswers r k))[n]? = some x
  | none => ∃ k, Ends (r k) ∧ (yields (firstAnswers r (k + 1))).length ≤ n

/-- The token to fetch with after an answer to a fetch with `token`. -/
def tokenAfter (token : String) : Answer ε α → String
  | .ok page => page.nextPageToken
  | .error _ => token

/-- The token of the `i`-th fetch: the one of the start, and then that of the page before. -/
def tokenAt (token : String) (r : Nat → Answer ε α) : Nat → String
  | 0 => token
  | i + 1 => tokenAfter (tokenAt token r i) (r i)

/-- The token and the state that the `i`-th fetch is made with. -/
def fetchAt (fetch : Fetch σ ε α) (token : String) (s : σ) : Nat → String × σ
  | 0 => (token, s)
  | i + 1 =>
    let point := fetchAt fetch token s i
    let result := fetch point.1 point.2
    (tokenAfter point.1 result.1, result.2)

/-- The sequence of answers that fetches give from a token and a state on. -/
def answer (fetch : Fetch σ ε α) (token : String) (s : σ) (i : Nat) : Answer ε α :=
  (fetch (fetchAt fetch token s i).1 (fetchAt fetch token s i).2).1

/-- Fetches that also keep a list of the tokens asked for and the answers to them. -/
def recorded (fetch : Fetch σ ε α) : Fetch (σ × List (String × Answer ε α)) ε α :=
  fun token (s, calls) =>
    let (a, s) := fetch token s
    (a, (s, calls ++ [(token, a)]))

/-- Fetches that give the answers of a sequence, whatever they are asked for. -/
def scripted (r : Nat → Answer ε α) : Fetch Nat ε α := fun _ i => (r i, i + 1)

namespace Walk

/-- A call of `next` returns `y`, given enough fetches. -/
def Returns (fetch : Fetch σ ε α) (w : Walk α) (s : σ) (y : Yield ε α) (w' : Walk α) (s' : σ) :
    Prop :=
  ∃ fetches, next fetch fetches w s = some (y, w', s')

/-- Calls of `next` one after the other, all of which return. -/
inductive Run (fetch : Fetch σ ε α) :
    Walk α → σ → List (Yield ε α) → Walk α → σ → Prop
  | nil (w : Walk α) (s : σ) : Run fetch w s [] w s
  | cons {w w' w'' : Walk α} {s s' s'' : σ} {y : Yield ε α} {ys : List (Yield ε α)}
      (call : Returns fetch w s y w' s') (rest : Run fetch w' s' ys w'' s'') :
      Run fetch w s (y :: ys) w'' s''

end Walk

/-! ### Streams -/

/-- An answer that does not end is followed by what the others make a walk yield. -/
theorem yields_append_of_open {l : List (Answer ε α)} (l' : List (Answer ε α))
    (hopen : ∀ a ∈ l, ¬ Ends a) : yields (l ++ l') = yields l ++ yields l' := by
  induction l with
  | nil => simp [yields]
  | cons a rest ih =>
      have htail := ih fun b hb => hopen b (List.mem_cons_of_mem _ hb)
      cases a with
      | error e => exact absurd trivial (hopen _ List.mem_cons_self)
      | ok page =>
          have hp : page.nextPageToken ≠ "" := hopen _ List.mem_cons_self
          simp [yields, hp, htail]

/-- Answers after an end make no difference. -/
theorem yields_append_of_ends {l : List (Answer ε α)} (l' : List (Answer ε α))
    (hend : ∃ a ∈ l, Ends a) : yields (l ++ l') = yields l := by
  induction l with
  | nil => simp at hend
  | cons a rest ih =>
      cases a with
      | error e => rfl
      | ok page =>
          by_cases hp : page.nextPageToken = ""
          · simp [yields, hp]
          · obtain ⟨b, hb, hbend⟩ := hend
            have hrest : b ∈ rest := by
              rcases List.mem_cons.mp hb with rfl | hb
              · exact absurd hbend hp
              · exact hb
            simp [yields, hp, ih ⟨b, hrest, hbend⟩]

/-- More answers yield more, and what came before stays. -/
theorem yields_prefix_append (l l' : List (Answer ε α)) : yields l <+: yields (l ++ l') := by
  by_cases hend : ∃ a ∈ l, Ends a
  · exact ⟨[], by rw [yields_append_of_ends l' hend, List.append_nil]⟩
  · rw [yields_append_of_open l' fun a ha h => hend ⟨a, ha, h⟩]
    exact List.prefix_append _ _

theorem firstAnswers_succ (r : Nat → Answer ε α) (k : Nat) :
    firstAnswers r (k + 1) = firstAnswers r k ++ [r k] := by
  simp [firstAnswers, List.range_succ]

theorem firstAnswers_add (r : Nat → Answer ε α) (k d : Nat) :
    ∃ l, firstAnswers r (k + d) = firstAnswers r k ++ l := by
  induction d with
  | zero => exact ⟨[], by simp⟩
  | succ d ih =>
      obtain ⟨l, hl⟩ := ih
      refine ⟨l ++ [r (k + d)], ?_⟩
      rw [← Nat.add_assoc, firstAnswers_succ, hl, List.append_assoc]

/-- The first answers are those to the first fetches. -/
theorem mem_firstAnswers {r : Nat → Answer ε α} {k : Nat} {a : Answer ε α} :
    a ∈ firstAnswers r k ↔ ∃ i, i < k ∧ r i = a := by
  simp [firstAnswers]

/-- More answers only add to what is yielded. -/
theorem yields_mono (r : Nat → Answer ε α) {k k' : Nat} (h : k ≤ k') :
    yields (firstAnswers r k) <+: yields (firstAnswers r k') := by
  obtain ⟨d, rfl⟩ : ∃ d, k' = k + d := ⟨k' - k, by omega⟩
  obtain ⟨l, hl⟩ := firstAnswers_add r k d
  rw [hl]
  exact yields_prefix_append _ _

/-- Nothing is added after an end. -/
theorem yields_eq_of_ends {r : Nat → Answer ε α} {i k : Nat} (hend : Ends (r i)) (hik : i < k) :
    yields (firstAnswers r k) = yields (firstAnswers r (i + 1)) := by
  obtain ⟨d, rfl⟩ : ∃ d, k = i + 1 + d := ⟨k - (i + 1), by omega⟩
  obtain ⟨l, hl⟩ := firstAnswers_add r (i + 1) d
  rw [hl]
  exact yields_append_of_ends l ⟨r i, mem_firstAnswers.mpr ⟨i, by omega, rfl⟩, hend⟩

/-- What was yielded stays when more answers come. -/
theorem yields_getElem?_mono {r : Nat → Answer ε α} {k k' n : Nat} {x : Except ε α} (h : k ≤ k')
    (hn : (yields (firstAnswers r k))[n]? = some x) :
    (yields (firstAnswers r k'))[n]? = some x := by
  obtain ⟨hlt, hx⟩ := List.getElem?_eq_some_iff.mp hn
  rw [List.prefix_iff_getElem?.mp (yields_mono r h) n hlt, hx]

/-- Where the stream has an element, it has not ended. -/
theorem length_gt_of_stream {r : Nat → Answer ε α} {i k n : Nat} {x : Except ε α}
    (hend : Ends (r i)) (hn : (yields (firstAnswers r k))[n]? = some x) :
    n < (yields (firstAnswers r (i + 1))).length := by
  obtain ⟨hlt, _⟩ := List.getElem?_eq_some_iff.mp hn
  by_cases hik : i < k
  · rwa [yields_eq_of_ends hend hik] at hlt
  · exact Nat.lt_of_lt_of_le hlt (yields_mono r (by omega)).length_le

/-- **The stream is a function of the answers**: it has at most one element at a place. -/
theorem StreamAt.unique {r : Nat → Answer ε α} {n : Nat} {y y' : Yield ε α}
    (h : StreamAt r n y) (h' : StreamAt r n y') : y = y' := by
  match y, y', h, h' with
  | none, none, _, _ => rfl
  | none, some x, ⟨i, hend, hle⟩, ⟨k, hk⟩ =>
      have := length_gt_of_stream hend hk
      omega
  | some x, none, ⟨k, hk⟩, ⟨i, hend, hle⟩ =>
      have := length_gt_of_stream hend hk
      omega
  | some x, some x', ⟨k, hk⟩, ⟨k', hk'⟩ =>
      have hle := yields_getElem?_mono (Nat.le_max_left k k') hk
      have hle' := yields_getElem?_mono (Nat.le_max_right k k') hk'
      rw [← hle, ← hle']

/-! ### One turn -/

/-- What one turn of a walk does. -/
theorem advance_cases (fetch : Fetch σ ε α) (w : Walk α) (s : σ) :
    (∃ item rest, w.buffer = item :: rest ∧
      w.advance fetch s = .yield (some (.ok item)) { w with buffer := rest } s) ∨
    (w.buffer = [] ∧ w.exhausted = true ∧ w.advance fetch s = .yield none w s) ∨
    (w.buffer = [] ∧ w.exhausted = false ∧ ∃ page s', fetch w.pageToken s = (.ok page, s') ∧
      w.advance fetch s =
        .fetched ⟨page.nextPageToken, page.items, page.nextPageToken = ""⟩ s') ∨
    (w.buffer = [] ∧ w.exhausted = false ∧ ∃ e s', fetch w.pageToken s = (.error e, s') ∧
      w.advance fetch s = .yield (some (.error e)) { w with exhausted := true } s') := by
  cases hb : w.buffer with
  | cons item rest =>
      left
      exact ⟨item, rest, rfl, by simp [Walk.advance, hb]⟩
  | nil =>
      right
      cases hx : w.exhausted with
      | true => left; exact ⟨rfl, rfl, by simp [Walk.advance, hb, hx]⟩
      | false =>
          right
          match hf : fetch w.pageToken s with
          | (.ok page, s') =>
              left
              exact ⟨rfl, rfl, page, s', rfl, by simp [Walk.advance, hb, hx, hf]⟩
          | (.error e, s') =>
              right
              exact ⟨rfl, rfl, e, s', rfl, by simp [Walk.advance, hb, hx, hf]⟩

/-- Where a walk from a token and a state stands after `k` fetches and `n` calls that returned. -/
structure Reached (fetch : Fetch σ ε α) (token : String) (s₀ : σ) (k n : Nat) (w : Walk α)
    (s : σ) : Prop where
  /-- The next fetch would be the `k`-th. -/
  point : fetchAt fetch token s₀ k = (w.pageToken, s)
  /-- No answer but the last one is an end. -/
  open_before : ∀ i, i + 1 < k → ¬ Ends (answer fetch token s₀ i)
  /-- The walk is exhausted when its last answer is an end. -/
  exhausted_iff : w.exhausted = true ↔ ∃ i, i + 1 = k ∧ Ends (answer fetch token s₀ i)
  /-- What was fetched and not yet yielded. -/
  buffered : (yields (firstAnswers (answer fetch token s₀) k)).drop n = w.buffer.map .ok
  /-- Before the end, every call has yielded an element. -/
  within : w.exhausted = false → n ≤ (yields (firstAnswers (answer fetch token s₀) k)).length

variable {fetch : Fetch σ ε α} {token : String} {s₀ s s' : σ} {k n : Nat} {w w' : Walk α}
  {y : Yield ε α}

/-- A walk that begins has made no fetch and yielded nothing. -/
theorem Reached.start (fetch : Fetch σ ε α) (token : String) (s₀ : σ) :
    Reached fetch token s₀ 0 0 (Walk.start token) s₀ where
  point := rfl
  open_before i hi := by omega
  exhausted_iff := by simp [Walk.start]
  buffered := by simp [firstAnswers, yields, Walk.start]
  within _ := Nat.zero_le _

/-- While the walk is not exhausted, none of its answers is an end. -/
theorem Reached.all_open (h : Reached fetch token s₀ k n w s) (hx : w.exhausted = false) :
    ∀ a ∈ firstAnswers (answer fetch token s₀) k, ¬ Ends a := by
  intro a ha hend
  obtain ⟨i, hik, rfl⟩ := mem_firstAnswers.mp ha
  by_cases hlast : i + 1 = k
  · have := h.exhausted_iff.mpr ⟨i, hlast, hend⟩
    simp [hx] at this
  · exact h.open_before i (by omega) hend

/-- The answer to the next fetch is the next one of the sequence. -/
theorem Reached.answer_eq (h : Reached fetch token s₀ k n w s) :
    answer fetch token s₀ k = (fetch w.pageToken s).1 := by
  simp [answer, h.point]

/-- With nothing buffered and no end, all that was fetched has been yielded. -/
theorem Reached.length_eq (h : Reached fetch token s₀ k n w s) (hb : w.buffer = [])
    (hx : w.exhausted = false) :
    (yields (firstAnswers (answer fetch token s₀) k)).length = n := by
  have hdrop := h.buffered
  rw [hb, List.map_nil, List.drop_eq_nil_iff] at hdrop
  exact Nat.le_antisymm hdrop (h.within hx)

/-- What the next answer adds to what is yielded. -/
theorem Reached.yields_succ (h : Reached fetch token s₀ k n w s) (hx : w.exhausted = false) :
    yields (firstAnswers (answer fetch token s₀) (k + 1)) =
      yields (firstAnswers (answer fetch token s₀) k) ++ yields [answer fetch token s₀ k] := by
  rw [firstAnswers_succ, yields_append_of_open _ (h.all_open hx)]

/-- An item that is held is the next one of the stream. -/
theorem Reached.yield_item {item : α} {rest : List α} (h : Reached fetch token s₀ k n w s)
    (hb : w.buffer = item :: rest) :
    Reached fetch token s₀ k (n + 1) { w with buffer := rest } s ∧
      StreamAt (answer fetch token s₀) n (some (.ok item)) := by
  have hdrop := h.buffered
  rw [hb, List.map_cons] at hdrop
  have hget : (yields (firstAnswers (answer fetch token s₀) k))[n]? = some (.ok item) := by
    have h0 : ((yields (firstAnswers (answer fetch token s₀) k)).drop n)[0]? =
        (yields (firstAnswers (answer fetch token s₀) k))[n + 0]? := List.getElem?_drop
    rw [hdrop] at h0
    simpa using h0.symm
  obtain ⟨hlt, _⟩ := List.getElem?_eq_some_iff.mp hget
  refine ⟨⟨h.point, h.open_before, h.exhausted_iff, ?_, fun _ => hlt⟩, k, hget⟩
  rw [← List.drop_drop, hdrop]
  rfl

/-- An exhausted walk without items is at the end of the stream. -/
theorem Reached.yield_none (h : Reached fetch token s₀ k n w s) (hb : w.buffer = [])
    (hx : w.exhausted = true) :
    Reached fetch token s₀ k (n + 1) w s ∧ StreamAt (answer fetch token s₀) n none := by
  have hdrop := h.buffered
  rw [hb, List.map_nil, List.drop_eq_nil_iff] at hdrop
  obtain ⟨i, rfl, hend⟩ := h.exhausted_iff.mp hx
  refine ⟨⟨h.point, h.open_before, h.exhausted_iff, ?_, fun hx' => ?_⟩, i, hend, hdrop⟩
  · rw [hb, List.map_nil, List.drop_eq_nil_iff]
    omega
  · simp [hx] at hx'

/-- A fetch keeps every answer but the last one open. -/
theorem Reached.open_succ (h : Reached fetch token s₀ k n w s) (hx : w.exhausted = false) (i : Nat)
    (hi : i + 1 < k + 1) : ¬ Ends (answer fetch token s₀ i) :=
  h.all_open hx _ (mem_firstAnswers.mpr ⟨i, by omega, rfl⟩)

/-- A fetch that fails yields its error, and is the last one. -/
theorem Reached.yield_error {e : ε} (h : Reached fetch token s₀ k n w s) (hb : w.buffer = [])
    (hx : w.exhausted = false) (hf : fetch w.pageToken s = (.error e, s')) :
    Reached fetch token s₀ (k + 1) (n + 1) { w with exhausted := true } s' ∧
      StreamAt (answer fetch token s₀) n (some (.error e)) := by
  have hans : answer fetch token s₀ k = .error e := by rw [h.answer_eq, hf]
  have hlen := h.length_eq hb hx
  have hyields : yields (firstAnswers (answer fetch token s₀) (k + 1)) =
      yields (firstAnswers (answer fetch token s₀) k) ++ [.error e] := by
    rw [h.yields_succ hx, hans]
    rfl
  refine ⟨⟨?_, h.open_succ hx, ?_, ?_, by simp⟩, k + 1, ?_⟩
  · simp [fetchAt, tokenAfter, h.point, hf]
  · simp only [true_iff]
    exact ⟨k, rfl, by rw [hans]; trivial⟩
  · rw [hyields, hb, List.map_nil, List.drop_eq_nil_iff]
    simp [hlen]
  · rw [hyields, List.getElem?_append_right (by omega)]
    simp [hlen]

/-- A turn that fetches a page keeps the number of calls. -/
theorem Reached.fetched {page : Page α} (h : Reached fetch token s₀ k n w s)
    (hb : w.buffer = []) (hx : w.exhausted = false) (hf : fetch w.pageToken s = (.ok page, s')) :
    Reached fetch token s₀ (k + 1) n
      ⟨page.nextPageToken, page.items, page.nextPageToken = ""⟩ s' := by
  have hans : answer fetch token s₀ k = .ok page := by rw [h.answer_eq, hf]
  have hlen := h.length_eq hb hx
  have hyields : yields (firstAnswers (answer fetch token s₀) (k + 1)) =
      yields (firstAnswers (answer fetch token s₀) k) ++ page.items.map .ok := by
    rw [h.yields_succ hx, hans]
    simp [yields]
  refine ⟨?_, h.open_succ hx, ?_, ?_, fun _ => ?_⟩
  · simp [fetchAt, tokenAfter, h.point, hf]
  · constructor
    · intro hx'
      have hp : page.nextPageToken = "" := by simpa using hx'
      exact ⟨k, rfl, by rw [hans]; exact hp⟩
    · rintro ⟨i, hik, hend⟩
      obtain rfl : i = k := by omega
      rw [hans] at hend
      have hp : page.nextPageToken = "" := hend
      simp [hp]
  · rw [hyields, ← hlen, List.drop_left]
  · rw [hyields, List.length_append, hlen]
    omega

/-- **One turn keeps `Reached`.**  What it yields is the stream's. -/
theorem Reached.advance_yield (h : Reached fetch token s₀ k n w s)
    (hadv : w.advance fetch s = .yield y w' s') :
    (∃ k', Reached fetch token s₀ k' (n + 1) w' s') ∧ StreamAt (answer fetch token s₀) n y := by
  rcases advance_cases fetch w s with ⟨item, rest, hb, heq⟩ | ⟨hb, hx, heq⟩ |
    ⟨hb, hx, page, s₁, hf, heq⟩ | ⟨hb, hx, e, s₁, hf, heq⟩
  · rw [heq] at hadv
    cases hadv
    obtain ⟨hr, hs⟩ := h.yield_item hb
    exact ⟨⟨k, hr⟩, hs⟩
  · rw [heq] at hadv
    cases hadv
    obtain ⟨hr, hs⟩ := h.yield_none hb hx
    exact ⟨⟨k, hr⟩, hs⟩
  · rw [heq] at hadv
    cases hadv
  · rw [heq] at hadv
    cases hadv
    obtain ⟨hr, hs⟩ := h.yield_error hb hx hf
    exact ⟨⟨k + 1, hr⟩, hs⟩

/-- A turn that fetches is one fetch more. -/
theorem Reached.advance_fetched (h : Reached fetch token s₀ k n w s)
    (hadv : w.advance fetch s = .fetched w' s') : Reached fetch token s₀ (k + 1) n w' s' := by
  rcases advance_cases fetch w s with ⟨item, rest, hb, heq⟩ | ⟨hb, hx, heq⟩ |
    ⟨hb, hx, page, s₁, hf, heq⟩ | ⟨hb, hx, e, s₁, hf, heq⟩
  · rw [heq] at hadv
    cases hadv
  · rw [heq] at hadv
    cases hadv
  · rw [heq] at hadv
    cases hadv
    exact h.fetched hb hx hf
  · rw [heq] at hadv
    cases hadv

/-! ### Calls and runs -/

/-- A call returns what the stream has at its place. -/
theorem Reached.next {fetches : Nat} (h : Reached fetch token s₀ k n w s)
    (hcall : Walk.next fetch fetches w s = some (y, w', s')) :
    (∃ k', Reached fetch token s₀ k' (n + 1) w' s') ∧ StreamAt (answer fetch token s₀) n y := by
  induction fetches generalizing k w s with
  | zero =>
      rw [Walk.next] at hcall
      split at hcall
      · next hadv =>
        cases hcall
        exact h.advance_yield hadv
      · cases hcall
  | succ fetches ih =>
      rw [Walk.next] at hcall
      split at hcall
      · next hadv =>
        cases hcall
        exact h.advance_yield hadv
      · next hadv => exact ih (h.advance_fetched hadv) hcall

/-- **A run yields a stretch of the stream.** -/
theorem Reached.run {ys : List (Yield ε α)} (h : Reached fetch token s₀ k n w s)
    (hrun : Walk.Run fetch w s ys w' s') :
    (∃ k', Reached fetch token s₀ k' (n + ys.length) w' s') ∧
      ∀ i y, ys[i]? = some y → StreamAt (answer fetch token s₀) (n + i) y := by
  induction hrun generalizing k n with
  | nil => exact ⟨⟨k, h⟩, by simp⟩
  | cons call rest ih =>
      obtain ⟨fetches, hcall⟩ := call
      obtain ⟨⟨k', h'⟩, hy⟩ := h.next hcall
      obtain ⟨⟨k'', h''⟩, hys⟩ := ih h'
      refine ⟨⟨k'', by simpa [Nat.add_comm, Nat.add_left_comm] using h''⟩, ?_⟩
      intro i y hi
      cases i with
      | zero =>
          obtain rfl : _ = y := by simpa using hi
          exact hy
      | succ i =>
          have := hys i y (by simpa using hi)
          rwa [show n + 1 + i = n + (i + 1) by omega] at this

/-- A call returns when the answers up to some fetch go beyond what was yielded, or end. -/
theorem Reached.returns_of_bound {m K : Nat} (h : Reached fetch token s₀ k n w s) (hK : K ≤ k + m)
    (hmore : n < (yields (firstAnswers (answer fetch token s₀) K)).length ∨
      ∃ i, i < K ∧ Ends (answer fetch token s₀ i)) :
    ∃ y w' s', w.Returns fetch s y w' s' := by
  induction m generalizing k w s with
  | zero =>
      match hadv : w.advance fetch s with
      | .yield y w' s' => exact ⟨y, w', s', 0, by simp [Walk.next, hadv]⟩
      | .fetched w' s' =>
          exfalso
          rcases advance_cases fetch w s with ⟨_, _, _, heq⟩ | ⟨_, _, heq⟩ |
            ⟨hb, hx, _⟩ | ⟨_, _, _, _, _, heq⟩
          · simp [hadv] at heq
          · simp [hadv] at heq
          · rcases hmore with hlt | ⟨i, hi, hend⟩
            · have hKk : K ≤ k := hK
              have := (yields_mono (answer fetch token s₀) hKk).length_le
              have := h.length_eq hb hx
              omega
            · exact h.open_succ hx i (by omega) hend
          · simp [hadv] at heq
  | succ m ih =>
      match hadv : w.advance fetch s with
      | .yield y w' s' => exact ⟨y, w', s', 0, by simp [Walk.next, hadv]⟩
      | .fetched w₁ s₁ =>
          obtain ⟨y, w', s', fetches, hcall⟩ := ih (h.advance_fetched hadv) (by omega)
          exact ⟨y, w', s', fetches + 1, by simp [Walk.next, hadv, hcall]⟩

/-- **A call returns wherever the stream has an element or has ended.** -/
theorem Reached.returns (h : Reached fetch token s₀ k n w s)
    (hy : StreamAt (answer fetch token s₀) n y) : ∃ w' s', w.Returns fetch s y w' s' := by
  obtain ⟨K, hmore⟩ : ∃ K, n < (yields (firstAnswers (answer fetch token s₀) K)).length ∨
      ∃ i, i < K ∧ Ends (answer fetch token s₀ i) := by
    match y, hy with
    | some x, ⟨K, hK⟩ =>
        obtain ⟨hlt, _⟩ := List.getElem?_eq_some_iff.mp hK
        exact ⟨K, Or.inl hlt⟩
    | none, ⟨i, hend, _⟩ => exact ⟨i + 1, Or.inr ⟨i, by omega, hend⟩⟩
  obtain ⟨y', w', s', fetches, hcall⟩ := h.returns_of_bound (m := K) (by omega) hmore
  obtain rfl := (h.next hcall).2.unique hy
  exact ⟨w', s', fetches, hcall⟩

/-- **A run of calls returns wherever the stream has their yields.** -/
theorem Reached.exists_run {ys : List (Yield ε α)} (h : Reached fetch token s₀ k n w s)
    (hys : ∀ i y, ys[i]? = some y → StreamAt (answer fetch token s₀) (n + i) y) :
    ∃ w' s', Walk.Run fetch w s ys w' s' := by
  induction ys generalizing k n w s with
  | nil => exact ⟨w, s, .nil w s⟩
  | cons y ys ih =>
      obtain ⟨w₁, s₁, fetches, hcall⟩ := h.returns (hys 0 y rfl)
      obtain ⟨⟨k', h'⟩, _⟩ := h.next hcall
      obtain ⟨w', s', hrun⟩ := ih h' fun i z hi => by
        have := hys (i + 1) z (by simpa using hi)
        rwa [show n + (i + 1) = n + 1 + i by omega] at this
      exact ⟨w', s', .cons ⟨fetches, hcall⟩ hrun⟩

/-! ### The fetches of a run -/

/-- The calls that a recorded walk has made after `k` fetches. -/
def callsBefore (fetch : Fetch σ ε α) (token : String) (s : σ) (k : Nat) :
    List (String × Answer ε α) :=
  (List.range k).map fun i => (tokenAt token (answer fetch token s) i, answer fetch token s i)

/-- The token of a fetch is the one that the answers before it lead to. -/
theorem fetchAt_fst (fetch : Fetch σ ε α) (token : String) (s : σ) (i : Nat) :
    (fetchAt fetch token s i).1 = tokenAt token (answer fetch token s) i := by
  induction i with
  | zero => rfl
  | succ i ih => simp only [fetchAt, tokenAt, ← ih, answer]

/-- Recording changes neither tokens nor answers. -/
theorem fetchAt_recorded (fetch : Fetch σ ε α) (token : String) (s : σ) (i : Nat) :
    fetchAt (recorded fetch) token (s, []) i =
      ((fetchAt fetch token s i).1,
        ((fetchAt fetch token s i).2, callsBefore fetch token s i)) := by
  induction i with
  | zero => rfl
  | succ i ih =>
      simp only [fetchAt, ih, recorded, callsBefore, List.range_succ, List.map_append,
        List.map_cons, List.map_nil, ← fetchAt_fst]
      rfl

/-- Recording the calls changes no answer. -/
theorem answer_recorded (fetch : Fetch σ ε α) (token : String) (s : σ) :
    answer (recorded fetch) token (s, []) = answer fetch token s := by
  funext i
  simp only [answer, fetchAt_recorded, recorded]

/-- Every sequence is a sequence of answers. -/
theorem answer_scripted (r : Nat → Answer ε α) (token : String) :
    answer (scripted r) token 0 = r := by
  have hstate : ∀ i, (fetchAt (scripted r) token 0 i).2 = i := by
    intro i
    induction i with
    | zero => rfl
    | succ i ih => simp only [fetchAt, scripted, ih]
  funext i
  simp only [answer, scripted, hstate]

/-- A turn of a recorded walk is the turn of the walk. -/
theorem advance_recorded (fetch : Fetch σ ε α) (w : Walk α) (s : σ)
    (calls : List (String × Answer ε α)) :
    (∀ y w' s', w.advance fetch s = .yield y w' s' →
      ∃ calls', w.advance (recorded fetch) (s, calls) = .yield y w' (s', calls')) ∧
    ∀ w' s', w.advance fetch s = .fetched w' s' →
      ∃ calls', w.advance (recorded fetch) (s, calls) = .fetched w' (s', calls') := by
  rcases advance_cases fetch w s with ⟨item, rest, hb, heq⟩ | ⟨hb, hx, heq⟩ |
    ⟨hb, hx, page, s₁, hf, heq⟩ | ⟨hb, hx, e, s₁, hf, heq⟩
  all_goals simp_all [Walk.advance, recorded]

/-- A call that returns does so with its fetches recorded. -/
theorem next_recorded {fetches : Nat} (hcall : Walk.next fetch fetches w s = some (y, w', s'))
    (calls : List (String × Answer ε α)) :
    ∃ calls', Walk.next (recorded fetch) fetches w (s, calls) = some (y, w', (s', calls')) := by
  induction fetches generalizing w s calls with
  | zero =>
      rw [Walk.next] at hcall
      split at hcall
      · next hadv =>
        cases hcall
        obtain ⟨calls', hrec⟩ := (advance_recorded fetch w s calls).1 _ _ _ hadv
        exact ⟨calls', by rw [Walk.next, hrec]⟩
      · cases hcall
  | succ fetches ih =>
      rw [Walk.next] at hcall
      split at hcall
      · next hadv =>
        cases hcall
        obtain ⟨calls', hrec⟩ := (advance_recorded fetch w s calls).1 _ _ _ hadv
        exact ⟨calls', by rw [Walk.next, hrec]⟩
      · next hadv =>
        obtain ⟨calls₁, hrec⟩ := (advance_recorded fetch w s calls).2 _ _ hadv
        obtain ⟨calls', hrest⟩ := ih hcall calls₁
        exact ⟨calls', by rw [Walk.next, hrec]; exact hrest⟩

/-- Every run can be recorded. -/
theorem run_recorded {ys : List (Yield ε α)} (hrun : Walk.Run fetch w s ys w' s')
    (calls : List (String × Answer ε α)) :
    ∃ calls', Walk.Run (recorded fetch) w (s, calls) ys w' (s', calls') := by
  induction hrun generalizing calls with
  | nil w s => exact ⟨calls, .nil w (s, calls)⟩
  | cons call rest ih =>
      obtain ⟨fetches, hcall⟩ := call
      obtain ⟨calls₁, hrec⟩ := next_recorded hcall calls
      obtain ⟨calls', hrest⟩ := ih calls₁
      exact ⟨calls', .cons ⟨fetches, hrec⟩ hrest⟩

/-- **The whole walk.**  Calls of `next` on a fresh walk can return `ys` exactly when `ys` begins
the stream of the answers.  The fetches that they make are the first ones of the sequence, each
with the token of the page before, and none comes after an answer that ends the walk. -/
theorem run_yields_stream (fetch : Fetch σ ε α) (token : String) (s : σ) :
    (∀ ys, (∃ w' s', Walk.Run fetch (Walk.start token) s ys w' s') ↔
      ∀ i y, ys[i]? = some y → StreamAt (answer fetch token s) i y) ∧
    ∀ ys w' s', Walk.Run fetch (Walk.start token) s ys w' s' →
      ∃ k, Walk.Run (recorded fetch) (Walk.start token) (s, []) ys w'
          (s', callsBefore fetch token s k) ∧
        ∀ i, i + 1 < k → ¬ Ends (answer fetch token s i) := by
  refine ⟨fun ys => ⟨?_, ?_⟩, ?_⟩
  · rintro ⟨w', s', hrun⟩
    simpa using ((Reached.start fetch token s).run hrun).2
  · intro hys
    exact (Reached.start fetch token s).exists_run (by simpa using hys)
  · intro ys w' s' hrun
    obtain ⟨calls, hrec⟩ := run_recorded hrun []
    obtain ⟨⟨k, hk⟩, _⟩ := (Reached.start (recorded fetch) token (s, [])).run hrec
    have hpoint := hk.point
    rw [fetchAt_recorded] at hpoint
    simp only [Prod.mk.injEq] at hpoint
    obtain ⟨_, _, rfl⟩ := hpoint
    refine ⟨k, hrec, fun i hi => ?_⟩
    rw [← answer_recorded]
    exact hk.open_before i hi

/-- A page of two items, an empty page, and then only errors. -/
def interrupted : Nat → Answer String Nat
  | 0 => .ok ⟨[1, 2], "b"⟩
  | 1 => .ok ⟨[], "c"⟩
  | _ => .error "down"

/-- A walk over two pages, the second one empty, ends with the error that comes after them. -/
theorem run_interrupted :
    Walk.Run (scripted interrupted) (Walk.start "a") 0
        [some (.ok 1), some (.ok 2), some (.error "down"), none] ⟨"c", [], true⟩ 3 ∧
      ∃ k, Walk.Run (recorded (scripted interrupted)) (Walk.start "a") (0, [])
          [some (.ok 1), some (.ok 2), some (.error "down"), none] ⟨"c", [], true⟩
          (3, callsBefore (scripted interrupted) "a" 0 k) ∧
        ∀ i, i + 1 < k → ¬ Ends (interrupted i) := by
  have hrun : Walk.Run (scripted interrupted) (Walk.start "a") 0
      [some (.ok 1), some (.ok 2), some (.error "down"), none] ⟨"c", [], true⟩ 3 :=
    .cons ⟨1, rfl⟩ (.cons ⟨0, rfl⟩ (.cons ⟨1, rfl⟩ (.cons ⟨0, rfl⟩ (.nil _ _))))
  refine ⟨hrun, ?_⟩
  have hcalls := (run_yields_stream (scripted interrupted) "a" 0).2 _ _ _ hrun
  rwa [answer_scripted] at hcalls

end AccountWire.Listing
