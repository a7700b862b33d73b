import AccountWire.Proofs.Listing.Resumption

/-!
# A page is yielded in full or not at all

What a walk has yielded, together with what it holds back, is made of whole pages.  `Delivers` says
this of a walk none of whose fetches has failed, and `Breaks` of one that has met an error: the
error stands after the items of all pages before it, and nothing of its own page is yielded.
`run_delivers_or_breaks` puts every run into one of these two shapes, with the token that is left
and the number of fetches, so that a walk that has broken off is seen to fetch nothing more.
-/

namespace AccountWire.Listing

variable {σ ε α : Type}

/-- The tokens that pages are asked for with, and the one that the last page hands out. -/
def tokensOf (token : String) (pages : List (Page α)) : List String :=
  token :: pages.map (·.nextPageToken)

/-- The token that the last page hands out; without pages, the one of the start. -/
def lastToken (token : String) (pages : List (Page α)) : String :=
  (pages.map (·.nextPageToken)).getLast?.getD token

/-- Whole pages were yielded, except for the items that the walk still holds. -/
structure Delivers (pages : List (Page α)) (ys : List (Yield ε α)) (w : Walk α) : Prop where
  /-- Calls come back with nothing only after the last page. -/
  yielded : ∃ nones, ys ++ asYields w.buffer =
      asYields (pages.flatMap (·.items)) ++ List.replicate nones none ∧
    (nones ≠ 0 → ∃ page, pages.getLast? = some page ∧ page.nextPageToken = "")
  /-- None of the pages but the last one ends the listing. -/
  goes_on : ∀ page ∈ pages.dropLast, page.nextPageToken ≠ ""

/-- Whole pages were yielded, then one error, and nothing after it. -/
structure Breaks (pages : List (Page α)) (e : ε) (ys : List (Yield ε α)) (w : Walk α) : Prop where
  yielded : ∃ nones, ys =
    asYields (pages.flatMap (·.items)) ++ some (.error e) :: List.replicate nones none
  nothing_held : w.buffer = []
  ended : w.exhausted = true
  /-- None of the pages ends the listing. -/
  goes_on : ∀ page ∈ pages, page.nextPageToken ≠ ""

/-! ### Answers that are pages -/

/-- A sequence of answers begins with these pages. -/
def BeginsWith (r : Nat → Answer ε α) (pages : List (Page α)) : Prop :=
  ∀ (i : Nat) page, pages[i]? = some page → r i = .ok page

/-- Answers begin with pages exactly if the first ones are these pages. -/
theorem beginsWith_iff {r : Nat → Answer ε α} {pages : List (Page α)} :
    BeginsWith r pages ↔ firstAnswers r pages.length = pages.map .ok := by
  constructor
  · intro h
    refine List.ext_getElem (by simp [firstAnswers]) fun i hi _ => ?_
    have hlt : i < pages.length := by simpa [firstAnswers] using hi
    simpa [firstAnswers] using h i _ (List.getElem?_eq_getElem hlt)
  · intro h i page hpage
    have hget : (firstAnswers r pages.length)[i]? = some (.ok page) := by
      rw [h, List.getElem?_map, hpage, Option.map_some]
    obtain ⟨hlt, -⟩ := List.getElem?_eq_some_iff.mp hpage
    simpa [firstAnswers, hlt] using hget

/-- One more page is one more answer. -/
theorem BeginsWith.concat {r : Nat → Answer ε α} {pages : List (Page α)} {page : Page α}
    (h : BeginsWith r pages) (hpage : r pages.length = .ok page) :
    BeginsWith r (pages ++ [page]) := by
  rw [beginsWith_iff] at h ⊢
  rw [List.length_append, List.length_singleton, firstAnswers_succ, h, hpage, List.map_append,
    List.map_singleton]

/-- Answers that do not end a walk are pages. -/
theorem exists_pages_of_open {r : Nat → Answer ε α} {k : Nat} (hopen : ∀ i, i < k → ¬ Ends (r i)) :
    ∃ pages : List (Page α), pages.length = k ∧ BeginsWith r pages ∧
      ∀ page ∈ pages, page.nextPageToken ≠ "" := by
  induction k with
  | zero => exact ⟨[], rfl, by simp [BeginsWith], by simp⟩
  | succ k ih =>
      obtain ⟨pages, rfl, hpages, htokens⟩ := ih fun i hi => hopen i (by omega)
      have hlast := hopen pages.length (by omega)
      cases hpage : r pages.length with
      | error e => exact absurd (by rw [hpage]; trivial) hlast
      | ok page =>
          have htoken : page.nextPageToken ≠ "" := by rwa [hpage] at hlast
          refine ⟨pages ++ [page], by simp, hpages.concat hpage, ?_⟩
          exact List.forall_mem_append.mpr ⟨htokens, by simpa using htoken⟩

/-- The token of each fetch is the one of the page before. -/
theorem BeginsWith.tokenAt {r : Nat → Answer ε α} {pages : List (Page α)} (h : BeginsWith r pages)
    (token : String) {i : Nat} (hi : i ≤ pages.length) :
    (tokensOf token pages)[i]? = some (Listing.tokenAt token r i) := by
  cases i with
  | zero => rfl
  | succ i =>
      have hpage := h i _ (List.getElem?_eq_getElem hi)
      rw [tokensOf, List.getElem?_cons_succ, List.getElem?_map, List.getElem?_eq_getElem hi,
        Option.map_some, Listing.tokenAt, hpage, tokenAfter]

/-- The tokens of the pages are those that the answers are asked for with. -/
theorem BeginsWith.take_tokensOf {r : Nat → Answer ε α} {pages : List (Page α)}
    (h : BeginsWith r pages) (token : String) {k : Nat} (hk : k ≤ pages.length + 1) :
    (tokensOf token pages).take k = (List.range k).map (Listing.tokenAt token r) := by
  have hlength : (tokensOf token pages).length = pages.length + 1 := by simp [tokensOf]
  refine List.ext_getElem (by simp [hlength, hk]) fun i hi _ => ?_
  have hlt : i < k := by
    rw [List.length_take] at hi
    omega
  have htoken : (tokensOf token pages)[i]? = some (Listing.tokenAt token r i) :=
    h.tokenAt token (by omega)
  rw [List.getElem?_eq_getElem (by omega)] at htoken
  rw [List.getElem_take, List.getElem_map, List.getElem_range]
  exact Option.some.inj htoken

/-- After the pages, the next fetch is made with the token of the last one. -/
theorem BeginsWith.tokenAt_length {r : Nat → Answer ε α} {pages : List (Page α)}
    (h : BeginsWith r pages) (token : String) :
    Listing.tokenAt token r pages.length = lastToken token pages := by
  have hlast := h.tokenAt token (Nat.le_refl _)
  have hend : (tokensOf token pages)[pages.length]? = (tokensOf token pages).getLast? := by
    rw [List.getLast?_eq_getElem?]
    simp [tokensOf]
  rw [hend, tokensOf, List.getLast?_cons] at hlast
  exact (Option.some.inj hlast).symm

/-- Pages that do not end a walk are followed by what the other answers make it yield. -/
theorem yields_pages {pages : List (Page α)} (h : ∀ page ∈ pages, page.nextPageToken ≠ "")
    (rest : List (Answer ε α)) :
    yields (pages.map .ok ++ rest) = (pages.flatMap (·.items)).map .ok ++ yields rest := by
  induction pages with
  | nil => rfl
  | cons page pages ih =>
      obtain ⟨hpage, hpages⟩ := List.forall_mem_cons.mp h
      rw [List.map_cons, List.cons_append, yields, if_neg hpage, ih hpages, List.flatMap_cons,
        List.map_append, List.append_assoc]

/-! ### Runs -/

variable {fetch : Fetch σ ε α} {token : String} {s₀ s : σ} {k : Nat} {w : Walk α}
  {ys : List (Yield ε α)}

/-- **What was yielded and what is held back** is what the answers so far make a walk yield, and
nothing after it. -/
theorem Reached.history (h : Reached fetch token s₀ k ys.length w s)
    (hys : ∀ i y, ys[i]? = some y → StreamAt (answer fetch token s₀) i y) :
    ys ++ asYields w.buffer = (yields (firstAnswers (answer fetch token s₀) k)).map some ++
      List.replicate (ys.length - (yields (firstAnswers (answer fetch token s₀) k)).length)
        none := by
  generalize hr : yields (firstAnswers (answer fetch token s₀) k) = told
  have hlength : ys.length = ((told.take ys.length).map some ++
      List.replicate (ys.length - told.length) (none : Yield ε α)).length := by
    simp only [List.length_append, List.length_map, List.length_take, List.length_replicate]
    omega
  have hyielded : ys = (told.take ys.length).map some ++
      List.replicate (ys.length - told.length) none := by
    refine List.ext_getElem hlength fun i hi hi' => ?_
    have hstream := hys i _ (List.getElem?_eq_getElem hi)
    by_cases htold : i < told.length
    · have hsome : StreamAt (answer fetch token s₀) i (some told[i]) :=
        ⟨k, by rw [hr, List.getElem?_eq_getElem htold]⟩
      rw [hstream.unique hsome, List.getElem_append_left (by simp; omega), List.getElem_map,
        List.getElem_take]
    · -- More calls than elements: the walk has ended.
      have hexhausted : w.exhausted = true := by
        by_contra hx
        have hwithin := h.within (by simpa using hx)
        rw [hr] at hwithin
        omega
      obtain ⟨j, rfl, hend⟩ := h.exhausted_iff.mp hexhausted
      have hnone : StreamAt (answer fetch token s₀) i none := ⟨j, hend, by rw [hr]; omega⟩
      rw [hstream.unique hnone, List.getElem_append_right (by simp; omega), List.getElem_replicate]
  have hheld : asYields w.buffer = (told.drop ys.length).map some := by
    rw [← hr, h.buffered, asYields, List.map_map]
    rfl
  calc ys ++ asYields w.buffer = ((told.take ys.length).map some ++
        List.replicate (ys.length - told.length) none) ++ (told.drop ys.length).map some := by
        rw [← hyielded, hheld]
    _ = told.map some ++ List.replicate (ys.length - told.length) none := by
        by_cases hn : ys.length ≤ told.length
        · rw [Nat.sub_eq_zero_of_le hn, List.replicate_zero, List.append_nil, List.append_nil,
            ← List.map_append, List.take_append_drop]
        · rw [List.drop_eq_nil_of_le (by omega), List.take_of_length_le (by omega), List.map_nil,
            List.append_nil]

theorem asYields_eq (items : List α) :
    (asYields items : List (Yield ε α)) = (items.map .ok).map some := by
  rw [asYields, List.map_map]
  rfl

/-- Nothing is held back when an error comes last. -/
theorem Reached.buffer_eq_nil {n : Nat} (h : Reached fetch token s₀ k n w s)
    {before : List (Except ε α)} {e : ε}
    (he : yields (firstAnswers (answer fetch token s₀) k) = before ++ [.error e]) :
    w.buffer = [] := by
  have hbuffered := h.buffered
  rw [he] at hbuffered
  by_cases hn : n ≤ before.length
  · rw [List.drop_append_of_le_length hn] at hbuffered
    have herror : .error e ∈ w.buffer.map (Except.ok : α → Except ε α) := by simp [← hbuffered]
    simp at herror
  · rw [List.drop_eq_nil_of_le (by simp; omega)] at hbuffered
    exact List.map_eq_nil_iff.mp hbuffered.symm

/-- **Whole pages, or whole pages and an error.**  After any run of calls there are pages, the
answers to the first fetches, so that either nothing else was fetched, and the items of the pages
were yielded or are held back, in their order; or one more fetch has failed, and the walk has
yielded the items of the pages and the error.  In both cases the token is the one of the last
page. -/
theorem run_delivers_or_breaks (hrun : Walk.Run fetch (Walk.start token) s₀ ys w s) :
    ∃ pages : List (Page α), BeginsWith (answer fetch token s₀) pages ∧
      w.pageToken = lastToken token pages ∧
      (Delivers pages ys w ∧ fetchAt fetch token s₀ pages.length = (w.pageToken, s) ∨
        ∃ e, Breaks pages e ys w ∧ answer fetch token s₀ pages.length = .error e ∧
          fetchAt fetch token s₀ (pages.length + 1) = (w.pageToken, s)) := by
  obtain ⟨⟨k, hk⟩, hys⟩ := (Reached.start fetch token s₀).run hrun
  simp only [Nat.zero_add] at hk hys
  have hhistory := hk.history hys
  have htoken : w.pageToken = tokenAt token (answer fetch token s₀) k := by
    rw [← fetchAt_fst, hk.point]
  by_cases hx : w.exhausted = true
  · obtain ⟨i, rfl, hend⟩ := hk.exhausted_iff.mp hx
    obtain ⟨pages, rfl, hpages, htokens⟩ :=
      exists_pages_of_open (k := i) fun j hj => hk.open_before j (by omega)
    have hyields : yields (firstAnswers (answer fetch token s₀) (pages.length + 1)) =
        (pages.flatMap (·.items)).map .ok ++ yields [answer fetch token s₀ pages.length] := by
      rw [firstAnswers_succ, beginsWith_iff.mp hpages, yields_pages htokens]
    cases hanswer : answer fetch token s₀ pages.length with
    | ok page =>
        rw [hanswer] at hend
        have hlast : page.nextPageToken = "" := hend
        have hall := hpages.concat hanswer
        have hlength : (pages ++ [page]).length = pages.length + 1 := by simp
        have hitems : (pages ++ [page]).flatMap (·.items) =
            pages.flatMap (·.items) ++ page.items := by simp
        rw [hanswer, yields, if_pos hlast, List.append_nil, ← List.map_append, ← hitems] at hyields
        rw [hyields, ← asYields_eq] at hhistory
        have hgoes : ∀ p ∈ (pages ++ [page]).dropLast, p.nextPageToken ≠ "" := by
          rwa [List.dropLast_concat]
        refine ⟨pages ++ [page], hall, ?_,
          Or.inl ⟨⟨⟨_, hhistory, fun _ => ⟨page, by simp, hlast⟩⟩, hgoes⟩, ?_⟩⟩
        · rw [htoken, ← hall.tokenAt_length, hlength]
        · rw [hlength, hk.point]
    | error e =>
        rw [hanswer] at hyields
        have hnothing := hk.buffer_eq_nil hyields
        rw [hyields, yields, List.map_append, ← asYields_eq, List.append_assoc, hnothing,
          asYields_nil, List.append_nil] at hhistory
        refine ⟨pages, hpages, ?_,
          Or.inr ⟨e, ⟨⟨_, hhistory⟩, hnothing, hx, htokens⟩, hanswer, hk.point⟩⟩
        rw [htoken, tokenAt, hanswer, tokenAfter, hpages.tokenAt_length]
  · have hx : w.exhausted = false := by simpa using hx
    obtain ⟨pages, rfl, hpages, htokens⟩ :=
      exists_pages_of_open (k := k) fun j hj => hk.all_open hx _ (mem_firstAnswers.mpr ⟨j, hj, rfl⟩)
    have hyields := yields_pages htokens ([] : List (Answer ε α))
    rw [List.append_nil, yields, List.append_nil] at hyields
    have hwithin := hk.within hx
    rw [Nat.sub_eq_zero_of_le hwithin, beginsWith_iff.mp hpages, hyields, ← asYields_eq] at hhistory
    have hgoes : ∀ page ∈ pages.dropLast, page.nextPageToken ≠ "" :=
      fun page hpage => htokens page (List.mem_of_mem_dropLast hpage)
    refine ⟨pages, hpages, ?_, Or.inl ⟨⟨⟨0, hhistory, by simp⟩, hgoes⟩, hk.point⟩⟩
    rw [htoken, hpages.tokenAt_length]

/-- Behind an answer that ends it, the stream has what was yielded up to there, and nothing more. -/
theorem streamAt_of_ends {r : Nat → Answer ε α} {i nones n : Nat} {y : Yield ε α}
    (hend : Ends (r i)) (hy : ((yields (firstAnswers r (i + 1))).map some ++
      List.replicate nones none)[n]? = some y) : StreamAt r n y := by
  by_cases hn : n < (yields (firstAnswers r (i + 1))).length
  · rw [List.getElem?_append_left (by simpa using hn), List.getElem?_map,
      List.getElem?_eq_getElem hn, Option.map_some] at hy
    obtain rfl := Option.some.inj hy
    exact ⟨i + 1, List.getElem?_eq_getElem hn⟩
  · rw [List.getElem?_append_right (by simpa using hn)] at hy
    obtain rfl := List.eq_of_mem_replicate (List.mem_of_getElem? hy)
    exact ⟨i, hend, by omega⟩

/-- Calls can return whatever begins the stream. -/
theorem exists_run_of_streamAt {ys : List (Yield ε α)}
    (hys : ∀ i y, ys[i]? = some y → StreamAt (answer fetch token s₀) i y) :
    ∃ w s, Walk.Run fetch (Walk.start token) s₀ ys w s :=
  (Reached.start fetch token s₀).exists_run (by simpa using hys)

/-- **A walk can be taken to any length** when one of the answers ends it. -/
theorem exists_run_of_ends {i : Nat} (hend : Ends (answer fetch token s₀ i)) (n : Nat) :
    ∃ ys w s, ys.length = n ∧ Walk.Run fetch (Walk.start token) s₀ ys w s := by
  generalize htold : (yields (firstAnswers (answer fetch token s₀) (i + 1))).map some ++
    List.replicate n none = told
  have hlength : n ≤ told.length := by
    rw [← htold, List.length_append, List.length_replicate]
    omega
  obtain ⟨w, s, hrun⟩ : ∃ w s, Walk.Run fetch (Walk.start token) s₀ (told.take n) w s := by
    apply exists_run_of_streamAt
    intro m y hy
    apply streamAt_of_ends hend
    rw [htold]
    rw [List.getElem?_take] at hy
    by_cases hm : m < n
    · rwa [if_pos hm] at hy
    · rw [if_neg hm] at hy
      cases hy
  exact ⟨told.take n, w, s, by rw [List.length_take, Nat.min_eq_left hlength], hrun⟩

/-- **The error of a page is yielded** after the items of all pages before it. -/
theorem exists_run_of_error {pages : List (Page α)} {e : ε}
    (hpages : BeginsWith (answer fetch token s₀) pages)
    (hopen : ∀ page ∈ pages, page.nextPageToken ≠ "")
    (herror : answer fetch token s₀ pages.length = .error e) (nones : Nat) :
    ∃ w s, Walk.Run fetch (Walk.start token) s₀
      (asYields (pages.flatMap (·.items)) ++ some (.error e) :: List.replicate nones none) w s := by
  have hend : Ends (answer fetch token s₀ pages.length) := by
    rw [herror]
    trivial
  have hyields : (yields (firstAnswers (answer fetch token s₀) (pages.length + 1))).map some =
      asYields (pages.flatMap (·.items)) ++ [some (.error e)] := by
    rw [firstAnswers_succ, beginsWith_iff.mp hpages, yields_pages hopen, herror, yields,
      List.map_append, asYields_eq, List.map_singleton]
  apply exists_run_of_streamAt
  intro n y hy
  apply streamAt_of_ends hend
  rw [hyields, List.append_assoc]
  exact hy

end AccountWire.Listing
