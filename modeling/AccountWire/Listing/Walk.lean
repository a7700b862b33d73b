import AccountWire.Text.Outline

/-!
# Walks through listings

A listing is handed out in pages, and each page names the token of the next one; an empty token
ends the listing.  A `Walk` yields the items of a listing one at a time and fetches a page only
when an item is asked for and none is left.  A fetch that fails is yielded once and ends the walk.

`advance` is one turn of the walk: it yields an item, ends, or fetches one page.  A page may be
empty and yet not be the last, so `next` takes turns until something is yielded; the backend
decides how many, and `next` is given the most fetches that it may make.
-/

namespace AccountWire.Listing

/-- One page of a listing. -/
structure Page (α : Type) where
  items : List α
  /-- The token of the next page; empty on the last one. -/
  nextPageToken : String

/-- How pages are fetched: a token is answered by a page or an error, in a state. -/
abbrev Fetch (σ ε α : Type) := String → σ → Except ε (Page α) × σ

/-- A walk through a listing. -/
structure Walk (α : Type) where
  /-- The token of the page to fetch next. -/
  pageToken : String
  /-- Items that were fetched and not yet yielded. -/
  buffer : List α
  /-- Whether nothing will be fetched any more. -/
  exhausted : Bool

/-- What a walk yields: an item or an error, or nothing when it has ended. -/
abbrev Yield (ε α : Type) := Option (Except ε α)

namespace Walk

variable {σ ε α : Type}

/-- The walk that begins with the page at a token; the empty token is the first page. -/
def start (token : String) : Walk α := ⟨token, [], false⟩

/-- The number of items that were fetched and not yet yielded. -/
def remaining (w : Walk α) : Nat := w.buffer.length

/-- What one turn does. -/
inductive Turn (σ ε α : Type) where
  /-- The walk yields, or has ended. -/
  | yield (y : Yield ε α) (w : Walk α) (s : σ)
  /-- The walk has fetched a page and goes on. -/
  | fetched (w : Walk α) (s : σ)

/-- One turn of a walk. -/
def advance (fetch : Fetch σ ε α) (w : Walk α) (s : σ) : Turn σ ε α :=
  match w.buffer with
  | item :: rest => .yield (some (.ok item)) { w with buffer := rest } s
  | [] =>
    if w.exhausted then .yield none w s
    else
      match fetch w.pageToken s with
      | (.ok page, s) =>
        .fetched ⟨page.nextPageToken, page.items, page.nextPageToken = ""⟩ s
      | (.error e, s) => .yield (some (.error e)) { w with exhausted := true } s

/-- Takes turns until the walk yields or ends.  Answers with nothing when `fetches` pages were
fetched and another one would be needed. -/
def next (fetch : Fetch σ ε α) : Nat → Walk α → σ → Option (Yield ε α × Walk α × σ)
  | fetches, w, s =>
    match advance fetch w s with
    | .yield y w s => some (y, w, s)
    | .fetched w s =>
      match fetches with
      | 0 => none
      | fetches + 1 => next fetch fetches w s

/-- As `next`, for a walk that ends after so many fetches without a yield. -/
def nextWithin (fetch : Fetch σ ε α) (fetches : Nat) : Walk α × σ → Yield ε α × (Walk α × σ)
  | (w, s) =>
    match next fetch fetches w s with
    | some (y, w, s) => (y, w, s)
    | none => (none, w, s)

end Walk

instance {α : Type} [Outline α] : Outline (Walk α) where
  outline w := Outline.record "PageIterator"
    [("page_token", outline w.pageToken), ("buffer", outline w.buffer),
      ("state", if w.exhausted then "Exhausted" else "HasMore")]

end AccountWire.Listing
