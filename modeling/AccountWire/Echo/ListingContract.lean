import AccountWire.Echo.Mismatches
import AccountWire.Echo.Server
import AccountWire.Listing.Walk

/-!
# The contract of listings

A listing yields its items, then ends, stays ended and makes no request after its last item.
`verifyListing` drives an iterator for exactly as many items as are expected and then a little
further, and reports every way in which it breaks the contract; an error stops the drive at once.

The iterator is any step function on a state, and the log of requests is read off that state.
-/

namespace AccountWire.Echo

open Listing (Yield)

/-- How often an iterator is asked again after it has ended. -/
def extraCalls : Nat := 2

/-- What the last request of a listing is to look like. -/
structure PageExpectation where
  path : String
  /-- The query with its parameters in ascending order of their names. -/
  query : String

section

variable {σ ε α : Type} [BEq α] [Outline α]

/-- Compares the items that an iterator yields with the expected ones, beginning at a place.
Answers with the mismatches and the number of items yielded; the number is absent when an error
ended the drive. -/
def verifyItems (context : String) (message : ε → String) (next : σ → Yield ε α × σ) :
    Mismatches → Nat → List α → σ → Mismatches × Option Nat × σ
  | m, count, [], s => (m, some count, s)
  | m, count, want :: wants, s =>
    match next s with
    | (some (.ok got), s) =>
      verifyItems context message next
        (m.checkEq (context ++ " item #" ++ toString count) got want) (count + 1) wants s
    | (some (.error e), s) =>
      (m.record (context ++ " item #" ++ toString count ++ " failed: " ++ message e), none, s)
    | (none, s) => (m, some count, s)

/-- Asks an iterator that should have ended; what it yields is a mismatch. -/
def verifyEnd (context : String) (message : ε → String) (next : σ → Yield ε α × σ)
    (m : Mismatches) (s : σ) : Mismatches × σ :=
  match next s with
  | (none, s) => (m, s)
  | (some (.ok extra), s) =>
    (m.record (context ++ " yielded " ++ outline extra ++ " past the end; want = exhausted"), s)
  | (some (.error e), s) =>
    (m.record (context ++ " = " ++ message e ++ "; want = exhausted"), s)

/-- Asks an iterator that has ended again, for each of the calls. -/
def verifyStaysEnded (context : String) (next : σ → Yield ε α × σ) :
    List Nat → Mismatches → σ → Mismatches × σ
  | [], m, s => (m, s)
  | call :: calls, m, s =>
    let (y, s) := next s
    verifyStaysEnded context next calls
      (m.check y.isNone
        (context ++ " left the exhausted state on extra call #" ++ toString call)) s

/-- Checks the last request of a listing. -/
def verifyLastRequest (context : String) (e : PageExpectation) (m : Mismatches) :
    Option Captured → Mismatches
  | some r => (m.checkPath context r e.path).checkQuery context r e.query
  | none => m.record (context ++ " issued no request")

/-- Checks an iterator against the contract of listings. -/
def verifyListing (context : String) (message : ε → String) (next : σ → Yield ε α × σ)
    (log : σ → List Captured) (expected : List α) (e : PageExpectation) (s : σ) :
    Mismatches × σ :=
  match verifyItems context message next .empty 0 expected s with
  | (m, none, s) => (m, s)
  | (m, some count, s) =>
    let m := m.check (count == expected.length)
      (context ++ " = " ++ toString count ++ " items; want = " ++ toString expected.length)
    let requestsAtEnd := (log s).length
    let (m, s) := verifyEnd context message next m s
    let (m, s) := verifyStaysEnded context next (List.range extraCalls) m s
    let m := m.checkEq (context ++ " requests after exhaustion") (log s).length requestsAtEnd
    (verifyLastRequest context e m (log s).getLast?, s)

end

/-- Checks the queries of requests, one wanted query per request, beginning at a page. -/
def verifyQueries (context : String) :
    Nat → List Captured → List String → Mismatches → Mismatches
  | page, r :: rs, want :: wants, m =>
    verifyQueries context (page + 1) rs wants
      (m.checkQuery (context ++ " page #" ++ toString page) r want)
  | _, _, _, m => m

/-- Checks the queries of the requests from a place in the log on, one query per page. -/
def verifyPageQueries (context : String) (log : List Captured) (first : Nat)
    (queries : List String) : Mismatches :=
  let pages := log.drop first
  verifyQueries context 0 pages queries
    (Mismatches.empty.checkEq (context ++ " page requests") pages.length queries.length)

/-! ### Scripted listings -/

/-- One call of a scripted listing: the targets that it asks the server for, and what it
yields. -/
structure ListingEvent where
  gets : List String
  yields : Yield String Int

/-- A GET request for a target. -/
def getRequest (target : String) : Received :=
  ⟨"GET", target, [("accept", Utf8.ofString "*/*")], some []⟩

/-- The next call of a scripted listing against a server over a link; it has ended when the
script has. -/
def scriptedNext (link : Link) :
    List ListingEvent × Server → Yield String Int × (List ListingEvent × Server)
  | ([], s) => (none, [], s)
  | (e :: es, s) =>
    (e.yields, es, e.gets.foldl (fun s target => (s.exchange link (getRequest target)).2) s)

end AccountWire.Echo
