import AccountWire.Echo.Mismatches
import AccountWire.Proofs.Url.ParameterOrder

/-!
# The canonical query of a captured request

Whatever query a request came with, its canonical query is read as the parameters of the request in
the order of their names, so it tells two requests apart exactly when their parameters differ in this
order (`canonical_query_is_normal_form`).  Parameters of distinct names may therefore change places.
Parameters of one name may not: two requests whose parameters are the same but for their order have
the same canonical query when each name that comes more than once has its values in the same order
(`reordered_parameters_agree_iff`), and not otherwise (`swapped_values_disagree`).
-/

namespace AccountWire.Echo

namespace Captured

/-- The canonical query is read as the parameters in the order of their names. -/
theorem decodeString_canonicalQuery (r : Captured) :
    Query.decodeString r.canonicalQuery = Query.sortByName r.queryPairs :=
  Query.decodeString_encodeString _

/-- The parameters of a request are those of its query. -/
theorem queryPairs_of_query {r : Captured} {query : String} (h : r.query = some query) :
    r.queryPairs = Query.decodeString query := by
  rw [queryPairs, h, Option.elim_some]

/-- Canonical queries are equal exactly if the parameters in the order of their names are. -/
theorem canonicalQuery_eq_iff {r s : Captured} :
    r.canonicalQuery = s.canonicalQuery ↔
      Query.sortByName r.queryPairs = Query.sortByName s.queryPairs := by
  constructor
  · intro h
    rw [← decodeString_canonicalQuery, h, decodeString_canonicalQuery]
  · intro h
    rw [canonicalQuery, h, canonicalQuery]

/-- **The canonical query is a normal form**, whatever the query: it is read as the one order by name
of the parameters, it is its own canonical query, and two requests have the same exactly when one
list of parameters is the order by name of both. -/
theorem canonical_query_is_normal_form (r : Captured) :
    (∀ ps, Query.Sorts r.queryPairs ps ↔ ps = Query.decodeString r.canonicalQuery) ∧
    (∀ s : Captured, s.query = some r.canonicalQuery → s.canonicalQuery = r.canonicalQuery) ∧
    ∀ s : Captured, r.canonicalQuery = s.canonicalQuery ↔
      ∃ ps, Query.Sorts r.queryPairs ps ∧ Query.Sorts s.queryPairs ps := by
  refine ⟨?_, ?_, ?_⟩
  · intro ps
    rw [decodeString_canonicalQuery]
    exact Query.sorts_iff
  · intro s hs
    rw [canonicalQuery_eq_iff, queryPairs_of_query hs, decodeString_canonicalQuery,
      Query.sortByName_sortByName]
  · intro s
    simp only [canonicalQuery_eq_iff, Query.sorts_iff, exists_eq_left]

/-- A request of which only the query matters. -/
def asking (query : String) : Captured :=
  ⟨0, "GET", "/?" ++ query, "/", some query, [], []⟩

/-- A query with an escape cut short, an empty piece, an empty name, an octet that is no UTF-8, and a
name without a value. -/
theorem malformed_query_normalised :
    let r := asking "b=%+1&&=x&a=%FF&b"
    r.canonicalQuery = "=x&a=%EF%BF%BD&b=%25+1&b=" ∧
      (asking r.canonicalQuery).canonicalQuery = r.canonicalQuery ∧
      Query.Sorts r.queryPairs [("", "x"), ("a", "\uFFFD"), ("b", "% 1"), ("b", "")] := by
  intro r
  obtain ⟨hread, hagain, -⟩ := canonical_query_is_normal_form r
  exact ⟨by decide +kernel, hagain (asking r.canonicalQuery) rfl, (hread _).mpr (by decide +kernel)⟩

/-- **Parameters in another order** have the same canonical query exactly when each name that comes
more than once has its values in the same order. -/
theorem reordered_parameters_agree_iff {r s : Captured} (h : r.queryPairs.Perm s.queryPairs) :
    r.canonicalQuery = s.canonicalQuery ↔
      ∀ name, 1 < (Query.valuesOf name r.queryPairs).length →
        Query.valuesOf name r.queryPairs = Query.valuesOf name s.queryPairs := by
  rw [canonicalQuery_eq_iff, Query.sortByName_eq_iff]
  constructor
  · exact fun heq name _ => heq name
  · intro heq name
    by_cases hmany : 1 < (Query.valuesOf name r.queryPairs).length
    · exact heq name hmany
    · exact Query.valuesOf_eq_of_perm h (by omega)

/-- Two names, one of them escaped and one with two values in the same order. -/
theorem moved_parameter_agrees :
    let r := asking "a=1&%62=2&a=3"
    let s := asking "b=2&a=1&a=3"
    r.queryPairs.Perm s.queryPairs ∧ r.canonicalQuery = s.canonicalQuery := by
  intro r s
  have hpairs : r.queryPairs = [("a", "1"), ("b", "2"), ("a", "3")] := by decide +kernel
  have hperm : r.queryPairs.Perm s.queryPairs := by decide +kernel
  refine ⟨hperm, (reordered_parameters_agree_iff hperm).mpr ?_⟩
  intro name hmany
  by_cases ha : name = "a"
  · rw [ha]
    decide +kernel
  · -- No other name comes twice.
    rw [hpairs, Query.valuesOf_cons, if_neg (Ne.symm ha), Query.valuesOf_cons] at hmany
    split at hmany <;> simp [Query.valuesOf, Ne.symm ha] at hmany

/-- The same two parameters of one name in the other order are taken for others, and reported. -/
theorem swapped_values_disagree :
    let r := asking "a=1&a=2"
    let s := asking "a=2&a=1"
    r.queryPairs.Perm s.queryPairs ∧ r.canonicalQuery ≠ s.canonicalQuery ∧
      (Mismatches.empty.checkQuery "q" r r.canonicalQuery).isEmpty = true ∧
      (Mismatches.empty.checkQuery "q" s r.canonicalQuery).isEmpty = false := by
  decide +kernel

end Captured

end AccountWire.Echo
