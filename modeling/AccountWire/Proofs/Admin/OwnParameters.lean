import AccountWire.Proofs.Admin.Operation

/-!
# The parameters that an address has of itself

The ids of a client are put into its addresses as they are.  A question mark in them begins a query
there, and what follows is read as parameters that no operation asked for.  An operation's own
parameters come after those, so they are all there are just when the ids add none.

`AddsNoParameters` says so of the ids: after a question mark there is nothing but separators, and a
number sign behind them keeps the rest of the address out of the query.  The proof follows the
reader from the end: what a query of separators reads as (`Query.decodeString_eq_nil`), what the
parser takes for the query (`Url.Tail.query_eq_some`), and what the address continues with
(`Operation.parameters_eq_nil_iff`).
-/

namespace AccountWire.Query

/-- Octets have no parameters exactly if they are separators only. -/
theorem decode_eq_nil {bs : Bytes} : decode bs = [] ↔ ∀ b ∈ bs, b = 0x26 := by
  rw [decode, List.map_eq_nil_iff, List.filter_eq_nil_iff]
  simp only [decide_eq_true_eq, not_not, ne_eq]
  rw [Split.pieces_empty_iff]
  simp

/-- **Only separators are no parameters.** -/
theorem decodeString_eq_nil {s : String} :
    decodeString s = [] ↔ ∀ c ∈ s.toList, c = '&' := by
  have hmark : Utf8.encodeChar '&' = [0x26] := by decide
  have hreplicate : ∀ n, Utf8.encode (List.replicate n '&') = List.replicate n 0x26 := by
    intro n
    rw [Utf8.encode, List.flatMap_replicate, hmark]
    simp
  rw [decodeString, decode_eq_nil, Utf8.ofString]
  constructor
  · intro h
    have hencode := (List.eq_replicate_iff.mpr ⟨rfl, h⟩).trans (hreplicate _).symm
    rw [Utf8.encode_injective hencode]
    exact fun c hc => List.eq_of_mem_replicate hc
  · intro h
    rw [List.eq_replicate_iff.mpr ⟨rfl, h⟩, hreplicate]
    exact fun b hb => List.eq_of_mem_replicate hb

end AccountWire.Query

namespace AccountWire.Url

/-- A separator is written as itself, and nothing else is. -/
theorem encodeQuery_separators {cs : List Char} :
    (∀ c ∈ (encodeQuery .special cs).toList, c = '&') ↔ ∀ c ∈ cs, c = '&' := by
  have hchar : ∀ c : Char,
      (∀ d ∈ Percent.encodeChar Percent.specialQuerySet c, d = '&') ↔ c = '&' := by
    intro c
    unfold Percent.encodeChar
    split
    · simp
    · next hescaped =>
      obtain ⟨b, bs, hbs⟩ := List.exists_cons_of_length_pos (Utf8.length_encodeChar_pos c)
      refine iff_of_false (fun h => ?_) ?_
      · have hsign : '%' ∈ Percent.asciiChars ((Utf8.encodeChar c).flatMap Percent.escape) := by
          rw [hbs]
          exact List.mem_cons_self
        exact absurd (h '%' hsign) (by decide)
      · rintro rfl
        exact hescaped (by decide)
  rw [encodeQuery, String.toList_ofList, Percent.encode]
  simp only [SchemeKind.isSpecial, if_true, List.forall_mem_flatMap, hchar]

/-- What the parser takes for the query: what stands between the first question mark and the first
number sign, in this order. -/
theorem Tail.ofChars_query (cs : List Char) :
    (Tail.ofChars cs).query =
      (Split.atFirst? (· == '?') (cs.takeWhile (! · == '#'))).map (·.2) := by
  rw [← Split.atFirst?_takeWhile]
  unfold Tail.ofChars
  cases h : Split.atFirst? (· == '#') cs with
  | none => cases h' : Split.atFirst? (· == '?') cs <;> simp [h']
  | some p => cases h' : Split.atFirst? (· == '?') p.1 <;> simp [h']

/-- A query begins after the first question mark that no number sign precedes, and ends at a number
sign. -/
theorem Tail.query_eq_some {cs q : List Char} :
    (Tail.ofChars cs).query = some q ↔ ∃ before after, cs = before ++ '?' :: after ∧
      (∀ c ∈ before, endsPath c = false) ∧ q = after.takeWhile (! · == '#') := by
  have hplain : ∀ c, endsPath c = false ↔ (c == '?') = false ∧ (c == '#') = false := by
    intro c
    simp [endsPath]
  have htake : ∀ {before after : List Char}, (∀ c ∈ before, endsPath c = false) →
      (before ++ '?' :: after).takeWhile (! · == '#') =
        before ++ '?' :: after.takeWhile (! · == '#') := by
    intro before after hbefore
    have hkeep : ∀ c ∈ before, (! c == '#') = true := by
      intro c hc
      simp [((hplain c).mp (hbefore c hc)).2]
    rw [List.takeWhile_append_of_pos hkeep, List.takeWhile_cons_of_pos (by decide)]
  rw [Tail.ofChars_query, Option.map_eq_some_iff]
  constructor
  · rintro ⟨⟨before, after⟩, hfirst, rfl⟩
    obtain ⟨sign, hsign, hcut, hbefore⟩ := Split.atFirst?_append hfirst
    obtain rfl : sign = '?' := eq_of_beq hsign
    have hplain' : ∀ c ∈ before, endsPath c = false := by
      intro c hc
      have hhash : c ∈ cs.takeWhile (! · == '#') := hcut ▸ List.mem_append_left _ hc
      exact (hplain c).mpr ⟨hbefore c hc, by simpa using List.all_eq_true.mp List.all_takeWhile c hhash⟩
    obtain ⟨rest, hcs⟩ : ∃ rest, cs = before ++ '?' :: (after ++ rest) := by
      refine ⟨cs.dropWhile (! · == '#'), ?_⟩
      rw [← List.cons_append, ← List.append_assoc, ← hcut, List.takeWhile_append_dropWhile]
    rw [hcs, htake hplain'] at hcut
    exact ⟨before, after ++ rest, hcs, hplain',
      (List.cons.inj (List.append_cancel_left hcut)).2.symm⟩
  · rintro ⟨before, after, rfl, hbefore, rfl⟩
    refine ⟨(before, after.takeWhile (! · == '#')), ?_, rfl⟩
    rw [htake hbefore]
    exact Split.atFirst?_cons_of_forall (fun c hc => ((hplain c).mp (hbefore c hc)).1) rfl

/-- A text without marks does not change the query of what follows it. -/
theorem Tail.query_append {l : List Char} (hl : ∀ c ∈ l, endsPath c = false) (r : List Char) :
    (Tail.ofChars (l ++ r)).query = (Tail.ofChars r).query := by
  have hplain : ∀ c ∈ l, (c == '?') = false ∧ (c == '#') = false := by
    intro c hc
    simpa [endsPath] using hl c hc
  have hkeep : ∀ c ∈ l, (! c == '#') = true := by
    intro c hc
    simp [(hplain c hc).2]
  rw [Tail.ofChars_query, Tail.ofChars_query, List.takeWhile_append_of_pos hkeep]
  exact Split.atFirst?_append_of_forall (fun c hc => (hplain c hc).1) _

/-- A text that a resource follows brings no parameters along just when its first question mark,
unless a number sign precedes it, is followed by separators and a number sign. -/
theorem Tail.separators_iff {k r : List Char} (hr : ∀ c ∈ r, endsPath c = false)
    (hslash : '/' ∈ r) :
    (∀ q, (Tail.ofChars (k ++ r)).query = some q → ∀ c ∈ q, c = '&') ↔
      ∀ before after, k = before ++ '?' :: after → (∀ c ∈ before, endsPath c = false) →
        ∃ pad rest, after = pad ++ '#' :: rest ∧ ∀ c ∈ pad, c = '&' := by
  constructor
  · rintro h before after rfl hbefore
    have hquery : ∀ c ∈ (after ++ r).takeWhile (! · == '#'), c = '&' :=
      h _ (Tail.query_eq_some.mpr ⟨before, after ++ r, by simp, hbefore, rfl⟩)
    cases hhash : Split.atFirst? (· == '#') after with
    | some p =>
        obtain ⟨sign, hsign, hafter, hpad⟩ := Split.atFirst?_append hhash
        obtain rfl : sign = '#' := eq_of_beq hsign
        refine ⟨p.1, p.2, hafter, ?_⟩
        have hkeep : ∀ c ∈ p.1, (! c == '#') = true := fun c hc => by simp [hpad c hc]
        rw [hafter, List.append_assoc, List.takeWhile_append_of_pos hkeep] at hquery
        exact fun c hc => hquery c (List.mem_append_left _ hc)
    | none =>
        have hkeep : ∀ c ∈ after ++ r, (! c == '#') = true := by
          intro c hc
          rcases List.mem_append.mp hc with hc | hc
          · simp [Split.atFirst?_eq_none.mp hhash c hc]
          · have := hr c hc
            simp only [endsPath, Bool.or_eq_false_iff, decide_eq_false_iff_not] at this
            simp [this.2]
        rw [List.takeWhile_eq_self_iff.mpr hkeep] at hquery
        exact absurd (hquery '/' (List.mem_append_right _ hslash)) (by decide)
  · rintro h q hq
    obtain ⟨before, after, hcut, hbefore, rfl⟩ := Tail.query_eq_some.mp hq
    have hmark : '?' ∉ r := fun hmem => absurd (hr '?' hmem) (by decide)
    rcases List.append_eq_append_iff.mp hcut with ⟨t, hk, hafter⟩ | ⟨t, hk, hafter⟩
    · exact absurd (hafter ▸ List.mem_append_right _ List.mem_cons_self) hmark
    · cases t with
      | nil =>
          rw [List.nil_append] at hafter
          exact absurd (hafter ▸ List.mem_cons_self) hmark
      | cons sign t =>
          rw [List.cons_append] at hafter
          obtain ⟨rfl, rfl⟩ := List.cons.inj hafter
          obtain ⟨pad, rest, rfl, hpad⟩ := h before t hk hbefore
          have hkeep : ∀ c ∈ pad, (! c == '#') = true := fun c hc => by rw [hpad c hc]; decide
          rw [List.append_assoc, List.takeWhile_append_of_pos hkeep]
          simpa using hpad

/-- The query of an address behind its beginning. -/
theorem Opens.parameters_eq_nil_iff {p authority rest : List Char} {scheme : String}
    (h : Opens p scheme authority rest) (hrest : ∀ c ∈ rest, endsPath c = false) {q : List Char}
    {u : Url} (hu : Url.parse (String.ofList (p ++ '/' :: q)) = .ok u) :
    u.parameters = [] ↔ ∀ cs, (Tail.ofChars ((trimEnd q).filter isKept)).query = some cs →
      ∀ c ∈ cs, c = '&' := by
  rw [h.parse] at hu
  cases hok : parseAuthority scheme authority true with
  | error e => simp [hok, Except.map] at hu
  | ok x =>
      simp only [hok, Except.map, Except.ok.injEq] at hu
      have hprefix : ∀ c ∈ rest ++ ['/'], endsPath c = false := by
        intro c hc
        rcases List.mem_append.mp hc with hc | hc
        · exact hrest c hc
        · rw [List.mem_singleton.mp hc]
          rfl
      have hquery : u.query =
          (Tail.ofChars ((trimEnd q).filter isKept)).query.map (encodeQuery .special) := by
        rw [← hu, ← Tail.query_append hprefix, List.append_assoc, List.singleton_append, ← h.special]
        rfl
      rw [parameters, hquery]
      cases (Tail.ofChars ((trimEnd q).filter isKept)).query with
      | none => simp
      | some cs =>
          rw [Option.map_some, Option.elim_some, Query.decodeString_eq_nil, encodeQuery_separators]
          simp

end AccountWire.Url

namespace AccountWire.Admin

open Url (endsPath isKept trimEnd)

/-- The ids of a client add no parameters to its addresses: where a question mark comes first of
the two marks that end a path, separators follow and then a number sign.  Tabs and line ends do not
count. -/
def Client.AddsNoParameters (c : Client) : Prop :=
  ∀ before after, c.scope.filter isKept = before ++ '?' :: after →
    (∀ ch ∈ before, ch ≠ '?' ∧ ch ≠ '#') →
    ∃ pad rest, after = pad ++ '#' :: rest ∧ ∀ ch ∈ pad, ch = '&'

/-- Ids without question marks add no parameters. -/
theorem Client.addsNoParameters_of_no_mark {c : Client} (hproject : '?' ∉ c.projectId.toList)
    (htenant : ∀ t ∈ c.tenantId, '?' ∉ t.toList) : c.AddsNoParameters := by
  have hscope : '?' ∉ c.scope := by
    have hwords : '?' ∉ "projects/".toList ∧ '?' ∉ "/tenants/".toList := by decide
    have helim : '?' ∉ (c.tenantId.elim "" ("/tenants/" ++ ·)).toList := by
      cases ht : c.tenantId with
      | none => simp
      | some t =>
          rw [Option.elim_some, String.toList_append, List.mem_append, not_or]
          exact ⟨hwords.2, htenant t ht⟩
    unfold scope
    rw [List.mem_append, List.mem_append, not_or, not_or]
    exact ⟨⟨hwords.1, hproject⟩, helim⟩
  intro before after hcut
  have hmem : '?' ∈ c.scope.filter isKept :=
    hcut ▸ List.mem_append_right _ List.mem_cons_self
  exact absurd (List.mem_filter.mp hmem).1 hscope

/-- **The parameters of an address** of a resource without marks: there are none just when the ids of
the client add none. -/
theorem Operation.parameters_eq_nil_iff {config : Configuration} {c : Client}
    (hc : ClientOf config c) (hhttp : config.IsHttp) {op : Operation}
    (hmarks : ∀ ch ∈ op.resource.toList, endsPath ch = false) (hslash : '/' ∈ op.resource.toList)
    {u : Url} (hu : Url.parse (op.address c) = .ok u) :
    u.parameters = [] ↔ c.AddsNoParameters := by
  obtain ⟨scheme, authority, rest, hopens, hrest⟩ := hc.opens hhttp op.service
  have hslash' : '/' ∈ trimEnd op.resource.toList := Url.mem_trimEnd (by decide) hslash
  have hmarks' : ∀ ch ∈ (trimEnd op.resource.toList).filter isKept, endsPath ch = false := by
    intro ch hch
    exact hmarks ch ((Url.trimEnd_sublist _).subset (List.mem_of_mem_filter hch))
  rw [address_eq_ofList] at hu
  rw [hopens.parameters_eq_nil_iff hrest hu, Url.trimEnd_append (List.ne_nil_of_mem hslash'),
    List.filter_append, Url.Tail.separators_iff hmarks' (List.mem_filter.mpr ⟨hslash', by decide⟩)]
  simp only [endsPath, Bool.or_eq_false_iff, decide_eq_false_iff_not, ne_eq,
    Client.AddsNoParameters]

end AccountWire.Admin
