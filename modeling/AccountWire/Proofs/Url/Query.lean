import AccountWire.Proofs.Text.Split
import AccountWire.Proofs.Url.Percent
import AccountWire.Url.Basic

/-!
# Queries are read back

What a query is written with, letters and marks, plus signs and escapes, is told apart from the two
separators, so reading undoes writing (`decode_encode`, `decodeString_encodeString`).  Parameters
that are appended to a query come after those that it has (`decodeString_append`).
-/

namespace AccountWire.Query

/-- What an octet of a name or value is after the plus signs have become spaces again. -/
theorem map_encodeOctet : ∀ b : UInt8,
    (encodeOctet b).map (fun c => if c = 0x2B then 0x20 else c) =
      if isPlain b ∨ b = 0x20 then [b] else Percent.escape b :=
  Utf8.forall_octet (by decide +kernel)

/-- The octets that a query is written with are ASCII, and none of a name or value separates. -/
theorem encodeOctet_spec (b : UInt8) :
    ∀ c ∈ encodeOctet b, c.toNat < 0x80 ∧ c ≠ 0x26 ∧ c ≠ 0x3D := by
  have hall : ∀ b : UInt8, (encodeOctet b).all
      (fun c => c.toNat < 0x80 && c ≠ 0x26 && c ≠ 0x3D) = true :=
    Utf8.forall_octet (by decide +kernel)
  intro c hc
  have := List.all_eq_true.mp (hall b) c hc
  simpa [and_assoc] using this

/-- A written name or value is free of separators. -/
theorem encodeText_spec (s : String) :
    ∀ c ∈ encodeText s, c.toNat < 0x80 ∧ c ≠ 0x26 ∧ c ≠ 0x3D := by
  intro c hc
  obtain ⟨b, -, hb⟩ := List.mem_flatMap.mp hc
  exact encodeOctet_spec b c hb

/-- **A name or value is read back.** -/
theorem decodeText_encodeText (s : String) : decodeText (encodeText s) = s := by
  have hdecode : ∀ bs : Bytes, Percent.decode
      ((bs.flatMap encodeOctet).map fun c => if c = 0x2B then 0x20 else c) = bs := by
    intro bs
    induction bs with
    | nil => rfl
    | cons b bs ih =>
        rw [List.flatMap_cons, List.map_append, map_encodeOctet]
        split
        · next hplain =>
          have hsign : b ≠ Percent.sign := by
            rintro rfl
            revert hplain
            decide
          rw [List.singleton_append, Percent.decode_cons hsign, ih]
        · rw [Percent.decode_escape, ih]
  rw [decodeText, encodeText, hdecode, Utf8.toStringLossy_ofString]

/-- A written parameter is read back. -/
theorem decodePair_encodePair (p : Pair) : decodePair (encodePair p) = p := by
  have hname : Split.atFirst? (· == 0x3D) (encodePair p) =
      some (encodeText p.1, encodeText p.2) := by
    refine Split.atFirst?_cons_of_forall ?_ rfl
    intro c hc
    simpa using (encodeText_spec p.1 c hc).2.2
  simp only [decodePair, hname, decodeText_encodeText]

/-- A written parameter is not empty, and has no separator of parameters in it. -/
theorem encodePair_spec (p : Pair) :
    encodePair p ≠ [] ∧ ∀ c ∈ encodePair p, c.toNat < 0x80 ∧ c ≠ 0x26 := by
  refine ⟨by simp [encodePair], ?_⟩
  intro c hc
  rcases List.mem_append.mp hc with hc | hc
  · exact ⟨(encodeText_spec p.1 c hc).1, (encodeText_spec p.1 c hc).2.1⟩
  · rcases List.mem_cons.mp hc with rfl | hc
    · decide
    · exact ⟨(encodeText_spec p.2 c hc).1, (encodeText_spec p.2 c hc).2.1⟩

/-- **A query is read back.** -/
theorem decode_encode (ps : List Pair) : decode (encode ps) = ps := by
  cases ps with
  | nil => rfl
  | cons p ps =>
      have hpieces : Split.pieces (· == 0x26) (encode (p :: ps)) = (p :: ps).map encodePair := by
        apply Split.pieces_join rfl (by simp)
        intro bs hbs c hc
        obtain ⟨q, -, rfl⟩ := List.mem_map.mp hbs
        simpa using ((encodePair_spec q).2 c hc).2
      have hfilter : ((p :: ps).map encodePair).filter (· ≠ []) = (p :: ps).map encodePair := by
        rw [List.filter_eq_self]
        intro bs hbs
        obtain ⟨q, -, rfl⟩ := List.mem_map.mp hbs
        simpa using (encodePair_spec q).1
      rw [decode, hpieces, hfilter, List.map_map]
      exact List.map_id'' decodePair_encodePair _

/-- What all octets of names and values satisfy, and the two separators, a query satisfies. -/
theorem forall_mem_encode {P : UInt8 → Prop} (hoctet : ∀ b, ∀ c ∈ encodeOctet b, P c)
    (hequals : P 0x3D) (hand : P 0x26) (ps : List Pair) : ∀ c ∈ encode ps, P c := by
  have htext : ∀ s, ∀ c ∈ encodeText s, P c := by
    intro s c hc
    obtain ⟨b, -, hb⟩ := List.mem_flatMap.mp hc
    exact hoctet b c hb
  have hpair : ∀ p, ∀ c ∈ encodePair p, P c := by
    intro p c hc
    rw [encodePair, List.mem_append, List.mem_cons] at hc
    rcases hc with hc | rfl | hc
    · exact htext p.1 c hc
    · exact hequals
    · exact htext p.2 c hc
  induction ps with
  | nil => simp [encode, Split.join]
  | cons p ps ih =>
      cases ps with
      | nil => exact hpair p
      | cons q ps =>
          intro c hc
          rw [show encode (p :: q :: ps) = encodePair p ++ [0x26] ++ encode (q :: ps) from rfl,
            List.append_assoc, List.mem_append, List.singleton_append, List.mem_cons] at hc
          rcases hc with hc | rfl | hc
          · exact hpair p c hc
          · exact hand
          · exact ih c hc

theorem encode_ascii (ps : List Pair) : ∀ c ∈ encode ps, c.toNat < 0x80 :=
  forall_mem_encode (fun b c hc => (encodeOctet_spec b c hc).1) (by decide) (by decide) ps

/-- Nothing in a query begins a fragment. -/
theorem hash_not_mem_encodeString (ps : List Pair) : '#' ∉ (encodeString ps).toList := by
  have hoctet : ∀ b : UInt8, ∀ c ∈ encodeOctet b, Char.ofNat c.toNat ≠ '#' := by
    have hall : ∀ b : UInt8, (encodeOctet b).all (fun c => Char.ofNat c.toNat ≠ '#') = true :=
      Utf8.forall_octet (by decide +kernel)
    intro b c hc
    simpa using List.all_eq_true.mp (hall b) c hc
  rw [encodeString, String.toList_ofList, Percent.asciiChars, List.mem_map]
  rintro ⟨c, hc, hhash⟩
  exact forall_mem_encode hoctet (by decide) (by decide) ps c hc hhash

/-- The text of a query has the octets of the query. -/
theorem ofString_encodeString (ps : List Pair) : Utf8.ofString (encodeString ps) = encode ps := by
  rw [Utf8.ofString, encodeString, String.toList_ofList,
    Percent.encode_asciiChars (encode_ascii ps)]

/-- A written query is read back. -/
theorem decodeString_encodeString (ps : List Pair) : decodeString (encodeString ps) = ps := by
  rw [decodeString, ofString_encodeString, decode_encode]

/-- **Appended parameters come last.** -/
theorem decodeString_append (s t : String) :
    decodeString (s ++ "&" ++ t) = decodeString s ++ decodeString t := by
  have hoctets : Utf8.ofString (s ++ "&" ++ t) = Utf8.ofString s ++ 0x26 :: Utf8.ofString t := by
    have hmark : Utf8.encode "&".toList = [0x26] := by decide
    unfold Utf8.ofString
    rw [String.toList_append, String.toList_append, Utf8.encode_append, Utf8.encode_append, hmark,
      List.append_assoc, List.singleton_append]
  have hpieces : Split.pieces (· == 0x26) (Utf8.ofString s ++ 0x26 :: Utf8.ofString t) =
      Split.pieces (· == 0x26) (Utf8.ofString s) ++ Split.pieces (· == 0x26) (Utf8.ofString t) :=
    Split.pieces_append rfl _ _
  rw [decodeString, hoctets, decode, hpieces, List.filter_append, List.map_append]
  rfl

end AccountWire.Query

namespace AccountWire.Url

/-- The parameters of a URL. -/
def parameters (u : Url) : List Query.Pair := u.query.elim [] Query.decodeString

@[simp] theorem path_addQuery (u : Url) (ps : List Query.Pair) : (u.addQuery ps).path = u.path := by
  unfold addQuery
  split <;> rfl

/-- **Added parameters come after those that a URL has.** -/
theorem parameters_addQuery (u : Url) (ps : List Query.Pair) :
    (u.addQuery ps).parameters = u.parameters ++ ps := by
  cases ps with
  | nil => simp [addQuery]
  | cons p ps =>
      have hread := Query.decodeString_encodeString (p :: ps)
      simp only [addQuery, List.isEmpty_cons, Bool.false_eq_true, if_false, parameters,
        Option.elim_some]
      split
      · next hquery =>
        rw [hquery]
        exact hread
      · next hquery =>
        rw [hquery]
        exact hread
      · next q _ hquery =>
        rw [hquery, Query.decodeString_append, hread]
        rfl

end AccountWire.Url
