import AccountWire.Proofs.Text.Utf8

/-!
# Octets are in the order of characters

UTF-8 keeps the order of characters.  The lesser one of two characters is written with octets that
come first, whatever follows either of them (`encodeChar_append_lt`); so texts are in the order of
their octets (`encode_lt_encode_iff`, `ofString_le_ofString_iff`).
-/

namespace AccountWire.Utf8

/-- Lists of octets are compared by the number at the head, then by what follows. -/
theorem cons_ofNat_lt {m n : Nat} (hm : m < 0x100) (hn : n < 0x100) (r r' : Bytes) :
    UInt8.ofNat m :: r < UInt8.ofNat n :: r' ↔ m < n ∨ m = n ∧ r < r' := by
  rw [List.cons_lt_cons_iff, UInt8.lt_iff_toNat_lt, ← UInt8.toNat_inj, toNat_octet hm,
    toNat_octet hn]

/-- **The lesser character comes first** in octets, whatever follows. -/
theorem encodeChar_append_lt {c d : Char} (h : c < d) (r r' : Bytes) :
    encodeChar c ++ r < encodeChar d ++ r' := by
  have hlt : c.toNat < d.toNat := h
  have hvalid := toNat_isValidChar d
  have hd : d.toNat < 0x110000 := by unfold Nat.isValidChar at hvalid; omega
  unfold encodeChar
  simp only []
  -- One case for each two lengths.  A longer character has a greater first octet; of two characters
  -- of one length, the first octets that differ decide.
  repeat' split
  all_goals
    simp only [List.cons_append]
    repeat rw [cons_ofNat_lt (by omega) (by omega)]
    omega

theorem encode_cons (c : Char) (cs : List Char) :
    encode (c :: cs) = encodeChar c ++ encode cs := rfl

/-- The order of the characters is the order of their octets. -/
theorem encode_lt_encode {cs ds : List Char} (h : cs < ds) : encode cs < encode ds := by
  induction cs generalizing ds with
  | nil =>
      cases ds with
      | nil => exact absurd h (List.not_lt_nil _)
      | cons d ds =>
          have hpos := length_encodeChar_pos d
          obtain ⟨b, bs, hd⟩ := List.exists_cons_of_length_pos hpos
          rw [encode_cons, hd]
          exact List.nil_lt_cons _ _
  | cons c cs ih =>
      cases ds with
      | nil => exact absurd h (List.not_lt_nil _)
      | cons d ds =>
          rw [encode_cons, encode_cons]
          rcases List.cons_lt_cons_iff.mp h with hlt | ⟨rfl, hlt⟩
          · exact encodeChar_append_lt hlt _ _
          · exact List.append_left_lt (ih hlt)

/-- **Texts are in the order of their octets.** -/
theorem encode_lt_encode_iff {cs ds : List Char} : encode cs < encode ds ↔ cs < ds := by
  constructor
  · intro h
    rcases Std.lt_trichotomy cs ds with hlt | rfl | hgt
    · exact hlt
    · exact absurd h (List.lt_irrefl _)
    · exact absurd h (List.lt_asymm (encode_lt_encode hgt))
  · exact encode_lt_encode

/-- Texts ascend exactly as their octets do. -/
theorem ofString_le_ofString_iff {s t : String} : ofString s ≤ ofString t ↔ s ≤ t := by
  have hlt : ofString t < ofString s ↔ t < s := encode_lt_encode_iff
  exact not_congr hlt

end AccountWire.Utf8
