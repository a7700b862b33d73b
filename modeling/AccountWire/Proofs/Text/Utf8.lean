import AccountWire.Text.Utf8

/-!
# UTF-8 reads back

The reading machine gives every character back that `encode` wrote, whatever follows
(`scan_encodeChar`), so a text is determined by its octets (`ofString_injective`).  The octets below
`0x80` of a text are its ASCII characters (`ascii_mem_encode`).
-/

namespace AccountWire.Utf8

/-! ### One character -/

theorem toNat_octet {n : Nat} (h : n < 0x100) : (UInt8.ofNat n).toNat = n := by
  simpa using h

/-- What holds of the numbers below 256 holds of all octets. -/
theorem forall_octet {P : UInt8 → Prop} (h : ∀ n, n < 0x100 → P (UInt8.ofNat n)) (b : UInt8) :
    P b := by
  have hb := h b.toNat b.toNat_lt
  rwa [UInt8.ofNat_toNat] at hb

/-- An octet in the range that the machine waits for is taken in. -/
theorem scan_pending {p : Pending} {n : Nat} (r : Bytes) (hn : n < 0x100) (hlow : p.low ≤ n)
    (hhigh : n ≤ p.high) :
    scan (some p) (UInt8.ofNat n :: r) =
      if p.owed ≤ 1 then some (Char.ofNat (p.bits * 0x40 + (n - 0x80))) :: scan none r
      else scan (some ⟨p.bits * 0x40 + (n - 0x80), p.owed - 1, 0x80, 0xBF⟩) r := by
  rw [scan, toNat_octet hn, if_pos ⟨hlow, hhigh⟩]

/-- The machine after the first octet of a character of two. -/
theorem scan_opening_two {n : Nat} (r : Bytes) (hlow : 0x80 ≤ n) (hhigh : n < 0x800) :
    scan none (UInt8.ofNat (0xC0 + n / 0x40) :: r) = scan (some ⟨n / 0x40, 1, 0x80, 0xBF⟩) r := by
  have hb : (UInt8.ofNat (0xC0 + n / 0x40)).toNat = 0xC0 + n / 0x40 := toNat_octet (by omega)
  have hopen : opening (UInt8.ofNat (0xC0 + n / 0x40)) = .pending ⟨n / 0x40, 1, 0x80, 0xBF⟩ := by
    simp only [opening, hb]
    rw [if_neg (by omega), if_neg (by omega), if_pos (by omega), Nat.add_sub_cancel_left]
  rw [scan, hopen]

/-- The machine after the first octet of a character of three; the range of the next one leaves
out shorter forms and surrogates. -/
theorem scan_opening_three {n : Nat} (r : Bytes) (hlow : 0x800 ≤ n) (hhigh : n < 0x10000)
    (hvalid : n.isValidChar) :
    ∃ low high, low ≤ 0x80 + n / 0x40 % 0x40 ∧ 0x80 + n / 0x40 % 0x40 ≤ high ∧
      scan none (UInt8.ofNat (0xE0 + n / 0x1000) :: r) =
        scan (some ⟨n / 0x1000, 2, low, high⟩) r := by
  have hb : (UInt8.ofNat (0xE0 + n / 0x1000)).toNat = 0xE0 + n / 0x1000 := toNat_octet (by omega)
  rw [scan]
  simp only [opening, hb]
  rw [if_neg (by omega), if_neg (by omega), if_neg (by omega)]
  by_cases h0 : n / 0x1000 = 0
  · refine ⟨0xA0, 0xBF, by omega, by omega, ?_⟩
    rw [if_pos (by omega), h0]
  · by_cases hd : n / 0x1000 = 0xD
    · refine ⟨0x80, 0x9F, by omega, by unfold Nat.isValidChar at hvalid; omega, ?_⟩
      rw [if_neg (by omega), if_pos (by omega), hd]
    · refine ⟨0x80, 0xBF, by omega, by omega, ?_⟩
      rw [if_neg (by omega), if_neg (by omega), if_pos (by omega), Nat.add_sub_cancel_left]

/-- The machine after the first octet of a character of four; the range of the next one leaves out
shorter forms and what lies beyond the last character. -/
theorem scan_opening_four {n : Nat} (r : Bytes) (hlow : 0x10000 ≤ n) (hhigh : n < 0x110000) :
    ∃ low high, low ≤ 0x80 + n / 0x1000 % 0x40 ∧ 0x80 + n / 0x1000 % 0x40 ≤ high ∧
      scan none (UInt8.ofNat (0xF0 + n / 0x40000) :: r) =
        scan (some ⟨n / 0x40000, 3, low, high⟩) r := by
  have hb : (UInt8.ofNat (0xF0 + n / 0x40000)).toNat = 0xF0 + n / 0x40000 := toNat_octet (by omega)
  rw [scan]
  simp only [opening, hb]
  rw [if_neg (by omega), if_neg (by omega), if_neg (by omega), if_neg (by omega), if_neg (by omega),
    if_neg (by omega)]
  by_cases h0 : n / 0x40000 = 0
  · refine ⟨0x90, 0xBF, by omega, by omega, ?_⟩
    rw [if_pos (by omega), h0]
  · by_cases h4 : n / 0x40000 = 4
    · refine ⟨0x80, 0x8F, by omega, by omega, ?_⟩
      rw [if_neg (by omega), if_neg (by omega), if_pos (by omega), h4]
    · refine ⟨0x80, 0xBF, by omega, by omega, ?_⟩
      rw [if_neg (by omega), if_pos (by omega), Nat.add_sub_cancel_left]

theorem toNat_isValidChar (c : Char) : c.toNat.isValidChar := c.valid

/-- **A written character is read back**, whatever follows it. -/
theorem scan_encodeChar (c : Char) (r : Bytes) :
    scan none (encodeChar c ++ r) = some c :: scan none r := by
  have hvalid := toNat_isValidChar c
  have hlt : c.toNat < 0x110000 := by unfold Nat.isValidChar at hvalid; omega
  unfold encodeChar
  by_cases h1 : c.toNat < 0x80
  · have hb : (UInt8.ofNat c.toNat).toNat = c.toNat := toNat_octet (by omega)
    have hopen : opening (UInt8.ofNat c.toNat) = .char c := by
      simp only [opening, hb]
      rw [if_pos h1, Char.ofNat_toNat]
    simp only [h1, if_true, List.cons_append, List.nil_append, scan, hopen]
  · by_cases h2 : c.toNat < 0x800
    · simp only [h1, h2, if_true, if_false, List.cons_append, List.nil_append]
      rw [scan_opening_two _ (by omega) h2, scan_pending _ (by omega) (by simp) (by simp; omega),
        if_pos (by simp)]
      rw [show c.toNat / 0x40 * 0x40 + (0x80 + c.toNat % 0x40 - 0x80) = c.toNat by omega,
        Char.ofNat_toNat]
    · by_cases h3 : c.toNat < 0x10000
      · simp only [h1, h2, h3, if_true, if_false, List.cons_append, List.nil_append]
        obtain ⟨low, high, hl, hh, hscan⟩ := scan_opening_three
          (UInt8.ofNat (0x80 + c.toNat / 0x40 % 0x40) :: UInt8.ofNat (0x80 + c.toNat % 0x40) :: r)
          (by omega) h3 hvalid
        rw [hscan, scan_pending _ (by omega) hl hh, if_neg (by simp),
          scan_pending _ (by omega) (by simp) (by simp; omega), if_pos (by simp)]
        simp only
        rw [show (c.toNat / 0x1000 * 0x40 + (0x80 + c.toNat / 0x40 % 0x40 - 0x80)) * 0x40 +
          (0x80 + c.toNat % 0x40 - 0x80) = c.toNat by omega, Char.ofNat_toNat]
      · simp only [h1, h2, h3, if_false, List.cons_append, List.nil_append]
        obtain ⟨low, high, hl, hh, hscan⟩ := scan_opening_four
          (UInt8.ofNat (0x80 + c.toNat / 0x1000 % 0x40) ::
            UInt8.ofNat (0x80 + c.toNat / 0x40 % 0x40) :: UInt8.ofNat (0x80 + c.toNat % 0x40) :: r)
          (by omega) hlt
        rw [hscan, scan_pending _ (by omega) hl hh, if_neg (by simp),
          scan_pending _ (by omega) (by simp) (by simp; omega), if_neg (by simp),
          scan_pending _ (by omega) (by simp) (by simp; omega), if_pos (by simp)]
        simp only
        rw [show ((c.toNat / 0x40000 * 0x40 + (0x80 + c.toNat / 0x1000 % 0x40 - 0x80)) * 0x40 +
          (0x80 + c.toNat / 0x40 % 0x40 - 0x80)) * 0x40 + (0x80 + c.toNat % 0x40 - 0x80) =
            c.toNat by omega, Char.ofNat_toNat]

/-! ### Texts -/

theorem encode_append (cs ds : List Char) : encode (cs ++ ds) = encode cs ++ encode ds :=
  List.flatMap_append

/-- What was written is read back, and the reading goes on with what follows. -/
theorem scan_encode_append (cs : List Char) (r : Bytes) :
    scan none (encode cs ++ r) = cs.map some ++ scan none r := by
  induction cs with
  | nil => rfl
  | cons c cs ih =>
      rw [show encode (c :: cs) = encodeChar c ++ encode cs from rfl, List.append_assoc,
        scan_encodeChar, ih]
      rfl

/-- Encoded characters are scanned one by one, and all are well formed. -/
theorem scan_encode (cs : List Char) : scan none (encode cs) = cs.map some := by
  have h := scan_encode_append cs []
  rwa [List.append_nil, show scan none [] = [] from rfl, List.append_nil] at h

/-- Encoded characters are decoded. -/
@[simp] theorem decode?_encode (cs : List Char) : decode? (encode cs) = some cs := by
  rw [decode?, scan_encode]
  induction cs with
  | nil => rfl
  | cons c cs ih => simp only [List.map_cons, List.mapM_cons, ih]; rfl

@[simp] theorem decodeLossy_encode (cs : List Char) : decodeLossy (encode cs) = cs := by
  simp [decodeLossy, scan_encode, Function.comp_def]

/-- The octets of a text are read as the text. -/
@[simp] theorem toString?_ofString (s : String) : toString? (ofString s) = some s := by
  simp [toString?, ofString]

@[simp] theorem toStringLossy_ofString (s : String) : toStringLossy (ofString s) = s := by
  simp [toStringLossy, ofString]

/-- Every octet leaves a trace, and so does a character that is not ended. -/
theorem scan_eq_nil_iff {p : Option Pending} {bs : Bytes} : scan p bs = [] ↔ p = none ∧ bs = [] := by
  induction bs generalizing p with
  | nil => cases p <;> simp [scan]
  | cons b r ih =>
      refine iff_of_false ?_ (by simp)
      cases p <;> rw [scan]
      · split <;> simp [ih]
      · split
        · dsimp only
          split <;> simp [ih]
        · split <;> simp

/-- Only the empty text is read as empty. -/
theorem toStringLossy_eq_empty_iff {bs : Bytes} : toStringLossy bs = "" ↔ bs = [] := by
  have hscan : decodeLossy bs = [] ↔ bs = [] := by
    rw [decodeLossy, List.map_eq_nil_iff, scan_eq_nil_iff, and_iff_right rfl]
  rw [← hscan, toStringLossy, String.ofList_eq_empty_iff]

/-- Characters are told by their octets. -/
theorem encode_injective {cs ds : List Char} (h : encode cs = encode ds) : cs = ds := by
  rw [← decodeLossy_encode cs, h, decodeLossy_encode]

/-- **A text is determined by its octets.** -/
theorem ofString_injective {s t : String} (h : ofString s = ofString t) : s = t := by
  rw [← toStringLossy_ofString s, h, toStringLossy_ofString]

/-! ### ASCII -/

theorem toNat_ofNat_ascii {n : Nat} (h : n < 0x80) : (Char.ofNat n).toNat = n := by
  have hvalid : n.isValidChar := Or.inl (by omega)
  rw [Char.ofNat, dif_pos hvalid]
  rfl

/-- A character of the first half is one octet. -/
theorem encodeChar_ascii {c : Char} (h : c.toNat < 0x80) :
    encodeChar c = [UInt8.ofNat c.toNat] := by
  simp [encodeChar, h]

/-- All octets of a character beyond ASCII are beyond ASCII. -/
theorem encodeChar_beyond {c : Char} (h : ¬ c.toNat < 0x80) :
    ∀ b ∈ encodeChar c, 0x80 ≤ b.toNat := by
  have hvalid := toNat_isValidChar c
  have hlt : c.toNat < 0x110000 := by unfold Nat.isValidChar at hvalid; omega
  unfold encodeChar
  intro b hb
  by_cases h2 : c.toNat < 0x800
  · simp only [h, h2, if_true, if_false, List.mem_cons, List.not_mem_nil, or_false] at hb
    rcases hb with rfl | rfl <;> rw [toNat_octet (by omega)] <;> omega
  · by_cases h3 : c.toNat < 0x10000
    · simp only [h, h2, h3, if_true, if_false, List.mem_cons, List.not_mem_nil, or_false] at hb
      rcases hb with rfl | rfl | rfl <;> rw [toNat_octet (by omega)] <;> omega
    · simp only [h, h2, h3, if_false, List.mem_cons, List.not_mem_nil, or_false] at hb
      rcases hb with rfl | rfl | rfl | rfl <;> rw [toNat_octet (by omega)] <;> omega

/-- An ASCII octet of a text is one of its characters. -/
theorem ascii_mem_encode {cs : List Char} {b : UInt8} (hb : b ∈ encode cs)
    (hascii : b.toNat < 0x80) : Char.ofNat b.toNat ∈ cs := by
  obtain ⟨c, hc, hbc⟩ := List.mem_flatMap.mp hb
  by_cases h : c.toNat < 0x80
  · rw [encodeChar_ascii h, List.mem_singleton] at hbc
    rw [hbc, toNat_octet (by omega), Char.ofNat_toNat]
    exact hc
  · have := encodeChar_beyond h b hbc
    omega

/-- Every character has an octet. -/
theorem length_encodeChar_pos (c : Char) : 0 < (encodeChar c).length := by
  simp only [encodeChar]
  repeat' split
  all_goals simp

theorem length_encode_cons (c : Char) (cs : List Char) :
    (encode (c :: cs)).length = (encodeChar c).length + (encode cs).length := by
  rw [show encode (c :: cs) = encodeChar c ++ encode cs from rfl, List.length_append]

/-- Fewer characters have fewer octets. -/
theorem length_encode_le_of_sublist {cs ds : List Char} (h : cs.Sublist ds) :
    (encode cs).length ≤ (encode ds).length := by
  induction h with
  | slnil => exact Nat.le_refl _
  | cons d h ih =>
      rw [length_encode_cons]
      omega
  | cons_cons d h ih =>
      rw [length_encode_cons, length_encode_cons]
      omega

/-- Leaving out a character leaves out octets. -/
theorem eq_of_sublist_of_length {cs ds : List Char} (h : cs.Sublist ds)
    (hlen : (encode ds).length ≤ (encode cs).length) : cs = ds := by
  induction h with
  | slnil => rfl
  | cons d h ih =>
      have := length_encode_le_of_sublist h
      have := length_encodeChar_pos d
      rw [length_encode_cons] at hlen
      omega
  | cons_cons d h ih =>
      rw [length_encode_cons, length_encode_cons] at hlen
      rw [ih (by omega)]

end AccountWire.Utf8
