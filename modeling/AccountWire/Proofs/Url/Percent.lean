import AccountWire.Proofs.Text.Utf8
import AccountWire.Url.Percent

/-!
# What percent-encoding keeps

Encoding replaces octets by escapes, decoding replaces escapes by octets.  A set that spares the
percent sign and the digits of escapes leaves the escapes of a text alone, so decoding cannot tell
whether the text was encoded before (`decode_encode`).  A text without percent signs is thus read
back (`decode_encode_of_no_sign`).
-/

namespace AccountWire.Percent

/-! ### Decoding -/

/-- The octet that the first two octets of a list write as digits, and the rest. -/
def twoDigits? : Bytes → Option (UInt8 × Bytes)
  | c :: d :: r =>
    match digitValue? c, digitValue? d with
    | some h, some l => some (UInt8.ofNat (16 * h + l), r)
    | _, _ => none
  | _ => none

/-- An octet that is no percent sign stands for itself. -/
theorem decode_cons {b : UInt8} (hb : b ≠ sign) (r : Bytes) : decode (b :: r) = b :: decode r := by
  match r with
  | [] => rfl
  | [c] => simp [decode]
  | c :: d :: r => rw [decode, if_neg hb]

/-- A percent sign stands for an octet if two digits follow it, and else for itself. -/
theorem decode_sign (r : Bytes) :
    decode (sign :: r) =
      match twoDigits? r with
      | some (b, r') => b :: decode r'
      | none => sign :: decode r := by
  match r with
  | [] => rfl
  | [c] => simp [decode, twoDigits?]
  | c :: d :: r =>
      rw [decode, if_pos rfl]
      cases hc : digitValue? c <;> cases hd : digitValue? d <;> simp [twoDigits?, hc, hd]

theorem digitValue?_digit : ∀ n, n < 16 → digitValue? (digit n) = some n := by decide

theorem toNat_digit_lt : ∀ n, n < 16 → (digit n).toNat < 0x80 := by decide

theorem digitValue?_sign : digitValue? sign = none := by decide

/-- An escape is read back, whatever follows it. -/
theorem decode_escape (b : UInt8) (r : Bytes) : decode (escape b ++ r) = b :: decode r := by
  have hb := b.toNat_lt
  have htwo : twoDigits? (digit (b.toNat / 16) :: digit (b.toNat % 16) :: r) = some (b, r) := by
    simp only [twoDigits?, digitValue?_digit _ (show b.toNat / 16 < 16 by omega),
      digitValue?_digit _ (show b.toNat % 16 < 16 by omega)]
    rw [show 16 * (b.toNat / 16) + b.toNat % 16 = b.toNat by omega, UInt8.ofNat_toNat]
  rw [show escape b ++ r = sign :: digit (b.toNat / 16) :: digit (b.toNat % 16) :: r from rfl,
    decode_sign, htwo]

/-- Two digits are taken off. -/
theorem twoDigits?_length {r r' : Bytes} {b : UInt8} (h : twoDigits? r = some (b, r')) :
    r.length = r'.length + 2 := by
  match r with
  | [] => simp [twoDigits?] at h
  | [_] => simp [twoDigits?] at h
  | c :: d :: r =>
      cases hc : digitValue? c <;> cases hd : digitValue? d <;> simp [twoDigits?, hc, hd] at h
      simp [h.2]

/-- Decoding never makes a text longer. -/
theorem length_decode_le (bs : Bytes) : (decode bs).length ≤ bs.length := by
  induction hn : bs.length using Nat.strongRecOn generalizing bs with
  | ind n ih =>
      cases bs with
      | nil => simp [decode]
      | cons b r =>
          rw [List.length_cons] at hn
          by_cases hb : b = sign
          · rw [hb, decode_sign]
            cases htwo : twoDigits? r with
            | none =>
                have := ih r.length (by omega) r rfl
                simp only [List.length_cons]
                omega
            | some p =>
                obtain ⟨a, r'⟩ := p
                have := twoDigits?_length htwo
                have := ih r'.length (by omega) r' rfl
                simp only [List.length_cons]
                omega
          · have := ih r.length (by omega) r rfl
            rw [decode_cons hb, List.length_cons]
            omega

/-- Without percent signs there is nothing to decode. -/
theorem decode_of_no_sign {bs : Bytes} (h : sign ∉ bs) : decode bs = bs := by
  induction bs with
  | nil => rfl
  | cons b r ih =>
      rw [List.mem_cons, not_or] at h
      rw [decode_cons (Ne.symm h.1), ih h.2]

/-- What follows an octet that is no digit does not matter for the digits before it. -/
theorem twoDigits?_append {b : UInt8} (hb : digitValue? b = none) (bs r : Bytes) :
    twoDigits? (bs ++ b :: r) = (twoDigits? bs).map fun (a, r') => (a, r' ++ b :: r) := by
  match bs with
  | [] => cases r <;> simp [twoDigits?, hb]
  | [c] => cases digitValue? c <;> simp [twoDigits?, hb]
  | c :: d :: bs =>
      cases hc : digitValue? c <;> cases hd : digitValue? d <;> simp [twoDigits?, hc, hd]

/-- An octet that belongs to no escape separates what is decoded. -/
theorem decode_append {b : UInt8} (hsign : b ≠ sign) (hb : digitValue? b = none) (bs r : Bytes) :
    decode (bs ++ b :: r) = decode bs ++ b :: decode r := by
  induction hn : bs.length using Nat.strongRecOn generalizing bs with
  | ind n ih =>
      cases bs with
      | nil => exact decode_cons hsign r
      | cons c bs =>
          rw [List.length_cons] at hn
          have hbs := ih bs.length (by omega) bs rfl
          by_cases hc : c = sign
          · rw [hc, List.cons_append, decode_sign, decode_sign, twoDigits?_append hb]
            cases htwo : twoDigits? bs with
            | none => simp [hbs]
            | some p =>
                obtain ⟨a, r'⟩ := p
                have := twoDigits?_length htwo
                simp [ih r'.length (by omega) r' rfl]
          · rw [List.cons_append, decode_cons hc, decode_cons hc, hbs, List.cons_append]

/-! ### Encoding, octet by octet -/

/-- One octet: itself, or its escape. -/
def encodeOctet (s : EscapeSet) (b : UInt8) : Bytes :=
  if b.toNat < 0x80 ∧ !s.escapes (Char.ofNat b.toNat) then [b] else escape b

/-- The octets of ASCII characters. -/
theorem encode_asciiChars {bs : Bytes} (h : ∀ b ∈ bs, b.toNat < 0x80) :
    Utf8.encode (asciiChars bs) = bs := by
  induction bs with
  | nil => rfl
  | cons b r ih =>
      have hb : b.toNat < 0x80 := h b List.mem_cons_self
      have hchar := Utf8.toNat_ofNat_ascii hb
      rw [show asciiChars (b :: r) = Char.ofNat b.toNat :: asciiChars r from rfl,
        show Utf8.encode (Char.ofNat b.toNat :: asciiChars r) =
          Utf8.encodeChar (Char.ofNat b.toNat) ++ Utf8.encode (asciiChars r) from rfl,
        Utf8.encodeChar_ascii (by omega), hchar, UInt8.ofNat_toNat,
        ih fun c hc => h c (List.mem_cons_of_mem _ hc)]
      rfl

/-- The octets of an escape are in the first half. -/
theorem escape_ascii (b : UInt8) : ∀ c ∈ escape b, c.toNat < 0x80 := by
  have hb := b.toNat_lt
  intro c hc
  simp only [escape, List.mem_cons, List.not_mem_nil, or_false] at hc
  rcases hc with rfl | rfl | rfl
  · decide
  · exact toNat_digit_lt _ (by omega)
  · exact toNat_digit_lt _ (by omega)

/-- A character is encoded octet by octet. -/
theorem encode_encodeChar (s : EscapeSet) (c : Char) :
    Utf8.encode (encodeChar s c) = (Utf8.encodeChar c).flatMap (encodeOctet s) := by
  have hescaped : Utf8.encode (asciiChars ((Utf8.encodeChar c).flatMap escape)) =
      (Utf8.encodeChar c).flatMap escape := by
    refine encode_asciiChars fun b hb => ?_
    obtain ⟨a, _, hab⟩ := List.mem_flatMap.mp hb
    exact escape_ascii a b hab
  by_cases hc : c.toNat < 0x80
  · have hb : (UInt8.ofNat c.toNat).toNat = c.toNat := Utf8.toNat_octet (by omega)
    rw [Utf8.encodeChar_ascii hc] at hescaped ⊢
    by_cases hs : s.escapes c = true
    · simpa [encodeChar, encodeOctet, hc, hb, hs, Utf8.encodeChar_ascii] using hescaped
    · simp [encodeChar, encodeOctet, hc, hb, hs, Utf8.encode, Utf8.encodeChar_ascii]
  · rw [encodeChar, if_neg (by simp [hc]), hescaped]
    have hbeyond := Utf8.encodeChar_beyond hc
    generalize Utf8.encodeChar c = bs at hbeyond
    clear hescaped
    induction bs with
    | nil => rfl
    | cons b r ih =>
        have hb : ¬ b.toNat < 0x80 := by
          have := hbeyond b List.mem_cons_self
          omega
        rw [List.flatMap_cons, List.flatMap_cons,
          ih fun a ha => hbeyond a (List.mem_cons_of_mem _ ha)]
        simp [encodeOctet, hb]

theorem encodeChar_ne_nil (s : EscapeSet) (c : Char) : encodeChar s c ≠ [] := by
  unfold encodeChar
  split
  · simp
  · obtain ⟨b, r, h⟩ := List.exists_cons_of_ne_nil
      (List.ne_nil_of_length_pos (Utf8.length_encodeChar_pos c))
    simp [h, asciiChars, escape]

theorem encode_eq_nil {s : EscapeSet} {cs : List Char} : encode s cs = [] ↔ cs = [] := by
  cases cs with
  | nil => simp [encode]
  | cons c r => simp [encode, encodeChar_ne_nil]

theorem encode_append (s : EscapeSet) (cs ds : List Char) :
    encode s (cs ++ ds) = encode s cs ++ encode s ds := List.flatMap_append

/-- **Encoding works octet by octet.** -/
theorem utf8_encode (s : EscapeSet) (cs : List Char) :
    Utf8.encode (encode s cs) = (Utf8.encode cs).flatMap (encodeOctet s) := by
  induction cs with
  | nil => rfl
  | cons c cs ih =>
      rw [show encode s (c :: cs) = encodeChar s c ++ encode s cs from rfl, Utf8.encode_append,
        encode_encodeChar, ih,
        show Utf8.encode (c :: cs) = Utf8.encodeChar c ++ Utf8.encode cs from rfl,
        List.flatMap_append]

/-! ### Reading back -/

/-- A set that escapes neither the percent sign nor the digits of escapes. -/
def EscapeSet.SparesEscapes (s : EscapeSet) : Prop :=
  ∀ b : UInt8, b = sign ∨ (digitValue? b).isSome → encodeOctet s b = [b]

/-- The set of paths leaves escapes alone. -/
theorem pathSet_sparesEscapes : pathSet.SparesEscapes := Utf8.forall_octet (by decide +kernel)

/-- An octet stays or is escaped. -/
theorem encodeOctet_eq (s : EscapeSet) (b : UInt8) :
    encodeOctet s b = [b] ∨ encodeOctet s b = escape b := by
  unfold encodeOctet
  split
  · exact Or.inl rfl
  · exact Or.inr rfl

/-- Two digits are still two digits after encoding. -/
theorem twoDigits?_flatMap {s : EscapeSet} (hs : s.SparesEscapes) (r : Bytes) :
    twoDigits? (r.flatMap (encodeOctet s)) =
      (twoDigits? r).map fun (b, r') => (b, r'.flatMap (encodeOctet s)) := by
  -- an octet that is no digit does not become one
  have hnone : ∀ (c : UInt8) (t : Bytes), digitValue? c = none →
      ∃ c' t', encodeOctet s c ++ t = c' :: t' ∧ digitValue? c' = none := by
    intro c t hc
    rcases encodeOctet_eq s c with heq | heq
    · exact ⟨c, t, by rw [heq]; rfl, hc⟩
    · exact ⟨sign, _, by rw [heq]; rfl, digitValue?_sign⟩
  match r with
  | [] => rfl
  | [c] =>
      cases hc : digitValue? c with
      | none =>
          obtain ⟨c', t', heq, hc'⟩ := hnone c [] hc
          rw [List.flatMap_cons, List.flatMap_nil, heq]
          cases t' <;> simp [twoDigits?, hc']
      | some h =>
          rw [List.flatMap_cons, List.flatMap_nil, hs c (Or.inr (by simp [hc]))]
          rfl
  | c :: d :: r =>
      rw [List.flatMap_cons, List.flatMap_cons]
      cases hc : digitValue? c with
      | none =>
          obtain ⟨c', t', heq, hc'⟩ := hnone c (encodeOctet s d ++ r.flatMap (encodeOctet s)) hc
          rw [heq]
          cases t' <;> simp [twoDigits?, hc, hc']
      | some h =>
          rw [hs c (Or.inr (by simp [hc]))]
          cases hd : digitValue? d with
          | none =>
              obtain ⟨d', t', heq, hd'⟩ := hnone d (r.flatMap (encodeOctet s)) hd
              rw [heq]
              simp [twoDigits?, hd, hd']
          | some l =>
              rw [hs d (Or.inr (by simp [hd]))]
              simp [twoDigits?, hc, hd]

/-- Decoding does not see whether octets were encoded before. -/
theorem decode_flatMap {s : EscapeSet} (hs : s.SparesEscapes) (bs : Bytes) :
    decode (bs.flatMap (encodeOctet s)) = decode bs := by
  induction hn : bs.length using Nat.strongRecOn generalizing bs with
  | ind n ih =>
      cases bs with
      | nil => rfl
      | cons b r =>
          rw [List.length_cons] at hn
          have hr := ih r.length (by omega) r rfl
          rw [List.flatMap_cons]
          by_cases hb : b = sign
          · rw [hb, hs sign (Or.inl rfl), List.singleton_append, decode_sign, decode_sign,
              twoDigits?_flatMap hs]
            cases htwo : twoDigits? r with
            | none => simp [hr]
            | some p =>
                obtain ⟨a, r'⟩ := p
                have := twoDigits?_length htwo
                simp [ih r'.length (by omega) r' rfl]
          · rw [decode_cons hb, ← hr]
            rcases encodeOctet_eq s b with heq | heq
            · rw [heq, List.singleton_append, decode_cons hb]
            · rw [heq, decode_escape]

/-- **Decoding does not see whether a text was encoded before.** -/
theorem decode_encode {s : EscapeSet} (hs : s.SparesEscapes) (cs : List Char) :
    decode (Utf8.encode (encode s cs)) = decode (Utf8.encode cs) := by
  rw [utf8_encode, decode_flatMap hs]

/-- There is no percent sign in the octets of a text that has none. -/
theorem no_sign_encode {cs : List Char} (h : '%' ∉ cs) : sign ∉ Utf8.encode cs := by
  intro hmem
  exact h (Utf8.ascii_mem_encode hmem (by decide))

/-- **A text without percent signs is read back.** -/
theorem decode_encode_of_no_sign {s : EscapeSet} (hs : s.SparesEscapes) {cs : List Char}
    (h : '%' ∉ cs) : decode (Utf8.encode (encode s cs)) = Utf8.encode cs := by
  rw [decode_encode hs, decode_of_no_sign (no_sign_encode h)]

/-! ### Characters of an encoded text -/

/-- The characters of escapes. -/
def escapeChars : List Char := '%' :: (List.range 16).map fun n => Char.ofNat (digit n).toNat

/-- An escape has a percent sign and digits only. -/
theorem mem_asciiChars_escape {b : UInt8} {c : Char} (h : c ∈ asciiChars (escape b)) :
    c ∈ escapeChars := by
  have hb := b.toNat_lt
  simp only [asciiChars, escape, List.map_cons, List.map_nil, List.mem_cons, List.not_mem_nil,
    or_false] at h
  simp only [escapeChars, List.mem_cons, List.mem_map, List.mem_range]
  rcases h with rfl | rfl | rfl
  · left; decide
  · right; exact ⟨b.toNat / 16, by omega, rfl⟩
  · right; exact ⟨b.toNat % 16, by omega, rfl⟩

/-- A character of an encoded text stands for itself, unescaped, or belongs to an escape. -/
theorem mem_encode {s : EscapeSet} {cs : List Char} {c : Char} (h : c ∈ encode s cs) :
    (c ∈ cs ∧ s.escapes c = false) ∨ c ∈ escapeChars := by
  obtain ⟨d, hd, hc⟩ := List.mem_flatMap.mp h
  unfold encodeChar at hc
  split at hc
  · next hplain =>
    left
    rw [List.mem_singleton] at hc
    subst hc
    exact ⟨hd, by simpa using hplain.2⟩
  · right
    simp only [asciiChars, List.mem_map, List.mem_flatMap] at hc
    obtain ⟨e, ⟨b, _, heb⟩, rfl⟩ := hc
    exact mem_asciiChars_escape (List.mem_map.mpr ⟨e, heb, rfl⟩)

/-- A character that is escaped does not stand in an encoded text. -/
theorem not_mem_encode {s : EscapeSet} {c : Char} (hs : s.escapes c = true)
    (hc : c ∉ escapeChars) (cs : List Char) : c ∉ encode s cs := by
  intro hmem
  rcases mem_encode hmem with ⟨-, hplain⟩ | hescape
  · rw [hs] at hplain
    cases hplain
  · exact hc hescape

end AccountWire.Percent
