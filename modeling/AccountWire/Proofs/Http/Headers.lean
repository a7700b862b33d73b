import AccountWire.Http.Headers
import AccountWire.Proofs.Url.Percent

/-!
# Names and values of header fields

What may be a name or a value is said here of the characters and octets themselves.  Names that are
received are ASCII, and of such a text the lower case is that of its letters (`lowercase_of_isAscii`);
so two of them have the same lower case exactly when they are spellings of one name (`SameName`).  A
value that can be read is the octets of one text (`readableValue?_eq_some_iff`).
-/

namespace AccountWire

/-! ### Lower case of ASCII -/

/-- A text of ASCII characters. -/
def IsAscii (s : String) : Prop := ∀ c ∈ s.toList, c.toNat < 0x80

instance (s : String) : Decidable (IsAscii s) := List.decidableBAll _ s.toList

/-- Letters of the first half go to lower case one by one. -/
theorem lowercaseAfter_of_ascii {before cs : List Char} (h : ∀ c ∈ cs, c.toNat < 0x80) :
    lowercaseAfter before cs = cs.map Char.toLower := by
  induction cs generalizing before with
  | nil => rfl
  | cons c cs ih =>
      obtain ⟨hc, hcs⟩ := List.forall_mem_cons.mp h
      have hsigma : c ≠ 'Σ' := by
        rintro rfl
        exact absurd hc (by decide)
      rw [lowercaseAfter, ih hcs, if_neg hsigma, lowercaseChar, if_pos hc]
      rfl

/-- **In ASCII, lower case is that of the letters** and of nothing else. -/
theorem lowercase_of_isAscii {s : String} (h : IsAscii s) :
    lowercase s = String.ofList (s.toList.map Char.toLower) := by
  rw [lowercase, lowercaseAfter_of_ascii h]

namespace Http

/-- Spellings of one name: they are the same but for the case of letters. -/
def SameName (name other : String) : Prop :=
  name.toList.map Char.toLower = other.toList.map Char.toLower

instance (name other : String) : Decidable (SameName name other) :=
  inferInstanceAs (Decidable (name.toList.map Char.toLower = other.toList.map Char.toLower))

/-- Names of the first half are equal in lower case exactly if they are the same up to case. -/
theorem lowercase_eq_iff {name other : String} (h : IsAscii name) (h' : IsAscii other) :
    lowercase name = lowercase other ↔ SameName name other := by
  rw [lowercase_of_isAscii h, lowercase_of_isAscii h', String.ofList_inj, SameName]

/-! ### Names -/

/-- A name in lower case: letters, digits and marks, from one character to the greatest length. -/
structure IsName (name : String) : Prop where
  nonempty : name ≠ ""
  length : name.length ≤ 65535
  chars : ∀ c ∈ name.toList, ('a' ≤ c ∧ c ≤ 'z') ∨ ('0' ≤ c ∧ c ≤ '9') ∨ c ∈ nameMarks

/-- The checker of names finds exactly the names. -/
theorem isHeaderName_iff {name : String} : isHeaderName name = true ↔ IsName name := by
  simp only [isHeaderName, isNameChar, Bool.and_eq_true, Bool.or_eq_true, List.all_eq_true,
    decide_eq_true_eq, List.contains_iff_mem, or_assoc, and_assoc]
  constructor
  · rintro ⟨hne, hlength, hchars⟩
    exact ⟨hne, hlength, hchars⟩
  · rintro ⟨hne, hlength, hchars⟩
    exact ⟨hne, hlength, hchars⟩

/-! ### Values -/

/-- A value: no octet below the space but the tab, and not the one after visible ASCII. -/
def IsValue (value : Bytes) : Prop := ∀ b ∈ value, (b < 0x20 → b = 0x09) ∧ b ≠ 0x7F

/-- The checker of values finds exactly the values. -/
theorem isHeaderValue_iff {value : Bytes} : isHeaderValue value = true ↔ IsValue value := by
  rw [isHeaderValue, List.all_eq_true]
  refine forall₂_congr fun b _ => ?_
  simp only [isValueOctet, Bool.or_eq_true, Bool.and_eq_true, decide_eq_true_eq]
  constructor
  · rintro (rfl | ⟨hlow, hne⟩)
    · decide
    · exact ⟨fun hlt => absurd hlow (UInt8.not_le.mpr hlt), hne⟩
  · rintro ⟨hlow, hne⟩
    by_cases hlt : b < 0x20
    · exact Or.inl (hlow hlt)
    · exact Or.inr ⟨UInt8.not_lt.mp hlt, hne⟩

/-- A value that can be read: visible ASCII, spaces and tabs. -/
def IsReadable (value : Bytes) : Prop := ∀ b ∈ value, b = 0x09 ∨ (0x20 ≤ b ∧ b ≤ 0x7E)

instance (value : Bytes) : Decidable (IsReadable value) := List.decidableBAll _ value

/-- The checker of readable octets finds exactly the readable values. -/
theorem isReadable_iff {value : Bytes} :
    value.all isReadableOctet = true ↔ IsReadable value := by
  rw [List.all_eq_true]
  refine forall₂_congr fun b _ => ?_
  have hlast : b < 0x7F ↔ b ≤ 0x7E := by
    rw [UInt8.lt_iff_toNat_lt, UInt8.le_iff_toNat_le]
    exact Nat.lt_succ_iff
  simp only [isReadableOctet, Bool.or_eq_true, Bool.and_eq_true, decide_eq_true_eq, hlast]

/-- **What is read of a value** is the text with its octets. -/
theorem readableValue?_eq_some_iff {value : Bytes} {text : String} :
    readableValue? value = some text ↔ IsReadable value ∧ Utf8.ofString text = value := by
  rw [readableValue?, ← isReadable_iff]
  split
  · next hall =>
    have hascii : ∀ b ∈ value, b.toNat < 0x80 := by
      intro b hb
      rcases isReadable_iff.mp hall b hb with rfl | ⟨-, hb⟩
      · decide
      · exact Nat.lt_of_le_of_lt (UInt8.le_iff_toNat_le.mp hb) (by decide)
    have hchars : Utf8.ofString (Utf8.toStringLossy value) = value := by
      have hvalue := Percent.encode_asciiChars hascii
      generalize Percent.asciiChars value = cs at hvalue
      rw [← hvalue, Utf8.toStringLossy, Utf8.decodeLossy_encode, Utf8.ofString,
        String.toList_ofList]
    rw [Option.some.injEq, and_iff_right hall]
    constructor
    · rintro rfl
      exact hchars
    · rintro rfl
      exact Utf8.toStringLossy_ofString text
  · next hall => simp [hall]

/-- A value has no text exactly if it cannot be read. -/
theorem readableValue?_eq_none_iff {value : Bytes} :
    readableValue? value = none ↔ ¬ IsReadable value := by
  rw [readableValue?, ← isReadable_iff]
  split <;> simp [*]

end Http

end AccountWire
