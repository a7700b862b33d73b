import AccountWire.Json.Printer
import AccountWire.Proofs.Json.Building
import AccountWire.Proofs.Json.Members
import AccountWire.Proofs.Text.Utf8

/-!
# Written values are read back as trees

`toTree` is the tree of a value as it is written: integers by their digits, strings by the octets of
their characters, the few that have no shorter escape by their number.  The tokens of what `print`
writes are the tokens of this tree (`tokensFrom?_print`), so a value whose numbers are integers is
read back as its tree (`Tree.ofBytes?_bytes`).  The machine is followed stretch by stretch: what
stands in a word, a number or a string is collected octet by octet (`tokensFrom?_collect`), and what
follows a word or a number ends it (`tokensFrom?_end`).
-/

namespace AccountWire.Json

/-! ### Integers -/

/-- The digits of a natural number, the first one first. -/
def digits (n : Nat) : List Nat := (Nat.toDigits 10 n).map fun c => c.toNat - 48

theorem isDigit_range {c : Char} (h : c.isDigit = true) : 48 ≤ c.toNat ∧ c.toNat ≤ 57 := by
  simp only [Char.isDigit, Bool.and_eq_true, decide_eq_true_eq] at h
  exact h

/-- The octet of a digit is read as its value. -/
theorem digit?_of_isDigit {c : Char} (h : c.isDigit = true) :
    digit? (UInt8.ofNat c.toNat) = some (c.toNat - 48) := by
  have hrange := isDigit_range h
  have hoctet : (UInt8.ofNat c.toNat).toNat = c.toNat := Utf8.toNat_octet (by omega)
  have hlow : octet '0' ≤ UInt8.ofNat c.toNat := by
    rw [UInt8.le_iff_toNat_le, hoctet]
    exact hrange.1
  have hhigh : UInt8.ofNat c.toNat ≤ octet '9' := by
    rw [UInt8.le_iff_toNat_le, hoctet]
    exact hrange.2
  rw [digit?, if_pos ⟨hlow, hhigh⟩, hoctet]
  rfl

/-- Digits are taken off the text, all of them. -/
theorem takeDigits_encode {cs : List Char} (h : ∀ c ∈ cs, c.isDigit = true) :
    takeDigits (Utf8.encode cs) = (cs.map (·.toNat - 48), []) := by
  induction cs with
  | nil => rfl
  | cons c cs ih =>
      have hc := h c List.mem_cons_self
      have hrange := isDigit_range hc
      have hrest := ih fun d hd => h d (List.mem_cons_of_mem _ hd)
      rw [show Utf8.encode (c :: cs) = Utf8.encodeChar c ++ Utf8.encode cs from rfl,
        Utf8.encodeChar_ascii (by omega), List.singleton_append, takeDigits, digit?_of_isDigit hc]
      simp only [hrest, List.map_cons]

/-- The decimal digits of a number are taken off as they are. -/
theorem takeDigits_toDigits (n : Nat) :
    takeDigits (Utf8.encode (Nat.toDigits 10 n)) = (digits n, []) :=
  takeDigits_encode fun _ hc => Nat.isDigit_of_mem_toDigits (by decide) (by decide) hc

/-- Only zero begins with the digit zero. -/
theorem head_digits (n : Nat) : ∃ d r, digits n = d :: r ∧ (d = 0 → n = 0) := by
  induction n using Nat.strongRecOn with
  | ind n ih =>
      by_cases hn : n < 10
      · refine ⟨n, [], ?_, id⟩
        rw [digits, Nat.toDigits_of_lt_base hn, List.map_singleton,
          Nat.toNat_digitChar_sub_48_of_lt_ten hn]
      · obtain ⟨d, r, hd, hzero⟩ := ih (n / 10) (by omega)
        have hlast : digits n = digits (n / 10) ++ [n % 10] := by
          rw [digits, Nat.toDigits_of_base_le (by decide) (by omega), List.map_append,
            List.map_singleton, Nat.toNat_digitChar_sub_48_of_lt_ten (by omega)]
          rfl
        refine ⟨d, r ++ [n % 10], by rw [hlast, hd, List.cons_append], ?_⟩
        intro hd0
        have := hzero hd0
        omega

/-- The text of an integer. -/
def intText (n : Int) : NumberText := ⟨n < 0, digits n.natAbs, none, none⟩

/-- **Written digits are read as a number** with the sign that was read before them. -/
theorem whole_of_digits (negative : Bool) (n : Nat) :
    (match takeDigits (Utf8.encode (Nat.toDigits 10 n)) with
      | ([], _) => none
      | (0 :: _ :: _, _) => none
      | (whole, b :: r) =>
        if b = octet '.' then
          match takeDigits r with
          | ([], _) => none
          | (fraction, rest) =>
            (exponentOf? rest).map (NumberText.mk negative whole (some fraction) ·)
        else (exponentOf? (b :: r)).map (NumberText.mk negative whole none ·)
      | (whole, []) => some (NumberText.mk negative whole none none)) =
        some (NumberText.mk negative (digits n) none none) := by
  obtain ⟨d, r, hd, hzero⟩ := head_digits n
  rw [takeDigits_toDigits]
  by_cases hn : n = 0
  · subst hn
    rfl
  · have hd0 : d ≠ 0 := fun h => hn (hzero h)
    obtain ⟨e, rfl⟩ := Nat.exists_eq_succ_of_ne_zero hd0
    rw [hd]
    rfl

/-- **A written integer is read as it is written.** -/
theorem ofBytes?_printInt (n : Int) :
    NumberText.ofBytes? (Utf8.encode (printInt n)) = some (intText n) := by
  by_cases hn : n < 0
  · have hsign : Utf8.encode (printInt n) =
        octet '-' :: Utf8.encode (Nat.toDigits 10 n.natAbs) := by
      rw [printInt, if_pos hn]
      rfl
    rw [hsign, NumberText.ofBytes?, intText]
    simp only [if_true, hn, decide_true]
    exact whole_of_digits true n.natAbs
  · have hfirst : ∃ b r, Utf8.encode (Nat.toDigits 10 n.natAbs) = b :: r ∧ b ≠ octet '-' := by
      obtain ⟨d, r, hd, -⟩ := head_digits n.natAbs
      cases hbs : Utf8.encode (Nat.toDigits 10 n.natAbs) with
      | nil =>
          have htake := takeDigits_toDigits n.natAbs
          rw [hbs, hd] at htake
          exact absurd htake (by simp [takeDigits])
      | cons b bs =>
          refine ⟨b, bs, rfl, ?_⟩
          rintro rfl
          have htake := takeDigits_toDigits n.natAbs
          rw [hbs, hd] at htake
          exact absurd htake (by simp [takeDigits, digit?, octet])
    obtain ⟨b, r, hbs, hb⟩ := hfirst
    have hwhole := whole_of_digits false n.natAbs
    rw [hbs] at hwhole
    rw [printInt, if_neg hn, hbs, NumberText.ofBytes?, intText]
    simp only [if_neg hb, hn, decide_false]
    exact hwhole

/-! ### Stretches of the machine -/

/-- Tokens are read one octet after the other. -/
theorem tokensFrom?_cons (m : Mode) (b : UInt8) (r : Bytes) :
    tokensFrom? m (b :: r) =
      (m.step b).bind fun p => (tokensFrom? p.2 r).map (p.1 ++ ·) := by
  rw [tokensFrom?]
  cases m.step b with
  | none => rfl
  | some p => cases h : tokensFrom? p.2 r <;> simp [h]

/-- A step hands out its tokens, and the others are read in the new mode. -/
theorem tokensFrom?_step {m m' : Mode} {b : UInt8} {ts : List Token}
    (h : m.step b = some (ts, m')) (r : Bytes) :
    tokensFrom? m (b :: r) = (tokensFrom? m' r).map (ts ++ ·) := by
  rw [tokensFrom?_cons, h, Option.bind_some]

/-- A step that ends no token. -/
theorem tokensFrom?_silent {m m' : Mode} {b : UInt8} (h : m.step b = some ([], m')) (r : Bytes) :
    tokensFrom? m (b :: r) = tokensFrom? m' r := by
  rw [tokensFrom?_step h]
  exact Option.map_id_apply

/-- A stretch of octets that the machine collects one by one. -/
theorem tokensFrom?_collect {α : Type} {mode : List α → Mode} {part : UInt8 → α}
    {bs : Bytes} (hstep : ∀ b ∈ bs, ∀ read, (mode read).step b = some ([], mode (part b :: read)))
    (read : List α) (rest : Bytes) :
    tokensFrom? (mode read) (bs ++ rest) =
      tokensFrom? (mode ((bs.map part).reverse ++ read)) rest := by
  induction bs generalizing read with
  | nil => rfl
  | cons b bs ih =>
      rw [List.cons_append, tokensFrom?_silent (hstep b List.mem_cons_self read),
        ih (fun c hc => hstep c (List.mem_cons_of_mem _ hc)), List.map_cons, List.reverse_cons,
        List.append_assoc, List.singleton_append]

/-- What may follow a word or a number: nothing, or an octet that belongs to neither. -/
def Delimits (rest : Bytes) : Prop :=
  ∀ b r, rest = b :: r → isLetter b = false ∧ isNumeric b = false

theorem delimits_nil : Delimits [] := by
  intro b r h
  exact absurd h (by simp)

/-- An octet that belongs to neither may follow a word or a number. -/
theorem delimits_cons {b : UInt8} (h : isLetter b = false ∧ isNumeric b = false) (r : Bytes) :
    Delimits (b :: r) := by
  intro c s hcs
  obtain ⟨rfl, rfl⟩ := List.cons.inj hcs
  exact h

/-- A token that only what follows ends. -/
theorem tokensFrom?_end {m : Mode} {t : Token} {rest : Bytes}
    (hfinish : m.finish = some [t])
    (hstep : ∀ b r, rest = b :: r → m.step b = (openToken b).map fun p => (t :: p.1, p.2)) :
    tokensFrom? m rest = (tokensFrom? .ready rest).map (t :: ·) := by
  cases rest with
  | nil => exact hfinish
  | cons b r =>
      rw [tokensFrom?_cons, tokensFrom?_cons, hstep b r rfl, Mode.step]
      cases openToken b with
      | none => rfl
      | some p => simp [Function.comp_def]

/-- **A word is read up to its end.** -/
theorem tokensFrom?_word {b : UInt8} {bs rest : Bytes} {t : Token}
    (hopen : Mode.step .ready b = some ([], .word [b])) (hletters : bs.all isLetter = true)
    (hword : wordToken? (b :: bs) = some t) (hrest : Delimits rest) :
    tokensFrom? .ready (b :: bs ++ rest) = (tokensFrom? .ready rest).map (t :: ·) := by
  have hread : wordToken? (bs.reverse ++ [b]).reverse = some t := by simpa using hword
  have hcollect : tokensFrom? (.word [b]) (bs ++ rest) =
      tokensFrom? (.word ((bs.map id).reverse ++ [b])) rest := by
    refine tokensFrom?_collect ?_ [b] rest
    intro c hc read
    rw [Mode.step, if_pos (List.all_eq_true.mp hletters c hc), id]
  rw [List.cons_append, tokensFrom?_silent hopen, hcollect, List.map_id]
  refine tokensFrom?_end (by rw [Mode.finish, hread]; rfl) ?_
  intro c r hcr
  rw [Mode.step, if_neg (by simp [(hrest c r hcr).1]), hread]
  cases openToken c <;> rfl

/-- An octet of numbers begins a number. -/
theorem step_of_isNumeric {b : UInt8} (h : isNumeric b = true) :
    Mode.step .ready b = some ([], .number [b]) := by
  have hall : ∀ c : UInt8, isNumeric c = true →
      Mode.step .ready c = some ([], .number [c]) := Utf8.forall_octet (by decide +kernel)
  exact hall b h

/-- **A number is read up to its end.** -/
theorem tokensFrom?_number {bs rest : Bytes} {t : NumberText}
    (hnumeric : ∀ c ∈ bs, isNumeric c = true) (hnumber : NumberText.ofBytes? bs = some t)
    (hrest : Delimits rest) :
    tokensFrom? .ready (bs ++ rest) = (tokensFrom? .ready rest).map (.number t :: ·) := by
  cases bs with
  | nil => exact absurd hnumber (by simp [NumberText.ofBytes?, takeDigits])
  | cons b bs =>
      have hread : NumberText.ofBytes? (bs.reverse ++ [b]).reverse = some t := by
        simpa using hnumber
      have hopen := step_of_isNumeric (hnumeric b List.mem_cons_self)
      have hcollect : tokensFrom? (.number [b]) (bs ++ rest) =
          tokensFrom? (.number ((bs.map id).reverse ++ [b])) rest := by
        refine tokensFrom?_collect ?_ [b] rest
        intro c hc read
        rw [Mode.step, if_pos (hnumeric c (List.mem_cons_of_mem _ hc)), id]
      rw [List.cons_append, tokensFrom?_silent hopen, hcollect, List.map_id]
      refine tokensFrom?_end (by rw [Mode.finish, hread]; rfl) ?_
      intro c r hcr
      rw [Mode.step, if_neg (by simp [(hrest c r hcr).2]), hread]
      cases openToken c <;> rfl

/-- The octets of an integer are numeric. -/
theorem isNumeric_printInt (n : Int) : ∀ b ∈ Utf8.encode (printInt n), isNumeric b = true := by
  have hdigits : ∀ b ∈ Utf8.encode (Nat.toDigits 10 n.natAbs), isNumeric b = true := by
    intro b hb
    obtain ⟨c, hc, hbc⟩ := List.mem_flatMap.mp hb
    have hdigit : c.isDigit = true := Nat.isDigit_of_mem_toDigits (by decide) (by decide) hc
    have hrange := isDigit_range hdigit
    rw [Utf8.encodeChar_ascii (by omega), List.mem_singleton] at hbc
    rw [hbc, isNumeric, digit?_of_isDigit hdigit]
    rfl
  by_cases hn : n < 0
  · intro b hb
    rw [printInt, if_pos hn] at hb
    rcases List.mem_cons.mp (show b ∈ octet '-' :: Utf8.encode (Nat.toDigits 10 n.natAbs) from hb)
      with rfl | hb
    · decide
    · exact hdigits b hb
  · rw [printInt, if_neg hn]
    exact hdigits

/-! ### Strings -/

/-- The parts of one character of a string: a unit where there is no shorter escape, the octets
of the character elsewhere. -/
def charParts (c : Char) : StringText :=
  if c.toNat < 0x20 ∧ ¬ (c = '\n' ∨ c = '\r' ∨ c = '\t' ∨ c = '\x08' ∨ c = '\x0c') then
    [.unit c.toNat]
  else (Utf8.encodeChar c).map .byte

/-- The parts of a string. -/
def textParts (s : String) : StringText := s.toList.flatMap charParts

/-- A short escape. -/
theorem tokensFrom?_shortEscape {b c : UInt8} (h : shortEscape? b = some c) (read : StringText)
    (rest : Bytes) :
    tokensFrom? (.string read) (octet '\\' :: b :: rest) =
      tokensFrom? (.string (.byte c :: read)) rest := by
  have hb : b ≠ octet 'u' := by
    rintro rfl
    have hnone : shortEscape? (octet 'u') = none := rfl
    exact absurd (hnone.symm.trans h) (by simp)
  have hescape : Mode.step (.string read) (octet '\\') = some ([], .escape read) := rfl
  have hshort : Mode.step (.escape read) b = some ([], .string (.byte c :: read)) := by
    rw [Mode.step, if_neg hb, h]
    rfl
  rw [tokensFrom?_silent hescape, tokensFrom?_silent hshort]

/-- The digits of escapes are one octet each, and are read back. -/
theorem hexDigit_spec : ∀ n, n < 16 → Utf8.encodeChar (hexDigit n) = [octet (hexDigit n)] ∧
    hexOctet? (octet (hexDigit n)) = some n := by decide

/-- A numeric escape. -/
theorem tokensFrom?_unit {n : Nat} (hn : n < 0x100) (read : StringText) (rest : Bytes) :
    tokensFrom? (.string read)
      (Utf8.encode ['\\', 'u', '0', '0', hexDigit (n / 16), hexDigit (n % 16)] ++ rest) =
      tokensFrom? (.string (.unit n :: read)) rest := by
  obtain ⟨hhigh, hhighValue⟩ := hexDigit_spec (n / 16) (by omega)
  obtain ⟨hlow, hlowValue⟩ := hexDigit_spec (n % 16) (by omega)
  have hoctets : Utf8.encode ['\\', 'u', '0', '0', hexDigit (n / 16), hexDigit (n % 16)] =
      octet '\\' :: octet 'u' :: octet '0' :: octet '0' :: octet (hexDigit (n / 16)) ::
        [octet (hexDigit (n % 16))] := by
    simp only [Utf8.encode, List.flatMap_cons, hhigh, hlow, List.flatMap_nil]
    rfl
  have hescape : Mode.step (.string read) (octet '\\') = some ([], .escape read) := rfl
  have hopen : Mode.step (.escape read) (octet 'u') = some ([], .unit read 4 0) := rfl
  have hfirst : Mode.step (.unit read 4 0) (octet '0') = some ([], .unit read 3 0) := rfl
  have hsecond : Mode.step (.unit read 3 0) (octet '0') = some ([], .unit read 2 0) := rfl
  have hthird : Mode.step (.unit read 2 0) (octet (hexDigit (n / 16))) =
      some ([], .unit read 1 (n / 16)) := by
    simp [Mode.step, hhighValue]
  have hlast : Mode.step (.unit read 1 (n / 16)) (octet (hexDigit (n % 16))) =
      some ([], .string (.unit n :: read)) := by
    simp [Mode.step, hlowValue, Nat.div_add_mod]
  rw [hoctets]
  simp only [List.cons_append, List.nil_append]
  rw [tokensFrom?_silent hescape, tokensFrom?_silent hopen, tokensFrom?_silent hfirst,
    tokensFrom?_silent hsecond, tokensFrom?_silent hthird, tokensFrom?_silent hlast]

/-- The octets of a character that is written as it is stand for themselves. -/
theorem octets_of_plain {c : Char} (hquote : c ≠ '"') (hback : c ≠ '\\') (hlow : ¬ c.toNat < 0x20) :
    ∀ b ∈ Utf8.encodeChar c, b ≠ octet '"' ∧ b ≠ octet '\\' ∧ ¬ b < 0x20 := by
  intro b hb
  have hofNat : b.toNat < 0x80 → Char.ofNat b.toNat = c := by
    intro hascii
    have hmem : b ∈ Utf8.encode [c] := by simpa [Utf8.encode] using hb
    exact List.mem_singleton.mp (Utf8.ascii_mem_encode hmem hascii)
  refine ⟨?_, ?_, ?_⟩
  · rintro rfl
    exact hquote (hofNat (by decide)).symm
  · rintro rfl
    exact hback (hofNat (by decide)).symm
  · intro hlt
    have hlt : b.toNat < 0x20 := UInt8.lt_iff_toNat_lt.mp hlt
    rw [← hofNat (by omega), Utf8.toNat_ofNat_ascii (by omega)] at hlow
    exact hlow hlt

/-- **A written character is collected** as its parts. -/
theorem tokensFrom?_char (c : Char) (read : StringText) (rest : Bytes) :
    tokensFrom? (.string read) (Utf8.encode (printChar c) ++ rest) =
      tokensFrom? (.string ((charParts c).reverse ++ read)) rest := by
  by_cases hquote : c = '"'
  · subst hquote
    exact tokensFrom?_shortEscape (c := 0x22) rfl read rest
  by_cases hback : c = '\\'
  · subst hback
    exact tokensFrom?_shortEscape (c := 0x5C) rfl read rest
  by_cases hshort : c = '\n' ∨ c = '\r' ∨ c = '\t' ∨ c = '\x08' ∨ c = '\x0c'
  · rcases hshort with rfl | rfl | rfl | rfl | rfl
    · exact tokensFrom?_shortEscape (c := 0x0A) rfl read rest
    · exact tokensFrom?_shortEscape (c := 0x0D) rfl read rest
    · exact tokensFrom?_shortEscape (c := 0x09) rfl read rest
    · exact tokensFrom?_shortEscape (c := 0x08) rfl read rest
    · exact tokensFrom?_shortEscape (c := 0x0C) rfl read rest
  obtain ⟨hn, hr, ht, hb, hf⟩ : c ≠ '\n' ∧ c ≠ '\r' ∧ c ≠ '\t' ∧ c ≠ '\x08' ∧ c ≠ '\x0c' := by
    simpa only [not_or] using hshort
  simp only [printChar, if_neg hquote, if_neg hback, if_neg hn, if_neg hr, if_neg ht, if_neg hb,
    if_neg hf]
  by_cases hlow : c.toNat < 0x20
  · rw [if_pos hlow, charParts, if_pos ⟨hlow, hshort⟩, List.reverse_singleton,
      List.singleton_append]
    exact tokensFrom?_unit (by omega) read rest
  · rw [if_neg hlow, charParts, if_neg (fun h => hlow h.1),
      show Utf8.encode [c] = Utf8.encodeChar c by simp [Utf8.encode]]
    refine tokensFrom?_collect ?_ read rest
    intro b hb read
    obtain ⟨hq, hbs, hspace⟩ := octets_of_plain hquote hback hlow b hb
    rw [Mode.step, if_neg hq, if_neg hbs, if_neg hspace]

/-- **A written string is one token.** -/
theorem tokensFrom?_string (s : String) (rest : Bytes) :
    tokensFrom? .ready (Utf8.encode (printString s) ++ rest) =
      (tokensFrom? .ready rest).map (.string (textParts s) :: ·) := by
  have hchars : ∀ (cs : List Char) (read : StringText) (r : Bytes),
      tokensFrom? (.string read) (Utf8.encode (cs.flatMap printChar) ++ r) =
        tokensFrom? (.string ((cs.flatMap charParts).reverse ++ read)) r := by
    intro cs
    induction cs with
    | nil => exact fun _ _ => rfl
    | cons c cs ih =>
        intro read r
        rw [List.flatMap_cons, Utf8.encode_append, List.append_assoc, tokensFrom?_char, ih,
          List.flatMap_cons, List.reverse_append, List.append_assoc]
  have hopen : Mode.step .ready (octet '"') = some ([], .string []) := rfl
  have hclose : Mode.step (.string (textParts s).reverse) (octet '"') =
      some ([.string (textParts s)], .ready) := by
    rw [Mode.step, if_pos rfl, List.reverse_reverse]
  have hoctets : Utf8.encode (printString s) ++ rest =
      octet '"' :: (Utf8.encode (s.toList.flatMap printChar) ++ octet '"' :: rest) := by
    rw [printString, List.cons_append, ← List.singleton_append, Utf8.encode_append,
      Utf8.encode_append, List.append_assoc, List.append_assoc]
    rfl
  rw [hoctets, tokensFrom?_silent hopen, hchars s.toList [] _, List.append_nil,
    ← textParts, tokensFrom?_step hclose]
  rfl

/-- A unit that is no half of a pair is a character. -/
theorem stringOctets?_unit {u : Nat} (hu : u < 0xD800) (r : StringText) :
    stringOctets? (.unit u :: r) =
      (stringOctets? r).map (Utf8.encodeChar (Char.ofNat u) ++ ·) := by
  have hhigh : ¬ 0xD800 ≤ u := by omega
  have hlow : ¬ 0xDC00 ≤ u := by omega
  match r with
  | [] => simp [stringOctets?, hhigh]
  | .byte b :: r => simp [stringOctets?, hhigh]
  | .unit v :: r => simp [stringOctets?, hhigh, hlow]

/-- The parts of a string stand for its text. -/
theorem stringText?_textParts (s : String) : stringText? (textParts s) = some s := by
  have hbytes : ∀ (bs : Bytes) (r : StringText),
      stringOctets? (bs.map .byte ++ r) = (stringOctets? r).map (bs ++ ·) := by
    intro bs r
    induction bs with
    | nil => simp
    | cons b bs ih =>
        rw [List.map_cons, List.cons_append, stringOctets?, ih]
        simp [Function.comp_def]
  have hchar : ∀ (c : Char) (r : StringText),
      stringOctets? (charParts c ++ r) = (stringOctets? r).map (Utf8.encodeChar c ++ ·) := by
    intro c r
    by_cases hunit : c.toNat < 0x20 ∧ ¬ (c = '\n' ∨ c = '\r' ∨ c = '\t' ∨ c = '\x08' ∨ c = '\x0c')
    · rw [charParts, if_pos hunit, List.singleton_append]
      rw [show Utf8.encodeChar c = Utf8.encodeChar (Char.ofNat c.toNat) by rw [Char.ofNat_toNat]]
      exact stringOctets?_unit (by omega) r
    · rw [charParts, if_neg hunit, hbytes]
  have htext : stringOctets? (textParts s) = some (Utf8.ofString s) := by
    rw [textParts, Utf8.ofString]
    induction s.toList with
    | nil => rfl
    | cons c cs ih =>
        rw [List.flatMap_cons, hchar, ih]
        rfl
  rw [stringText?, htext, Option.bind_some, Utf8.toString?_ofString]

/-! ### Values -/

mutual

/-- The tree of a value as it is written. -/
def toTree : Json → Tree
  | .null => .null
  | .bool b => .bool b
  | .num (.int n _) => .number (intText n)
  | .num (.float x) => .number ((NumberText.ofBytes? (Utf8.encode (printFloat x))).getD (intText 0))
  | .str s => .string (textParts s)
  | .arr items => .arr (toTrees items)
  | .obj members => .obj (toMemberTrees members)

/-- The trees of the items of an array. -/
def toTrees : List Json → List Tree
  | [] => []
  | v :: r => toTree v :: toTrees r

/-- The trees of the members of an object. -/
def toMemberTrees : List (String × Json) → List (StringText × Tree)
  | [] => []
  | (k, v) :: r => (textParts k, toTree v) :: toMemberTrees r

end

/-- A comma and a closing bracket may follow a word or a number. -/
theorem delimits_of_octet {b : UInt8} (h : b = octet ',' ∨ b = octet ']' ∨ b = octet '\x7d')
    (r : Bytes) : Delimits (b :: r) := by
  refine delimits_cons ?_ r
  rcases h with rfl | rfl | rfl <;> decide

/-- An octet that is a token by itself. -/
theorem tokensFrom?_mark {b : UInt8} {t : Token} (h : Mode.step .ready b = some ([t], .ready))
    (r : Bytes) : tokensFrom? .ready (b :: r) = (tokensFrom? .ready r).map (t :: ·) :=
  tokensFrom?_step h r

mutual

/-- **What a value is written as has the tokens of its tree.** -/
theorem tokensFrom?_print (v : Json) (hexact : v.isExact = true) {rest : Bytes}
    (hrest : Delimits rest) :
    tokensFrom? .ready (Utf8.encode v.print ++ rest) =
      (tokensFrom? .ready rest).map (v.toTree.tokens ++ ·) := by
  match v with
  | .null => exact tokensFrom?_word (b := octet 'n') (t := .null) rfl rfl rfl hrest
  | .bool true =>
      exact tokensFrom?_word (b := octet 't') (t := .bool true) rfl rfl rfl hrest
  | .bool false =>
      exact tokensFrom?_word (b := octet 'f') (t := .bool false) rfl rfl rfl hrest
  | .num (.int n _) =>
      exact tokensFrom?_number (isNumeric_printInt n) (ofBytes?_printInt n) hrest
  | .num (.float x) => exact absurd hexact (by simp [isExact, every])
  | .str s => exact tokensFrom?_string s rest
  | .arr items =>
      have hitems := tokensFrom?_printItems items (isExact_arr.mp hexact)
        (delimits_of_octet (b := octet ']') (by simp) rest)
      have hoctets : Utf8.encode (print (.arr items)) ++ rest =
          octet '[' :: (Utf8.encode (printItems items) ++ octet ']' :: rest) := by
        rw [print, ← List.singleton_append, Utf8.encode_append, Utf8.encode_append,
          List.append_assoc, List.append_assoc]
        rfl
      rw [hoctets, tokensFrom?_mark (t := .openArray) rfl, hitems,
        tokensFrom?_mark (t := .closeArray) rfl, toTree, Tree.tokens]
      simp [Function.comp_def]
  | .obj members =>
      have hmembers := tokensFrom?_printMembers members (isExact_obj.mp hexact)
        (delimits_of_octet (b := octet '\x7d') (by simp) rest)
      have hoctets : Utf8.encode (print (.obj members)) ++ rest =
          octet '\x7b' :: (Utf8.encode (printMembers members) ++ octet '\x7d' :: rest) := by
        rw [print, ← List.singleton_append, Utf8.encode_append, Utf8.encode_append,
          List.append_assoc, List.append_assoc]
        rfl
      rw [hoctets, tokensFrom?_mark (t := .openObject) rfl, hmembers,
        tokensFrom?_mark (t := .closeObject) rfl, toTree, Tree.tokens]
      simp [Function.comp_def]

/-- The items of an array. -/
theorem tokensFrom?_printItems (vs : List Json) (hexact : ∀ v ∈ vs, v.isExact = true)
    {rest : Bytes} (hrest : Delimits rest) :
    tokensFrom? .ready (Utf8.encode (printItems vs) ++ rest) =
      (tokensFrom? .ready rest).map (Tree.itemTokens (toTrees vs) ++ ·) := by
  match vs with
  | [] => exact Option.map_id_apply.symm
  | [v] =>
      have hv : v.isExact = true := hexact v (by simp)
      exact tokensFrom?_print v hv hrest
  | v :: u :: r =>
      obtain ⟨hv, hr⟩ := List.forall_mem_cons.mp hexact
      have hitems := tokensFrom?_printItems (u :: r) hr hrest
      have hoctets : Utf8.encode (printItems (v :: u :: r)) ++ rest =
          Utf8.encode v.print ++ octet ',' :: (Utf8.encode (printItems (u :: r)) ++ rest) := by
        rw [show printItems (v :: u :: r) = v.print ++ ',' :: printItems (u :: r) from rfl,
          Utf8.encode_append, List.append_assoc]
        rfl
      rw [hoctets, tokensFrom?_print v hv (delimits_of_octet (by simp) _),
        tokensFrom?_mark (t := .comma) rfl, hitems]
      simp [toTrees, Tree.itemTokens, Function.comp_def]

/-- The members of an object. -/
theorem tokensFrom?_printMembers (ms : Members) (hexact : ∀ m ∈ ms, m.2.isExact = true)
    {rest : Bytes} (hrest : Delimits rest) :
    tokensFrom? .ready (Utf8.encode (printMembers ms) ++ rest) =
      (tokensFrom? .ready rest).map (Tree.memberTokens (toMemberTrees ms) ++ ·) := by
  match ms with
  | [] => exact Option.map_id_apply.symm
  | [(k, v)] =>
      have hv : v.isExact = true := hexact (k, v) (by simp)
      have hoctets : Utf8.encode (printMembers [(k, v)]) ++ rest =
          Utf8.encode (printString k) ++ octet ':' :: (Utf8.encode v.print ++ rest) := by
        rw [printMembers, Utf8.encode_append, List.append_assoc]
        rfl
      rw [hoctets, tokensFrom?_string, tokensFrom?_mark (t := .colon) rfl,
        tokensFrom?_print v hv hrest]
      simp [toMemberTrees, Tree.memberTokens, Function.comp_def]
  | (k, v) :: m :: r =>
      obtain ⟨hv, hr⟩ := List.forall_mem_cons.mp hexact
      have hmembers := tokensFrom?_printMembers (m :: r) hr hrest
      have hoctets : Utf8.encode (printMembers ((k, v) :: m :: r)) ++ rest =
          Utf8.encode (printString k) ++ octet ':' :: (Utf8.encode v.print ++
            octet ',' :: (Utf8.encode (printMembers (m :: r)) ++ rest)) := by
        rw [show printMembers ((k, v) :: m :: r) =
          printString k ++ ':' :: v.print ++ ',' :: printMembers (m :: r) from rfl,
          Utf8.encode_append, Utf8.encode_append, List.append_assoc, List.append_assoc]
        rfl
      rw [hoctets, tokensFrom?_string, tokensFrom?_mark (t := .colon) rfl,
        tokensFrom?_print v hv (delimits_of_octet (by simp) _),
        tokensFrom?_mark (t := .comma) rfl, hmembers]
      simp [toMemberTrees, Tree.memberTokens, Function.comp_def]

end

/-- **A written value is read back** as its tree. -/
theorem Tree.ofBytes?_bytes {v : Json} (hexact : v.isExact = true) :
    Tree.ofBytes? v.bytes = some v.toTree := by
  have htokens := tokensFrom?_print v hexact delimits_nil
  rw [List.append_nil, show tokensFrom? .ready [] = some [] from rfl, Option.map_some,
    List.append_nil] at htokens
  rw [Tree.ofBytes?, tokens?, bytes, htokens, Option.bind_some, Tree.ofTokens?_tokens]

end AccountWire.Json
