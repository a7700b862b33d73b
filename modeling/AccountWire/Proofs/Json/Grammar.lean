import AccountWire.Proofs.Json.Rereading

/-!
# The texts of a tree

`Tree.IsText` says which texts write a tree, as the grammar of JSON has it: blanks around everything
that is no part of a word, a number or a string; numbers with their sign, point and exponent;
strings with escapes of either kind.  Nothing bounds how deep arrays and objects stand in one
another.  Every such text is read as the tree that it writes (`Tree.IsDocument.ofBytes?`), so what a
reader does with a tree is what it does with all of its texts.
-/

namespace AccountWire.Json

/-! ### Numbers -/

/-- The octets of digits. -/
def digitOctets (ds : List Nat) : Bytes := ds.map fun d => UInt8.ofNat (d + '0'.toNat)

/-- Digits that may stand in a number: at least one, each below ten. -/
def AreDigits (ds : List Nat) : Prop := ds ≠ [] ∧ ∀ d ∈ ds, d < 10

namespace NumberText

/-- The octets of a fraction. -/
def fractionOctets : Option (List Nat) → Bytes
  | none => []
  | some ds => octet '.' :: digitOctets ds

/-- Whether octets write an exponent: a mark of either case, perhaps a sign, and digits. -/
def IsExponent : Option (Bool × List Nat) → Bytes → Prop
  | none, bs => bs = []
  | some (negative, ds), bs => AreDigits ds ∧
    ∃ mark sign, (mark = octet 'e' ∨ mark = octet 'E') ∧
      (if negative then sign = [octet '-'] else sign = [] ∨ sign = [octet '+']) ∧
      bs = mark :: sign ++ digitOctets ds

/-- Whether octets write a number.  No digits stand after a leading zero. -/
def IsText (t : NumberText) (bs : Bytes) : Prop :=
  AreDigits t.whole ∧ (t.whole.head? = some 0 → t.whole = [0]) ∧
    (∀ ds ∈ t.fraction, AreDigits ds) ∧
    ∃ exponent, IsExponent t.exponent exponent ∧
      bs = (if t.negative then [octet '-'] else []) ++ digitOctets t.whole ++
        fractionOctets t.fraction ++ exponent

end NumberText

/-- The octet of a digit is read as the digit. -/
theorem digit?_digitOctet : ∀ d, d < 10 → digit? (UInt8.ofNat (d + '0'.toNat)) = some d := by
  decide

/-- A digit is no sign. -/
theorem head_digitOctets {d : Nat} (hd : d < 10) (ds : List Nat) :
    ∃ b bs, digitOctets (d :: ds) = b :: bs ∧ b ≠ octet '+' ∧ b ≠ octet '-' := by
  have hall : ∀ d, d < 10 → UInt8.ofNat (d + '0'.toNat) ≠ octet '+' ∧
      UInt8.ofNat (d + '0'.toNat) ≠ octet '-' := by decide
  exact ⟨_, digitOctets ds, rfl, hall d hd⟩

/-- Where digits end. -/
def NoDigit (rest : Bytes) : Prop := ∀ b r, rest = b :: r → digit? b = none

/-- **Digits are taken up to their end.** -/
theorem takeDigits_digitOctets {ds : List Nat} (h : ∀ d ∈ ds, d < 10) {rest : Bytes}
    (hrest : NoDigit rest) : takeDigits (digitOctets ds ++ rest) = (ds, rest) := by
  induction ds with
  | nil =>
      cases rest with
      | nil => rfl
      | cons b r =>
          show takeDigits (b :: r) = _
          rw [takeDigits, hrest b r rfl]
  | cons d ds ih =>
      obtain ⟨hd, hds⟩ := List.forall_mem_cons.mp h
      show takeDigits (UInt8.ofNat (d + '0'.toNat) :: (digitOctets ds ++ rest)) = _
      rw [takeDigits, digit?_digitOctet d hd]
      simp only [ih hds]

theorem noDigit_nil : NoDigit [] := fun _ _ h => absurd h (by simp)

/-- Digits end before an octet that is none. -/
theorem noDigit_cons {b : UInt8} (h : digit? b = none) (r : Bytes) : NoDigit (b :: r) := by
  intro c s hcs
  obtain ⟨rfl, rfl⟩ := List.cons.inj hcs
  exact h

namespace NumberText

/-- **A written exponent is read.** -/
theorem exponentOf?_of_isExponent {e : Option (Bool × List Nat)} {bs : Bytes}
    (h : IsExponent e bs) : exponentOf? bs = some e := by
  match e with
  | none =>
      rw [show bs = [] from h]
      rfl
  | some (negative, ds) =>
      obtain ⟨⟨hne, hds⟩, mark, sign, hmark, hsign, rfl⟩ := h
      have htake : takeDigits (digitOctets ds) = (ds, []) := by
        simpa using takeDigits_digitOctets hds noDigit_nil
      obtain ⟨d, r, rfl⟩ := List.exists_cons_of_ne_nil hne
      obtain ⟨b, bs, hoctets, hplus, hminus⟩ := head_digitOctets (hds d List.mem_cons_self) r
      rw [hoctets] at htake ⊢
      cases negative with
      | true =>
          obtain rfl : sign = [octet '-'] := by simpa using hsign
          simp [exponentOf?, hmark, htake, show octet '-' ≠ octet '+' by decide]
      | false =>
          rcases (by simpa using hsign : sign = [] ∨ sign = [octet '+']) with rfl | rfl
          · simp [exponentOf?, hmark, hplus, hminus, htake]
          · simp [exponentOf?, hmark, htake]

/-- Digits end where an exponent begins, or where there is none. -/
theorem noDigit_of_isExponent {e : Option (Bool × List Nat)} {bs : Bytes}
    (h : IsExponent e bs) : NoDigit bs := by
  match e with
  | none =>
      rw [show bs = [] from h]
      exact noDigit_nil
  | some (negative, ds) =>
      obtain ⟨-, mark, sign, hmark, -, rfl⟩ := h
      refine noDigit_cons ?_ _
      rcases hmark with rfl | rfl <;> decide

/-- What follows the whole digits of a number is its fraction and its exponent. -/
theorem afterWhole (negative : Bool) {whole : List Nat} {fraction : Option (List Nat)}
    {e : Option (Bool × List Nat)} {exponent : Bytes} (hwhole : whole ≠ [])
    (hzero : whole.head? = some 0 → whole = [0]) (hfraction : ∀ ds ∈ fraction, AreDigits ds)
    (hexponent : IsExponent e exponent) :
    (match (whole, fractionOctets fraction ++ exponent) with
      | ([], _) => none
      | (0 :: _ :: _, _) => none
      | (whole, b :: r) =>
        if b = octet '.' then
          match takeDigits r with
          | ([], _) => none
          | (fraction, rest) =>
            (exponentOf? rest).map (NumberText.mk negative whole (some fraction) ·)
        else (exponentOf? (b :: r)).map (NumberText.mk negative whole none ·)
      | (whole, []) => some (NumberText.mk negative whole none none)) =
        some ⟨negative, whole, fraction, e⟩ := by
  have hread := exponentOf?_of_isExponent hexponent
  -- The match is decided by the first digit and by what stands after the digits.
  have hfirst : whole = [0] ∨ ∃ d ds, whole = (d + 1) :: ds := by
    obtain ⟨d, ds, rfl⟩ := List.exists_cons_of_ne_nil hwhole
    cases d with
    | zero => exact .inl (hzero rfl)
    | succ d => exact .inr ⟨d, ds, rfl⟩
  cases fraction with
  | some ds =>
      obtain ⟨hne, hds⟩ := hfraction ds rfl
      obtain ⟨d, r, rfl⟩ := List.exists_cons_of_ne_nil hne
      have htake := takeDigits_digitOctets hds (noDigit_of_isExponent hexponent)
      rcases hfirst with rfl | ⟨d', ds', rfl⟩ <;> simp [fractionOctets, htake, hread]
  | none =>
      cases exponent with
      | nil =>
          obtain rfl : none = e := by simpa [exponentOf?] using hread
          rcases hfirst with rfl | ⟨d', ds', rfl⟩ <;> rfl
      | cons b r =>
          have hpoint : b ≠ octet '.' := by
            cases e with
            | none => exact absurd hexponent (by simp [IsExponent])
            | some p =>
                obtain ⟨-, mark, sign, hmark, -, hbr⟩ := hexponent
                obtain ⟨rfl, -⟩ := List.cons.inj hbr
                rcases hmark with rfl | rfl <;> decide
          rcases hfirst with rfl | ⟨d', ds', rfl⟩ <;>
            simp only [fractionOctets, List.nil_append, if_neg hpoint, hread, Option.map_some]

/-- **A written number is read.** -/
theorem ofBytes?_of_isText {t : NumberText} {bs : Bytes} (h : t.IsText bs) :
    NumberText.ofBytes? bs = some t := by
  obtain ⟨⟨hne, hwhole⟩, hzero, hfraction, exponent, hexponent, rfl⟩ := h
  have hnoDigit : NoDigit (fractionOctets t.fraction ++ exponent) := by
    cases t.fraction with
    | none => exact noDigit_of_isExponent hexponent
    | some ds => exact noDigit_cons (by decide) _
  have htake := takeDigits_digitOctets hwhole hnoDigit
  have hafter := afterWhole t.negative hne hzero hfraction hexponent
  obtain ⟨d, r, hdr⟩ := List.exists_cons_of_ne_nil hne
  obtain ⟨b, bs, hoctets, -, hminus⟩ := head_digitOctets (hwhole d (by simp [hdr])) r
  rw [← hdr] at hoctets
  rw [← htake] at hafter
  rw [List.append_assoc, List.append_assoc]
  cases hnegative : t.negative with
  | true =>
      rw [hnegative] at hafter
      rw [if_pos rfl, List.singleton_append, NumberText.ofBytes?]
      simp only [if_true]
      exact hafter.trans (by rw [← hnegative])
  | false =>
      rw [hnegative] at hafter
      rw [if_neg (by simp), List.nil_append]
      rw [hoctets] at hafter ⊢
      rw [List.cons_append, NumberText.ofBytes?]
      simp only [if_neg hminus]
      exact hafter.trans (by rw [← hnegative])

/-- Digits may stand in a number. -/
theorem isNumeric_digitOctets {ds : List Nat} (h : ∀ d ∈ ds, d < 10) :
    ∀ b ∈ digitOctets ds, isNumeric b = true := by
  have hall : ∀ d, d < 10 → isNumeric (UInt8.ofNat (d + '0'.toNat)) = true := by decide
  intro b hb
  obtain ⟨d, hd, rfl⟩ := List.mem_map.mp hb
  exact hall d (h d hd)

/-- No octet of a number ends it. -/
theorem isNumeric_of_isText {t : NumberText} {bs : Bytes} (h : t.IsText bs) :
    ∀ b ∈ bs, isNumeric b = true := by
  obtain ⟨⟨-, hwhole⟩, -, hfraction, exponent, hexponent, rfl⟩ := h
  have hsign : ∀ b ∈ (if t.negative then [octet '-'] else []), isNumeric b = true := by
    cases t.negative with
    | false => simp
    | true => simpa using (by decide : isNumeric (octet '-') = true)
  have hfractionOctets : ∀ b ∈ fractionOctets t.fraction, isNumeric b = true := by
    cases hf : t.fraction with
    | none => simp [fractionOctets]
    | some ds =>
        exact List.forall_mem_cons.mpr ⟨by decide, isNumeric_digitOctets (hfraction ds hf).2⟩
  have hexponentOctets : ∀ b ∈ exponent, isNumeric b = true := by
    cases he : t.exponent with
    | none =>
        rw [he] at hexponent
        rw [show exponent = [] from hexponent]
        simp
    | some p =>
        rw [he] at hexponent
        obtain ⟨⟨-, hds⟩, mark, sign, hmark, hsign, rfl⟩ := hexponent
        refine List.forall_mem_cons.mpr ⟨?_, List.forall_mem_append.mpr
          ⟨?_, isNumeric_digitOctets hds⟩⟩
        · rcases hmark with rfl | rfl <;> decide
        · have hcases : sign = [octet '-'] ∨ sign = [] ∨ sign = [octet '+'] := by
            split at hsign
            · exact .inl hsign
            · exact .inr hsign
          rcases hcases with rfl | rfl | rfl <;> simp <;> decide
  exact List.forall_mem_append.mpr ⟨List.forall_mem_append.mpr ⟨List.forall_mem_append.mpr
    ⟨hsign, isNumeric_digitOctets hwhole⟩, hfractionOctets⟩, hexponentOctets⟩

end NumberText

/-! ### Strings -/

namespace StringPart

/-- Whether octets write a part of a string: an octet that stands for itself, a short escape, or
four digits in base sixteen. -/
def IsText : StringPart → Bytes → Prop
  | .byte b, bs => (bs = [b] ∧ ¬ b < 0x20 ∧ b ≠ octet '"' ∧ b ≠ octet '\\') ∨
    ∃ e, shortEscape? e = some b ∧ bs = [octet '\\', e]
  | .unit u, bs => ∃ b₃ b₂ b₁ b₀ d₃ d₂ d₁ d₀, hexOctet? b₃ = some d₃ ∧ hexOctet? b₂ = some d₂ ∧
    hexOctet? b₁ = some d₁ ∧ hexOctet? b₀ = some d₀ ∧
    u = 16 * (16 * (16 * d₃ + d₂) + d₁) + d₀ ∧ bs = [octet '\\', octet 'u', b₃, b₂, b₁, b₀]

/-- **A part of a string is collected.** -/
theorem tokensFrom?_of_isText {p : StringPart} {bs : Bytes} (h : p.IsText bs) (read : StringText)
    (rest : Bytes) : tokensFrom? (.string read) (bs ++ rest) =
      tokensFrom? (.string (p :: read)) rest := by
  cases p with
  | byte b =>
      rcases h with ⟨rfl, hlow, hquote, hback⟩ | ⟨e, he, rfl⟩
      · refine tokensFrom?_silent ?_ rest
        rw [Mode.step, if_neg hquote, if_neg hback, if_neg hlow]
      · exact tokensFrom?_shortEscape he read rest
  | unit u =>
      obtain ⟨b₃, b₂, b₁, b₀, d₃, d₂, d₁, d₀, h₃, h₂, h₁, h₀, rfl, rfl⟩ := h
      have hescape : Mode.step (.string read) (octet '\\') = some ([], .escape read) := rfl
      have hopen : Mode.step (.escape read) (octet 'u') = some ([], .unit read 4 0) := rfl
      have hdigit : ∀ owed value b d, hexOctet? b = some d → 1 < owed →
          Mode.step (.unit read owed value) b =
            some ([], .unit read (owed - 1) (16 * value + d)) := by
        intro owed value b d hd howed
        rw [Mode.step, hd, Option.map_some, if_neg (by omega)]
      have hlast : ∀ value, Mode.step (.unit read 1 value) b₀ =
          some ([], .string (.unit (16 * value + d₀) :: read)) := by
        intro value
        rw [Mode.step, h₀]
        rfl
      simp only [List.cons_append, List.nil_append]
      rw [tokensFrom?_silent hescape, tokensFrom?_silent hopen,
        tokensFrom?_silent (hdigit 4 0 b₃ d₃ h₃ (by decide)),
        tokensFrom?_silent (hdigit 3 _ b₂ d₂ h₂ (by decide)),
        tokensFrom?_silent (hdigit 2 _ b₁ d₁ h₁ (by decide)), tokensFrom?_silent (hlast _)]
      simp

end StringPart

/-- Whether octets write the parts of a string, one after the other. -/
def ArePartsText : StringText → Bytes → Prop
  | [], bs => bs = []
  | p :: r, bs => ∃ b rest, p.IsText b ∧ ArePartsText r rest ∧ bs = b ++ rest

/-- Whether octets write a string, its quotes included. -/
def IsStringText (t : StringText) (bs : Bytes) : Prop :=
  ∃ inner, ArePartsText t inner ∧ bs = octet '"' :: inner ++ [octet '"']

/-- The parts of a string are read into the string that was begun. -/
theorem tokensFrom?_of_areParts {t : StringText} {bs : Bytes} (h : ArePartsText t bs)
    (read : StringText) (rest : Bytes) : tokensFrom? (.string read) (bs ++ rest) =
      tokensFrom? (.string (t.reverse ++ read)) rest := by
  induction t generalizing bs read with
  | nil =>
      rw [show bs = [] from h]
      rfl
  | cons p r ih =>
      obtain ⟨b, tail, hp, hr, rfl⟩ := h
      rw [List.append_assoc, StringPart.tokensFrom?_of_isText hp, ih hr, List.reverse_cons,
        List.append_assoc, List.singleton_append]

/-- Octets that stand for themselves write a string between quotes. -/
theorem isStringText_plain {bs : Bytes}
    (h : ∀ b ∈ bs, ¬ b < 0x20 ∧ b ≠ octet '"' ∧ b ≠ octet '\\') :
    IsStringText (bs.map .byte) (octet '"' :: bs ++ [octet '"']) := by
  refine ⟨bs, ?_, rfl⟩
  induction bs with
  | nil => rfl
  | cons b bs ih =>
      obtain ⟨hb, hbs⟩ := List.forall_mem_cons.mp h
      exact ⟨[b], bs, .inl ⟨rfl, hb⟩, ih hbs, rfl⟩

/-- **A written string is read up to its end.** -/
theorem tokensFrom?_of_isStringText {t : StringText} {bs : Bytes} (h : IsStringText t bs)
    (rest : Bytes) :
    tokensFrom? .ready (bs ++ rest) = (tokensFrom? .ready rest).map (.string t :: ·) := by
  obtain ⟨inner, hinner, rfl⟩ := h
  have hopen : Mode.step .ready (octet '"') = some ([], .string []) := rfl
  have hclose : Mode.step (.string t.reverse) (octet '"') = some ([.string t], .ready) := by
    rw [Mode.step, if_pos rfl, List.reverse_reverse]
  rw [List.cons_append, List.cons_append, List.append_assoc, tokensFrom?_silent hopen,
    tokensFrom?_of_areParts hinner, List.append_nil, List.singleton_append,
    tokensFrom?_step hclose]
  rfl

/-! ### Values -/

/-- Whether octets are blanks. -/
def AreBlanks (bs : Bytes) : Prop :=
  ∀ b ∈ bs, b = octet ' ' ∨ b = octet '\n' ∨ b = octet '\r' ∨ b = octet '\t'

/-- The octets of a word. -/
def wordOctets (word : String) : Bytes := word.toList.map octet

mutual

/-- Whether octets write a tree, without blanks around it. -/
def Tree.IsText : Tree → Bytes → Prop
  | .null, bs => bs = wordOctets "null"
  | .bool b, bs => bs = wordOctets (if b then "true" else "false")
  | .number t, bs => t.IsText bs
  | .string t, bs => IsStringText t bs
  | .arr items, bs => ∃ inner, AreItemsText items inner ∧ bs = octet '[' :: inner ++ [octet ']']
  | .obj members, bs =>
    ∃ inner, AreMembersText members inner ∧ bs = octet '\x7b' :: inner ++ [octet '\x7d']

/-- Whether octets write the items of an array, with commas between them and blanks anywhere. -/
def AreItemsText : List Tree → Bytes → Prop
  | [], bs => AreBlanks bs
  | t :: r, bs => ∃ before text after rest, AreBlanks before ∧ t.IsText text ∧ AreBlanks after ∧
    bs = before ++ text ++ after ++ rest ∧
      match r with
      | [] => rest = []
      | u :: r => ∃ more, AreItemsText (u :: r) more ∧ rest = octet ',' :: more

/-- Whether octets write the members of an object, with commas between them and blanks anywhere. -/
def AreMembersText : List (StringText × Tree) → Bytes → Prop
  | [], bs => AreBlanks bs
  | (k, t) :: r, bs => ∃ before name between around text after rest, AreBlanks before ∧
    IsStringText k name ∧ AreBlanks between ∧ AreBlanks around ∧ t.IsText text ∧ AreBlanks after ∧
    bs = before ++ name ++ between ++ octet ':' :: around ++ text ++ after ++ rest ∧
      match r with
      | [] => rest = []
      | m :: r => ∃ more, AreMembersText (m :: r) more ∧ rest = octet ',' :: more

end

/-- Whether octets are a whole JSON text of a tree. -/
def Tree.IsDocument (t : Tree) (bs : Bytes) : Prop :=
  ∃ before text after, AreBlanks before ∧ t.IsText text ∧ AreBlanks after ∧
    bs = before ++ text ++ after

theorem areBlanks_nil : AreBlanks [] := fun _ h => absurd h List.not_mem_nil

/-! A text without blanks is put together from the texts of its parts. -/

theorem areItemsText_singleton {t : Tree} {text : Bytes} (h : t.IsText text) :
    AreItemsText [t] text :=
  ⟨[], text, [], [], areBlanks_nil, h, areBlanks_nil, by simp, rfl⟩

/-- The text of one member is its name, a colon and its value. -/
theorem areMembersText_singleton {k : StringText} {t : Tree} {name text : Bytes}
    (hname : IsStringText k name) (h : t.IsText text) :
    AreMembersText [(k, t)] (name ++ octet ':' :: text) :=
  ⟨[], name, [], [], text, [], [], areBlanks_nil, hname, areBlanks_nil, areBlanks_nil, h,
    areBlanks_nil, by simp, rfl⟩

/-- The text of several members is that of the first one, a comma and that of the others. -/
theorem areMembersText_cons {k : StringText} {t : Tree} {m : StringText × Tree}
    {r : List (StringText × Tree)} {name text rest : Bytes} (hname : IsStringText k name)
    (h : t.IsText text) (hrest : AreMembersText (m :: r) rest) :
    AreMembersText ((k, t) :: m :: r) (name ++ octet ':' :: text ++ octet ',' :: rest) :=
  ⟨[], name, [], [], text, [], octet ',' :: rest, areBlanks_nil, hname, areBlanks_nil,
    areBlanks_nil, h, areBlanks_nil, by simp, rest, hrest, rfl⟩

theorem isText_arr {ts : List Tree} {inner : Bytes} (h : AreItemsText ts inner) :
    (Tree.arr ts).IsText (octet '[' :: inner ++ [octet ']']) := ⟨inner, h, rfl⟩

theorem isText_obj {ms : List (StringText × Tree)} {inner : Bytes} (h : AreMembersText ms inner) :
    (Tree.obj ms).IsText (octet '\x7b' :: inner ++ [octet '\x7d']) := ⟨inner, h, rfl⟩

theorem isDocument_of_isText {t : Tree} {text bs : Bytes} (h : t.IsText text) (heq : bs = text) :
    t.IsDocument bs := ⟨[], text, [], areBlanks_nil, h, areBlanks_nil, by simp [heq]⟩

/-- Blanks between tokens do not count. -/
theorem tokensFrom?_of_areBlanks {bs : Bytes} (h : AreBlanks bs) (rest : Bytes) :
    tokensFrom? .ready (bs ++ rest) = tokensFrom? .ready rest := by
  induction bs with
  | nil => rfl
  | cons b bs ih =>
      obtain ⟨hb, hbs⟩ := List.forall_mem_cons.mp h
      have hstep : Mode.step .ready b = some ([], .ready) := if_pos hb
      rw [List.cons_append, tokensFrom?_silent hstep, ih hbs]

/-- Blanks may follow a word or a number, and what may follow them may follow the blanks. -/
theorem delimits_of_areBlanks {bs rest : Bytes} (h : AreBlanks bs) (hrest : Delimits rest) :
    Delimits (bs ++ rest) := by
  cases bs with
  | nil => exact hrest
  | cons b bs =>
      refine delimits_cons ?_ _
      rcases h b List.mem_cons_self with rfl | rfl | rfl | rfl <;> decide

mutual

/-- **The texts of a tree have its tokens.** -/
theorem tokensFrom?_of_isText (t : Tree) {bs : Bytes} (h : t.IsText bs) {rest : Bytes}
    (hrest : Delimits rest) :
    tokensFrom? .ready (bs ++ rest) = (tokensFrom? .ready rest).map (t.tokens ++ ·) := by
  match t with
  | .null =>
      rw [show bs = wordOctets "null" from h]
      exact tokensFrom?_word (b := octet 'n') (t := .null) rfl rfl rfl hrest
  | .bool true =>
      rw [show bs = wordOctets "true" from h]
      exact tokensFrom?_word (b := octet 't') (t := .bool true) rfl rfl rfl hrest
  | .bool false =>
      rw [show bs = wordOctets "false" from h]
      exact tokensFrom?_word (b := octet 'f') (t := .bool false) rfl rfl rfl hrest
  | .number n =>
      exact tokensFrom?_number (NumberText.isNumeric_of_isText h)
        (NumberText.ofBytes?_of_isText h) hrest
  | .string s => exact tokensFrom?_of_isStringText h rest
  | .arr items =>
      obtain ⟨inner, hinner, rfl⟩ := h
      have hitems := tokensFrom?_of_areItems items hinner
        (delimits_of_octet (b := octet ']') (by simp) rest)
      rw [List.cons_append, List.cons_append, List.append_assoc,
        tokensFrom?_mark (t := .openArray) rfl, List.singleton_append, hitems,
        tokensFrom?_mark (t := .closeArray) rfl, Tree.tokens]
      simp [Function.comp_def]
  | .obj members =>
      obtain ⟨inner, hinner, rfl⟩ := h
      have hmembers := tokensFrom?_of_areMembers members hinner
        (delimits_of_octet (b := octet '\x7d') (by simp) rest)
      rw [List.cons_append, List.cons_append, List.append_assoc,
        tokensFrom?_mark (t := .openObject) rfl, List.singleton_append, hmembers,
        tokensFrom?_mark (t := .closeObject) rfl, Tree.tokens]
      simp [Function.comp_def]

/-- The items of an array. -/
theorem tokensFrom?_of_areItems (ts : List Tree) {bs : Bytes} (h : AreItemsText ts bs)
    {rest : Bytes} (hrest : Delimits rest) :
    tokensFrom? .ready (bs ++ rest) =
      (tokensFrom? .ready rest).map (Tree.itemTokens ts ++ ·) := by
  match ts with
  | [] =>
      rw [tokensFrom?_of_areBlanks h]
      exact Option.map_id_apply.symm
  | [t] =>
      obtain ⟨before, text, after, tail, hbefore, htext, hafter, rfl, rfl⟩ := h
      rw [List.append_nil, List.append_assoc, List.append_assoc, tokensFrom?_of_areBlanks hbefore,
        tokensFrom?_of_isText t htext (delimits_of_areBlanks hafter hrest),
        tokensFrom?_of_areBlanks hafter, Tree.itemTokens]
  | t :: u :: r =>
      obtain ⟨before, text, after, tail, hbefore, htext, hafter, rfl, more, hmore, rfl⟩ := h
      have hcomma : Delimits (octet ',' :: more ++ rest) := delimits_of_octet (by simp) _
      rw [List.append_assoc, List.append_assoc, List.append_assoc,
        tokensFrom?_of_areBlanks hbefore,
        tokensFrom?_of_isText t htext (delimits_of_areBlanks hafter hcomma),
        tokensFrom?_of_areBlanks hafter, List.cons_append, tokensFrom?_mark (t := .comma) rfl,
        tokensFrom?_of_areItems (u :: r) hmore hrest]
      simp [Tree.itemTokens, Function.comp_def]

/-- The members of an object. -/
theorem tokensFrom?_of_areMembers (ms : List (StringText × Tree)) {bs : Bytes}
    (h : AreMembersText ms bs) {rest : Bytes} (hrest : Delimits rest) :
    tokensFrom? .ready (bs ++ rest) =
      (tokensFrom? .ready rest).map (Tree.memberTokens ms ++ ·) := by
  match ms with
  | [] =>
      rw [tokensFrom?_of_areBlanks h]
      exact Option.map_id_apply.symm
  | [(k, t)] =>
      obtain ⟨before, name, between, around, text, after, tail, hbefore, hname, hbetween, haround,
        htext, hafter, rfl, rfl⟩ := h
      have hvalue := tokensFrom?_of_isText t htext (delimits_of_areBlanks hafter hrest)
      simp only [List.append_nil, List.append_assoc, List.cons_append]
      rw [tokensFrom?_of_areBlanks hbefore, tokensFrom?_of_isStringText hname,
        tokensFrom?_of_areBlanks hbetween, tokensFrom?_mark (t := .colon) rfl,
        tokensFrom?_of_areBlanks haround, hvalue, tokensFrom?_of_areBlanks hafter]
      simp [Tree.memberTokens, Function.comp_def]
  | (k, t) :: m :: r =>
      obtain ⟨before, name, between, around, text, after, tail, hbefore, hname, hbetween, haround,
        htext, hafter, rfl, more, hmore, rfl⟩ := h
      have hcomma : Delimits (octet ',' :: (more ++ rest)) := delimits_of_octet (by simp) _
      have hvalue := tokensFrom?_of_isText t htext (delimits_of_areBlanks hafter hcomma)
      simp only [List.append_assoc, List.cons_append]
      rw [tokensFrom?_of_areBlanks hbefore, tokensFrom?_of_isStringText hname,
        tokensFrom?_of_areBlanks hbetween, tokensFrom?_mark (t := .colon) rfl,
        tokensFrom?_of_areBlanks haround, hvalue, tokensFrom?_of_areBlanks hafter,
        tokensFrom?_mark (t := .comma) rfl, tokensFrom?_of_areMembers (m :: r) hmore hrest]
      simp [Tree.memberTokens, Function.comp_def]

end

/-- **A JSON text is read as the tree that it writes**, however deep the tree is. -/
theorem Tree.IsDocument.ofBytes? {t : Tree} {bs : Bytes} (h : t.IsDocument bs) :
    Tree.ofBytes? bs = some t := by
  obtain ⟨before, text, after, hbefore, htext, hafter, rfl⟩ := h
  have hdelimits : Delimits (after ++ []) := delimits_of_areBlanks hafter delimits_nil
  have htokens : tokensFrom? .ready (before ++ text ++ after) = some t.tokens := by
    rw [← List.append_nil (before ++ text ++ after), List.append_assoc, List.append_assoc,
      tokensFrom?_of_areBlanks hbefore, tokensFrom?_of_isText t htext hdelimits,
      tokensFrom?_of_areBlanks hafter, show tokensFrom? .ready [] = some [] from rfl,
      Option.map_some, List.append_nil]
  rw [Tree.ofBytes?, tokens?, htokens, Option.bind_some, Tree.ofTokens?_tokens]

end AccountWire.Json
