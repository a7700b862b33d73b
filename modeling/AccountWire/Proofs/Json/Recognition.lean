import AccountWire.Proofs.Json.Grammar

/-!
# Only JSON texts are read

What is read as a tree is one of its texts, so that a text is read as a tree exactly when it writes it
(`Tree.ofBytes?_iff`).  The way back has the two machines of the way there.  The machine that takes
octets keeps in its mode what it has read of a token (`Mode.Holds`), and every octet either goes on
with this token or ends it (`Mode.Holds.step`).  The machine that takes tokens keeps in its state all
of the tokens that it has taken (`Tree.State.taken`).  So the octets are the texts of tokens between
blanks (`AreTokensText`), the tokens are those of the tree, and by the shape of the tree the octets are
a text of it.
-/

namespace AccountWire.Json

/-! ### Words and numbers -/

/-- Whether octets write a token. -/
def Token.IsText : Token → Bytes → Prop
  | .openArray, bs => bs = [octet '[']
  | .closeArray, bs => bs = [octet ']']
  | .openObject, bs => bs = [octet '\x7b']
  | .closeObject, bs => bs = [octet '\x7d']
  | .comma, bs => bs = [octet ',']
  | .colon, bs => bs = [octet ':']
  | .null, bs => bs = wordOctets "null"
  | .bool b, bs => bs = wordOctets (if b then "true" else "false")
  | .number t, bs => t.IsText bs
  | .string t, bs => IsStringText t bs

/-- A word that is read as a token is the text of this token. -/
theorem isText_of_wordToken? {word : Bytes} {t : Token} (h : wordToken? word = some t) :
    t.IsText word := by
  unfold wordToken? at h
  split at h
  · next hword =>
    obtain rfl := Option.some.inj h
    exact hword
  · split at h
    · next hword =>
      obtain rfl := Option.some.inj h
      exact hword
    · split at h
      · next hword =>
        obtain rfl := Option.some.inj h
        exact hword
      · cases h

/-- What is read as a digit is the octet of this digit. -/
theorem digit?_eq_some {b : UInt8} {d : Nat} (h : digit? b = some d) :
    d < 10 ∧ b = UInt8.ofNat (d + '0'.toNat) := by
  unfold digit? at h
  split at h
  · next hrange =>
    obtain rfl := Option.some.inj h
    have hlow : '0'.toNat ≤ b.toNat := UInt8.le_iff_toNat_le.mp hrange.1
    have hhigh : b.toNat ≤ '9'.toNat := UInt8.le_iff_toNat_le.mp hrange.2
    refine ⟨Nat.sub_lt_right_of_lt_add hlow (Nat.lt_of_le_of_lt hhigh (by decide)), ?_⟩
    rw [Nat.sub_add_cancel hlow, UInt8.ofNat_toNat]
  · cases h

/-- What is taken as digits are the octets of digits. -/
theorem of_takeDigits {bs rest : Bytes} {ds : List Nat} (h : takeDigits bs = (ds, rest)) :
    bs = digitOctets ds ++ rest ∧ ∀ d ∈ ds, d < 10 := by
  induction bs generalizing ds rest with
  | nil =>
      obtain ⟨rfl, rfl⟩ := Prod.mk.inj h
      exact ⟨rfl, by simp⟩
  | cons b bs ih =>
      rw [takeDigits] at h
      cases hd : digit? b with
      | none =>
          rw [hd] at h
          obtain ⟨rfl, rfl⟩ := Prod.mk.inj h
          exact ⟨rfl, by simp⟩
      | some d =>
          rw [hd] at h
          obtain ⟨rfl, rfl⟩ := Prod.mk.inj h
          obtain ⟨hlt, rfl⟩ := digit?_eq_some hd
          obtain ⟨hbs, hds⟩ := ih rfl
          exact ⟨congrArg _ hbs, List.forall_mem_cons.mpr ⟨hlt, hds⟩⟩

namespace NumberText

/-- What is read as the digits of an exponent are digits, and at least one. -/
theorem of_exponentDigits {negative : Bool} {r : Bytes} {e : Option (Bool × List Nat)}
    (h : (match takeDigits r with
      | (d :: ds, []) => some (some (negative, d :: ds))
      | _ => none) = some e) :
    ∃ ds, AreDigits ds ∧ r = digitOctets ds ∧ e = some (negative, ds) := by
  split at h
  · next d ds htake =>
    obtain rfl := Option.some.inj h
    obtain ⟨rfl, hds⟩ := of_takeDigits htake
    exact ⟨_, ⟨List.cons_ne_nil d ds, hds⟩, List.append_nil _, rfl⟩
  · cases h

/-- What is read as an exponent is one. -/
theorem isExponent_of_exponentOf? {bs : Bytes} {e : Option (Bool × List Nat)}
    (h : exponentOf? bs = some e) : IsExponent e bs := by
  match bs with
  | [] =>
      obtain rfl := Option.some.inj h
      exact rfl
  | mark :: r =>
      dsimp only [exponentOf?] at h
      split at h
      · next hmark =>
        match r with
        | [] => cases h
        | c :: s =>
            dsimp only at h
            by_cases hplus : c = octet '+'
            · rw [if_pos hplus] at h
              obtain ⟨ds, hds, rfl, rfl⟩ := of_exponentDigits h
              exact ⟨hds, mark, [c], hmark, .inr (by rw [hplus]), rfl⟩
            · rw [if_neg hplus] at h
              by_cases hminus : c = octet '-'
              · rw [if_pos hminus] at h
                obtain ⟨ds, hds, rfl, rfl⟩ := of_exponentDigits h
                exact ⟨hds, mark, [c], hmark, by rw [if_pos rfl, hminus], rfl⟩
              · rw [if_neg hminus] at h
                obtain ⟨ds, hds, hcs, rfl⟩ := of_exponentDigits h
                exact ⟨hds, mark, [], hmark, .inl rfl, congrArg (mark :: ·) hcs⟩
      · cases h

/-- Digits that begin with a zero without others behind it are the zero alone. -/
theorem eq_zero_of_head {whole : List Nat} (h : ∀ d ds, whole = 0 :: d :: ds → False) :
    whole.head? = some 0 → whole = [0] := by
  match whole with
  | [] => simp
  | [d] => simp
  | d :: e :: ds =>
      intro hd
      obtain rfl : d = 0 := by simpa using hd
      exact (h e ds rfl).elim

/-- What follows the sign of a number. -/
theorem of_unsigned {negative : Bool} {bs : Bytes} {t : NumberText}
    (h : (match takeDigits bs with
      | ([], _) => none
      | (0 :: _ :: _, _) => none
      | (whole, b :: r) =>
        if b = octet '.' then
          match takeDigits r with
          | ([], _) => none
          | (fraction, rest) =>
            (exponentOf? rest).map (NumberText.mk negative whole (some fraction) ·)
        else (exponentOf? (b :: r)).map (NumberText.mk negative whole none ·)
      | (whole, []) => some (NumberText.mk negative whole none none)) = some t) :
    ∃ whole fraction e exponent, t = ⟨negative, whole, fraction, e⟩ ∧ AreDigits whole ∧
      (whole.head? = some 0 → whole = [0]) ∧ (∀ ds ∈ fraction, AreDigits ds) ∧
      IsExponent e exponent ∧
      bs = digitOctets whole ++ fractionOctets fraction ++ exponent := by
  split at h
  · cases h
  · cases h
  · next whole b r hne hlong htake =>
    obtain ⟨rfl, hwhole⟩ := of_takeDigits htake
    have hzero := eq_zero_of_head hlong
    split at h
    · next hpoint =>
      split at h
      · cases h
      · next ds rest hds htakeFraction =>
        obtain ⟨rfl, hfraction⟩ := of_takeDigits htakeFraction
        obtain ⟨e, he, rfl⟩ := Option.map_eq_some_iff.mp h
        refine ⟨whole, some ds, e, rest, rfl, ⟨hne, hwhole⟩, hzero, ?_, isExponent_of_exponentOf? he,
          ?_⟩
        · rintro _ ⟨⟩
          exact ⟨hds, hfraction⟩
        · simp [fractionOctets, hpoint]
    · obtain ⟨e, he, rfl⟩ := Option.map_eq_some_iff.mp h
      exact ⟨whole, none, e, b :: r, rfl, ⟨hne, hwhole⟩, hzero, by simp,
        isExponent_of_exponentOf? he, by simp [fractionOctets]⟩
  · next whole hne hlong htake =>
    obtain ⟨rfl, hwhole⟩ := of_takeDigits htake
    obtain rfl := Option.some.inj h
    exact ⟨whole, none, none, [], rfl, ⟨hne, hwhole⟩, eq_zero_of_head hlong, by simp, rfl,
      by simp [fractionOctets]⟩

/-- **What is read as a number is its text.** -/
theorem isText_of_ofBytes? {bs : Bytes} {t : NumberText} (h : NumberText.ofBytes? bs = some t) :
    t.IsText bs := by
  match bs with
  | [] => cases h
  | b :: r =>
      dsimp only [NumberText.ofBytes?] at h
      by_cases hminus : b = octet '-'
      · rw [if_pos hminus] at h
        obtain ⟨whole, fraction, e, exponent, rfl, hwhole, hzero, hfraction, hexponent, rfl⟩ :=
          of_unsigned h
        refine ⟨hwhole, hzero, hfraction, exponent, hexponent, ?_⟩
        simp [hminus]
      · rw [if_neg hminus] at h
        obtain ⟨whole, fraction, e, exponent, rfl, hwhole, hzero, hfraction, hexponent, hbs⟩ :=
          of_unsigned h
        refine ⟨hwhole, hzero, hfraction, exponent, hexponent, ?_⟩
        simpa using hbs

end NumberText

/-! ### From octets to tokens -/

/-- Whether octets are the texts of tokens, with blanks around them. -/
def AreTokensText : List Token → Bytes → Prop
  | [], bs => AreBlanks bs
  | t :: ts, bs => ∃ before text rest, AreBlanks before ∧ t.IsText text ∧ AreTokensText ts rest ∧
    bs = before ++ text ++ rest

/-- The text of tokens is that of the first one and then that of the others. -/
theorem areTokensText_cons {t : Token} {ts : List Token} {text rest : Bytes} (h : t.IsText text)
    (hrest : AreTokensText ts rest) : AreTokensText (t :: ts) (text ++ rest) :=
  ⟨[], text, rest, areBlanks_nil, h, hrest, rfl⟩

theorem areTokensText_singleton {t : Token} {text : Bytes} (h : t.IsText text) :
    AreTokensText [t] text := ⟨[], text, [], areBlanks_nil, h, areBlanks_nil, by simp⟩

/-- A blank may stand in front of tokens. -/
theorem areTokensText_blank {b : UInt8}
    (hb : b = octet ' ' ∨ b = octet '\n' ∨ b = octet '\r' ∨ b = octet '\t') {ts : List Token}
    {bs : Bytes} (h : AreTokensText ts bs) : AreTokensText ts (b :: bs) := by
  cases ts with
  | nil => exact List.forall_mem_cons.mpr ⟨hb, h⟩
  | cons t ts =>
      obtain ⟨before, text, rest, hbefore, htext, hrest, rfl⟩ := h
      exact ⟨b :: before, text, rest, List.forall_mem_cons.mpr ⟨hb, hbefore⟩, htext, hrest, rfl⟩

theorem areParts_append {t u : StringText} {bs cs : Bytes} (h : ArePartsText t bs)
    (h' : ArePartsText u cs) : ArePartsText (t ++ u) (bs ++ cs) := by
  induction t generalizing bs with
  | nil =>
      rw [show bs = [] from h]
      exact h'
  | cons p r ih =>
      obtain ⟨b, rest, hp, hr, rfl⟩ := h
      exact ⟨b, rest ++ cs, hp, ih hr, by rw [List.append_assoc]⟩

theorem areParts_singleton {p : StringPart} {bs : Bytes} (h : p.IsText bs) :
    ArePartsText [p] bs := ⟨bs, [], h, rfl, by simp⟩

/-- The value of digits in base sixteen. -/
def hexValue (ds : List Nat) : Nat := ds.foldl (fun value d => 16 * value + d) 0

/-- One more digit is worth sixteen times what came before and itself. -/
theorem hexValue_concat (ds : List Nat) (d : Nat) : hexValue (ds ++ [d]) = 16 * hexValue ds + d :=
  List.foldl_append

/-- Four digits in base sixteen write a unit. -/
theorem isText_unit {digits : Bytes} {ds : List Nat} (h : digits.map hexOctet? = ds.map some)
    (hlength : ds.length = 4) :
    (StringPart.unit (hexValue ds)).IsText ([octet '\\', octet 'u'] ++ digits) := by
  have hlength' : digits.length = 4 := by
    have hmap := congrArg List.length h
    simpa [hlength] using hmap
  match digits, ds, hlength, hlength' with
  | [b₃, b₂, b₁, b₀], [d₃, d₂, d₁, d₀], _, _ =>
      simp only [List.map_cons, List.map_nil, List.cons.injEq, and_true] at h
      obtain ⟨h₃, h₂, h₁, h₀⟩ := h
      exact ⟨b₃, b₂, b₁, b₀, d₃, d₂, d₁, d₀, h₃, h₂, h₁, h₀, by simp [hexValue], rfl⟩

/-- The octets of the token that a mode is inside of.  Of a numeric escape, the digits are read as the
value of a number in base sixteen. -/
def Mode.Holds : Mode → Bytes → Prop
  | .ready, held => held = []
  | .word read, held => held = read.reverse
  | .number read, held => held = read.reverse
  | .string read, held => ∃ inner, ArePartsText read.reverse inner ∧ held = octet '"' :: inner
  | .escape read, held => ∃ inner, ArePartsText read.reverse inner ∧
    held = octet '"' :: inner ++ [octet '\\']
  | .unit read owed value, held => ∃ (inner digits : Bytes) (ds : List Nat),
    ArePartsText read.reverse inner ∧
    held = octet '"' :: inner ++ [octet '\\', octet 'u'] ++ digits ∧
    digits.map hexOctet? = ds.map some ∧ ds.length + owed = 4 ∧ owed ≠ 0 ∧
    value = hexValue ds

/-- Octets that end tokens and begin another one: what follows them are the texts of further tokens
when it is so together with what is held. -/
def Ends (bs : Bytes) (ts : List Token) (held : Bytes) : Prop :=
  ∀ ts' rest, AreTokensText ts' (held ++ rest) → AreTokensText (ts ++ ts') (bs ++ rest)

theorem ends_self (bs : Bytes) : Ends bs [] bs := fun _ _ h => h

/-- The text of a token ends it, and nothing is held. -/
theorem ends_token {t : Token} {bs : Bytes} (h : t.IsText bs) : Ends bs [t] [] :=
  fun _ _ hrest => areTokensText_cons h hrest

/-- A token in front of others ends before them. -/
theorem Ends.append {bs cs held : Bytes} {t : Token} {ts : List Token} (h : t.IsText bs)
    (hcs : Ends cs ts held) : Ends (bs ++ cs) (t :: ts) held := by
  intro ts' rest hrest
  rw [List.append_assoc]
  exact areTokensText_cons h (hcs ts' rest hrest)

/-- An octet between tokens is a blank or a token, or begins one. -/
theorem openToken_cases {b : UInt8} {ts : List Token} {m : Mode}
    (h : openToken b = some (ts, m)) :
    ((b = octet ' ' ∨ b = octet '\n' ∨ b = octet '\r' ∨ b = octet '\t') ∧ ts = [] ∧ m = .ready) ∨
      (∃ t : Token, t.IsText [b] ∧ ts = [t] ∧ m = .ready) ∨ m.Holds [b] ∧ ts = [] := by
  unfold openToken at h
  repeat' split at h
  all_goals cases h
  · next hb => exact Or.inl ⟨hb, rfl, rfl⟩
  · next hb => exact Or.inr (Or.inl ⟨.openArray, congrArg ([·]) hb, rfl, rfl⟩)
  · next hb => exact Or.inr (Or.inl ⟨.closeArray, congrArg ([·]) hb, rfl, rfl⟩)
  · next hb => exact Or.inr (Or.inl ⟨.openObject, congrArg ([·]) hb, rfl, rfl⟩)
  · next hb => exact Or.inr (Or.inl ⟨.closeObject, congrArg ([·]) hb, rfl, rfl⟩)
  · next hb => exact Or.inr (Or.inl ⟨.comma, congrArg ([·]) hb, rfl, rfl⟩)
  · next hb => exact Or.inr (Or.inl ⟨.colon, congrArg ([·]) hb, rfl, rfl⟩)
  · next hb => exact Or.inr (Or.inr ⟨⟨[], rfl, congrArg ([·]) hb⟩, rfl⟩)
  · exact Or.inr (Or.inr ⟨rfl, rfl⟩)
  · exact Or.inr (Or.inr ⟨rfl, rfl⟩)

/-- The octet that a token begins with ends those tokens that it is, and is held otherwise. -/
theorem holds_of_openToken {b : UInt8} {ts : List Token} {m : Mode}
    (h : openToken b = some (ts, m)) : ∃ held, m.Holds held ∧ Ends [b] ts held := by
  rcases openToken_cases h with ⟨hb, rfl, rfl⟩ | ⟨t, ht, rfl, rfl⟩ | ⟨hheld, rfl⟩
  · exact ⟨[], rfl, fun _ _ hrest => areTokensText_blank hb hrest⟩
  · exact ⟨[], rfl, ends_token ht⟩
  · exact ⟨[b], hheld, ends_self [b]⟩

/-- After a word or a number, an octet is taken as between tokens. -/
theorem holds_of_token {held : Bytes} {t : Token} (ht : t.IsText held) {b : UInt8}
    {ts : List Token} {m : Mode}
    (h : (openToken b).bind (fun p => some (t :: p.1, p.2)) = some (ts, m)) :
    ∃ held', m.Holds held' ∧ Ends (held ++ [b]) ts held' := by
  obtain ⟨⟨ts', m'⟩, hopen, heq⟩ := Option.bind_eq_some_iff.mp h
  cases heq
  obtain ⟨held', hheld', hends⟩ := holds_of_openToken hopen
  exact ⟨held', hheld', hends.append ht⟩

/-- A part of a string is put to those that were read. -/
theorem holds_string {read : StringText} {inner text : Bytes} {p : StringPart}
    (hinner : ArePartsText read.reverse inner) (hp : p.IsText text) :
    (Mode.string (p :: read)).Holds (octet '"' :: inner ++ text) := by
  refine ⟨inner ++ text, ?_, rfl⟩
  rw [List.reverse_cons]
  exact areParts_append hinner (areParts_singleton hp)

/-- Within a string, an octet is a part of it, or begins an escape, or ends the string. -/
theorem holds_step_string {read : StringText} {m : Mode} {held : Bytes} {b : UInt8} {ts : List Token}
    (h : (Mode.string read).Holds held) (hstep : (Mode.string read).step b = some (ts, m)) :
    ∃ held', m.Holds held' ∧ Ends (held ++ [b]) ts held' := by
  obtain ⟨inner, hinner, rfl⟩ := h
  rw [Mode.step] at hstep
  split at hstep
  · next hquote =>
    cases hstep
    refine ⟨[], rfl, ends_token ?_⟩
    exact ⟨inner, hinner, by rw [hquote]⟩
  · next hquote =>
    split at hstep
    · next hback =>
      cases hstep
      exact ⟨_, ⟨inner, hinner, by rw [hback]⟩, ends_self _⟩
    · next hback =>
      split at hstep
      · cases hstep
      · next hlow =>
        cases hstep
        have hp : (StringPart.byte b).IsText [b] := .inl ⟨rfl, hlow, hquote, hback⟩
        exact ⟨_, holds_string hinner hp, ends_self _⟩

/-- After a backslash, an octet ends a short escape or begins a numeric one. -/
theorem holds_step_escape {read : StringText} {m : Mode} {held : Bytes} {b : UInt8} {ts : List Token}
    (h : (Mode.escape read).Holds held) (hstep : (Mode.escape read).step b = some (ts, m)) :
    ∃ held', m.Holds held' ∧ Ends (held ++ [b]) ts held' := by
  obtain ⟨inner, hinner, rfl⟩ := h
  rw [Mode.step] at hstep
  split at hstep
  · next hu =>
    cases hstep
    refine ⟨_, ⟨inner, [], [], hinner, ?_, rfl, rfl, by decide, rfl⟩, ends_self _⟩
    simp [hu]
  · obtain ⟨c, hc, heq⟩ := Option.map_eq_some_iff.mp hstep
    cases heq
    have hp : (StringPart.byte c).IsText [octet '\\', b] := .inr ⟨b, hc, rfl⟩
    refine ⟨_, holds_string hinner hp, ?_⟩
    rw [List.append_assoc]
    exact ends_self _

/-- In a numeric escape, an octet is its next digit; the fourth one ends it. -/
theorem holds_step_unit {read : StringText} {owed value : Nat} {m : Mode} {held : Bytes} {b : UInt8}
    {ts : List Token} (h : (Mode.unit read owed value).Holds held)
    (hstep : (Mode.unit read owed value).step b = some (ts, m)) :
    ∃ held', m.Holds held' ∧ Ends (held ++ [b]) ts held' := by
  obtain ⟨inner, digits, ds, hinner, rfl, hdigits, howed, hpos, rfl⟩ := h
  rw [Mode.step] at hstep
  obtain ⟨d, hd, heq⟩ := Option.map_eq_some_iff.mp hstep
  have hdigits' : (digits ++ [b]).map hexOctet? = (ds ++ [d]).map some := by
    simp [hdigits, hd]
  have hlength : (ds ++ [d]).length = ds.length + 1 := by simp
  rw [← hexValue_concat] at heq
  dsimp only at heq
  split at heq
  · next hlast =>
    cases heq
    have hp := isText_unit hdigits' (by omega)
    refine ⟨_, holds_string hinner hp, ?_⟩
    simpa using ends_self _
  · next hmore =>
    cases heq
    refine ⟨_, ⟨inner, digits ++ [b], ds ++ [d], hinner, rfl, hdigits', by omega, by omega, rfl⟩, ?_⟩
    simpa using ends_self _

/-- **One octet** goes on with the token that is held, or ends it. -/
theorem Mode.Holds.step {m m' : Mode} {held : Bytes} {b : UInt8} {ts : List Token}
    (h : m.Holds held) (hstep : m.step b = some (ts, m')) :
    ∃ held', m'.Holds held' ∧ Ends (held ++ [b]) ts held' := by
  cases m with
  | ready =>
      obtain rfl : held = [] := h
      exact holds_of_openToken hstep
  | word read =>
      obtain rfl : held = read.reverse := h
      rw [Mode.step] at hstep
      split at hstep
      · cases hstep
        exact ⟨read.reverse ++ [b], by simp [Mode.Holds], ends_self _⟩
      · obtain ⟨t, ht, hopen⟩ := Option.bind_eq_some_iff.mp hstep
        exact holds_of_token (isText_of_wordToken? ht) hopen
  | number read =>
      obtain rfl : held = read.reverse := h
      rw [Mode.step] at hstep
      split at hstep
      · cases hstep
        exact ⟨read.reverse ++ [b], by simp [Mode.Holds], ends_self _⟩
      · obtain ⟨t, ht, hopen⟩ := Option.bind_eq_some_iff.mp hstep
        exact holds_of_token (t := .number t) (NumberText.isText_of_ofBytes? ht) hopen
  | string read => exact holds_step_string h hstep
  | escape read => exact holds_step_escape h hstep
  | unit read owed value => exact holds_step_unit h hstep

/-- **What is read as tokens are their texts.** -/
theorem areTokensText_of_tokensFrom? {m : Mode} {held bs : Bytes} {ts : List Token}
    (hheld : m.Holds held) (h : tokensFrom? m bs = some ts) : AreTokensText ts (held ++ bs) := by
  induction bs generalizing m held ts with
  | nil =>
      rw [List.append_nil]
      cases m with
      | ready =>
          obtain rfl : held = [] := hheld
          obtain rfl := Option.some.inj h
          exact areBlanks_nil
      | word read =>
          obtain rfl : held = read.reverse := hheld
          obtain ⟨t, ht, rfl⟩ := Option.map_eq_some_iff.mp h
          exact areTokensText_singleton (isText_of_wordToken? ht)
      | number read =>
          obtain rfl : held = read.reverse := hheld
          obtain ⟨t, ht, rfl⟩ := Option.map_eq_some_iff.mp h
          have htext : (Token.number t).IsText read.reverse := NumberText.isText_of_ofBytes? ht
          exact areTokensText_singleton htext
      | string read | escape read | unit read owed value => cases h
  | cons b bs ih =>
      rw [tokensFrom?] at h
      obtain ⟨⟨ended, m'⟩, hstep, h⟩ := Option.bind_eq_some_iff.mp h
      obtain ⟨rest, hrest, heq⟩ := Option.bind_eq_some_iff.mp h
      cases heq
      obtain ⟨held', hheld', hends⟩ := hheld.step hstep
      have htokens := hends rest bs (ih hheld' hrest)
      rwa [List.append_assoc] at htokens

/-! ### From tokens to trees -/

namespace Tree

/-- The tokens of items of which each is followed by a comma. -/
def commaItems (items : List Tree) : List Token := items.flatMap fun t => t.tokens ++ [.comma]

/-- The tokens of members of which each is followed by a comma. -/
def commaMembers (members : List (StringText × Tree)) : List Token :=
  members.flatMap fun m => .string m.1 :: .colon :: m.2.tokens ++ [.comma]

theorem itemTokens_concat (items : List Tree) (t : Tree) :
    itemTokens (items ++ [t]) = commaItems items ++ t.tokens := by
  induction items with
  | nil => rfl
  | cons u r ih =>
      obtain ⟨v, s, hrest⟩ := List.exists_cons_of_ne_nil (List.concat_ne_nil t r)
      rw [List.cons_append, hrest, itemTokens, ← hrest, ih]
      simp [commaItems]

/-- One more member comes after a comma, as a name, a colon and a value. -/
theorem memberTokens_concat (members : List (StringText × Tree)) (k : StringText) (t : Tree) :
    memberTokens (members ++ [(k, t)]) =
      commaMembers members ++ .string k :: .colon :: t.tokens := by
  induction members with
  | nil => rfl
  | cons m r ih =>
      obtain ⟨v, s, hrest⟩ := List.exists_cons_of_ne_nil (List.concat_ne_nil (k, t) r)
      rw [List.cons_append, hrest, memberTokens, ← hrest, ih]
      simp [commaMembers]

/-- The tokens that were taken of what is open. -/
def Open.taken : Open → List Token
  | .arr items => .openArray :: commaItems items.reverse
  | .obj members => .openObject :: commaMembers members.reverse
  | .member members name => .openObject :: commaMembers members.reverse ++ [.string name, .colon]

/-- The tokens that were taken of all that is open, the innermost last. -/
def takenOf : List Open → List Token
  | [] => []
  | o :: stack => takenOf stack ++ o.taken

/-- The tokens that were taken. -/
def State.taken : State → List Token
  | .value stack => takenOf stack
  | .firstItem stack => takenOf stack ++ [.openArray]
  | .firstName stack => takenOf stack ++ [.openObject]
  | .nextName members stack => takenOf stack ++ .openObject :: commaMembers members.reverse
  | .colon members name stack =>
    takenOf stack ++ .openObject :: commaMembers members.reverse ++ [.string name]
  | .moreItems items stack => takenOf stack ++ .openArray :: itemTokens items.reverse
  | .moreMembers members stack => takenOf stack ++ .openObject :: memberTokens members.reverse
  | .done t => t.tokens

/-- A comma or an end is waited for only after something. -/
def State.IsProper : State → Prop
  | .moreItems items _ => items ≠ []
  | .moreMembers members _ => members ≠ []
  | _ => True

/-- A state after tokens. -/
structure State.After (s : State) (ts : List Token) : Prop where
  taken : s.taken = ts
  proper : s.IsProper

/-- A tree that is delivered adds its tokens to those that were taken. -/
theorem after_deliver {t : Tree} {stack : List Open} {s : State} (h : deliver t stack = some s) :
    s.After (takenOf stack ++ t.tokens) := by
  match stack with
  | [] =>
      obtain rfl := Option.some.inj h
      exact ⟨rfl, trivial⟩
  | .arr items :: stack =>
      obtain rfl := Option.some.inj h
      refine ⟨?_, List.cons_ne_nil t items⟩
      simp [State.taken, takenOf, Open.taken, itemTokens_concat]
  | .member members name :: stack =>
      obtain rfl := Option.some.inj h
      refine ⟨?_, List.cons_ne_nil _ members⟩
      simp [State.taken, takenOf, Open.taken, memberTokens_concat]

/-- A bracket that opens adds itself to the tokens that were taken. -/
theorem after_begin {stack : List Open} {t : Token} {s : State} (h : begin stack t = some s) :
    s.After (takenOf stack ++ [t]) := by
  cases t with
  | null | bool b | number t | string t => exact after_deliver h
  | openArray | openObject =>
      obtain rfl := Option.some.inj h
      exact ⟨rfl, trivial⟩
  | closeArray | closeObject | comma | colon => cases h

/-- **One token** is put to those that were taken. -/
theorem State.After.step {s s' : State} {t : Token} {ts : List Token} (h : s.After ts)
    (hstep : s.step t = some s') : s'.After (ts ++ [t]) := by
  obtain ⟨rfl, hproper⟩ := h
  cases s with
  | value stack => exact after_begin hstep
  | firstItem stack =>
      have hitem : ∀ t, begin (.arr [] :: stack) t = some s' →
          s'.After ((State.firstItem stack).taken ++ [t]) := fun t h => after_begin h
      cases t with
      | closeArray => simpa [State.taken, tokens, itemTokens] using after_deliver hstep
      | _ => exact hitem _ hstep
  | firstName stack =>
      cases t with
      | closeObject => simpa [State.taken, tokens, memberTokens] using after_deliver hstep
      | string name =>
          obtain rfl := Option.some.inj hstep
          exact ⟨by simp [State.taken, commaMembers], trivial⟩
      | _ => cases hstep
  | nextName members stack =>
      cases t with
      | string name =>
          obtain rfl := Option.some.inj hstep
          exact ⟨by simp [State.taken], trivial⟩
      | _ => cases hstep
  | colon members name stack =>
      cases t with
      | colon =>
          obtain rfl := Option.some.inj hstep
          exact ⟨by simp [State.taken, takenOf, Open.taken], trivial⟩
      | _ => cases hstep
  | moreItems items stack =>
      obtain ⟨item, items, rfl⟩ := List.exists_cons_of_ne_nil hproper
      cases t with
      | comma =>
          obtain rfl := Option.some.inj hstep
          refine ⟨?_, trivial⟩
          simp [State.taken, takenOf, Open.taken, itemTokens_concat, commaItems]
      | closeArray => simpa [State.taken, tokens] using after_deliver hstep
      | _ => cases hstep
  | moreMembers members stack =>
      obtain ⟨⟨k, u⟩, members, rfl⟩ := List.exists_cons_of_ne_nil hproper
      cases t with
      | comma =>
          obtain rfl := Option.some.inj hstep
          refine ⟨?_, trivial⟩
          simp [State.taken, memberTokens_concat, commaMembers]
      | closeObject => simpa [State.taken, tokens] using after_deliver hstep
      | _ => cases hstep
  | done u => cases hstep

/-- Tokens are put to those that were taken, one after the other. -/
theorem State.After.run {s s' : State} {before ts : List Token} (h : s.After before)
    (hrun : Tree.run s ts = some s') : s'.After (before ++ ts) := by
  induction ts generalizing s before with
  | nil =>
      obtain rfl := Option.some.inj hrun
      rwa [List.append_nil]
  | cons t ts ih =>
      obtain ⟨s₁, hstep, hrest⟩ := Option.bind_eq_some_iff.mp hrun
      have hafter := ih (h.step hstep) hrest
      rwa [List.append_assoc] at hafter

/-- **What is read as a tree are its tokens.** -/
theorem eq_tokens_of_ofTokens? {ts : List Token} {t : Tree} (h : ofTokens? ts = some t) :
    ts = t.tokens := by
  have hstart : (State.value []).After [] := ⟨rfl, trivial⟩
  unfold ofTokens? at h
  split at h
  · next u hdone =>
    obtain rfl := Option.some.inj h
    exact (hstart.run hdone).taken.symm
  · cases h

end Tree

/-! ### From tokens to texts -/

mutual

/-- The texts of a tree's tokens are a text of the tree. -/
theorem isText_of_tokens (t : Tree) {ts : List Token} {bs : Bytes}
    (h : AreTokensText (t.tokens ++ ts) bs) : ∃ before text rest, AreBlanks before ∧
      t.IsText text ∧ AreTokensText ts rest ∧ bs = before ++ text ++ rest := by
  match t with
  | .null | .bool b | .number n | .string s => exact h
  | .arr items =>
      rw [Tree.tokens, List.append_assoc, List.cons_append] at h
      obtain ⟨before, _, rest, hbefore, rfl, h, rfl⟩ := h
      obtain ⟨inner, after, hinner, hafter, rfl⟩ := areItems_of_tokens items h
      exact ⟨before, _, after, hbefore, ⟨inner, hinner, rfl⟩, hafter, by simp⟩
  | .obj members =>
      rw [Tree.tokens, List.append_assoc, List.cons_append] at h
      obtain ⟨before, _, rest, hbefore, rfl, h, rfl⟩ := h
      obtain ⟨inner, after, hinner, hafter, rfl⟩ := areMembers_of_tokens members h
      exact ⟨before, _, after, hbefore, ⟨inner, hinner, rfl⟩, hafter, by simp⟩

/-- The items of an array, up to its end. -/
theorem areItems_of_tokens (items : List Tree) {ts : List Token} {bs : Bytes}
    (h : AreTokensText (Tree.itemTokens items ++ .closeArray :: ts) bs) :
    ∃ inner rest, AreItemsText items inner ∧ AreTokensText ts rest ∧
      bs = inner ++ octet ']' :: rest := by
  match items with
  | [] =>
      obtain ⟨before, _, rest, hbefore, rfl, hrest, rfl⟩ := h
      exact ⟨before, rest, hbefore, hrest, by simp⟩
  | [t] =>
      obtain ⟨before, text, rest, hbefore, htext, hrest, rfl⟩ := isText_of_tokens t h
      obtain ⟨after, _, rest, hafter, rfl, hrest, rfl⟩ := hrest
      exact ⟨before ++ text ++ after, rest,
        ⟨before, text, after, [], hbefore, htext, hafter, by simp, rfl⟩, hrest, by simp⟩
  | t :: u :: r =>
      rw [Tree.itemTokens, List.append_assoc, List.cons_append] at h
      obtain ⟨before, text, rest, hbefore, htext, hrest, rfl⟩ := isText_of_tokens t h
      obtain ⟨after, _, rest, hafter, rfl, hrest, rfl⟩ := hrest
      obtain ⟨more, rest, hmore, hend, rfl⟩ := areItems_of_tokens (u :: r) hrest
      exact ⟨before ++ text ++ after ++ octet ',' :: more, rest,
        ⟨before, text, after, _, hbefore, htext, hafter, rfl, more, hmore, rfl⟩, hend, by simp⟩

/-- The members of an object, up to its end. -/
theorem areMembers_of_tokens (members : List (StringText × Tree)) {ts : List Token} {bs : Bytes}
    (h : AreTokensText (Tree.memberTokens members ++ .closeObject :: ts) bs) :
    ∃ inner rest, AreMembersText members inner ∧ AreTokensText ts rest ∧
      bs = inner ++ octet '\x7d' :: rest := by
  match members with
  | [] =>
      obtain ⟨before, _, rest, hbefore, rfl, hrest, rfl⟩ := h
      exact ⟨before, rest, hbefore, hrest, by simp⟩
  | [(k, t)] =>
      obtain ⟨before, name, _, hbefore, hname, h, rfl⟩ := h
      obtain ⟨between, _, rest, hbetween, rfl, h, rfl⟩ := h
      obtain ⟨around, text, rest, haround, htext, hrest, rfl⟩ := isText_of_tokens t h
      obtain ⟨after, _, rest, hafter, rfl, hrest, rfl⟩ := hrest
      exact ⟨_, rest, ⟨before, name, between, around, text, after, [], hbefore, hname, hbetween,
        haround, htext, hafter, rfl, rfl⟩, hrest, by simp⟩
  | (k, t) :: m :: r =>
      simp only [Tree.memberTokens, List.cons_append, List.append_assoc] at h
      obtain ⟨before, name, _, hbefore, hname, h, rfl⟩ := h
      obtain ⟨between, _, rest, hbetween, rfl, h, rfl⟩ := h
      obtain ⟨around, text, rest, haround, htext, hrest, rfl⟩ := isText_of_tokens t h
      obtain ⟨after, _, rest, hafter, rfl, hrest, rfl⟩ := hrest
      obtain ⟨more, rest, hmore, hend, rfl⟩ := areMembers_of_tokens (m :: r) hrest
      exact ⟨_, rest, ⟨before, name, between, around, text, after, _, hbefore, hname, hbetween,
        haround, htext, hafter, rfl, more, hmore, rfl⟩, hend, by simp⟩

end

/-- **A text is read as a tree exactly when it writes the tree.** -/
theorem Tree.ofBytes?_iff {t : Tree} {bs : Bytes} : Tree.ofBytes? bs = some t ↔ t.IsDocument bs := by
  constructor
  · intro h
    obtain ⟨ts, hts, h⟩ := Option.bind_eq_some_iff.mp h
    have htokens := areTokensText_of_tokensFrom? (m := .ready) rfl hts
    rw [Tree.eq_tokens_of_ofTokens? h, List.nil_append, ← List.append_nil t.tokens] at htokens
    obtain ⟨before, text, after, hbefore, htext, hafter, rfl⟩ := isText_of_tokens t htokens
    exact ⟨before, text, after, hbefore, htext, hafter, rfl⟩
  · exact Tree.IsDocument.ofBytes?

end AccountWire.Json
