import AccountWire.Json.Basic
import AccountWire.Text.Split

/-!
# The tokens of a JSON text

A JSON text is read octet by octet by a machine with seven modes.  The tokens of numbers and
strings are *not interpreted*: a number keeps its digits and a string its octets and escapes, so
that a value nobody asks for may hold a number beyond every double, octets that are no UTF-8 or
half of a surrogate pair.  Interpretation is the work of `NumberText.number?` and `stringText?`.
-/

namespace AccountWire.Json

/-- The octet of an ASCII character. -/
def octet (c : Char) : UInt8 := UInt8.ofNat c.toNat

/-- A number as written: digits are numbers below ten. -/
structure NumberText where
  negative : Bool
  whole : List Nat
  /-- The digits after the point, if there is one. -/
  fraction : Option (List Nat)
  /-- The sign and the digits of the exponent, if there is one. -/
  exponent : Option (Bool × List Nat)
deriving Repr, DecidableEq

/-- A part of a string as written. -/
inductive StringPart where
  /-- An octet that stands for itself, or that a short escape stands for. -/
  | byte (b : UInt8)
  /-- A sixteen-bit unit, written as an escape. -/
  | unit (u : Nat)
deriving Repr, DecidableEq

/-- A string as written. -/
abbrev StringText := List StringPart

/-- A token of a JSON text. -/
inductive Token where
  | openArray | closeArray | openObject | closeObject | comma | colon
  | null
  | bool (b : Bool)
  | number (t : NumberText)
  | string (t : StringText)
deriving Repr, DecidableEq

/-! ### Numbers as written -/

/-- The digit that an octet is. -/
def digit? (b : UInt8) : Option Nat :=
  if octet '0' ≤ b ∧ b ≤ octet '9' then some (b.toNat - '0'.toNat) else none

/-- The digits that a text begins with, and the rest. -/
def takeDigits : Bytes → List Nat × Bytes
  | [] => ([], [])
  | b :: r =>
    match digit? b with
    | some d => let (ds, rest) := takeDigits r; (d :: ds, rest)
    | none => ([], b :: r)

/-- The exponent at the end of a number: nothing, or a mark, a sign and digits up to the end. -/
def exponentOf? : Bytes → Option (Option (Bool × List Nat))
  | [] => some none
  | b :: r =>
    if b = octet 'e' ∨ b = octet 'E' then
      let (negative, r) :=
        match r with
        | c :: s =>
          if c = octet '+' then (false, s) else if c = octet '-' then (true, s) else (false, c :: s)
        | [] => (false, [])
      match takeDigits r with
      | (d :: ds, []) => some (some (negative, d :: ds))
      | _ => none
    else none

/-- The number that octets write. -/
def NumberText.ofBytes? (bs : Bytes) : Option NumberText :=
  let (negative, bs) :=
    match bs with
    | b :: r => if b = octet '-' then (true, r) else (false, b :: r)
    | [] => (false, [])
  match takeDigits bs with
  | ([], _) => none
  | (0 :: _ :: _, _) => none
  | (whole, b :: r) =>
    if b = octet '.' then
      match takeDigits r with
      | ([], _) => none
      | (fraction, rest) => (exponentOf? rest).map (⟨negative, whole, some fraction, ·⟩)
    else (exponentOf? (b :: r)).map (⟨negative, whole, none, ·⟩)
  | (whole, []) => some ⟨negative, whole, none, none⟩

/-! ### The machine -/

/-- Where the machine stands. Lists are kept last first. -/
inductive Mode where
  /-- Between tokens. -/
  | ready
  /-- Inside one of the three words. -/
  | word (read : Bytes)
  /-- Inside a number. -/
  | number (read : Bytes)
  /-- Inside a string. -/
  | string (read : StringText)
  /-- After a backslash. -/
  | escape (read : StringText)
  /-- Inside a numeric escape: how many digits are owed, and the value of those read. -/
  | unit (read : StringText) (owed value : Nat)
deriving Repr, DecidableEq

/-- The token of a word. -/
def wordToken? (word : Bytes) : Option Token :=
  if word = "null".toList.map octet then some .null
  else if word = "true".toList.map octet then some (.bool true)
  else if word = "false".toList.map octet then some (.bool false)
  else none

/-- Whether an octet may stand in a number. -/
def isNumeric (b : UInt8) : Bool :=
  (digit? b).isSome || b = octet '-' || b = octet '+' || b = octet '.' || b = octet 'e' ||
    b = octet 'E'

/-- Whether an octet may stand in a word. -/
def isLetter (b : UInt8) : Bool := octet 'a' ≤ b && b ≤ octet 'z'

/-- The token that an octet is by itself, or the mode that it opens. -/
def openToken (b : UInt8) : Option (List Token × Mode) :=
  if b = octet ' ' ∨ b = octet '\n' ∨ b = octet '\r' ∨ b = octet '\t' then some ([], .ready)
  else if b = octet '[' then some ([.openArray], .ready)
  else if b = octet ']' then some ([.closeArray], .ready)
  else if b = octet '\x7b' then some ([.openObject], .ready)
  else if b = octet '\x7d' then some ([.closeObject], .ready)
  else if b = octet ',' then some ([.comma], .ready)
  else if b = octet ':' then some ([.colon], .ready)
  else if b = octet '"' then some ([], .string [])
  else if isNumeric b then some ([], .number [b])
  else if isLetter b then some ([], .word [b])
  else none

/-- The octet that a short escape stands for. -/
def shortEscape? (b : UInt8) : Option UInt8 :=
  if b = octet '"' ∨ b = octet '\\' ∨ b = octet '/' then some b
  else if b = octet 'b' then some 0x08
  else if b = octet 'f' then some 0x0C
  else if b = octet 'n' then some 0x0A
  else if b = octet 'r' then some 0x0D
  else if b = octet 't' then some 0x09
  else none

/-- The value of a digit in base sixteen. -/
def hexOctet? (b : UInt8) : Option Nat :=
  if octet '0' ≤ b ∧ b ≤ octet '9' then some (b.toNat - '0'.toNat)
  else if octet 'a' ≤ b ∧ b ≤ octet 'f' then some (b.toNat - 'a'.toNat + 10)
  else if octet 'A' ≤ b ∧ b ≤ octet 'F' then some (b.toNat - 'A'.toNat + 10)
  else none

/-- Reads one octet: the tokens that it ends or is, and the mode after it. -/
def Mode.step : Mode → UInt8 → Option (List Token × Mode)
  | .ready, b => openToken b
  | .word read, b =>
    if isLetter b then some ([], .word (b :: read))
    else do
      let t ← wordToken? read.reverse
      let (ts, m) ← openToken b
      some (t :: ts, m)
  | .number read, b =>
    if isNumeric b then some ([], .number (b :: read))
    else do
      let t ← NumberText.ofBytes? read.reverse
      let (ts, m) ← openToken b
      some (.number t :: ts, m)
  | .string read, b =>
    if b = octet '"' then some ([.string read.reverse], .ready)
    else if b = octet '\\' then some ([], .escape read)
    else if b < 0x20 then none
    else some ([], .string (.byte b :: read))
  | .escape read, b =>
    if b = octet 'u' then some ([], .unit read 4 0)
    else (shortEscape? b).map fun c => ([], .string (.byte c :: read))
  | .unit read owed value, b =>
    (hexOctet? b).map fun d =>
      let value := 16 * value + d
      if owed ≤ 1 then ([], .string (.unit value :: read)) else ([], .unit read (owed - 1) value)

/-- The tokens that the end of the text ends. -/
def Mode.finish : Mode → Option (List Token)
  | .ready => some []
  | .word read => (wordToken? read.reverse).map ([·])
  | .number read => (NumberText.ofBytes? read.reverse).map fun t => [.number t]
  | .string _ | .escape _ | .unit .. => none

/-- The tokens of a text that the machine reads from a mode on. -/
def tokensFrom? : Mode → Bytes → Option (List Token)
  | m, [] => m.finish
  | m, b :: r => do
    let (ts, m) ← m.step b
    let rest ← tokensFrom? m r
    some (ts ++ rest)

/-- The tokens of a text. -/
def tokens? (bs : Bytes) : Option (List Token) := tokensFrom? .ready bs

/-! ### Interpretation -/

/-- Takes in digits as long as the number still fits a word: the number, and the digits left. -/
def fitDigits : Nat → List Nat → Nat × List Nat
  | n, [] => (n, [])
  | n, d :: r => if 10 * n + d < 0x10000000000000000 then fitDigits (10 * n + d) r else (n, d :: r)

/-- The double nearest to `10 ^ k`, for `k` up to 308. -/
def powerOfTen (k : Nat) : Binary64 := (Binary64.ofRatio? false (Nat.pow 10 k) 1).getD default

/-- `x * 10 ^ e` in double arithmetic: one product or quotient by a power of ten, after as many
quotients by the greatest power as are needed to bring the exponent within its reach.  Two of
these make every double zero, so four rounds are enough. -/
def scaleFloat? : Nat → Binary64 → Int → Option Binary64
  | 0, x, _ => some x
  | rounds + 1, x, e =>
    if e.natAbs ≤ 308 then
      if 0 ≤ e then x.mul? (powerOfTen e.toNat) else x.div? (powerOfTen (-e).toNat)
    else if x.mantissa = 0 then some x
    else if 0 ≤ e then none
    else do
      let y ← x.div? (powerOfTen 308)
      scaleFloat? rounds y (e + 308)

/-- The double `significand * 10 ^ e` with a sign. -/
def floatOf? (negative : Bool) (significand : Nat) (e : Int) : Option Number := do
  let x ← Binary64.ofRatio? false significand 1
  let y ← scaleFloat? 4 x e
  some (.float { y with negative := negative })

/-- The integer of a sign and a word, a double when it is zero with a sign or too small. -/
def integerOf? (negative : Bool) (n : Nat) : Option Number :=
  if negative then
    if n = 0 ∨ 0x8000000000000000 < n then floatOf? true n 0 else Number.ofInt? (-n)
  else Number.ofInt? n

/-- The greatest exponent that is counted; one beyond it makes the number zero or too great. -/
def exponentLimit : Nat := 2147483647

/-- The number that a text writes, or `none` when it is beyond the doubles.  Digits that do not
fit a word count as zeros before the point and are dropped after it. -/
def NumberText.number? (t : NumberText) : Option Number :=
  let (n, beyond) := fitDigits 0 t.whole
  match t.fraction, t.exponent, beyond with
  | none, none, [] => integerOf? t.negative n
  | fraction, exponent, beyond =>
    let digits := fraction.getD []
    let (n, dropped) := fitDigits n digits
    let point : Int := beyond.length - (digits.length - dropped.length : Nat)
    match exponent with
    | none => floatOf? t.negative n point
    | some (down, ds) =>
      let e := ds.foldl (fun e d => 10 * e + d) 0
      if exponentLimit < e then
        if n ≠ 0 ∧ !down then none else floatOf? t.negative 0 0
      else floatOf? t.negative n (if down then point - e else point + e)

/-- The octets of a string's parts.  A unit of a surrogate pair counts only together with its
partner, which must be written as an escape too. -/
def stringOctets? : StringText → Option Bytes
  | [] => some []
  | .byte b :: r => (stringOctets? r).map (b :: ·)
  | .unit u :: .unit v :: r =>
    if 0xD800 ≤ u ∧ u < 0xDC00 then
      if 0xDC00 ≤ v ∧ v < 0xE000 then
        let c := Char.ofNat (0x10000 + (u - 0xD800) * 0x400 + (v - 0xDC00))
        (stringOctets? r).map (Utf8.encodeChar c ++ ·)
      else none
    else if 0xDC00 ≤ u ∧ u < 0xE000 then none
    else (stringOctets? (.unit v :: r)).map (Utf8.encodeChar (Char.ofNat u) ++ ·)
  | .unit u :: r =>
    if 0xD800 ≤ u ∧ u < 0xE000 then none
    else (stringOctets? r).map (Utf8.encodeChar (Char.ofNat u) ++ ·)

/-- The text that a string writes. -/
def stringText? (t : StringText) : Option String := (stringOctets? t).bind Utf8.toString?

end AccountWire.Json
