/-!
# Octets and characters: UTF-8

A text travels as octets.  `encode` writes characters as octets; reading goes through one
machine, `scan`, which answers with one entry per character and one empty entry per *maximal
ill-formed subpart*: the longest stretch of octets that begins some character and can no longer
be continued to one.  The two readers differ only in what they make of an empty entry:

* `decode?` refuses the whole text;
* `decodeLossy` puts U+FFFD in its place.
-/

namespace AccountWire

/-- A sequence of octets, as it travels. -/
abbrev Bytes := List UInt8

namespace Utf8

/-- The octets of one character. -/
def encodeChar (c : Char) : Bytes :=
  let n := c.toNat
  if n < 0x80 then [UInt8.ofNat n]
  else if n < 0x800 then [UInt8.ofNat (0xC0 + n / 0x40), UInt8.ofNat (0x80 + n % 0x40)]
  else if n < 0x10000 then
    [UInt8.ofNat (0xE0 + n / 0x1000), UInt8.ofNat (0x80 + n / 0x40 % 0x40),
      UInt8.ofNat (0x80 + n % 0x40)]
  else
    [UInt8.ofNat (0xF0 + n / 0x40000), UInt8.ofNat (0x80 + n / 0x1000 % 0x40),
      UInt8.ofNat (0x80 + n / 0x40 % 0x40), UInt8.ofNat (0x80 + n % 0x40)]

/-- The octets of a list of characters. -/
def encode (cs : List Char) : Bytes := cs.flatMap encodeChar

/-- A character begun but not ended: the bits read so far, how many octets are still owed, and
the least and the greatest value the next one may have. -/
structure Pending where
  bits : Nat
  owed : Nat
  low : Nat
  high : Nat
deriving Repr, DecidableEq

/-- What an octet between characters does. -/
inductive Opening where
  /-- The octet is a character by itself. -/
  | char (c : Char)
  /-- The octet begins a longer character. -/
  | pending (p : Pending)
  /-- No character begins with the octet. -/
  | illFormed

/-- Reads an octet between characters. -/
def opening (b : UInt8) : Opening :=
  let n := b.toNat
  if n < 0x80 then .char (Char.ofNat n)
  else if n < 0xC2 then .illFormed
  else if n < 0xE0 then .pending ⟨n - 0xC0, 1, 0x80, 0xBF⟩
  else if n = 0xE0 then .pending ⟨0, 2, 0xA0, 0xBF⟩
  else if n = 0xED then .pending ⟨0xD, 2, 0x80, 0x9F⟩
  else if n < 0xF0 then .pending ⟨n - 0xE0, 2, 0x80, 0xBF⟩
  else if n = 0xF0 then .pending ⟨0, 3, 0x90, 0xBF⟩
  else if n < 0xF4 then .pending ⟨n - 0xF0, 3, 0x80, 0xBF⟩
  else if n = 0xF4 then .pending ⟨4, 3, 0x80, 0x8F⟩
  else .illFormed

/-- Reads a text: one entry per character, `none` per maximal ill-formed subpart.  An octet that
cannot continue the pending character ends it and is read again as the start of the next. -/
def scan : Option Pending → Bytes → List (Option Char)
  | none, [] => []
  | some _, [] => [none]
  | none, b :: r =>
    match opening b with
    | .char c => some c :: scan none r
    | .pending p => scan (some p) r
    | .illFormed => none :: scan none r
  | some p, b :: r =>
    if p.low ≤ b.toNat ∧ b.toNat ≤ p.high then
      let bits := p.bits * 0x40 + (b.toNat - 0x80)
      if p.owed ≤ 1 then some (Char.ofNat bits) :: scan none r
      else scan (some ⟨bits, p.owed - 1, 0x80, 0xBF⟩) r
    else
      match opening b with
      | .char c => none :: some c :: scan none r
      | .pending q => none :: scan (some q) r
      | .illFormed => none :: none :: scan none r

/-- The characters of a well-formed text. -/
def decode? (bs : Bytes) : Option (List Char) := (scan none bs).mapM id

/-- The mark that stands for an ill-formed subpart. -/
def replacement : Char := Char.ofNat 0xFFFD

/-- The characters of any text, each ill-formed subpart replaced by U+FFFD. -/
def decodeLossy (bs : Bytes) : List Char := (scan none bs).map (·.getD replacement)

/-- The text that octets stand for, if they are well formed. -/
def toString? (bs : Bytes) : Option String := (decode? bs).map String.ofList

/-- The text that octets stand for, ill-formed subparts replaced. -/
def toStringLossy (bs : Bytes) : String := String.ofList (decodeLossy bs)

end Utf8

/-- The octets of a text. -/
def Utf8.ofString (s : String) : Bytes := Utf8.encode s.toList

end AccountWire
