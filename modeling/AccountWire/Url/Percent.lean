import AccountWire.Text.Utf8

/-!
# Percent encoding

An octet that may not stand for itself is written as a percent sign and two digits in base
sixteen.  Which ASCII characters are written so depends on the part of the URL; octets beyond
ASCII always are.  Decoding leaves a percent sign alone that two digits do not follow.
-/

namespace AccountWire.Percent

/-- The upper-case digit of a number below sixteen. -/
def digit (n : Nat) : UInt8 := UInt8.ofNat (if n < 10 then 0x30 + n else 0x41 + (n - 10))

/-- The number that a digit in base sixteen is. -/
def digitValue? (b : UInt8) : Option Nat :=
  let n := b.toNat
  if 0x30 ≤ n ∧ n ≤ 0x39 then some (n - 0x30)
  else if 0x41 ≤ n ∧ n ≤ 0x46 then some (n - 0x41 + 10)
  else if 0x61 ≤ n ∧ n ≤ 0x66 then some (n - 0x61 + 10)
  else none

/-- The percent sign. -/
def sign : UInt8 := 0x25

/-- An octet as a percent sign and two digits. -/
def escape (b : UInt8) : Bytes := [sign, digit (b.toNat / 16), digit (b.toNat % 16)]

/-- Replaces every percent sign with two digits by the octet that they write. -/
def decode : Bytes → Bytes
  | [] => []
  | [b] => [b]
  | [b, c] => [b, c]
  | b :: c :: d :: r =>
    if b = sign then
      match digitValue? c, digitValue? d with
      | some h, some l => UInt8.ofNat (16 * h + l) :: decode r
      | _, _ => b :: decode (c :: d :: r)
    else b :: decode (c :: d :: r)

/-- The ASCII characters that a part of a URL escapes. -/
structure EscapeSet where
  escapes : Char → Bool

/-- Controls. -/
def controls : EscapeSet := ⟨fun c => c.toNat < 0x20 || c.toNat = 0x7F⟩

/-- A set with more characters. -/
def EscapeSet.add (s : EscapeSet) (more : List Char) : EscapeSet :=
  ⟨fun c => s.escapes c || more.contains c⟩

/-- What a fragment escapes. -/
def fragmentSet : EscapeSet := controls.add [' ', '"', '<', '>', '\x60']

/-- What a query escapes. -/
def querySet : EscapeSet := controls.add [' ', '"', '#', '<', '>']

/-- What the query of a special scheme escapes. -/
def specialQuerySet : EscapeSet := querySet.add ['\'']

/-- What a path escapes. -/
def pathSet : EscapeSet := fragmentSet.add ['#', '?', '\x7b', '\x7d']

/-- What a user name and a password escape. -/
def userinfoSet : EscapeSet := pathSet.add ['/', ':', ';', '=', '@', '[', '\\', ']', '^', '|']

/-- The characters of ASCII octets. -/
def asciiChars (bs : Bytes) : List Char := bs.map fun b => Char.ofNat b.toNat

/-- One character: itself, or the escapes of its octets. -/
def encodeChar (s : EscapeSet) (c : Char) : List Char :=
  if c.toNat < 0x80 ∧ !s.escapes c then [c]
  else asciiChars ((Utf8.encodeChar c).flatMap escape)

/-- A text with the characters of a set escaped. -/
def encode (s : EscapeSet) (cs : List Char) : List Char := cs.flatMap (encodeChar s)

end AccountWire.Percent
