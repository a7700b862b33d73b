import AccountWire.Text.Utf8

/-!
# Octets as letters: base sixty-four for URLs

Three octets are written as four characters of the URL-safe alphabet.  One or two octets at the end
are written as two or three characters; nothing fills the group up.
-/

namespace AccountWire.Base64Url

/-- The character of a number below sixty-four. -/
def letter (n : Nat) : Char :=
  if n < 26 then Char.ofNat (n + 'A'.toNat)
  else if n < 52 then Char.ofNat (n - 26 + 'a'.toNat)
  else if n < 62 then Char.ofNat (n - 52 + '0'.toNat)
  else if n = 62 then '-' else '_'

/-- Writes octets. -/
def encode : Bytes → List Char
  | [] => []
  | [a] =>
    let n := a.toNat * 16
    [letter (n / 64), letter (n % 64)]
  | [a, b] =>
    let n := (a.toNat * 256 + b.toNat) * 4
    [letter (n / 4096), letter (n / 64 % 64), letter (n % 64)]
  | a :: b :: c :: r =>
    let n := (a.toNat * 256 + b.toNat) * 256 + c.toNat
    letter (n / 262144) :: letter (n / 4096 % 64) :: letter (n / 64 % 64) :: letter (n % 64) ::
      encode r

/-- The text of octets. -/
def encodeString (bs : Bytes) : String := String.ofList (encode bs)

end AccountWire.Base64Url
