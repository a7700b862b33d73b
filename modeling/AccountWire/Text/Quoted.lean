import AccountWire.Text.Printable

/-!
# Quoted text

Messages show a text between double quotes.  Characters that would be misread inside the quotes
or that do not print as themselves are escaped, so that two different texts are never shown
alike:

* `\"` and `\\` for the quote and the backslash, `\n`, `\r`, `\t` and `\0` by name;
* `\u` and the code point in base sixteen between curly brackets for all others that do not print.
-/

namespace AccountWire.Quoted

/-- The digits of a number in base sixteen, lower case, without leading zeros. -/
def hexText (n : Nat) : List Char := Nat.toDigits 16 n

/-- One character as it stands between the quotes. -/
def encodeChar (c : Char) : List Char :=
  if c = '"' then ['\\', '"']
  else if c = '\\' then ['\\', '\\']
  else if c = '\n' then ['\\', 'n']
  else if c = '\r' then ['\\', 'r']
  else if c = '\t' then ['\\', 't']
  else if c = '\x00' then ['\\', '0']
  else if isPrintable c then [c]
  else ['\\', 'u', '\x7b'] ++ hexText c.toNat ++ ['\x7d']

/-- A text between quotes. -/
def encode (cs : List Char) : List Char := '"' :: cs.flatMap encodeChar ++ ['"']

end AccountWire.Quoted

namespace AccountWire

/-- A text as messages show it, between quotes. -/
def quoted (s : String) : String := String.ofList (Quoted.encode s.toList)

end AccountWire
