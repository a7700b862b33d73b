import AccountWire.Json.Basic
import AccountWire.Number.Shortest
import AccountWire.Text.Outline

/-!
# Writing JSON

`print` writes a value without blanks, members in their order.  Inside a string the quote, the
backslash and the characters below the space are escaped and nothing else is.

A double is written with the fewest digits that read back: positionally, with at least one digit
on both sides of the point, while the point stands within the first sixteen digits or at most
four zeros follow it; with an exponent otherwise.
-/

namespace AccountWire.Json

/-- Where the positional writing of doubles ends. -/
structure FloatLayout where
  /-- The most digits before the point. -/
  maxWhole : Int
  /-- The most zeros right after the point. -/
  maxLeadingZeros : Int

/-- Up to sixteen digits stand before the point and up to four zeros after it. -/
def floatLayout : FloatLayout := ⟨16, 4⟩

/-- Writes `d`, which is not zero. -/
def printDecimal (layout : FloatLayout) (d : Binary64.Decimal) : List Char :=
  let ds := Nat.toDigits 10 d.digits
  -- the value is `0.ds * 10 ^ point`
  let point := d.exponent + ds.length
  if 0 ≤ d.exponent ∧ point ≤ layout.maxWhole then
    ds ++ List.replicate d.exponent.toNat '0' ++ ['.', '0']
  else if 0 < point ∧ point ≤ layout.maxWhole then
    ds.take point.toNat ++ '.' :: ds.drop point.toNat
  else if point ≤ 0 ∧ -layout.maxLeadingZeros ≤ point then
    '0' :: '.' :: List.replicate (-point).toNat '0' ++ ds
  else
    let power := 'e' :: (toString (point - 1)).toList
    match ds with
    | [d] => d :: power
    | d :: r => d :: '.' :: r ++ power
    | [] => power

/-- Writes a double. -/
def printFloat (x : Binary64) : List Char :=
  (if x.negative then ['-'] else []) ++
    if x.mantissa = 0 then ['0', '.', '0'] else printDecimal floatLayout x.shortest

/-- Writes an integer in base ten. -/
def printInt (n : Int) : List Char :=
  if n < 0 then '-' :: Nat.toDigits 10 n.natAbs else Nat.toDigits 10 n.natAbs

/-- Writes a number. -/
def Number.print : Number → List Char
  | .int n _ => printInt n
  | .float x => printFloat x

/-- The digit of a number below sixteen, lower case. -/
def hexDigit (n : Nat) : Char := Nat.digitChar n

/-- One character inside a string. -/
def printChar (c : Char) : List Char :=
  if c = '"' then ['\\', '"']
  else if c = '\\' then ['\\', '\\']
  else if c = '\n' then ['\\', 'n']
  else if c = '\r' then ['\\', 'r']
  else if c = '\t' then ['\\', 't']
  else if c = '\x08' then ['\\', 'b']
  else if c = '\x0c' then ['\\', 'f']
  else if c.toNat < 0x20 then
    ['\\', 'u', '0', '0', hexDigit (c.toNat / 16), hexDigit (c.toNat % 16)]
  else [c]

/-- A string with its quotes. -/
def printString (s : String) : List Char := '"' :: s.toList.flatMap printChar ++ ['"']

mutual

/-- Writes a value. -/
def print : Json → List Char
  | .null => ['n', 'u', 'l', 'l']
  | .bool true => ['t', 'r', 'u', 'e']
  | .bool false => ['f', 'a', 'l', 's', 'e']
  | .num n => n.print
  | .str s => printString s
  | .arr items => '[' :: printItems items ++ [']']
  | .obj members => '\x7b' :: printMembers members ++ ['\x7d']

/-- Writes the items of an array, commas between them. -/
def printItems : List Json → List Char
  | [] => []
  | [v] => print v
  | v :: r => print v ++ ',' :: printItems r

/-- Writes the members of an object, commas between them. -/
def printMembers : List (String × Json) → List Char
  | [] => []
  | [(k, v)] => printString k ++ ':' :: print v
  | (k, v) :: r => printString k ++ ':' :: print v ++ ',' :: printMembers r

end

/-- The text of a value. -/
def text (j : Json) : String := String.ofList j.print

/-- The octets of a value's text. -/
def bytes (j : Json) : Bytes := Utf8.encode j.print

mutual

/-- The outline of a value: its kind and its content. -/
def outlineText : Json → String
  | .null => "Null"
  | .bool b => "Bool(" ++ outline b ++ ")"
  | .num n => "Number(" ++ String.ofList n.print ++ ")"
  | .str s => "String(" ++ quoted s ++ ")"
  | .arr items => "Array " ++ Outline.sequence (outlineItems items)
  | .obj members => "Object " ++ Outline.table (outlineMembers members)

/-- The outlines of an array's items. -/
def outlineItems : List Json → List String
  | [] => []
  | v :: r => outlineText v :: outlineItems r

/-- The outlines of an object's members. -/
def outlineMembers : List (String × Json) → List (String × String)
  | [] => []
  | (k, v) :: r => (quoted k, outlineText v) :: outlineMembers r

end

instance : Outline Json := ⟨outlineText⟩

/-- The members of an object alone, without its kind. -/
def Members.outlineText (ms : Members) : String := Outline.table (outlineMembers ms)

end AccountWire.Json
