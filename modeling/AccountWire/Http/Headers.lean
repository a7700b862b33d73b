import AccountWire.Text.Lowercase
import AccountWire.Text.Utf8

/-!
# Header fields

A header field is a name and a value of octets.  Names are compared in lower case; one name may
come with several values, whose order counts.
-/

namespace AccountWire.Http

/-- Header fields in the order in which they were added, names in lower case. -/
abbrev Headers := List (String × Bytes)

/-- Characters other than letters and digits that a name may have. -/
def nameMarks : List Char :=
  ['!', '"', '#', '$', '%', '&', '\'', '*', '+', '-', '.', '^', '_', '\x60', '|', '~']

/-- Whether a character may stand in a name, which is in lower case. -/
def isNameChar (c : Char) : Bool :=
  ('a' ≤ c && c ≤ 'z') || ('0' ≤ c && c ≤ '9') || nameMarks.contains c

/-- The most characters of a name. -/
def maxNameLength : Nat := 65535

/-- Whether a text in lower case is the name of a header field. -/
def isHeaderName (name : String) : Bool :=
  name ≠ "" && name.length ≤ maxNameLength && name.toList.all isNameChar

/-- Whether an octet may stand in a value: the tab, and everything from the space on but 127. -/
def isValueOctet (b : UInt8) : Bool := b = 0x09 || (0x20 ≤ b && b ≠ 0x7F)

/-- Whether octets are the value of a header field. -/
def isHeaderValue (value : Bytes) : Bool := value.all isValueOctet

/-- Whether an octet can be read as text: visible ASCII, the space and the tab. -/
def isReadableOctet (b : UInt8) : Bool := b = 0x09 || (0x20 ≤ b && b < 0x7F)

/-- The text of a value, if all of it can be read. -/
def readableValue? (value : Bytes) : Option String :=
  if value.all isReadableOctet then some (Utf8.toStringLossy value) else none

namespace Headers

/-- The values under a name, in order. -/
def values (h : Headers) (name : String) : List Bytes :=
  (h.filter (·.1 == name)).map (·.2)

/-- Puts a field behind the fields of lesser names and of its own. -/
def insertByName (field : String × Bytes) : Headers → Headers
  | [] => [field]
  | f :: r => if field.1 < f.1 then field :: f :: r else f :: insertByName field r

/-- The fields in ascending order of their names; fields of one name keep their order. -/
def byName (h : Headers) : Headers := h.foldl (fun sorted f => insertByName f sorted) []

end Headers

end AccountWire.Http
