import AccountWire.Text.Split
import AccountWire.Url.Percent

/-!
# Query parameters

A query is a list of parameters, name and value.  In writing, letters, digits and the four marks
`*`, `-`, `.`, `_` stand for themselves, the space becomes a plus sign and every other octet is
escaped; pairs are joined by `&`, name and value by `=`.  Any text can be read as a query: empty
pieces are skipped, a piece without `=` is a name with an empty value, and octets that are no
UTF-8 are replaced.

`sortByName` brings the parameters of a query into one order: pairs ascend by name, and pairs of one
name keep their order.
-/

namespace AccountWire.Query

/-- A parameter: name and value. -/
abbrev Pair := String × String

/-- Whether an octet stands for itself. -/
def isPlain (b : UInt8) : Bool :=
  let n := b.toNat
  (0x30 ≤ n && n ≤ 0x39) || (0x41 ≤ n && n ≤ 0x5A) || (0x61 ≤ n && n ≤ 0x7A) ||
    n = 0x2A || n = 0x2D || n = 0x2E || n = 0x5F

/-- Writes one octet of a name or value. -/
def encodeOctet (b : UInt8) : Bytes :=
  if isPlain b then [b] else if b = 0x20 then [0x2B] else Percent.escape b

/-- Writes a name or value. -/
def encodeText (s : String) : Bytes := (Utf8.ofString s).flatMap encodeOctet

/-- Writes one parameter. -/
def encodePair (p : Pair) : Bytes := encodeText p.1 ++ 0x3D :: encodeText p.2

/-- Writes a query. -/
def encode (ps : List Pair) : Bytes := Split.join [0x26] (ps.map encodePair)

/-- The text of a query. -/
def encodeString (ps : List Pair) : String := String.ofList (Percent.asciiChars (encode ps))

/-- Reads a name or value. -/
def decodeText (bs : Bytes) : String :=
  Utf8.toStringLossy (Percent.decode (bs.map fun b => if b = 0x2B then 0x20 else b))

/-- Reads one parameter. -/
def decodePair (bs : Bytes) : Pair :=
  match Split.atFirst? (· == 0x3D) bs with
  | some (name, value) => (decodeText name, decodeText value)
  | none => (decodeText bs, "")

/-- Reads a query. -/
def decode (bs : Bytes) : List Pair :=
  ((Split.pieces (· == 0x26) bs).filter (· ≠ [])).map decodePair

/-- Reads the text of a query. -/
def decodeString (s : String) : List Pair := decode (Utf8.ofString s)

/-- Puts a pair before the first one of a greater name. -/
def insertByName (p : Pair) : List Pair → List Pair
  | [] => [p]
  | q :: r => if q.1 < p.1 then q :: insertByName p r else p :: q :: r

/-- The pairs in ascending order of their names; pairs of one name keep their order. -/
def sortByName : List Pair → List Pair
  | [] => []
  | p :: r => insertByName p (sortByName r)

end AccountWire.Query
