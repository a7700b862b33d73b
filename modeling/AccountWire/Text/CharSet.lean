import AccountWire.Text.Split

/-!
# Sets and maps of characters, written as ranges

Properties of characters are long lists of ranges.  A table module writes them as a text, ranges
in ascending order and separated by blanks, code points in base sixteen:

* a set has entries `41-5A` or `AA`;
* a map has entries `41-5A/1:61`, which sends every first (or second, …) code point of the range
  to the one as far from `61` as it is from `41`, or `300-314/0:E6`, which sends the whole range to
  one image, or `FB00:66.66`, which sends one code point to several; `AD:` sends it to none.

The texts are decoded once; look-up is by bisection.
-/

namespace AccountWire

/-- The value of a digit in base sixteen. -/
def hexDigit? (c : Char) : Option Nat :=
  if '0' ≤ c ∧ c ≤ '9' then some (c.toNat - '0'.toNat)
  else if 'a' ≤ c ∧ c ≤ 'f' then some (c.toNat - 'a'.toNat + 10)
  else if 'A' ≤ c ∧ c ≤ 'F' then some (c.toNat - 'A'.toNat + 10)
  else none

/-- The number that digits in base sixteen write, other characters skipped. -/
def hexNumber (cs : List Char) : Nat :=
  (cs.filterMap hexDigit?).foldl (fun n d => 16 * n + d) 0

/-- How many entries of an ascending array are at most `n`. -/
def rank (a : Array Nat) (n : Nat) : Nat :=
  search 0 a.size
where
  /-- Bisects between positions that are known to be within and beyond. -/
  search (lo hi : Nat) : Nat :=
    if lo < hi then
      let mid := (lo + hi) / 2
      if a.getD mid 0 ≤ n then search (mid + 1) hi else search lo mid
    else lo
  termination_by hi - lo

/-- The entries of a table text. -/
def tableEntries (text : String) : List (List Char) :=
  (Split.pieces (fun c => c == ' ' || c == '\n') text.toList).filter (· ≠ [])

/-- The first and the last code point of an entry's range. -/
def rangeEnds (cs : List Char) : Nat × Nat :=
  match Split.atFirst? (· == '-') cs with
  | some (a, b) => (hexNumber a, hexNumber b)
  | none => (hexNumber cs, hexNumber cs)

/-- A set of characters, as the ascending code points at which membership changes. -/
structure CharSet where
  edges : Array Nat

namespace CharSet

/-- The set that a table text lists. -/
def ofText (text : String) : CharSet :=
  ⟨((tableEntries text).flatMap fun e =>
    let (a, b) := rangeEnds e
    [a, b + 1]).toArray⟩

/-- Whether a code point is in the set. -/
def has (s : CharSet) (n : Nat) : Bool := rank s.edges n % 2 == 1

end CharSet

/-- One entry of a character map: the range, the distance between its members, and the image of the
first one; at distance zero, all code points of the range have that image. -/
structure CharMapEntry where
  first : Nat
  last : Nat
  step : Nat
  image : List Nat
deriving Inhabited

/-- A map from characters to lists of characters, as ascending entries. -/
structure CharMap where
  firsts : Array Nat
  entries : Array CharMapEntry

namespace CharMap

/-- Reads one entry of a table text. -/
def entry (cs : List Char) : CharMapEntry :=
  let (key, image) := (Split.atFirst? (· == ':') cs).getD (cs, [])
  let (range, step) := (Split.atFirst? (· == '/') key).getD (key, ['1'])
  let (a, b) := rangeEnds range
  ⟨a, b, hexNumber step, ((Split.pieces (· == '.') image).filter (· ≠ [])).map hexNumber⟩

/-- The map that a table text lists. -/
def ofText (text : String) : CharMap :=
  let es := (tableEntries text).map entry
  ⟨(es.map (·.first)).toArray, es.toArray⟩

/-- The image of a code point, if the map lists it. -/
def find? (m : CharMap) (n : Nat) : Option (List Nat) :=
  match rank m.firsts n with
  | 0 => none
  | i + 1 =>
    match m.entries[i]? with
    | none => none
    | some e =>
      if e.last < n then none
      else if e.step = 0 then some e.image
      else if (n - e.first) % e.step ≠ 0 then none
      else
        match e.image with
        | [image] => some [image + (n - e.first)]
        | image => some image

end CharMap

end AccountWire
