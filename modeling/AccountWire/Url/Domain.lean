import AccountWire.Text.Composition
import AccountWire.Url.DomainTable
import AccountWire.Url.Punycode

/-!
# Domains

A domain is brought into one form before it is used: each character is kept, replaced or dropped
as the tables say, the result is composed, and labels that are not ASCII are written in ASCII with
a mark in front.  A label that comes with the mark must be one that this form produces.

Labels must obey rules that keep them readable: no mark at the beginning, invisible joiners only
between characters that join, and characters written from right to left only in labels that are
written so as a whole.
-/

namespace AccountWire.Url

open DomainTable

/-- ASCII characters that a domain must not have. -/
def forbiddenInDomain (c : Char) : Bool :=
  c.toNat ≤ 0x20 || c.toNat = 0x7F ||
    ['#', '%', '/', ':', '<', '>', '?', '@', '[', '\\', ']', '^', '|'].contains c

/-- What a character of a domain becomes. -/
def replaceChar? (c : Char) : Option (List Char) :=
  if valid.has c.toNat then some [c]
  else (replacements.find? c.toNat).map fun image => image.map Char.ofNat

/-- The characters of a domain after replacement and composition. -/
def replaced? (cs : List Char) : Option (List Char) :=
  (cs.mapM replaceChar?).map fun images => Composition.composed images.flatten

/-! ### Rules for labels -/

/-- The direction of a character. -/
inductive Direction where
  | left | right | arabic | arabicNumber | number | separator | commonSeparator | terminator
  | neutral | boundary | mark | other
deriving DecidableEq

/-- The direction of a character. -/
def direction (c : Char) : Direction :=
  match ((directions.find? c.toNat).bind List.head?).getD 0 with
  | 0 => .left
  | 1 => .right
  | 2 => .arabic
  | 3 => .arabicNumber
  | 4 => .number
  | 5 => .separator
  | 6 => .commonSeparator
  | 7 => .terminator
  | 8 => .neutral
  | 9 => .boundary
  | 10 => .mark
  | _ => .other

/-- Whether a direction makes the whole domain one with two directions. -/
def Direction.isRightToLeft (d : Direction) : Bool :=
  d = .right || d = .arabic || d = .arabicNumber

/-- Directions that labels of both kinds may have. -/
def Direction.isShared (d : Direction) : Bool :=
  [.number, .separator, .commonSeparator, .terminator, .neutral, .boundary, .mark].contains d

/-- Whether a label of a domain with two directions keeps to one of them. -/
def keepsDirection (label : List Char) : Bool :=
  let ds := label.map direction
  let final := (ds.reverse.dropWhile (· = .mark)).head?
  match ds with
  | [] => true
  | .left :: _ =>
    ds.all (fun d => d = .left || d.isShared) && (final = some .left || final = some .number)
  | d :: _ =>
    (d = .right || d = .arabic) && ds.all (fun d => d.isRightToLeft || d.isShared) &&
      (match final with
        | some .right | some .arabic | some .number | some .arabicNumber => true
        | _ => false) &&
      !(ds.contains .number && ds.contains .arabicNumber)

/-- How a character joins its neighbours: to the left, to the right, to both, or not visibly. -/
def joining (c : Char) : Nat := ((joinings.find? c.toNat).bind List.head?).getD 0

/-- The class of marks that join letters into one. -/
def joiningMarkClass : Nat := 9

/-- Whether the nearest character that joins visibly does so in one of the given ways. -/
def joinsBy (ways : List Nat) (cs : List Char) : Bool :=
  match cs.find? (fun c => joining c ≠ 4) with
  | some c => ways.contains (joining c)
  | none => false

/-- Whether the joiners of a label stand where they may; `before` is what was read, last first. -/
def joinersFit (before : List Char) : List Char → Bool
  | [] => true
  | c :: r =>
    let afterMark :=
      match before with
      | b :: _ => Composition.markClass b.toNat = joiningMarkClass
      | [] => false
    let fits :=
      if c.toNat = 0x200D then afterMark
      else if c.toNat = 0x200C then afterMark || (joinsBy [1, 3] before && joinsBy [2, 3] r)
      else true
    fits && joinersFit (c :: before) r

/-- Whether characters make a label. -/
def isLabel (label : List Char) : Bool :=
  label.all (fun c => valid.has c.toNat && !forbiddenInDomain c) &&
    (match label with
      | c :: _ => !marks.has c.toNat
      | [] => true) &&
    joinersFit [] label

/-! ### The one form -/

/-- The mark of labels that are written in ASCII. -/
def labelMark : List Char := ['x', 'n', '-', '-']

/-- Whether all characters are ASCII. -/
def isAscii (cs : List Char) : Bool := cs.all (·.toNat < 0x80)

/-- The label that replaced characters stand for. -/
def readLabel? (cs : List Char) : Option (List Char) :=
  if labelMark.isPrefixOf cs then do
    let label ← Punycode.decode? (cs.drop labelMark.length)
    if isAscii label ∨ Composition.composed label ≠ label then none else some label
  else some cs

/-- A label in ASCII. -/
def writeLabel (label : List Char) : List Char :=
  if isAscii label then label else labelMark ++ Punycode.encode label

/-- Whether a domain has only ASCII characters and no label that comes with the mark. -/
def isPlain (cs : List Char) : Bool :=
  isAscii cs && (Split.pieces (· == '.') cs).all fun label =>
    !labelMark.isPrefixOf (label.map Char.toLower)

/-- A plain domain in its one form, lower case.  The tables say the same about ASCII characters,
but are not asked. -/
def plainToAscii? (cs : List Char) : Option (List Char) :=
  let domain := cs.map Char.toLower
  if domain.any forbiddenInDomain then none else some domain

/-- A domain that need not be plain in its one form. -/
def labelsToAscii? (cs : List Char) : Option (List Char) := do
  let replaced ← replaced? cs
  let labels ← (Split.pieces (· == '.') replaced).mapM readLabel?
  if !labels.all isLabel then none
  else if labels.any (·.any fun c => (direction c).isRightToLeft) ∧ !labels.all keepsDirection then
    none
  else some (Split.join ['.'] (labels.map writeLabel))

/-- A domain in ASCII, if it obeys the rules. -/
def domainToAscii? (cs : List Char) : Option (List Char) :=
  if isPlain cs then plainToAscii? cs else labelsToAscii? cs

end AccountWire.Url
