import AccountWire.Text.CharSet

/-!
# Addresses in the place of a host

A host whose last label is a number is an address of four octets, whichever way its parts are
written: in base eight, ten or sixteen, and the last part may stand for several octets.  A host
between square brackets is an address of eight sixteen-bit pieces; one run of zero pieces may be
left out, and the last two pieces may be written as four octets.

An address is always written in one way: four octets in base ten; eight pieces in base sixteen
with the first of the longest runs of at least two zeros left out.
-/

namespace AccountWire.Url

/-- The number that digits of a base write, if all characters are such digits. -/
def digitsValue? (base : Nat) (cs : List Char) : Option Nat :=
  cs.foldlM (fun n c =>
    match hexDigit? c with
    | some d => if d < base then some (base * n + d) else none
    | none => none) 0

/-! ### Four octets -/

/-- One part of an address of four octets. -/
def ipv4Part? : List Char → Option Nat
  | [] => none
  | ['0'] => some 0
  | '0' :: 'x' :: r => digitsValue? 16 r
  | '0' :: 'X' :: r => digitsValue? 16 r
  | '0' :: r => digitsValue? 8 r
  | cs => digitsValue? 10 cs

/-- The labels of a domain, an empty last one left out. -/
def domainLabels (cs : List Char) : List (List Char) :=
  let labels := Split.pieces (· == '.') cs
  if labels.getLast? = some [] then labels.dropLast else labels

/-- Whether the last label of a domain is a number, so that the domain has to be an address. -/
def endsInNumber (cs : List Char) : Bool :=
  match (domainLabels cs).getLast? with
  | none => false
  | some [] => false
  | some last => last.all (fun c => '0' ≤ c && c ≤ '9') || (ipv4Part? last).isSome

/-- The address that parts write: every part but the last is one octet, and the last part is all
octets that are left. -/
def ipv4OfParts? : List Nat → Option Nat
  | [] => none
  | ns =>
    let octets := ns.dropLast
    let last := ns.getLast?.getD 0
    if octets.any (255 < ·) then none
    else if 4 < ns.length then none
    else if Nat.pow 256 (4 - octets.length) ≤ last then none
    else
      some ((octets.foldl (fun n d => 256 * n + d) 0) * Nat.pow 256 (4 - octets.length) + last)

/-- Reads an address of four octets. -/
def ipv4? (cs : List Char) : Option Nat := do
  let labels := domainLabels cs
  if 4 < labels.length then none
  else ipv4OfParts? (← labels.mapM ipv4Part?)

/-- Writes an address of four octets. -/
def printIpv4 (n : Nat) : List Char :=
  Split.join ['.'] ([n / 0x1000000 % 256, n / 0x10000 % 256, n / 0x100 % 256, n % 256].map
    (Nat.toDigits 10))

/-! ### Eight pieces -/

/-- A piece: one to four digits in base sixteen. -/
def ipv6Piece? (cs : List Char) : Option Nat :=
  if cs.length = 0 ∨ 4 < cs.length then none else digitsValue? 16 cs

/-- One of the four octets at the end: base ten, at most 255, no leading zero. -/
def ipv6Octet? : List Char → Option Nat
  | [] => none
  | '0' :: _ :: _ => none
  | cs =>
    match digitsValue? 10 cs with
    | some n => if n ≤ 255 then some n else none
    | none => none

/-- The two pieces that four octets write. -/
def ipv6Tail? (cs : List Char) : Option (List Nat) :=
  match (Split.pieces (· == '.') cs).map ipv6Octet? with
  | [some a, some b, some c, some d] => some [256 * a + b, 256 * c + d]
  | _ => none

/-- The pieces between colons; the last one may be written as four octets if `tail` says so. -/
def ipv6Pieces? (tail : Bool) : List (List Char) → Option (List Nat)
  | [] => some []
  | [p] => if tail && p.contains '.' then ipv6Tail? p else (ipv6Piece? p).map ([·])
  | p :: q :: r => do
    let n ← ipv6Piece? p
    let ns ← ipv6Pieces? tail (q :: r)
    some (n :: ns)

/-- The pieces of one side of the gap. -/
def ipv6Side? (tail : Bool) (cs : List Char) : Option (List Nat) :=
  if cs = [] then some [] else ipv6Pieces? tail (Split.pieces (· == ':') cs)

/-- What stands before and after the first gap `::`. -/
def ipv6Gap? : List Char → Option (List Char × List Char)
  | [] => none
  | [_] => none
  | a :: b :: r =>
    if a = ':' ∧ b = ':' then some ([], r)
    else (ipv6Gap? (b :: r)).map fun (before, after) => (a :: before, after)

/-- Reads an address of eight pieces.  A gap stands for at least one piece. -/
def ipv6? (cs : List Char) : Option (List Nat) :=
  match ipv6Gap? cs with
  | some (before, after) => do
    let l ← ipv6Side? false before
    let r ← ipv6Side? true after
    if l.length + r.length ≤ 7 then
      some (l ++ List.replicate (8 - l.length - r.length) 0 ++ r)
    else none
  | none => do
    let l ← ipv6Side? true cs
    if l.length = 8 then some l else none

/-- The length of the run of zeros that a list begins with. -/
def zeroRun (l : List Nat) : Nat := (l.takeWhile (· = 0)).length

/-- The place and the length of the first of the longest runs of zeros. -/
def longestZeroRun (l : List Nat) : Nat × Nat :=
  (List.range l.length).foldl (fun (place, best) i =>
    let n := zeroRun (l.drop i)
    if best < n then (i, n) else (place, best)) (0, 0)

/-- Writes pieces with colons between them. -/
def printPieces (l : List Nat) : List Char := Split.join [':'] (l.map (Nat.toDigits 16))

/-- Writes an address of eight pieces. -/
def printIpv6 (l : List Nat) : List Char :=
  let (place, n) := longestZeroRun l
  if n < 2 then printPieces l
  else printPieces (l.take place) ++ [':', ':'] ++ printPieces (l.drop (place + n))

end AccountWire.Url
