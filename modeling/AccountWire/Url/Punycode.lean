import AccountWire.Text.Split

/-!
# Labels beyond ASCII, written in ASCII

A label is written as its ASCII characters, a hyphen if there are any, and then a sequence of
numbers that say in ascending order which other characters go in and where.  A number is a run of
digits in base thirty-six, lowest first, in which the threshold for the last digit adapts to the
numbers before.

All numbers stay below `2 ^ 32`.
-/

namespace AccountWire.Url.Punycode

/-- The base of the digits. -/
def base : Nat := 36

/-- The first threshold of a number, for a bias. -/
def threshold (bias k : Nat) : Nat :=
  if k ≤ bias then 1 else if bias + 26 ≤ k then 26 else k - bias

/-- Every threshold is positive. -/
theorem threshold_pos (bias k : Nat) : 0 < threshold bias k := by
  unfold threshold
  split
  · omega
  · split <;> omega

/-- Divides until the number is small: the number of divisions and what is left. -/
def divideDown (delta : Nat) : Nat × Nat :=
  if 455 < delta then
    let (n, d) := divideDown (delta / 35)
    (n + 1, d)
  else (0, delta)
termination_by delta
decreasing_by omega

/-- The bias after a number, of which `count` were written by now. -/
def adapt (delta count : Nat) (isFirst : Bool) : Nat :=
  let delta := if isFirst then delta / 700 else delta / 2
  let (n, d) := divideDown (delta + delta / count)
  n * base + 36 * d / (d + 38)

/-- The greatest number. -/
def limit : Nat := 0x100000000

/-! ### Writing -/

/-- The digit of a number below thirty-six. -/
def digit (n : Nat) : Char :=
  if n < 26 then Char.ofNat (n + 'a'.toNat) else Char.ofNat (n - 26 + '0'.toNat)

/-- Writes a number, of which the digit at `k` is the lowest. -/
def encodeNumber (bias k q : Nat) : List Char :=
  let t := threshold bias k
  if q < t then [digit q]
  else digit (t + (q - t) % (base - t)) :: encodeNumber bias (k + base) ((q - t) / (base - t))
termination_by q
decreasing_by
  have ht := threshold_pos bias k
  have hle := Nat.div_le_self (q - threshold bias k) (base - threshold bias k)
  omega

/-- What is carried from one character to the next. -/
structure State where
  delta : Nat
  bias : Nat
  /-- How many characters were written. -/
  count : Nat

/-- Writes all places of the character `n` in the label, in order. -/
def encodePlaces (n ascii : Nat) : List Nat → State → List Char × State
  | [], s => ([], s)
  | c :: r, s =>
    if c < n then encodePlaces n ascii r { s with delta := s.delta + 1 }
    else if c = n then
      let text := encodeNumber s.bias base s.delta
      let (rest, s) := encodePlaces n ascii r
        ⟨0, adapt s.delta (s.count + 1) (s.count = ascii), s.count + 1⟩
      (text ++ rest, s)
    else encodePlaces n ascii r s

/-- Writes the given characters, which are in ascending order; `n` is the first character that
was not written yet. -/
def encodeEach (label : List Nat) (ascii : Nat) : Nat → State → List Nat → List Char
  | _, _, [] => []
  | n, s, m :: ms =>
    let (text, s) := encodePlaces m ascii label
      { s with delta := s.delta + (m - n) * (s.count + 1) }
    text ++ encodeEach label ascii (m + 1) { s with delta := s.delta + 1 } ms

/-- Writes a label. -/
def encode (cs : List Char) : List Char :=
  let plain := cs.filter (·.toNat < 0x80)
  let label := cs.map Char.toNat
  let others := ((label.filter (0x80 ≤ ·)).mergeSort (· ≤ ·)).eraseDups
  plain ++ (if plain = [] then [] else ['-']) ++
    encodeEach label plain.length 0x80 ⟨0, 72, plain.length⟩ others

/-! ### Reading -/

/-- The value of a digit. -/
def digitValue? (c : Char) : Option Nat :=
  if 'a' ≤ c ∧ c ≤ 'z' then some (c.toNat - 'a'.toNat)
  else if 'A' ≤ c ∧ c ≤ 'Z' then some (c.toNat - 'A'.toNat)
  else if '0' ≤ c ∧ c ≤ '9' then some (c.toNat - '0'.toNat + 26)
  else none

/-- Reads the rest of the numbers and puts the characters in: `i` is the number being read, of
which `weight` is the weight of the next digit and `k` fixes its threshold, `last` the place after
the character that was put in last, `n` that character. -/
def decodeNumbers (bias k i weight last n : Nat) (label : List Nat) : List Char →
    Option (List Nat)
  | [] => if k = base then some label else none
  | c :: r => do
    let d ← digitValue? c
    let i := i + d * weight
    if limit ≤ i then none
    else
      let t := threshold bias k
      if d < t then
        let length := label.length + 1
        let n := n + i / length
        let place := i % length
        if 0x110000 ≤ n ∨ (0xD800 ≤ n ∧ n < 0xE000) then none
        else
          decodeNumbers (adapt (i - last) length (last = 0)) base (place + 1) 1 (place + 1) n
            (label.take place ++ n :: label.drop place) r
      else
        let weight := weight * (base - t)
        if limit ≤ weight then none
        else decodeNumbers bias (k + base) i weight last n label r

/-- Reads a label. -/
def decode? (cs : List Char) : Option (List Char) :=
  let (plain, rest) := (Split.atLast? (· == '-') cs).getD ([], cs)
  if plain.any (0x80 ≤ ·.toNat) then none
  else
    (decodeNumbers 72 base 0 1 0 0x80 (plain.map Char.toNat) rest).map fun l => l.map Char.ofNat

end AccountWire.Url.Punycode
