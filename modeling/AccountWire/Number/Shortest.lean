import AccountWire.Number.Binary64

/-!
# The fewest decimal digits that read back

All decimals of an interval around a double read back as that double.  `shortest` finds one with
the fewest digits: for one digit, two digits, … it looks at the value's two neighbours on the grid
of decimals with that many digits, and the first grid with a neighbour inside the interval wins.
Of two neighbours inside, the nearer one is taken, and of two equally near the even one.
Seventeen digits always suffice.
-/

namespace AccountWire.Binary64

/-- The decimal number `digits * 10 ^ exponent`. -/
structure Decimal where
  digits : Nat
  exponent : Int
deriving Repr, DecidableEq

/-- The interval of reals that read as a double, in units of `2 ^ unit`. -/
structure Interval where
  low : Nat
  value : Nat
  high : Nat
  unit : Int
  /-- Whether the two ends read as the double as well. -/
  closed : Bool

/-- The interval of `x`.  The gap below a power of two is half the gap above it. -/
def interval (x : Binary64) : Interval :=
  let m := x.mantissa
  let narrow := m = leastFull ∧ minExponent < x.exponent
  ⟨if narrow then 4 * m - 1 else 4 * m - 2, 4 * m, 4 * m + 2, x.exponent - 2, m % 2 = 0⟩

/-- Whether `digits * 10 ^ e` lies in the interval. -/
def Interval.has (i : Interval) (digits : Nat) (e : Int) : Bool :=
  -- both sides are scaled to natural numbers
  let ten := Nat.pow 10 (max e 0).toNat
  let tenBelow := Nat.pow 10 (max (-e) 0).toNat
  let two := Nat.pow 2 (max i.unit 0).toNat
  let twoBelow := Nat.pow 2 (max (-i.unit) 0).toNat
  let d := digits * ten * twoBelow
  let low := i.low * two * tenBelow
  let high := i.high * two * tenBelow
  if i.closed then low ≤ d && d ≤ high else low < d && d < high

/-- The neighbours of `x` on the grid of multiples of `10 ^ e`: the one below or equal, and twice
the remainder against the width of the grid. -/
def below (x : Binary64) (e : Int) : Nat × Nat × Nat :=
  let (num, den) := x.ratio
  let n := num * Nat.pow 10 (max (-e) 0).toNat
  let d := den * Nat.pow 10 (max e 0).toNat
  (n / d, 2 * (n % d), d)

/-- The neighbour of `x` on a grid that reads back, if there is one. -/
def onGrid? (x : Binary64) (e : Int) : Option Nat :=
  let i := x.interval
  let (q, twice, width) := x.below e
  match i.has q e, i.has (q + 1) e with
  | true, true =>
    if twice < width then some q
    else if width < twice then some (q + 1)
    else if q % 2 = 0 then some q else some (q + 1)
  | true, false => some q
  | false, true => some (q + 1)
  | false, false => none

/-- How often `num` has to be multiplied by ten to reach `den`. -/
def liftCount (den : Nat) : Nat → Nat → Nat
  | 0, _ => 0
  | fuel + 1, num => if den ≤ num then 0 else liftCount den fuel (num * 10) + 1

/-- The exponent of the leading decimal digit of `x`, which is not zero.  The least double is
above `10 ^ (-324)`, which bounds the search. -/
def leadingExponent (x : Binary64) : Int :=
  let (num, den) := x.ratio
  if den ≤ num then ((Nat.toDigits 10 (num / den)).length : Int) - 1
  else -(liftCount den 325 num : Int)

/-- Drops the zeros at the end of the digits. -/
def Decimal.strip : Nat → Decimal → Decimal
  | 0, d => d
  | fuel + 1, d =>
    if d.digits % 10 = 0 ∧ d.digits ≠ 0 then strip fuel ⟨d.digits / 10, d.exponent + 1⟩ else d

/-- The decimal of the fewest digits that reads back as `x`, which is not zero. -/
def shortest (x : Binary64) : Decimal :=
  let lead := x.leadingExponent
  let grids := (List.range 17).map fun (n : Nat) => lead - (n : Int)
  match grids.findSome? fun e => (x.onGrid? e).map fun q => Decimal.mk q e with
  | some d => d.strip 20
  | none => ⟨0, 0⟩

end AccountWire.Binary64
