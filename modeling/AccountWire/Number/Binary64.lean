/-!
# Finite doubles, exactly

A finite double is a sign and a number `mantissa * 2 ^ exponent` with a mantissa of at most 53 bits.
Every operation here is *the exact result, rounded once*: `ofRatio?` takes a quotient of natural
numbers to the nearest double, a tie going to the even mantissa, and the product and the quotient
of two doubles are that function of their exact product and quotient.
-/

namespace AccountWire

/-- A finite double in normal form: `mantissa < 2 ^ 53`, and `2 ^ 52 ≤ mantissa` unless the
exponent is the least one. -/
structure Binary64 where
  negative : Bool
  mantissa : Nat
  exponent : Int
deriving Repr, DecidableEq, Inhabited

namespace Binary64

/-- The least exponent. -/
def minExponent : Int := -1074

/-- The greatest exponent. -/
def maxExponent : Int := 971

/-- The mantissa `2 ^ 52`, the least one of a double above the least exponent. -/
def leastFull : Nat := 0x10000000000000

/-- Zero, with a sign. -/
def zero (negative : Bool) : Binary64 := ⟨negative, 0, minExponent⟩

/-- The natural number nearest to `num / den`; of two, the even one. -/
def roundHalfEven (num den : Nat) : Nat :=
  let q := num / den
  let twice := 2 * (num % den)
  if twice < den then q
  else if den < twice then q + 1
  else if q % 2 = 0 then q
  else q + 1

/-- `num / (den * 2 ^ e)` as a quotient of natural numbers. -/
def scale (num den : Nat) (e : Int) : Nat × Nat :=
  if 0 ≤ e then (num, den * Nat.pow 2 e.toNat) else (num * Nat.pow 2 (-e).toNat, den)

/-- The double nearest to `num / den`, or `none` when that is beyond the greatest one. -/
def ofRatio? (negative : Bool) (num den : Nat) : Option Binary64 :=
  if num = 0 then some (zero negative)
  else
    let guess : Int := (num.log2 : Int) - den.log2 - 52
    let (n, d) := scale num den guess
    let e := max (if n / d < leastFull then guess - 1 else guess) minExponent
    let (n, d) := scale num den e
    let m := roundHalfEven n d
    let (m, e) := if m = 2 * leastFull then (leastFull, e + 1) else (m, e)
    if maxExponent < e then none else some ⟨negative, m, e⟩

/-- The value without its sign, as a quotient of natural numbers. -/
def ratio (x : Binary64) : Nat × Nat :=
  if 0 ≤ x.exponent then (x.mantissa * Nat.pow 2 x.exponent.toNat, 1)
  else (x.mantissa, Nat.pow 2 (-x.exponent).toNat)

/-- The product, rounded. -/
def mul? (x y : Binary64) : Option Binary64 :=
  let (a, b) := x.ratio
  let (c, d) := y.ratio
  ofRatio? (x.negative != y.negative) (a * c) (b * d)

/-- The quotient by a double other than zero, rounded. -/
def div? (x y : Binary64) : Option Binary64 :=
  let (a, b) := x.ratio
  let (c, d) := y.ratio
  ofRatio? (x.negative != y.negative) (a * d) (b * c)

/-- Whether two doubles are the same number; zero has no sign here. -/
def sameNumber (x y : Binary64) : Bool :=
  x.mantissa == y.mantissa && x.exponent == y.exponent &&
    (x.negative == y.negative || x.mantissa == 0)

end Binary64

end AccountWire
