/-!
# Binary floating-point numbers of 64 bits

The finite numbers of the format are `± mantissa · 2 ^ exponent` with a mantissa below `2 ^ 53` and
an exponent from `-1074` to `971`.  Every operation here takes the exact quotient or product and
rounds it once, to the nearest number of the format and, half way between two, to the one with the
even mantissa.
-/

namespace CourseReview.Decimal

/-- A finite number of the format.  The mantissa is as large as it can be, so that equal numbers
have equal parts; the two zeros stay apart. -/
structure Binary64 where
  negative : Bool
  mantissa : Nat
  exponent : Int
deriving DecidableEq, Repr

/-- The quotient to the nearest natural number, a half to the even one. -/
def roundHalfEven (num den : Nat) : Nat :=
  let whole := num / den
  let twice := 2 * (num % den)
  if twice < den then whole
  else if den < twice then whole + 1
  else whole + whole % 2

namespace Binary64

/-- The leading bit of a mantissa of 53 bits, the 52nd power of two. -/
def hiddenBit : Nat := 0x10000000000000

/-- The least exponent of the format. -/
def minExponent : Int := -1074

/-- The greatest exponent of the format. -/
def maxExponent : Int := 971

/-- The quotient `num / den` in units of `2 ^ e`, as a quotient again. -/
def inUnits (num den : Nat) (e : Int) : Nat × Nat :=
  if e < 0 then (num * Nat.pow 2 (-e).toNat, den) else (num, den * Nat.pow 2 e.toNat)

/-- The exponent at which the quotient has a mantissa of 53 bits, or the least exponent. -/
def exponentFor (num den : Nat) : Int :=
  let e : Int := (num.log2 : Int) - (den.log2 : Int) - 52
  let (n, d) := inUnits num den e
  max minExponent (if n < d * hiddenBit then e - 1 else e)

/-- The number of the format nearest to a positive quotient; `none` beyond the greatest one. -/
def ofRatio (num den : Nat) : Option Binary64 :=
  if num = 0 then some ⟨false, 0, minExponent⟩
  else
    let e := exponentFor num den
    let (n, d) := inUnits num den e
    let m := roundHalfEven n d
    let (m, e) := if m = 2 * hiddenBit then (hiddenBit, e + 1) else (m, e)
    if maxExponent < e then none else some ⟨false, m, e⟩

/-- The number nearest to a natural number. -/
def ofNat (n : Nat) : Option Binary64 :=
  ofRatio n 1

/-- The magnitude as an exact quotient. -/
def ratio (x : Binary64) : Nat × Nat :=
  if x.exponent < 0 then (x.mantissa, Nat.pow 2 (-x.exponent).toNat)
  else (x.mantissa * Nat.pow 2 x.exponent.toNat, 1)

/-- The magnitude of the product, rounded. -/
def mul (x y : Binary64) : Option Binary64 :=
  ofRatio (x.ratio.1 * y.ratio.1) (x.ratio.2 * y.ratio.2)

/-- The magnitude of the quotient, rounded. -/
def div (x y : Binary64) : Option Binary64 :=
  ofRatio (x.ratio.1 * y.ratio.2) (x.ratio.2 * y.ratio.1)

/-- Whether the number is one of the two zeros. -/
def isZero (x : Binary64) : Bool :=
  x.mantissa == 0

/-- Equality of the numbers denoted, which identifies the two zeros. -/
def same (x y : Binary64) : Bool :=
  x == y || (x.isZero && y.isZero)

/-- `significand · 10 ^ power` as nested roundings compute it: the significand is rounded, then
multiplied or divided by a rounded power of ten, in steps of at most `10 ^ 308`.  `none` when the
result is beyond the format. -/
def scaleByTen : Nat → Binary64 → Int → Option Binary64
  | 0, x, _ => some x
  | steps + 1, x, power =>
    if 0 ≤ power then
      if power ≤ 308 then (ofNat (Nat.pow 10 power.toNat)).bind x.mul
      else if x.isZero then some x else none
    else if -308 ≤ power then (ofNat (Nat.pow 10 (-power).toNat)).bind x.div
    else if x.isZero then some x
    else ((ofNat (Nat.pow 10 308)).bind x.div).bind (scaleByTen steps · (power + 308))

/-- The number read from a significand below `2 ^ 64`, a power of ten and a sign. -/
def ofScientific (negative : Bool) (significand : Nat) (power : Int) : Option Binary64 := do
  let x ← ofNat significand
  let y ← scaleByTen 5 x power
  pure { y with negative := negative }

end Binary64

end CourseReview.Decimal
