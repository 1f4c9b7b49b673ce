import CourseReview.Decimal.Binary64

/-!
# The fewest digits that read back

A floating-point number is written with as few decimal digits as identify it: a numeral identifies
the number when it lies in the interval of reals that round to it, ends included exactly when the
mantissa is even.  For one digit, two digits and so on, the two neighbours of the number on the
grid of that many digits are tried, and of two that fit the nearer wins.
-/

namespace CourseReview.Decimal

/-- The numeral `0.d₁d₂… · 10 ^ point`. -/
structure Numeral where
  digits : List Char
  point : Int
deriving DecidableEq, Repr

/-- The decimal digits of a natural number. -/
def digitsOf (n : Nat) : List Char :=
  Nat.toDigits 10 n

namespace Binary64

/-- The power of ten just above a positive magnitude. -/
def decimalPoint (x : Binary64) : Int :=
  let (num, den) := x.ratio
  if den ≤ num then (digitsOf (num / den)).length
  else 1 - ((digitsOf (den / num)).length : Int)

/-- The neighbour, on the grid of `count` digits, that identifies the number, if one does. -/
def numeralOn? (x : Binary64) (count : Nat) : Option Numeral :=
  let point := x.decimalPoint
  let unit : Int := point - count
  let (num, den) := x.ratio
  let scale := if unit < 0 then Nat.pow 10 (-unit).toNat else 1
  let value := num * scale
  let step := if unit < 0 then den else den * Nat.pow 10 unit.toNat
  let gap := (if x.exponent < 0 then 1 else Nat.pow 2 x.exponent.toNat) * scale
  let low := value / step
  let below := value - low * step
  let above := (low + 1) * step - value
  let lowerHalf := x.mantissa == hiddenBit && minExponent < x.exponent
  let within (distance bound : Nat) : Bool :=
    if x.mantissa % 2 = 0 then 4 * distance ≤ bound else 4 * distance < bound
  let lowFits := within below (if lowerHalf then gap else 2 * gap)
  let highFits := within above (2 * gap)
  let pick (n : Nat) : Numeral :=
    let ds := digitsOf n
    { digits := (ds.reverse.dropWhile (· == '0')).reverse
      point := point + ((ds.length : Int) - count) }
  match lowFits, highFits with
  | false, false => none
  | true, false => some (pick low)
  | false, true => some (pick (low + 1))
  | true, true =>
    if below < above || (below == above && low % 2 == 0) then some (pick low)
    else some (pick (low + 1))

/-- The shortest numeral that identifies a positive magnitude. -/
def shortest (x : Binary64) : Numeral :=
  ((List.range 17).findSome? fun n => x.numeralOn? (n + 1)).getD ⟨['0'], 1⟩

end Binary64

namespace Numeral

/-- Positional notation, always with a fraction. -/
def positional (n : Numeral) : List Char :=
  let count : Int := n.digits.length
  if n.point ≤ 0 then '0' :: '.' :: (List.replicate (-n.point).toNat '0' ++ n.digits)
  else if count ≤ n.point then
    n.digits ++ List.replicate (n.point - count).toNat '0' ++ ['.', '0']
  else n.digits.take n.point.toNat ++ '.' :: n.digits.drop n.point.toNat

/-- Scientific notation: one digit before the point, no fraction when there are no more, and an
exponent that always has its sign. -/
def scientific (n : Numeral) : List Char :=
  let exponent := (if n.point < 1 then [] else ['+']) ++ (toString (n.point - 1)).toList
  match n.digits with
  | [] => []
  | [d] => d :: 'e' :: exponent
  | d :: rest => d :: '.' :: rest ++ 'e' :: exponent

end Numeral

namespace Binary64

/-- The shortest text, positional when the point falls within sixteen digits or at most four
places before the first, and scientific otherwise. -/
def compactText (x : Binary64) : String :=
  let sign := if x.negative then ['-'] else []
  let numeral := x.shortest
  String.ofList <| sign ++
    if x.isZero then ['0', '.', '0']
    else if -5 < numeral.point && numeral.point ≤ 16 then numeral.positional
    else numeral.scientific

end Binary64

end CourseReview.Decimal
