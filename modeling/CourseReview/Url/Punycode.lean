/-!
# Punycode

A label with characters beyond ASCII is written in ASCII: first the ASCII characters that it holds,
then, behind a hyphen, the others in ascending order as the distances between their positions.  A
distance is a number to the base 36 whose digits end at a threshold that adapts to the distances
before it.
-/

namespace CourseReview.Url

/-- The digit of a number below 36: letters first. -/
def punycodeDigit (n : Nat) : Char :=
  if n < 26 then Char.ofNat ('a'.toNat + n) else Char.ofNat ('0'.toNat + n - 26)

/-- The value of a digit. -/
def punycodeValue? (c : Char) : Option Nat :=
  if 'a' ≤ c && c ≤ 'z' then some (c.toNat - 'a'.toNat)
  else if 'A' ≤ c && c ≤ 'Z' then some (c.toNat - 'A'.toNat)
  else if '0' ≤ c && c ≤ '9' then some (c.toNat - '0'.toNat + 26)
  else none

/-- The threshold below which a digit at a position ends a number. -/
def punycodeThreshold (position bias : Nat) : Nat :=
  min 26 (max 1 (position - bias))

/-- Halves the distance by 35 until it is small, counting the steps. -/
def shrinkDistance : (fuel distance steps : Nat) → Nat × Nat
  | 0, distance, steps => (distance, steps)
  | fuel + 1, distance, steps =>
    if 455 < distance then shrinkDistance fuel (distance / 35) (steps + 1) else (distance, steps)

/-- The bias after a distance was written. -/
def adaptBias (distance count : Nat) (first : Bool) : Nat :=
  let d := if first then distance / 700 else distance / 2
  let (d, steps) := shrinkDistance 64 (d + d / count) 0
  36 * steps + 36 * d / (d + 38)

/-- The digits of a distance. -/
def distanceDigits (bias : Nat) : (fuel position distance : Nat) → List Char
  | 0, _, _ => []
  | fuel + 1, position, distance =>
    let t := punycodeThreshold position bias
    if distance < t then [punycodeDigit distance]
    else
      punycodeDigit (t + (distance - t) % (36 - t))
        :: distanceDigits bias fuel (position + 36) ((distance - t) / (36 - t))

/-- Where the writing of a label has come to. -/
structure PunycodeState where
  out : List Char
  distance : Nat
  bias : Nat
  written : Nat

/-- Passes one character of the label while the characters with number `n` are written. -/
def PunycodeState.pass (basic n : Nat) (s : PunycodeState) (c : Char) : PunycodeState :=
  if c.toNat < n then { s with distance := s.distance + 1 }
  else if c.toNat = n then
    { out := s.out ++ distanceDigits s.bias 64 36 s.distance
      distance := 0
      bias := adaptBias s.distance (s.written + 1) (s.written == basic)
      written := s.written + 1 }
  else s

/-- The Punycode form of a label. -/
def punycode (label : List Char) : List Char :=
  let basic := label.filter (·.toNat < 0x80)
  let others := ((label.filter (0x80 ≤ ·.toNat)).map Char.toNat).mergeSort.eraseDups
  let start : PunycodeState := { out := [], distance := 0, bias := 72, written := basic.length }
  let (s, _) := others.foldl (fun (s, last) n =>
    let s := { s with distance := s.distance + (n - last) * (s.written + 1) }
    let s := label.foldl (PunycodeState.pass basic.length n) s
    ({ s with distance := s.distance + 1 }, n + 1)) (start, 0x80)
  basic ++ (if basic.isEmpty then [] else ['-']) ++ s.out

/-- Reads one distance: the place it leads to and the rest of the digits. -/
def readDistance (bias : Nat) : (position weight place : Nat) → List Char →
    Option (Nat × List Char)
  | _, _, _, [] => none
  | position, weight, place, c :: rest =>
    match punycodeValue? c with
    | none => none
    | some d =>
      let t := punycodeThreshold position bias
      let place := place + d * weight
      if d < t then some (place, rest)
      else readDistance bias (position + 36) (weight * (36 - t)) place rest

/-- Puts the characters that digits write into a label. -/
def insertDistances : (fuel bias n place : Nat) → List Char → List Char → Option (List Char)
  | _, _, _, _, out, [] => some out
  | 0, _, _, _, _, _ => none
  | fuel + 1, bias, n, place, out, ds =>
    match readDistance bias 36 1 place ds with
    | none => none
    | some (next, rest) =>
      let count := out.length + 1
      let n := n + next / count
      let spot := next % count
      if n < 0xD800 || (0xDFFF < n && n < 0x110000) then
        insertDistances fuel (adaptBias (next - place) count (place == 0)) n (spot + 1)
          (out.insertIdx spot (Char.ofNat n)) rest
      else none

/-- The label of which a text is the Punycode form. -/
def unpunycode? (text : List Char) : Option (List Char) :=
  let (tail, head) := text.reverse.span (· != '-')
  insertDistances text.length 72 0x80 0 (head.drop 1).reverse tail.reverse

end CourseReview.Url
