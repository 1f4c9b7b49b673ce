import CourseReview.Json.Basic
import CourseReview.Text.Digits

/-!
# Reading JSON text

The reader accepts the JSON grammar and nothing beside it, refuses arrays and objects nested
deeper than a limit, and refuses numbers beyond the floating-point range.  A repeated member name
keeps its first place and its last value.
-/

namespace CourseReview.Json

open Decimal (Binary64)
open Text (digitValue isHexDigit numberOf)

/-- The white space of JSON. -/
def isSpace (c : Char) : Bool :=
  c == ' ' || c == '\n' || c == '\t' || c == '\r'

/-- The number that four hexadecimal digits write. -/
def hex4? (a b c d : Char) : Option Nat :=
  let digits := [a, b, c, d]
  if digits.all isHexDigit then some (numberOf 16 digits) else none

/-- The character that a letter after a backslash stands for. -/
def escape? : Char → Option Char
  | '"' => some '"'
  | '\\' => some '\\'
  | '/' => some '/'
  | 'b' => some '\x08'
  | 'f' => some '\x0c'
  | 'n' => some '\n'
  | 'r' => some '\r'
  | 't' => some '\t'
  | _ => none

/-- Reads a string whose opening quote is behind us: its characters, newest first, and the rest
after the closing quote.  A code unit of a surrogate pair must come with its partner. -/
def stringTail : List Char → List Char → Option (List Char × List Char)
  | _, [] => none
  | acc, '"' :: rest => some (acc, rest)
  | acc, '\\' :: 'u' :: a :: b :: c :: d :: rest =>
    match hex4? a b c d with
    | none => none
    | some high =>
      if 0xDC00 ≤ high && high ≤ 0xDFFF then none
      else if 0xD800 ≤ high && high ≤ 0xDBFF then
        match rest with
        | '\\' :: 'u' :: e :: f :: g :: h :: rest =>
          match hex4? e f g h with
          | none => none
          | some low =>
            if 0xDC00 ≤ low && low ≤ 0xDFFF then
              let n := 0x10000 + (high - 0xD800) * 0x400 + (low - 0xDC00)
              stringTail (Char.ofNat n :: acc) rest
            else none
        | _ => none
      else stringTail (Char.ofNat high :: acc) rest
  | acc, '\\' :: c :: rest =>
    match escape? c with
    | some c => stringTail (c :: acc) rest
    | none => none
  | acc, c :: rest => if c.toNat < 0x20 then none else stringTail (c :: acc) rest

/-- Reads a string whose opening quote is behind us. -/
def readString (cs : List Char) : Option (String × List Char) :=
  (stringTail [] cs).map fun (acc, rest) => (String.ofList acc.reverse, rest)

/-! ## Numbers -/

/-- Whether a further digit fits into the significand's 64 bits. -/
def fits (significand : Nat) (c : Char) : Bool :=
  significand * 10 + digitValue c < Decimal.nat64Limit

/-- The significand of the digits before the point and the count of digits left out, which are
all those from the first that does not fit. -/
def wholePart (ds : List Char) : Nat × Nat :=
  ds.foldl (fun (sig, left) c =>
    if left == 0 && fits sig c then (sig * 10 + digitValue c, 0) else (sig, left + 1)) (0, 0)

/-- Extends the significand by the digits after the point up to the first that does not fit; the
second part counts the digits taken in. -/
def fractionPart (sig : Nat) : List Char → Nat × Nat
  | [] => (sig, 0)
  | c :: rest =>
    if fits sig c then
      let (sig, places) := fractionPart (sig * 10 + digitValue c) rest
      (sig, places + 1)
    else (sig, 0)

/-- Reads the digits of an exponent with its sign. -/
def exponentPart (cs : List Char) : Option (Int × List Char) :=
  let (negative, cs) := match cs with
    | '+' :: rest => (false, rest)
    | '-' :: rest => (true, rest)
    | cs => (false, cs)
  match cs.span Char.isDigit with
  | ([], _) => none
  | (ds, rest) =>
    let n : Int := numberOf 10 ds
    some (if negative then -n else n, rest)

/-- A number without fraction and exponent: exact in the integer range, a floating-point number
beyond it, and a negative zero for `-0`. -/
def wholeNumber (negative : Bool) (sig left : Nat) : Option JsonNumber :=
  if left == 0 && !negative then some (.int sig)
  else if left == 0 && 0 < sig && sig ≤ Decimal.int64Limit then some (.int (-sig))
  else (Binary64.ofScientific negative sig left).map .real

/-- Reads a number after its sign. -/
def readMagnitude (negative : Bool) (cs : List Char) : Option (JsonNumber × List Char) :=
  let (ds, rest) := cs.span Char.isDigit
  if ds.isEmpty || (ds.head? == some '0' && ds.length != 1) then none
  else
    let (sig, left) := wholePart ds
    let real (sig : Nat) (power : Int) (rest : List Char) : Option (JsonNumber × List Char) :=
      (Binary64.ofScientific negative sig power).map fun x => (.real x, rest)
    let withExponent (sig : Nat) (power : Int) (cs : List Char) :=
      match exponentPart cs with
      | some (e, rest) => real sig (power + e) rest
      | none => none
    match rest with
    | '.' :: rest =>
      let (fs, rest) := rest.span Char.isDigit
      if fs.isEmpty then none
      else
        let (sig, places) := fractionPart sig fs
        let power : Int := (left : Int) - places
        match rest with
        | 'e' :: rest => withExponent sig power rest
        | 'E' :: rest => withExponent sig power rest
        | rest => real sig power rest
    | 'e' :: rest => withExponent sig left rest
    | 'E' :: rest => withExponent sig left rest
    | rest => (wholeNumber negative sig left).map (·, rest)

/-- Reads a number. -/
def readNumber : List Char → Option (JsonNumber × List Char)
  | '-' :: rest => readMagnitude true rest
  | cs => readMagnitude false cs

/-! ## Values -/

mutual

/-- Reads one value; `depth` is how many levels of nesting are still allowed. -/
def readValue : (fuel depth : Nat) → List Char → Option (Json × List Char)
  | 0, _, _ => none
  | fuel + 1, depth, cs =>
    match cs.dropWhile isSpace with
    | 'n' :: 'u' :: 'l' :: 'l' :: rest => some (.null, rest)
    | 't' :: 'r' :: 'u' :: 'e' :: rest => some (.bool true, rest)
    | 'f' :: 'a' :: 'l' :: 's' :: 'e' :: rest => some (.bool false, rest)
    | '"' :: rest => (readString rest).map fun (s, rest) => (.string s, rest)
    | '[' :: rest =>
      match depth with
      | 0 => none
      | depth + 1 =>
        match rest.dropWhile isSpace with
        | ']' :: rest => some (.array [], rest)
        | rest => (readItems fuel depth [] rest).map fun (xs, rest) => (.array xs, rest)
    | '\x7b' :: rest =>
      match depth with
      | 0 => none
      | depth + 1 =>
        match rest.dropWhile isSpace with
        | '\x7d' :: rest => some (.object [], rest)
        | rest => (readMembers fuel depth [] rest).map fun (ms, rest) => (.object ms, rest)
    | rest => (readNumber rest).map fun (n, rest) => (.number n, rest)

/-- Reads the items that are left of an array, the ones read so far newest first. -/
def readItems : (fuel depth : Nat) → List Json → List Char → Option (List Json × List Char)
  | 0, _, _, _ => none
  | fuel + 1, depth, acc, cs =>
    match readValue fuel depth cs with
    | none => none
    | some (item, rest) =>
      match rest.dropWhile isSpace with
      | ',' :: rest => readItems fuel depth (item :: acc) rest
      | ']' :: rest => some ((item :: acc).reverse, rest)
      | _ => none

/-- Reads the members that are left of an object. -/
def readMembers : (fuel depth : Nat) → List (String × Json) → List Char →
    Option (List (String × Json) × List Char)
  | 0, _, _, _ => none
  | fuel + 1, depth, acc, cs =>
    match cs.dropWhile isSpace with
    | '"' :: rest =>
      match readString rest with
      | none => none
      | some (name, rest) =>
        match rest.dropWhile isSpace with
        | ':' :: rest =>
          match readValue fuel depth rest with
          | none => none
          | some (value, rest) =>
            match rest.dropWhile isSpace with
            | ',' :: rest => readMembers fuel depth (Keyed.put name value acc) rest
            | '\x7d' :: rest => some (Keyed.put name value acc, rest)
            | _ => none
        | _ => none
    | _ => none

end

/-- How many levels of arrays and objects a text may nest. -/
def maxNesting : Nat := 127

/-- Reads a whole text as one value. -/
def parse? (s : String) : Option Json :=
  let cs := s.toList
  match readValue (2 * cs.length + 2) maxNesting cs with
  | some (j, rest) => if rest.all isSpace then some j else none
  | none => none

end CourseReview.Json
