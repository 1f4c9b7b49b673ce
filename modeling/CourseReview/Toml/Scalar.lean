import CourseReview.Text.Digits
import CourseReview.Toml.Value

/-!
# TOML scalars

The text forms of strings, integers, floats, truth values and dates.
-/

namespace CourseReview.Toml

open Decimal (Binary64)
open Text (isHexDigit isOctalDigit numberOf)

/-! ## Strings -/

/-- Whether a character may stand as it is in a comment or a string: a tab, a visible character,
or one beyond ASCII. -/
def isPlainChar (c : Char) : Bool :=
  c == '\t' || (0x20 ≤ c.toNat && c.toNat != 0x7F)

/-- The white space within a line. -/
def isSpace (c : Char) : Bool :=
  c == ' ' || c == '\t'

/-- The character with the number that hexadecimal digits write. -/
def unicodeChar? (ds : List Char) : Option Char :=
  let n := numberOf 16 ds
  if ds.all isHexDigit && (n < 0xD800 || (0xDFFF < n && n < 0x110000)) then some (Char.ofNat n)
  else none

/-- Reads what follows a backslash. -/
def readEscape : List Char → Option (Char × List Char)
  | 'b' :: rest => some ('\x08', rest)
  | 't' :: rest => some ('\t', rest)
  | 'n' :: rest => some ('\n', rest)
  | 'f' :: rest => some ('\x0c', rest)
  | 'r' :: rest => some ('\r', rest)
  | '"' :: rest => some ('"', rest)
  | '\\' :: rest => some ('\\', rest)
  | 'u' :: rest =>
    if rest.length < 4 then none else (unicodeChar? (rest.take 4)).map (·, rest.drop 4)
  | 'U' :: rest =>
    if rest.length < 8 then none else (unicodeChar? (rest.take 8)).map (·, rest.drop 8)
  | _ => none

/-- Reads the rest of a string between double quotes, newest character first. -/
def basicTail : (fuel : Nat) → List Char → List Char → Option (List Char × List Char)
  | 0, _, _ => none
  | fuel + 1, acc, cs =>
    match cs with
    | [] => none
    | '"' :: rest => some (acc, rest)
    | '\\' :: rest =>
      match readEscape rest with
      | some (c, rest) => basicTail fuel (c :: acc) rest
      | none => none
    | c :: rest => if isPlainChar c then basicTail fuel (c :: acc) rest else none

/-- Reads the rest of a string between single quotes, newest character first. -/
def literalTail : List Char → List Char → Option (List Char × List Char)
  | _, [] => none
  | acc, '\'' :: rest => some (acc, rest)
  | acc, c :: rest => if isPlainChar c then literalTail (c :: acc) rest else none

/-- A text without a line end at its head. -/
def dropLineEnd : List Char → List Char
  | '\n' :: rest => rest
  | '\r' :: '\n' :: rest => rest
  | cs => cs

/-- A text without the white space and the line ends at its head. -/
def dropBlankLines : List Char → List Char
  | '\r' :: '\n' :: rest => dropBlankLines rest
  | ' ' :: rest => dropBlankLines rest
  | '\t' :: rest => dropBlankLines rest
  | '\n' :: rest => dropBlankLines rest
  | cs => cs

/-- Skips a backslash's line end: white space, a line end, and all blank space after it. -/
def lineContinuation? (cs : List Char) : Option (List Char) :=
  match cs.dropWhile isSpace with
  | '\n' :: rest => some (dropBlankLines rest)
  | '\r' :: '\n' :: rest => some (dropBlankLines rest)
  | _ => none

/-- How many quotes a text begins with, and what follows them. -/
def countQuotes (quote : Char) (cs : List Char) : Nat × List Char :=
  ((cs.takeWhile (· == quote)).length, cs.dropWhile (· == quote))

/-- Reads the rest of a string of several lines, newest character first.  Up to two quotes may
stand anywhere in it, and up to two more right before the three that close it. -/
def multilineTail (quote : Char) (escapes : Bool) : (fuel : Nat) → List Char → List Char →
    Option (List Char × List Char)
  | 0, _, _ => none
  | fuel + 1, acc, cs =>
    match cs with
    | [] => none
    | '\r' :: '\n' :: rest => multilineTail quote escapes fuel ('\n' :: acc) rest
    | '\n' :: rest => multilineTail quote escapes fuel ('\n' :: acc) rest
    | c :: rest =>
      if c == quote then
        let (count, after) := countQuotes quote cs
        if count < 3 then
          multilineTail quote escapes fuel (List.replicate count quote ++ acc) after
        else if count ≤ 5 then some (List.replicate (count - 3) quote ++ acc, after)
        else some (quote :: quote :: acc, cs.drop 5)
      else if c == '\\' && escapes then
        match lineContinuation? rest with
        | some rest => multilineTail quote escapes fuel acc rest
        | none =>
          match readEscape rest with
          | some (c, rest) => multilineTail quote escapes fuel (c :: acc) rest
          | none => none
      else if isPlainChar c then multilineTail quote escapes fuel (c :: acc) rest
      else none

/-- A string of which the characters were read newest first. -/
def textOf (read : Option (List Char × List Char)) : Option (String × List Char) :=
  read.map fun (acc, rest) => (String.ofList acc.reverse, rest)

/-- Reads a string of one line that begins with a quote of either sort. -/
def readLineString : List Char → Option (String × List Char)
  | '"' :: rest => textOf (basicTail (rest.length + 1) [] rest)
  | '\'' :: rest => textOf (literalTail [] rest)
  | _ => none

/-- Reads a string of any sort. -/
def readString : List Char → Option (String × List Char)
  | '"' :: '"' :: '"' :: rest =>
    textOf (multilineTail '"' true (rest.length + 1) [] (dropLineEnd rest))
  | '\'' :: '\'' :: '\'' :: rest =>
    textOf (multilineTail '\'' false (rest.length + 1) [] (dropLineEnd rest))
  | cs => readLineString cs

/-! ## Numbers -/

/-- The digits of a numeral in which single underscores may stand between digits. -/
def numeralDigits? (isDigit : Char → Bool) : List Char → Option (List Char)
  | [] => none
  | [c] => if isDigit c then some [c] else none
  | c :: '_' :: rest =>
    if isDigit c then (numeralDigits? isDigit rest).map (c :: ·) else none
  | c :: rest => if isDigit c then (numeralDigits? isDigit rest).map (c :: ·) else none

/-- Splits off a sign: whether it says that the number is negative, and what follows it. -/
def splitSign : List Char → Bool × List Char
  | '-' :: rest => (true, rest)
  | '+' :: rest => (false, rest)
  | cs => (false, cs)

/-- Decimal digits without a zero before others. -/
def decimalDigits? (cs : List Char) : Option (List Char) :=
  match numeralDigits? Char.isDigit cs with
  | some ('0' :: _ :: _) => none
  | ds => ds

/-- The integer if it has 64 bits. -/
def inRange? (n : Int) : Option Toml :=
  if Decimal.fitsInt64 n then some (.integer n) else none

/-- Reads an integer: decimal with an optional sign, or hexadecimal, octal or binary without. -/
def integer? (token : List Char) : Option Toml :=
  let based (base : Nat) (isDigit : Char → Bool) (cs : List Char) : Option Toml :=
    (numeralDigits? isDigit cs).bind fun ds => inRange? (numberOf base ds)
  match token with
  | '0' :: 'x' :: rest => based 16 isHexDigit rest
  | '0' :: 'o' :: rest => based 8 isOctalDigit rest
  | '0' :: 'b' :: rest => based 2 (fun c => c == '0' || c == '1') rest
  | token =>
    let (negative, cs) := splitSign token
    (decimalDigits? cs).bind fun ds =>
      let n : Int := numberOf 10 ds
      inRange? (if negative then -n else n)

/-- Whether the number that digits and a power of ten write lies within the floating-point range.
Only where the point comes after just as many digits as the greatest number has does it take more
than counting them. -/
def isFinite (digits : List Char) (power : Int) : Bool :=
  let digits := digits.dropWhile (· == '0')
  let places := digits.length + power
  if digits.isEmpty || places ≤ 308 then true
  else if 309 < places then false
  else
    (Binary64.ofRatio (numberOf 10 digits * Nat.pow 10 power.toNat)
      (Nat.pow 10 (-power).toNat)).isSome

/-- Reads a float: a decimal integer with a fraction, an exponent or both, or one of the words.
Above the floating-point range there is no float; below it there is the negative infinity. -/
def float? (token : List Char) : Option Toml :=
  let (below, cs) := splitSign token
  if cs == ['i', 'n', 'f'] || cs == ['n', 'a', 'n'] then some .float
  else do
    let (mantissa, exponent) := cs.span fun c => c != 'e' && c != 'E'
    let (whole, fraction) := mantissa.span (· != '.')
    if exponent.isEmpty && fraction.isEmpty then none
    else
      let wholeDigits ← decimalDigits? whole
      let fractionDigits ←
        if fraction.isEmpty then some [] else numeralDigits? Char.isDigit (fraction.drop 1)
      let (negative, exponentText) := splitSign (exponent.drop 1)
      let exponentDigits ←
        if exponent.isEmpty then some [] else numeralDigits? Char.isDigit exponentText
      let e : Int := numberOf 10 exponentDigits
      let power := (if negative then -e else e) - fractionDigits.length
      if below || isFinite (wholeDigits ++ fractionDigits) power then some .float else none

/-! ## Dates -/

/-- The number that two decimal digits write, if it lies between two bounds. -/
def twoDigits? (low high : Nat) : List Char → Option (Nat × List Char)
  | a :: b :: rest =>
    let n := numberOf 10 [a, b]
    if a.isDigit && b.isDigit && low ≤ n && n ≤ high then some (n, rest) else none
  | _ => none

/-- The number of days of a month. -/
def daysIn (year month : Nat) : Nat :=
  if month = 2 then
    if year % 4 = 0 && (year % 100 != 0 || year % 400 = 0) then 29 else 28
  else if month = 4 || month = 6 || month = 9 || month = 11 then 30
  else 31

/-- Reads a date and gives what follows it. -/
def dateTail? : List Char → Option (List Char)
  | a :: b :: c :: d :: '-' :: rest => do
    if !(a.isDigit && b.isDigit && c.isDigit && d.isDigit) then none
    else
      let (month, rest) ← twoDigits? 1 12 rest
      match rest with
      | '-' :: rest =>
        let (_, rest) ← twoDigits? 1 (daysIn (numberOf 10 [a, b, c, d]) month) rest
        some rest
      | _ => none
  | _ => none

/-- Reads a time of day and gives what follows it. -/
def timeTail? (cs : List Char) : Option (List Char) := do
  let (_, rest) ← twoDigits? 0 23 cs
  match rest with
  | ':' :: rest =>
    let (_, rest) ← twoDigits? 0 59 rest
    match rest with
    | ':' :: rest =>
      let (_, rest) ← twoDigits? 0 60 rest
      match rest with
      | '.' :: rest =>
        if (rest.head?.any Char.isDigit) then some (rest.dropWhile Char.isDigit) else none
      | rest => some rest
    | _ => none
  | _ => none

/-- Whether a text is an offset from universal time, or nothing. -/
def isOffset : List Char → Bool
  | [] => true
  | ['Z'] => true
  | ['z'] => true
  | '+' :: rest => isClock rest
  | '-' :: rest => isClock rest
  | _ => false
where
  /-- Whether a text is an hour and a minute. -/
  isClock (cs : List Char) : Bool :=
    match twoDigits? 0 23 cs with
    | some (_, ':' :: rest) =>
      match twoDigits? 0 59 rest with
      | some (_, []) => true
      | _ => false
    | _ => false

/-- Reads a date, a time, or both with an optional offset. -/
def datetime? (token : List Char) : Option Toml :=
  match dateTail? token with
  | some [] => some .datetime
  | some (c :: rest) =>
    if c == 'T' || c == 't' || c == ' ' then
      match timeTail? rest with
      | some offset => if isOffset offset then some .datetime else none
      | none => none
    else none
  | none =>
    match timeTail? token with
    | some [] => some .datetime
    | _ => none

/-! ## Tokens -/

/-- Whether a character can stand in a number, a date or a word. -/
def isTokenChar (c : Char) : Bool :=
  c.isAlphanum || c == '_' || c == '+' || c == '-' || c == '.' || c == ':'

/-- Splits off the characters of a number, a date or a word; a date may be followed by a space and
a time. -/
def splitToken (cs : List Char) : List Char × List Char :=
  let (token, rest) := cs.span isTokenChar
  match dateTail? token, rest with
  | some [], ' ' :: a :: b :: ':' :: more =>
    if a.isDigit && b.isDigit then
      let (time, rest) := (a :: b :: ':' :: more).span isTokenChar
      (token ++ ' ' :: time, rest)
    else (token, rest)
  | _, _ => (token, rest)

/-- Reads a scalar that is not a string. -/
def readToken (cs : List Char) : Option (Toml × List Char) :=
  let (token, rest) := splitToken cs
  let value :=
    if token == ['t', 'r', 'u', 'e'] then some (.boolean true)
    else if token == ['f', 'a', 'l', 's', 'e'] then some (.boolean false)
    else integer? token <|> float? token <|> datetime? token
  value.map (·, rest)

end CourseReview.Toml
