import CourseReview.Text.Blank
import CourseReview.Text.Digits

/-!
# Tables of code points

A table says something about runs of code points.  It is written as a text: entries in ascending
order with white space between them, each the first and the last code point of its run in
hexadecimal digits and, after a colon, what the table says of them.  The sign between the two code
points tells the sort of the run:

* `-`: every code point of the run, and a code point that is said moves along with them;
* `/`: every second one, moving along likewise;
* `=`: every code point of the run, and the same is said of all.

An entry for a single code point has neither sign nor second number.
-/

namespace CourseReview.Text

/-- One entry of a table. -/
structure CodeRun where
  first : Nat
  last : Nat
  step : Nat
  isFixed : Bool
  note : List Char
deriving DecidableEq, Repr

/-- A table, its entries in ascending order of their first code points. -/
abbrev CodeTable := List CodeRun

namespace CodeRun

/-- The entry that a text writes. -/
def read (entry : List Char) : CodeRun :=
  let (codes, note) := entry.span (· != ':')
  let (low, high) := codes.span isHexDigit
  let first := numberOf 16 low
  match high with
  | [] => { first, last := first, step := 1, isFixed := true, note := note.drop 1 }
  | sign :: high =>
    { first
      last := numberOf 16 high
      step := if sign == '/' then 2 else 1
      isFixed := sign == '='
      note := note.drop 1 }

/-- Whether the entry speaks of a code point. -/
def covers (r : CodeRun) (n : Nat) : Bool :=
  r.first ≤ n && n ≤ r.last && (n - r.first) % r.step == 0

/-- How far the code points that are said move along. -/
def shift (r : CodeRun) (n : Nat) : Nat :=
  if r.isFixed then 0 else n - r.first

/-- The code points that the entry says of one of its own: their numbers stand with full stops
between them, and none may be said. -/
def codes (r : CodeRun) (n : Nat) : List Nat :=
  if r.note.isEmpty then []
  else (splitAt '.' r.note).map fun digits => numberOf 16 digits + r.shift n

end CodeRun

namespace CodeTable

/-- The table that a text writes. -/
def read (text : String) : CodeTable :=
  let words := splitAt ' ' (text.toList.map fun c => if c == '\n' then ' ' else c)
  (words.filter (!·.isEmpty)).map CodeRun.read

/-- The entry that speaks of a code point.  None does once the entries begin above it. -/
def runAt? : CodeTable → Nat → Option CodeRun
  | [], _ => none
  | r :: rest, n =>
    if n < r.first then none
    else if r.covers n then some r
    else runAt? rest n

/-- What the table says of a character. -/
def note? (t : CodeTable) (c : Char) : Option (List Char) :=
  (runAt? t c.toNat).map (·.note)

/-- Whether the table lists a character. -/
def lists (t : CodeTable) (c : Char) : Bool :=
  (runAt? t c.toNat).isSome

end CodeTable

end CourseReview.Text
