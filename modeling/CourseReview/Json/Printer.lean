import CourseReview.Json.Basic
import CourseReview.Decimal.Shortest

/-!
# Compact JSON text

A value is written without spaces, its members in their order.  In strings the quote, the
backslash and the control characters below U+0020 are escaped and nothing else is.
-/

namespace CourseReview

/-- A number's text: an integer in decimal digits, any other number as the shortest numeral that
reads back, with a fraction or an exponent so that it does not read as an integer. -/
def JsonNumber.text : JsonNumber → String
  | .int n => toString n
  | .real x => x.compactText

namespace Json

/-- One character as it stands in a string. -/
def escapedChar (c : Char) : List Char :=
  match c with
  | '"' => ['\\', '"']
  | '\\' => ['\\', '\\']
  | '\x08' => ['\\', 'b']
  | '\x0c' => ['\\', 'f']
  | '\n' => ['\\', 'n']
  | '\r' => ['\\', 'r']
  | '\t' => ['\\', 't']
  | c =>
    if c.toNat < 0x20 then
      ['\\', 'u', '0', '0', Nat.digitChar (c.toNat / 16), Nat.digitChar (c.toNat % 16)]
    else [c]

/-- A string with its quotes. -/
def stringText (s : String) : String :=
  String.ofList ('"' :: s.toList.flatMap escapedChar ++ ['"'])

mutual

/-- Appends the text of a value. -/
def write (out : String) : Json → String
  | .null => out ++ "null"
  | .bool true => out ++ "true"
  | .bool false => out ++ "false"
  | .number n => out ++ n.text
  | .string s => out ++ stringText s
  | .array items => writeItems (out.push '[') true items
  | .object members => writeMembers (out.push '\x7b') true members

/-- Appends the items that are left and the closing bracket. -/
def writeItems (out : String) (first : Bool) : List Json → String
  | [] => out.push ']'
  | item :: rest => writeItems (write (if first then out else out.push ',') item) false rest

/-- Appends the members that are left and the closing brace. -/
def writeMembers (out : String) (first : Bool) : List (String × Json) → String
  | [] => out.push '\x7d'
  | (name, value) :: rest =>
    let out := if first then out else out.push ','
    writeMembers (write ((out ++ stringText name).push ':') value) false rest

end

/-- The text of a value. -/
def text (j : Json) : String :=
  write "" j

end Json

end CourseReview
