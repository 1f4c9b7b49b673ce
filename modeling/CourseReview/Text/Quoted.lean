import CourseReview.Text.Unprintable

/-!
# Quoted text

A text between double quotes, as messages show it: quotes and backslashes are escaped, tab, line
feed, carriage return and the null character have short escapes, and every other character that
cannot be seen is shown by its number in hexadecimal digits between braces.
-/

namespace CourseReview.Text

/-- One character as it stands between the quotes. -/
def quotedChar (c : Char) : List Char :=
  if c = '"' then ['\\', '"']
  else if c = '\\' then ['\\', '\\']
  else if c = '\t' then ['\\', 't']
  else if c = '\n' then ['\\', 'n']
  else if c = '\r' then ['\\', 'r']
  else if c = '\x00' then ['\\', '0']
  else if isUnprintable c then
    ['\\', 'u', '\x7b'] ++ Nat.toDigits 16 c.toNat ++ ['\x7d']
  else [c]

/-- The text between double quotes. -/
def quoted (s : String) : String :=
  String.ofList ('"' :: s.toList.flatMap quotedChar ++ ['"'])

end CourseReview.Text
