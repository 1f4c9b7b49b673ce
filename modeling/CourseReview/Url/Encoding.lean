import CourseReview.Text.Digits

/-!
# Percent-encoding

In the parts of a URL, characters that would be read as something else, control characters and
everything beyond ASCII stand as `%` and two hexadecimal digits for each byte of their UTF-8 form.
Each part has its own class of characters that are encoded.
-/

namespace CourseReview.Url

open Text (isHexDigit numberOf)

/-- Control characters and everything beyond ASCII, which every part encodes. -/
def isControl (c : Char) : Bool :=
  c.toNat < 0x20 || 0x7F ≤ c.toNat

/-- What a fragment encodes. -/
def inFragmentSet (c : Char) : Bool :=
  isControl c || [' ', '"', '<', '>', '`'].contains c

/-- What a query encodes. -/
def inQuerySet (c : Char) : Bool :=
  isControl c || [' ', '"', '#', '<', '>'].contains c

/-- What the query of a special scheme encodes. -/
def inSpecialQuerySet (c : Char) : Bool :=
  inQuerySet c || c == '\''

/-- What a path encodes. -/
def inPathSet (c : Char) : Bool :=
  inFragmentSet c || ['#', '?', '\x7b', '\x7d'].contains c

/-- What a path segment encodes that is given as a text of its own. -/
def inSegmentSet (c : Char) : Bool :=
  inPathSet c || c == '/' || c == '%'

/-- What such a segment encodes in a special scheme, where a backslash separates segments. -/
def inSpecialSegmentSet (c : Char) : Bool :=
  inSegmentSet c || c == '\\'

/-- What a user name and a password encode. -/
def inUserInfoSet (c : Char) : Bool :=
  inPathSet c || ['/', ':', ';', '=', '@', '[', '\\', ']', '^', '|'].contains c

/-- The hexadecimal digit of a number below sixteen, in capitals. -/
def hexDigit (n : Nat) : Char :=
  (Nat.digitChar n).toUpper

/-- One byte in its encoded form. -/
def encodeByte (b : UInt8) : List Char :=
  ['%', hexDigit (b.toNat / 16), hexDigit (b.toNat % 16)]

/-- One character, encoded if it is in the class. -/
def encodeChar (inSet : Char → Bool) (c : Char) : List Char :=
  if inSet c then (String.utf8EncodeChar c).flatMap encodeByte else [c]

/-- A text with the characters of a class encoded. -/
def percentEncode (inSet : Char → Bool) (cs : List Char) : String :=
  String.ofList (cs.flatMap (encodeChar inSet))

/-- The byte that two hexadecimal digits write. -/
def hexByte? (c d : Char) : Option UInt8 :=
  if isHexDigit c && isHexDigit d then some (UInt8.ofNat (numberOf 16 [c, d])) else none

/-- The bytes of a text, with each `%` and its two digits taken as the byte they write; a `%` that
no two digits follow stands for itself. -/
def decodeBytes : List Char → List UInt8
  | '%' :: c :: d :: rest =>
    match hexByte? c d with
    | some b => b :: decodeBytes rest
    | none => 0x25 :: decodeBytes (c :: d :: rest)
  | c :: rest => String.utf8EncodeChar c ++ decodeBytes rest
  | [] => []

/-- The text that an encoded text stands for, if its bytes are valid UTF-8. -/
def percentDecode? (cs : List Char) : Option String :=
  String.fromUTF8? (ByteArray.mk (decodeBytes cs).toArray)

end CourseReview.Url
