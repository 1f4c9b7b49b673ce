import CourseReview.Text.Blank
import CourseReview.Url.Domain.Alphabet
import CourseReview.Url.Domain.Composition
import CourseReview.Url.Domain.Direction
import CourseReview.Url.Domain.Joining
import CourseReview.Url.Encoding
import CourseReview.Url.Error
import CourseReview.Url.Punycode

/-!
# Domain names

A domain name is put into the form in which it is looked up.  Its characters are replaced by what
stands for them and composed, so that all spellings of a name become one, and then each label with
characters beyond ASCII is replaced by `xn--` and its Punycode form.  A name is refused that holds a
character which may not stand in it or a label that is not well formed; a label that comes in its
encoded form is decoded and held to the same rules.
-/

namespace CourseReview.Url

/-- The ASCII characters that may not stand in a domain name. -/
def isForbiddenInDomain (c : Char) : Bool :=
  c.toNat ≤ 0x20 || c.toNat == 0x7F
    || ['%', '#', '/', ':', '<', '>', '?', '@', '[', '\\', ']', '^', '|'].contains c

/-- A text in the one form that stands for all its spellings, if its characters may stand in a
domain name. -/
def canonical? (cs : List Char) : Option (List Char) :=
  (cs.mapM mapDomainChar?).map fun mapped => normalize mapped.flatten

/-! ## Labels -/

/-- One label of a domain name: the text it stands for, and the form that is looked up. -/
structure DomainLabel where
  text : List Char
  ascii : List Char
deriving DecidableEq, Repr

/-- What the encoded form of a label begins with. -/
def encodedMark : List Char :=
  ['x', 'n', '-', '-']

/-- Whether a label begins as the encoded form does. -/
def isEncodedLabel (label : List Char) : Bool :=
  label.take 4 == encodedMark

/-- Whether a text consists of ASCII characters. -/
def isAscii (cs : List Char) : Bool :=
  cs.all (·.toNat < 0x80)

/-- The label that an encoded form stands for.  The form must be the one that the label has, of at
most two thousand characters, and the label must be canonical and in need of encoding. -/
def decodeLabel? (label : List Char) : Option DomainLabel :=
  let code := label.drop 4
  if !isAscii label || 2000 < code.length then none
  else
    match unpunycode? code with
    | none => none
    | some text =>
      let isSound := !isAscii text && !isEncodedLabel text && punycode text == code
        && canonical? text == some text
      if isSound then some { text, ascii := label } else none

/-- Reads a label of a canonical name.  One that needs encoding has at most a thousand
characters. -/
def readLabel? (label : List Char) : Option DomainLabel :=
  if isEncodedLabel label then decodeLabel? label
  else if isAscii label then some { text := label, ascii := label }
  else if 1000 < label.length then none
  else some { text := label, ascii := encodedMark ++ punycode label }

/-! ## Names -/

/-- The form of a domain name that is looked up. -/
def domainToAscii (name : String) : Except UrlError (List Char) :=
  match canonical? name.toList with
  | none => .error .invalidDomain
  | some cs =>
    if cs.any isForbiddenInDomain then .error .invalidDomain
    else
      match (Text.splitAt '.' cs).mapM readLabel? with
      | none => .error .invalidDomain
      | some labels =>
        let texts := labels.map DomainLabel.text
        if texts.all areMarksInPlace && areInOrder texts then
          .ok (['.'].intercalate (labels.map DomainLabel.ascii))
        else .error .invalidDomain

end CourseReview.Url
