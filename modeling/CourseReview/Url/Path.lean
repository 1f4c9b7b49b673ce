import CourseReview.Url.Basic

/-!
# Paths

How the segments of a path come about from a text.  The pieces of the text are added one after
another to the segments that are there: `.` adds nothing, `..` takes the last segment away, and
anything else becomes a segment.  A drive letter is a segment that `..` never takes away, whatever
the scheme; in a `file` URL the first segment also has its bar turned into a colon.

The segments that are there are those that a slash closes; the segment behind the last slash is
open until the text ends and is empty after `.` and `..`.
-/

namespace CourseReview.Url

/-! ## Sorts of segments -/

/-- Whether an encoded segment means the segment above. -/
def isDoubleDot (segment : String) : Bool :=
  ["..", ".%2e", "%2e.", "%2e%2e"].contains segment.toLower

/-- Whether an encoded segment means the place it stands at. -/
def isSingleDot (segment : String) : Bool :=
  [".", "%2e"].contains segment.toLower

/-- Whether a segment is a drive letter, with a colon or a bar after it. -/
def isDriveLetter (segment : String) : Bool :=
  match segment.toList with
  | [c, d] => c.isAlpha && (d == ':' || d == '|')
  | _ => false

/-- Whether a segment is a drive letter with a colon. -/
def isPlainDriveLetter (segment : String) : Bool :=
  match segment.toList with
  | [c, ':'] => c.isAlpha
  | _ => false

/-- Whether a segment is a drive letter, alone or before a backslash, so that `..` leaves it. -/
def isAnchored (segment : String) : Bool :=
  match segment.toList with
  | c :: d :: rest =>
    c.isAlpha && (d == ':' || d == '|') && (rest.isEmpty || rest.head? == some '\\')
  | _ => false

/-! ## Adding to a path -/

/-- The segments that `..` leaves: without the last one, unless that is a drive letter. -/
def climb (segments : List String) : List String :=
  match segments.getLast? with
  | some last => if isAnchored last then segments else segments.dropLast
  | none => []

/-- A first segment of a `file` path as it is kept: a drive letter has a colon. -/
def withColon (segment : String) : String :=
  if isDriveLetter segment then String.ofList (segment.toList.take 1 ++ [':']) else segment

/-- The segments after one more piece, which is encoded; the last piece leaves a segment open. -/
def addSegment (kind : SchemeKind) (segments : List String) (piece : String) (isLast : Bool) :
    List String :=
  let opened := if isLast then [""] else []
  if isDoubleDot piece then climb segments ++ opened
  else if isSingleDot piece then segments ++ opened
  else if kind == .file && segments.isEmpty then [withColon piece]
  else segments ++ [piece]

/-- The segments after a list of further pieces. -/
def addSegments (kind : SchemeKind) : List String → List String → List String
  | segments, [] => segments
  | segments, [piece] => addSegment kind segments piece true
  | segments, piece :: rest => addSegments kind (addSegment kind segments piece false) rest

/-- Drops empty segments at the head of a `file` path, all but the last segment. -/
def trimFilePath (kind : SchemeKind) : List String → List String
  | "" :: s :: rest => if kind == .file then trimFilePath kind (s :: rest) else "" :: s :: rest
  | segments => segments

/-! ## Reading a path -/

/-- Whether a character separates segments. -/
def isSlash (kind : SchemeKind) (c : Char) : Bool :=
  c == '/' || (kind.isSpecial && c == '\\')

/-- The pieces of a text between slashes, and between backslashes where the scheme is special. -/
def splitSlashes (kind : SchemeKind) (cs : List Char) : List (List Char) :=
  Text.splitAt '/' (cs.map fun c => if isSlash kind c then '/' else c)

/-- The segments that a text makes after segments that are there, empty ones at the head of a
`file` path among them. -/
def readSegments (kind : SchemeKind) (segments : List String) (cs : List Char) : List String :=
  addSegments kind segments ((splitSlashes kind cs).map (percentEncode inPathSet))

/-- The path that a text makes after segments that are there. -/
def parsePath (kind : SchemeKind) (segments : List String) (cs : List Char) : List String :=
  trimFilePath kind (readSegments kind segments cs)

/-- A text without the slash that sets a path off from what stands before it. -/
def dropSlash (kind : SchemeKind) : List Char → List Char
  | [] => []
  | c :: rest => if isSlash kind c then rest else c :: rest

/-- The path that a text makes after an authority. -/
def parsePathStart (kind : SchemeKind) (cs : List Char) : List String :=
  if cs.isEmpty && !kind.isSpecial then [] else parsePath kind [] (dropSlash kind cs)

/-- A finished path with a slash at its end.  It is read once more as it stands, so that a drive
letter that came to the head of a `file` path is now seen there. -/
def closePath (kind : SchemeKind) (segments : List String) : List String :=
  if segments.getLast? = some "" then segments
  else trimFilePath kind (addSegments kind [] (segments ++ [""]))

/-! ## Longer paths -/

/-- The segments without an empty last one, unless it is the only one. -/
def popIfEmpty (segments : List String) : List String :=
  if 1 < segments.length && segments.getLast? = some "" then segments.dropLast else segments

/-- The segments after one more that is given as a text of its own.  The texts `.` and `..` are
passed over; an only segment that is empty gives way. -/
def pushSegment (kind : SchemeKind) (segments : List String) (segment : String) : List String :=
  if segment = "." || segment = ".." then segments
  else
    let cs := segment.toList.filter fun c => c != '\t' && c != '\n' && c != '\r'
    let inSet := if kind.isSpecial then inSpecialSegmentSet else inSegmentSet
    trimFilePath kind
      (addSegment kind (if segments = [""] then [] else segments) (percentEncode inSet cs) true)

end CourseReview.Url
