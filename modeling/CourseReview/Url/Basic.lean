import CourseReview.Url.Host

/-!
# URLs

The parts of a URL after the WHATWG URL Standard, and the text they make up.  The path of a URL is
a list of segments, each standing after a slash, or, for a URL that can be no base for others, one
text without structure.
-/

namespace CourseReview

open Url (Host)

/-- Who and where is to be asked: between `//` and the path. -/
structure UrlAuthority where
  username : String := ""
  password : String := ""
  host : Host := .name ""
  port : Option Nat := none
deriving DecidableEq, Repr

/-- The path of a URL. -/
inductive UrlPath where
  | segments (list : List String)
  | rootless (text : String)
deriving DecidableEq, Repr

/-- A URL.  Where a path was read that begins with two slashes and no authority stands before it,
the text has `/.` there, and keeps it while segments are added to the path. -/
structure Url where
  scheme : String
  authority : Option UrlAuthority
  path : UrlPath
  isSetOff : Bool := false
  query : Option String := none
  fragment : Option String := none
deriving DecidableEq, Repr

/-- The three sorts of schemes, which are read by different rules. -/
inductive SchemeKind where
  | file
  | special
  | plain
deriving DecidableEq, Repr

namespace SchemeKind

/-- The sort of a scheme. -/
def ofScheme (scheme : String) : SchemeKind :=
  if scheme = "file" then .file
  else if ["http", "https", "ws", "wss", "ftp"].contains scheme then .special
  else .plain

/-- Whether backslashes separate segments as slashes do, and the path is never empty. -/
def isSpecial : SchemeKind → Bool
  | .plain => false
  | _ => true

end SchemeKind

namespace Url

/-- The port that a scheme stands for. -/
def defaultPort? (scheme : String) : Option Nat :=
  if scheme = "http" || scheme = "ws" then some 80
  else if scheme = "https" || scheme = "wss" then some 443
  else if scheme = "ftp" then some 21
  else none

/-- The sort of the URL's scheme. -/
def kind (u : Url) : SchemeKind :=
  .ofScheme u.scheme

/-- Whether the URL can be no base for others. -/
def isRootless (u : Url) : Bool :=
  match u.path with
  | .rootless _ => true
  | .segments _ => false

/-- The path as text: a slash before each segment. -/
def pathText (u : Url) : String :=
  match u.path with
  | .rootless text => text
  | .segments list => String.join (list.map ("/" ++ ·))

/-- The authority as text. -/
def authorityText (a : UrlAuthority) : String :=
  let password := if a.password.isEmpty then "" else ":" ++ a.password
  let user := if a.username.isEmpty && a.password.isEmpty then "" else a.username ++ password ++ "@"
  let port := match a.port with | some p => ":" ++ toString p | none => ""
  user ++ a.host.text ++ port

/-- The URL as text. -/
def text (u : Url) : String :=
  let authority := match u.authority with
    | some a => "//" ++ authorityText a
    | none => if u.isSetOff then "/." else ""
  let query := match u.query with | some q => "?" ++ q | none => ""
  let fragment := match u.fragment with | some f => "#" ++ f | none => ""
  u.scheme ++ ":" ++ authority ++ u.pathText ++ query ++ fragment

end Url

end CourseReview
