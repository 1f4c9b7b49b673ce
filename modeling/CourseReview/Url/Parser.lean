import CourseReview.Url.Path

/-!
# Reading URLs

A text is read as a URL, alone or relative to another URL.  White space and control characters at
the ends and every tab, line feed and carriage return are dropped first.  The rules are those of
the WHATWG URL Standard for its three sorts of schemes: `file`, the other special schemes, and all
others.
-/

namespace CourseReview.Url

/-! ## Query and fragment -/

/-- Whether a character ends the path. -/
def endsPath (c : Char) : Bool :=
  c == '?' || c == '#'

/-- The URL with the query and the fragment of a text that begins with `?` or `#` or is empty. -/
def withQueryAndFragment (u : Url) (cs : List Char) : Url :=
  let inSet := if u.kind.isSpecial then inSpecialQuerySet else inQuerySet
  let fragmentOf (cs : List Char) : Option String :=
    match cs with
    | [] => none
    | _ :: rest => some (percentEncode inFragmentSet rest)
  match cs with
  | '?' :: rest =>
    let (query, rest) := rest.span (· != '#')
    { u with query := some (percentEncode inSet query), fragment := fragmentOf rest }
  | cs => { u with query := none, fragment := fragmentOf cs }

/-- The URL with a path that was read, and the query and the fragment of the text after it. -/
def withPath (u : Url) (segments : List String) (rest : List Char) : Url :=
  let isSetOff := match u.authority, segments with
    | none, "" :: _ :: _ => true
    | _, _ => false
  withQueryAndFragment { u with path := .segments segments, isSetOff } rest

/-! ## Authority -/

/-- Splits at the last `@`. -/
def splitUserInfo (cs : List Char) : Option (List Char) × List Char :=
  match cs.reverse.span (· != '@') with
  | (_, []) => (none, cs)
  | (host, _ :: user) => (some user.reverse, host.reverse)

/-- Splits at the first colon outside brackets. -/
def splitPort : (inBrackets : Bool) → List Char → List Char × Option (List Char)
  | _, [] => ([], none)
  | inBrackets, c :: rest =>
    if c == ':' && !inBrackets then ([], some rest)
    else
      let inside := if c == '[' then true else if c == ']' then false else inBrackets
      let (host, port) := splitPort inside rest
      (c :: host, port)

/-- Reads a port; the port that the scheme stands for is left out. -/
def parsePort (scheme : String) (cs : List Char) : Except UrlError (Option Nat) :=
  if !cs.all Char.isDigit then .error .invalidPort
  else
    let n := Text.numberOf 10 cs
    if 65535 < n then .error .invalidPort
    else if cs.isEmpty || some n == defaultPort? scheme then .ok none
    else .ok (some n)

/-- Reads what stands between `//` and the path, and gives back what a backslash after the port
begins: it belongs to the path, whatever the scheme. -/
def parseAuthority (scheme : String) (cs : List Char) :
    Except UrlError (UrlAuthority × List Char) := do
  let kind := SchemeKind.ofScheme scheme
  let (user, rest) := splitUserInfo cs
  let (username, password) := match user with
    | none => ([], [])
    | some user =>
      let (name, password) := user.span (· != ':')
      (name, password.drop 1)
  let (hostText, portText) := splitPort false rest
  if hostText.isEmpty && (kind.isSpecial || portText.isSome || !username.isEmpty
      || !password.isEmpty) then
    throw .emptyHost
  let host ← if kind.isSpecial then parseHost hostText else parsePlainHost hostText
  let (digits, after) := (portText.getD []).span (· != '\\')
  let port ← parsePort scheme digits
  pure
    ({ username := percentEncode inUserInfoSet username
       password := percentEncode inUserInfoSet password
       host, port }, after)

/-- Reads the rest of a URL after `//`.  A lone `@` before a path, a query or a fragment announces a
host that is not there. -/
def afterDoubleSlash (scheme : String) (cs : List Char) : Except UrlError Url := do
  let kind := SchemeKind.ofScheme scheme
  let (authorityText, rest) := cs.span fun c => !(isSlash kind c || endsPath c)
  if authorityText = ['@'] ∧ rest ≠ [] then throw .emptyHost
  let (authority, after) ← parseAuthority scheme authorityText
  let (pathText, rest) := rest.span fun c => !endsPath c
  pure <| withPath { scheme, authority := some authority, path := .segments [] }
    (parsePathStart kind (after ++ pathText)) rest

/-! ## Relative references -/

/-- The segments of a base's path. -/
def baseSegments (base : Url) : List String :=
  match base.path with
  | .segments list => list
  | .rootless _ => []

/-- The segments of a base's path without the last one; a drive letter of a `file` URL stays. -/
def segmentsAbove (base : Url) : List String :=
  let segments := baseSegments base
  if base.kind == .file && segments.getLast?.any isPlainDriveLetter then segments
  else segments.dropLast

/-- The path that stands where the last segment of the base's path stood. -/
def besideLast (base : Url) (cs : List Char) : Url :=
  let (pathText, rest) := cs.span fun c => !endsPath c
  withPath base (parsePath base.kind (segmentsAbove base) pathText) rest

/-- Reads a reference relative to a base whose scheme is not `file`. -/
def parseRelative (base : Url) (cs : List Char) : Except UrlError Url :=
  match cs with
  | [] => .ok { base with fragment := none }
  | '?' :: _ => .ok (withQueryAndFragment base cs)
  | '#' :: _ => .ok { withQueryAndFragment base cs with query := base.query }
  | c :: rest =>
    if c == '/' || c == '\\' then
      match rest with
      | d :: _ =>
        if d == '/' || d == '\\' then
          let after := match cs with
            | '/' :: '/' :: rest => rest
            | cs => cs.dropWhile fun c => c == '/' || c == '\\'
          afterDoubleSlash base.scheme after
        else
          let (pathText, rest) := rest.span fun c => !endsPath c
          .ok (withPath base (parsePath base.kind [] pathText) rest)
      | [] => .ok (withPath base [""] [])
    else .ok (besideLast base cs)

/-! ## Files -/

/-- Whether a text begins with a drive letter that a slash, `?`, `#` or the end follows. -/
def startsWithDriveLetter (cs : List Char) : Bool :=
  match cs with
  | c :: d :: rest =>
    c.isAlpha && (d == ':' || d == '|') &&
      match rest with
      | [] => true
      | e :: _ => isSlash .file e || endsPath e
  | _ => false

/-- The host of a `file` URL: none is written for `localhost`. -/
def parseFileHost (cs : List Char) : Except UrlError Host :=
  if cs.isEmpty then .ok (.name "")
  else do
    match ← parseHost cs with
    | .name "localhost" => pure (.name "")
    | host => pure host

/-- A `file` URL of a host and segments. -/
def fileUrl (host : Host) (segments : List String) (rest : List Char) : Url :=
  withPath { scheme := "file", authority := some { host }, path := .segments [] } segments rest

/-- Reads a `file` URL after two slashes.  With a host the path begins after the slash that ends
it, and the host is left out if a drive letter comes to the head of the path.  Without one, or
where a drive letter stands in its place, all that follows is the path. -/
def afterFileSlashes (cs : List Char) : Except UrlError Url := do
  let (hostText, after) := cs.span fun c => !(isSlash .file c || endsPath c)
  let whole (cs : List Char) : Url :=
    let (pathText, tail) := cs.span fun c => !endsPath c
    fileUrl (.name "") (parsePath .file [] pathText) tail
  if isDriveLetter (String.ofList hostText) then pure (whole cs)
  else
    match ← parseFileHost hostText with
    | .name "" => pure (whole after)
    | host =>
      let (pathText, tail) := after.span fun c => !endsPath c
      let segments := readSegments .file [] (dropSlash .file pathText)
      let host := if segments.head?.any isPlainDriveLetter then .name "" else host
      pure (fileUrl host (trimFilePath .file segments) tail)

/-- The host and the segments with which a path begins that one slash sets off from the scheme:
those of the base, of whose path only a drive letter is taken and then no host. -/
def fileRoot (base? : Option Url) (pathText : List Char) : Host × List String :=
  match base? with
  | some { authority := some a, path := .segments (first :: _), .. } =>
    if startsWithDriveLetter pathText then (.name "", [])
    else if isPlainDriveLetter first then (.name "", [first])
    else (a.host, [])
  | _ => (.name "", [])

/-- Reads a `file` URL after its scheme, or relative to one. -/
def parseFile (base? : Option Url) (cs : List Char) : Except UrlError Url :=
  let split (cs : List Char) := cs.span fun c => !endsPath c
  let alone (cs : List Char) : Url :=
    let (pathText, tail) := split cs
    fileUrl (.name "") (parsePath .file [] pathText) tail
  let underRoot (rest : List Char) : Url :=
    let (host, drive) := fileRoot base? rest
    let (pathText, tail) := split rest
    fileUrl host (parsePath .file drive pathText) tail
  match cs with
  | c :: rest =>
    if isSlash .file c then
      match rest with
      | d :: rest' => if isSlash .file d then afterFileSlashes rest' else .ok (underRoot rest)
      | [] => .ok (underRoot [])
    else
      match base? with
      | some base =>
        if c == '?' then .ok (withQueryAndFragment base cs)
        else if c == '#' then .ok { withQueryAndFragment base cs with query := base.query }
        else if startsWithDriveLetter cs then .ok (alone cs)
        else .ok (besideLast base cs)
      | none => .ok (alone cs)
  | [] =>
    match base? with
    | some base => .ok { base with fragment := none }
    | none => .ok (alone [])

/-! ## Whole URLs -/

/-- Whether a character may stand in a scheme after its first letter. -/
def isSchemeChar (c : Char) : Bool :=
  c.isAlphanum || c == '+' || c == '-' || c == '.'

/-- The scheme, in small letters, and what follows its colon. -/
def splitScheme? (cs : List Char) : Option (String × List Char) :=
  match cs with
  | [] => none
  | c :: _ =>
    if c.isAlpha then
      match cs.span isSchemeChar with
      | (scheme, ':' :: rest) => some (String.ofList (scheme.map Char.toLower), rest)
      | _ => none
    else none

/-- Reads the rest of a URL whose scheme is none of the special ones. -/
def parsePlain (scheme : String) (cs : List Char) : Except UrlError Url :=
  match cs with
  | '/' :: '/' :: rest => afterDoubleSlash scheme rest
  | '/' :: rest =>
    let (pathText, tail) := rest.span fun c => !endsPath c
    .ok <| withPath { scheme, authority := none, path := .segments [] }
      (parsePath .plain [] pathText) tail
  | cs =>
    let (pathText, tail) := cs.span fun c => !endsPath c
    .ok <| withQueryAndFragment
      { scheme, authority := none, path := .rootless (percentEncode isControl pathText) } tail

/-- The text that is read: without white space and control characters at the ends and without
tabs and line ends. -/
def clean (s : String) : List Char :=
  (Text.trimBy (·.toNat ≤ 0x20) s.toList).filter fun c => c != '\t' && c != '\n' && c != '\r'

/-- Reads a URL, relative to a base if there is one. -/
def parseFrom (base? : Option Url) (s : String) : Except UrlError Url :=
  let cs := clean s
  match splitScheme? cs with
  | some (scheme, rest) =>
    match SchemeKind.ofScheme scheme with
    | .file => parseFile (base?.filter (·.kind == .file)) rest
    | .plain => parsePlain scheme rest
    | .special =>
      let (slashes, after) := rest.span fun c => c == '/' || c == '\\'
      match base? with
      | some base =>
        if slashes.length < 2 && base.scheme == scheme then parseRelative base rest
        else afterDoubleSlash scheme after
      | none => afterDoubleSlash scheme after
  | none =>
    match base? with
    | none => .error .relativeWithoutBase
    | some base =>
      match cs with
      | '#' :: _ => .ok { withQueryAndFragment base cs with query := base.query }
      | cs =>
        if base.isRootless then .error .relativeToOpaqueBase
        else if base.kind == .file then parseFile (some base) cs
        else parseRelative base cs

/-- Reads a URL. -/
def parse (s : String) : Except UrlError Url :=
  parseFrom none s

/-- Reads a reference relative to a URL. -/
def join (base : Url) (reference : String) : Except UrlError Url :=
  parseFrom (some base) reference

/-! ## Longer paths -/

/-- The URL with a slash at the end of its path.  A path without structure must not begin with a
slash, so where it is empty the slash is encoded. -/
def withTrailingSlash (u : Url) : Url :=
  match u.path with
  | .rootless text =>
    if text.endsWith "/" then u
    else { u with path := .rootless (if text.isEmpty then "%2F" else text ++ "/") }
  | .segments list => { u with path := .segments (closePath u.kind list) }

/-- The URL with further segments at the end of its path; none for a URL that can be no base. -/
def extend? (u : Url) (further : List String) : Option Url :=
  match u.path with
  | .rootless _ => none
  | .segments list =>
    some
      { u with path := .segments (further.foldl (pushSegment u.kind) (popIfEmpty list)) }

end CourseReview.Url
