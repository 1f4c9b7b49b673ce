import CourseReview.Settings.Basic
import CourseReview.Text.Blank
import CourseReview.Url.Parser

/-!
# Checking settings

Settings are checked at two times.  Validation looks at all of them and names the first that cannot
work.  Setting up the client looks only at the two texts that go into the headers of every request.
-/

namespace CourseReview

/-- The endpoints by the names of their settings, in the order in which they are checked. -/
def ApiSettings.endpoints (s : ApiSettings) : List (String × String) :=
  [("outline_path", s.outlinePath), ("components_path", s.componentsPath),
    ("version_path", s.versionPath), ("approve_path", s.approvePath),
    ("apply_path", s.applyPath), ("pairings_path", s.pairingsPath)]

/-- The first setting at fault, if there is one. -/
def Settings.fault? (s : Settings) : Option ValidationFault :=
  match Url.parse s.api.baseUrl with
  | .error _ => some (.badBaseUrl s.api.baseUrl)
  | .ok _ =>
    match s.api.endpoints.find? (Text.isAllBlank ·.2) with
    | some (name, _) => some (.emptyEndpoint name)
    | none =>
      if Text.isAllBlank s.http.userAgent then some .emptyUserAgent
      else if s.http.timeoutSecs = 0 then some .noTimeout
      else if s.http.maxConcurrent = 0 then some .noConcurrency
      else none

/-- Checks all settings. -/
def Settings.validate (s : Settings) : Outcome Unit :=
  match s.fault? with
  | some fault => .error (.invalid fault)
  | none => .ok ()

/-- Whether a text can be the value of a header: of the control characters only the tab can. -/
def isHeaderValue (s : String) : Bool :=
  s.toList.all fun c => c = '\t' || (0x20 ≤ c.toNat && c.toNat ≠ 0x7F)

/-- Checks the texts that go into the headers of every request. -/
def HttpSettings.checkHeaders (s : HttpSettings) : Outcome Unit :=
  if !(s.authorization.getD "" |> isHeaderValue) then .error (.setup .badAuthorization)
  else if !isHeaderValue s.userAgent then .error .connectionFailed
  else .ok ()

end CourseReview
