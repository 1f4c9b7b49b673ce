import CourseReview.Json.Decode
import CourseReview.Outline.Version
import CourseReview.Url.Error

/-!
# What can go wrong

Every operation of a review either succeeds or ends in one `ReviewError`.  An error is a cause; the
one function `ReviewError.message` gives it its wording.  Paths stand in errors as the texts by
which they are shown.
-/

namespace CourseReview

/-- Why a path into the outline is refused; the last case is a reason given in words. -/
inductive PathFault where
  | courseHasNoChildren
  | atContentDepth (path : String)
  | sectionMissing
  | parentMissing (level : Nat)
  | unreadable (text : String)
  | notAUnit (path : String)
  | emptyPath
  | stated (reason : String)
deriving DecidableEq, Repr

/-- The wording of the fault. -/
def PathFault.message : PathFault → String
  | courseHasNoChildren => "the course node is not part of the section map"
  | atContentDepth path => s!"{path} is already at content depth"
  | sectionMissing => "a section id is required"
  | parentMissing level => s!"identifier at level {level} given without its parent"
  | unreadable text => "cannot parse '" ++ text ++ "'"
  | notAUnit path => s!"{path} is not a unit"
  | emptyPath => "empty outline path"
  | stated reason => reason

/-- Why the service cannot be set up or addressed; the last case is a reason given in words. -/
inductive SetupFault where
  | badAuthorization
  | notABase (url : String)
  | stated (reason : String)
deriving DecidableEq, Repr

/-- The wording of the fault. -/
def SetupFault.message : SetupFault → String
  | badAuthorization => "http.authorization: failed to parse header value"
  | notABase url => s!"{url} cannot be a base URL"
  | stated reason => reason

/-- Why a setting or a request is not valid; the last case is a reason given in words. -/
inductive ValidationFault where
  | badBaseUrl (text : String)
  | emptyEndpoint (name : String)
  | emptyUserAgent
  | noTimeout
  | noConcurrency
  | alreadyApplied (version : VersionId) (path : String)
  | stated (reason : String)
deriving DecidableEq, Repr

/-- The wording of the fault. -/
def ValidationFault.message : ValidationFault → String
  | badBaseUrl text => s!"api.base_url is not a valid URL: {text}"
  | emptyEndpoint name => s!"api.{name} is empty"
  | emptyUserAgent => "http.user_agent is empty"
  | noTimeout => "http.timeout_secs must be > 0"
  | noConcurrency => "http.max_concurrent must be > 0"
  | alreadyApplied version path => s!"version {version} is already applied to {path}"
  | stated reason => reason

/-- How an operation of a review can fail. -/
inductive ReviewError where
  | fileUnreadable
  | connectionFailed
  | requestRefused (url : String) (status : Nat) (body : String)
  | jsonSyntax
  | undecodable (reason : DecodeError)
  | tomlSyntax
  | badUrl (reason : UrlError)
  | setup (fault : SetupFault)
  | invalid (fault : ValidationFault)
  | invalidPath (fault : PathFault)
  | nodeNotFound (path : String)
  | notLoaded
  | nothingToApprove (path : String)
  | staleResponse (ticket current : Nat)
  | busy (activity path : String)
  | noSelection (path : String)
deriving Repr

namespace ReviewError

/-- The wording of the error. -/
def message : ReviewError → String
  | fileUnreadable => "I/O error: the file cannot be read"
  | connectionFailed => "HTTP error: the request cannot be sent"
  | requestRefused url status body => s!"Request to {url} failed with status {status}: {body}"
  | jsonSyntax => "JSON error: the text is not JSON"
  | undecodable reason => s!"JSON error: {reason.message}"
  | tomlSyntax => "TOML parse error: the settings cannot be read"
  | badUrl reason => s!"URL parse error: {reason.message}"
  | setup fault => s!"Configuration error: {fault.message}"
  | invalid fault => s!"Validation error: {fault.message}"
  | invalidPath fault => s!"Invalid outline path: {fault.message}"
  | nodeNotFound path => s!"No node at path {path}"
  | notLoaded => "No outline loaded"
  | nothingToApprove path => s!"Nothing to approve under {path}"
  | staleResponse ticket current =>
    s!"Discarded response from generation {ticket}, session is at {current}"
  | busy activity path => s!"{activity} already in progress for {path}"
  | noSelection path => s!"No version selected for {path}"

/-- Whether the exchange with the server failed, as opposed to what was exchanged. -/
def isTransport : ReviewError → Bool
  | connectionFailed => true
  | requestRefused .. => true
  | _ => false

/-- Whether the error only says that the answer came too late. -/
def isStale : ReviewError → Bool
  | staleResponse .. => true
  | _ => false

end ReviewError

/-- The result of an operation that can fail. -/
abbrev Outcome := Except ReviewError

/-- A decoding failure as the failure of an operation. -/
def Decoded.outcome {α : Type} (d : Decoded α) : Outcome α :=
  d.mapError .undecodable

end CourseReview
