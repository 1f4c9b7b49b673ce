import CourseReview.Api.Request
import CourseReview.Settings.Basic
import CourseReview.Outline.Version
import CourseReview.Url.Parser

/-!
# Endpoints of the review server

The six questions that can be put to the server, and the request each of them becomes.  The address
of a request is the server's base address, then the path of the endpoint, then the ids asked for as
further segments.  Ids may hold any characters: they are written into the path literally and never
read as addresses of their own.
-/

namespace CourseReview

/-! ## Addresses -/

/-- The base address of a server: without white space around it and with a slash at the end of its
path, so that an endpoint is found below it. -/
def Url.parseBase (s : String) : Outcome Url :=
  match Url.parse (Text.trim s) with
  | .ok u => .ok u.withTrailingSlash
  | .error e => .error (.badUrl e)

/-- The address below a base: the endpoint's path, the further segments, and an empty one if the
address is to end with a slash. -/
def Url.endpoint (base : Url) (path : String) (segments : List String) (slash : Bool) :
    Outcome Url :=
  match base.join (String.ofList (path.toList.dropWhile (· == '/'))) with
  | .error e => .error (.badUrl e)
  | .ok u =>
    match u.extend? (segments ++ if slash then [""] else []) with
    | some u => .ok u
    | none => .error (.setup (.notABase base.text))

/-! ## Questions -/

/-- A question put to the server. -/
inductive Query where
  | outline (rerunId : String)
  | components (usageKey : String)
  | version (id : VersionId)
  | approve (blockIds : List String)
  | apply (usageKey : String) (version : VersionId)
  | pairings
deriving DecidableEq, Repr

namespace Query

/-- Questions that change something on the server are put, the others got. -/
def method : Query → HttpMethod
  | .approve _ => .put
  | .apply _ _ => .put
  | _ => .get

/-- The setting that holds the path of the question's endpoint. -/
def endpointPath (s : ApiSettings) : Query → String
  | .outline _ => s.outlinePath
  | .components _ => s.componentsPath
  | .version _ => s.versionPath
  | .approve _ => s.approvePath
  | .apply _ _ => s.applyPath
  | .pairings => s.pairingsPath

/-- The ids that follow the endpoint's path. -/
def segments : Query → List String
  | .outline rerunId => [rerunId]
  | .components usageKey => [usageKey]
  | .version id => [toString id]
  | .approve _ => []
  | .apply usageKey _ => [usageKey]
  | .pairings => []

/-- Whether the address ends with a slash. -/
def endsWithSlash : Query → Bool
  | .version _ => true
  | .approve _ => true
  | .apply _ _ => true
  | _ => false

/-- The body of the request. -/
def body : Query → Option Json
  | .approve blockIds => some (.object [("block_ids", .array (blockIds.map .string))])
  | .apply _ applied => some (.object [("applied_version", .ofInt applied)])
  | _ => none

end Query

/-! ## The server -/

/-- A review server: its base address and the paths of its endpoints. -/
structure ReviewServer where
  base : Url
  paths : ApiSettings
deriving DecidableEq, Repr

namespace ReviewServer

/-- The server that the settings name. -/
def ofSettings (s : ApiSettings) : Outcome ReviewServer :=
  match Url.parseBase s.baseUrl with
  | .ok base => .ok { base, paths := s }
  | .error e => .error e

/-- The request that a question becomes. -/
def request (server : ReviewServer) (q : Query) : Outcome HttpRequest :=
  match server.base.endpoint (q.endpointPath server.paths) q.segments q.endsWithSlash with
  | .ok u => .ok { method := q.method, url := u.text, body := q.body }
  | .error e => .error e

end ReviewServer

end CourseReview
