import CourseReview.Json.Printer
import CourseReview.Sync.Link

/-!
# Recorded servers

A recorded server answers from a list of routes, each a method and a path with the replies given to
its requests in turn; the last reply is given again and again.  A request without a route is
refused.  A reply can be marked as held: it is kept back until it is released.  The server fixes
the reply to a request when it first sees the request, and hands out its replies in the order of
the requests.
-/

namespace CourseReview

/-- What a recorded reply carries: a JSON value, or a text as it came. -/
inductive RecordedBody where
  | data (value : Json)
  | text (raw : String)

/-- A recorded reply. -/
structure RecordedReply where
  status : Nat
  body : RecordedBody := .text ""
  hold : Bool := false

namespace RecordedReply

/-- A recorded reply: its `status` is needed, and without a body it carries an empty text. -/
def form : RecordForm RecordedReply where
  name := "RecordedReply"
  fields := ["status", "body", "text", "hold"]
  needed := ["status"]
  neededInRow := ["status"]
  blank := { status := 0 }
  set field j r :=
    match field with
    | "status" => return { r with status := ← Json.decodeNat64 "u64" j }
    | "body" => return { r with body := .data j }
    | "text" => return { r with body := .text (← Json.decodeString j) }
    | "hold" => return { r with hold := ← Json.decodeBool j }
    | _ => return r

/-- The reply when there is no route. -/
def noRoute : RecordedReply :=
  { status := 404, body := .text "no route" }

/-- The outcome of a request that gets the recorded reply. -/
def outcome (r : RecordedReply) (request : HttpRequest) : Outcome HttpReply :=
  match r.body with
  | .text raw => request.readReply r.status raw
  | .data value =>
    if isSuccess r.status then .ok { status := r.status, data := value }
    else request.readReply r.status value.text

end RecordedReply

/-- The recorded replies of one method and path. -/
structure Route where
  method : String
  path : String
  replies : List RecordedReply

namespace Route

/-- The recorded replies of one method and path, all of which are needed. -/
def form : RecordForm Route where
  name := "Route"
  fields := ["method", "path", "replies"]
  needed := ["method", "path", "replies"]
  neededInRow := ["method", "path", "replies"]
  blank := { method := "", path := "", replies := [] }
  set field j r :=
    match field with
    | "method" => return { r with method := ← Json.decodeString j }
    | "path" => return { r with path := ← Json.decodeString j }
    | "replies" => return { r with replies := ← Json.decodeList RecordedReply.form.decode j }
    | _ => return r

/-- Takes the next reply of the route; the last one stays. -/
def next (r : Route) : RecordedReply × Route :=
  match r.replies with
  | [] => (.noRoute, r)
  | [last] => (last, r)
  | reply :: rest => (reply, { r with replies := rest })

/-- Takes the next reply of the first route of that method and path. -/
def pick (method path : String) : List Route → RecordedReply × List Route
  | [] => (.noRoute, [])
  | r :: rest =>
    if r.method = method && r.path = path then
      let (reply, r) := r.next
      (reply, r :: rest)
    else
      let (reply, rest) := pick method path rest
      (reply, r :: rest)

end Route

/-- A reply that the server has fixed, by the number of its request. -/
structure FixedReply where
  number : Nat
  reply : Outcome HttpReply
  hold : Bool

/-- A recorded server: its routes, the replies it has fixed and not yet handed out, and the number
of the next request that is new to it. -/
structure RecordedServer where
  routes : List Route
  fixed : List FixedReply := []
  nextRequest : Nat := 0

namespace RecordedServer

/-- A recorded server from the list of its routes. -/
def decode (j : Json) : Decoded RecordedServer :=
  (Json.decodeList Route.form.decode j).map fun routes => { routes }

/-- The path of a request's address. -/
def requestPath (r : HttpRequest) : String :=
  match Url.parse r.url with
  | .ok u => u.pathText
  | .error _ => ""

/-- Fixes the reply to a request that is new. -/
def see (server : RecordedServer) (entry : Nat × HttpRequest) : RecordedServer :=
  let (number, request) := entry
  if number < server.nextRequest then server
  else
    let (reply, routes) := Route.pick request.method.name (requestPath request) server.routes
    { routes
      fixed := server.fixed ++ [{ number, reply := reply.outcome request, hold := reply.hold }]
      nextRequest := number + 1 }

/-- The server without the reply to the request of that number. -/
def drop (server : RecordedServer) (number : Nat) : RecordedServer :=
  { server with fixed := server.fixed.filter (·.number != number) }

/-- The link to a recorded server. -/
def link : Link RecordedServer :=
  fun requests server =>
    let server := requests.foldl see server
    match server.fixed.find? (!·.hold) with
    | some f => (some (f.number, f.reply), server.drop f.number)
    | none => (none, server)

/-- The numbers of the requests whose replies are kept back, in the order of the requests. -/
def heldNumbers (server : RecordedServer) : List Nat :=
  (server.fixed.filter (·.hold)).map (·.number)

/-- Releases the reply to the request of that number. -/
def release (server : RecordedServer) (number : Nat) : RecordedServer :=
  { server with
    fixed := server.fixed.map fun f => if f.number = number then { f with hold := false } else f }

end RecordedServer

end CourseReview
