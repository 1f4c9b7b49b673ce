import CourseReview.Settings.Validation
import CourseReview.Sync.UnitLoad

/-!
# The synchronizer

A synchronizer carries out the calls of a reviewer on one session, any number of them at the same
time.  It does not talk to the server itself.  Starting a call, and handing in the reply to a
request, are steps that give back the requests to be sent and the answers of the calls that are
finished; the replies may be handed in in any order.
-/

namespace CourseReview

/-- A call under way: one exchange by the number of its request, or the fetching of many units. -/
inductive Task where
  | exchange (request : Nat) (e : Exchange)
  | units (load : UnitLoad)

namespace Task

/-- Whether the call waits for the reply to the request of that number. -/
def awaits (number : Nat) : Task → Bool
  | .exchange request _ => request == number
  | .units u => u.awaits number

/-- The number of requests that the call has yet to make. -/
def backlog : Task → Nat
  | .exchange _ _ => 0
  | .units u => u.queue.length

end Task

/-- Where a call stands after a step. -/
inductive Progress where
  | finished (result : Outcome Answer)
  | underWay (task : Task)

/-- What one call makes of a step: where it stands, the session, and the requests to be sent. -/
structure Advance where
  progress : Progress
  session : Session
  sent : List HttpRequest := []

/-- A synchronizer: the server it works for, how many units it fetches at a time, its session, the
calls under way in the order in which they were started, the requests that wait for a reply in the
order in which they were sent, and the number of the next request. -/
structure Synchronizer where
  server : ReviewServer
  limit : Nat
  session : Session := {}
  tasks : List (Nat × Task) := []
  requests : List (Nat × HttpRequest) := []
  nextRequest : Nat := 0
  limit_pos : 0 < limit := by omega

/-- What steps give to the outside: requests by their numbers, and answers by the numbers of their
calls. -/
structure Effects where
  sent : List (Nat × HttpRequest) := []
  finished : List (Nat × Outcome Answer) := []

/-- The effects of some steps and then of others. -/
def Effects.append (a b : Effects) : Effects :=
  { sent := a.sent ++ b.sent, finished := a.finished ++ b.finished }

namespace Synchronizer

/-- A synchronizer with a new session; it fetches at least one unit at a time. -/
def new (server : ReviewServer) (maxConcurrent : Nat) : Synchronizer :=
  { server, limit := max 1 maxConcurrent }

/-- The synchronizer that the settings describe. -/
def ofSettings (s : Settings) : Outcome Synchronizer :=
  match s.http.checkHeaders with
  | .error e => .error e
  | .ok () =>
    match ReviewServer.ofSettings s.api with
    | .error e => .error e
    | .ok server => .ok (new server s.http.maxConcurrent)

/-- The number of requests that the calls under way have yet to make. -/
def backlog (y : Synchronizer) : Nat :=
  y.tasks.foldr (fun t n => t.2.backlog + n) 0

/-- Where the fetching of many units stands, once it has made what requests it can. -/
def advanceUnits (y : Synchronizer) (u : UnitLoad) (s : Session) : Advance :=
  let (u, s, sent) := u.send y.server y.limit y.nextRequest s
  let progress :=
    if u.isFinished then .finished (.ok (.unitsLoaded u.loaded)) else .underWay (.units u)
  { progress, session := s, sent }

/-- Begins a call; an exchange whose request cannot be made is finished with that failure. -/
def begin (y : Synchronizer) (c : Call) : Advance :=
  match c.start y.session with
  | (.done result, s) => { progress := .finished result, session := s }
  | (.units tickets, s) => y.advanceUnits { queue := tickets } s
  | (.exchange e, s) =>
    match e.request y.server with
    | .ok r =>
      { progress := .underWay (.exchange y.nextRequest e), session := s, sent := [r] }
    | .error failure =>
      let (result, s) := e.finish (.error failure) s
      { progress := .finished result, session := s }

/-- Hands the reply to the request of that number to the call that waits for it. -/
def advance (y : Synchronizer) (number : Nat) (reply : Outcome HttpReply) : Task → Advance
  | .exchange _ e =>
    let (result, s) := e.finish reply y.session
    { progress := .finished result, session := s }
  | .units u =>
    let (u, s) := u.accept number reply y.session
    y.advanceUnits u s

/-- The effects of what a call made of a step. -/
def effects (y : Synchronizer) (task : Nat) (a : Advance) : Effects :=
  { sent := (List.range' y.nextRequest a.sent.length).zip a.sent
    finished := match a.progress with
      | .finished result => [(task, result)]
      | .underWay _ => [] }

/-- Starts a call under a number of the caller's choice. -/
def start (y : Synchronizer) (task : Nat) (c : Call) : Effects × Synchronizer :=
  let a := y.begin c
  let out := y.effects task a
  let added := match a.progress with
    | .finished _ => []
    | .underWay t => [(task, t)]
  (out,
    { y with
      session := a.session
      tasks := y.tasks ++ added
      requests := y.requests ++ out.sent
      nextRequest := y.nextRequest + a.sent.length })

/-- The calls after the one of that number has come to stand elsewhere. -/
def settle (task : Nat) (p : Progress) (tasks : List (Nat × Task)) : List (Nat × Task) :=
  match p with
  | .finished _ => tasks.filter (·.1 != task)
  | .underWay t => tasks.map fun entry => if entry.1 == task then (task, t) else entry

/-- Hands in the reply to the request of that number; a reply nobody waits for changes nothing. -/
def receive (y : Synchronizer) (number : Nat) (reply : Outcome HttpReply) :
    Effects × Synchronizer :=
  match y.tasks.find? (·.2.awaits number) with
  | none => ({}, y)
  | some (task, t) =>
    let a := y.advance number reply t
    let out := y.effects task a
    (out,
      { y with
        session := a.session
        tasks := settle task a.progress y.tasks
        requests := y.requests.filter (·.1 != number) ++ out.sent
        nextRequest := y.nextRequest + a.sent.length })

end Synchronizer

end CourseReview
