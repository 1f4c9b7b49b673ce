import CourseReview.Sync.Call

/-!
# Fetching many units

A call that fetches many units keeps them in a queue, in the order of the outline, and has no more
than a given number of requests under way at a time.  Each reply is taken into the session at once
and makes room for the next request.  A unit that cannot be fetched is passed over; it does not
fail the call.
-/

namespace CourseReview

/-- Where the fetching of many units stands: the requests under way by their numbers, the units
still to be asked for, and how many have come in. -/
structure UnitLoad where
  waiting : List (Nat × Ticket UnitFetch) := []
  queue : List (Ticket UnitFetch) := []
  loaded : Nat := 0
deriving DecidableEq, Repr

namespace UnitLoad

/-- Whether every unit has been dealt with. -/
def isFinished (u : UnitLoad) : Bool :=
  u.waiting.isEmpty && u.queue.isEmpty

/-- Whether the request of that number is under way. -/
def awaits (u : UnitLoad) (number : Nat) : Bool :=
  u.waiting.any (·.1 == number)

/-- Makes requests for the units of a queue while there is room, numbered from `next` on.  A unit
for which no request can be made is finished with that failure. -/
def sendQueue (server : ReviewServer) (limit loaded : Nat) :
    (next : Nat) → (waiting : List (Nat × Ticket UnitFetch)) → Session →
      List (Ticket UnitFetch) → UnitLoad × Session × List HttpRequest
  | _, waiting, s, [] => ({ waiting, loaded }, s, [])
  | next, waiting, s, t :: queue =>
    if waiting.length < limit then
      match server.request (.components t.request.usageKey) with
      | .ok r =>
        let (u, s, sent) :=
          sendQueue server limit loaded (next + 1) (waiting ++ [(next, t)]) s queue
        (u, s, r :: sent)
      | .error e =>
        sendQueue server limit loaded next waiting (s.finishUnitFetch t (.error e)).2 queue
    else ({ waiting, queue := t :: queue, loaded }, s, [])

/-- Makes as many requests as there is room for. -/
def send (server : ReviewServer) (limit next : Nat) (u : UnitLoad) (s : Session) :
    UnitLoad × Session × List HttpRequest :=
  sendQueue server limit u.loaded next u.waiting s u.queue

/-- Takes in the reply to the request of that number, without making further requests. -/
def accept (number : Nat) (reply : Outcome HttpReply) (u : UnitLoad) (s : Session) :
    UnitLoad × Session :=
  match u.waiting.find? (·.1 == number) with
  | none => (u, s)
  | some (_, t) =>
    let waiting := u.waiting.filter (·.1 != number)
    match s.finishUnitFetch t (readAnswer UnitComponents.form.decode reply) with
    | (.ok _, s) => ({ u with waiting, loaded := u.loaded + 1 }, s)
    | (.error _, s) => ({ u with waiting }, s)

end UnitLoad

end CourseReview
