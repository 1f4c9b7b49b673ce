import CourseReview.Sync.Basic

/-!
# Links to a server

A link stands for a server and for the order in which its replies come.  It is shown the requests
that wait for a reply and hands out one of them with its reply, or nothing when there is no reply as
yet.  Driving a synchronizer over a link hands in one reply after another until the link has
nothing to hand out.  So what holds over every link holds for all replies in every order.
-/

namespace CourseReview

/-- A link to a server, with a state of its own. -/
abbrev Link (σ : Type) := List (Nat × HttpRequest) → σ → Option (Nat × Outcome HttpReply) × σ

/-- The link to a server that cannot be reached. -/
def Link.unreachable {σ : Type} : Link σ :=
  fun requests state => (requests.head?.map fun r => (r.1, .error .connectionFailed), state)

namespace Synchronizer

variable {σ : Type}

/-- Hands in replies from a link, `fuel` at most. -/
def driveFor (link : Link σ) : (fuel : Nat) → Synchronizer → σ → Effects × Synchronizer × σ
  | 0, y, state => ({}, y, state)
  | fuel + 1, y, state =>
    match link y.requests state with
    | (none, state) => ({}, y, state)
    | (some (number, reply), state) =>
      let (now, y) := y.receive number reply
      let (later, y, state) := driveFor link fuel y state
      (now.append later, y, state)

/-- Lets a step take its course over a link.  Every request gets one reply, so the requests that
wait and those that calls have yet to make bound the number of replies. -/
def drive (link : Link σ) (step : Effects × Synchronizer) (state : σ) :
    Effects × Synchronizer × σ :=
  let (now, y) := step
  let (later, y, state) := driveFor link (y.requests.length + y.backlog) y state
  (now.append later, y, state)

end Synchronizer

end CourseReview
