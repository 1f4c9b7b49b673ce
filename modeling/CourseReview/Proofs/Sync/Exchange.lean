import CourseReview.Proofs.Sync.UnitLoad

/-!
# Calls with one exchange

Most calls are over at once or have one exchange with the server.  When nothing else is under way, such
a call sends its request, gets the reply, and is finished with what the session makes of it
(`Synchronizer.drive_exchange`); a request that cannot be made is finished as one that has failed.
-/

namespace CourseReview

/-- The request of the exchange, if it can be made. -/
def Exchange.requests (server : ReviewServer) (e : Exchange) : List HttpRequest :=
  (e.request server).toOption.toList

/-- What the exchange is finished with, given the reply to its request. -/
def Exchange.outcome (server : ReviewServer) (reply : Outcome HttpReply) (e : Exchange) :
    Outcome HttpReply :=
  match e.request server with
  | .ok _ => reply
  | .error failure => .error failure

namespace Synchronizer

variable {σ : Type} {link : Link σ} {replies : Nat → Outcome HttpReply} {y : Synchronizer} {c : Call}
  {s : Session}

/-- A call that is done when it begins. -/
theorem drive_done (htasks : y.tasks = []) (hrequests : y.requests = []) {result : Outcome Answer}
    (hstart : c.start y.session = (.done result, s)) (task : Nat) (state : σ) :
    drive link (y.start task c) state =
      ({ finished := [(task, result)] }, { y with session := s, tasks := [], requests := [] }, state) := by
  rw [start, begin, hstart]
  simp only [effects, htasks, hrequests, List.append_nil, List.length_nil, List.range'_zero,
    List.zip_nil_left, Nat.add_zero]
  exact drive_of_none rfl

/-- The reply to the only request that waits finishes the only call under way. -/
theorem receive_exchange {task number : Nat} {e : Exchange} {r : HttpRequest}
    (htasks : y.tasks = [(task, .exchange number e)]) (hrequests : y.requests = [(number, r)])
    (reply : Outcome HttpReply) :
    y.receive number reply =
      let finish := e.finish reply y.session
      ({ finished := [(task, finish.1)] },
        { y with session := finish.2, tasks := [], requests := [] }) := by
  have hfind : y.tasks.find? (·.2.awaits number) = some (task, .exchange number e) := by
    rw [htasks]
    exact List.find?_cons_of_pos (beq_self_eq_true number)
  rw [receive, hfind]
  simp only [advance, effects, settle, htasks, hrequests, List.length_nil, List.range'_zero,
    List.zip_nil_left, List.append_nil, Nat.add_zero]
  simp

/-- **One exchange** runs its course. -/
theorem drive_exchange (hlink : link.Answers replies) (htasks : y.tasks = [])
    (hrequests : y.requests = []) {e : Exchange} (hstart : c.start y.session = (.exchange e, s))
    (task : Nat) (state : σ) :
    ∃ state', drive link (y.start task c) state =
      let finish := e.finish (e.outcome y.server (replies y.nextRequest)) s
      ({ sent := numbered y.nextRequest (e.requests y.server), finished := [(task, finish.1)] },
        { y with
          session := finish.2
          tasks := []
          requests := []
          nextRequest := y.nextRequest + (e.requests y.server).length }, state') := by
  rw [Exchange.outcome, Exchange.requests, start, begin, hstart]
  cases hrequest : e.request y.server with
  | error failure =>
    refine ⟨state, ?_⟩
    simp only [effects, htasks, hrequests, List.append_nil, hrequest, Except.toOption,
      Option.toList_none, numbered_nil]
    exact drive_of_none rfl
  | ok r =>
    simp only [effects, htasks, hrequests, hrequest, List.nil_append, Except.toOption,
      Option.toList_some]
    obtain ⟨number, state', hreply, hnumber⟩ :=
      hlink [(y.nextRequest, r)] state (List.cons_ne_nil _ _)
    obtain rfl := List.mem_singleton.mp hnumber
    refine ⟨state', ?_⟩
    rw [drive_of_reply hreply, receive_exchange rfl rfl, drive_of_none rfl]
    · rfl
    · rw [receive_exchange rfl rfl]
      rfl

end Synchronizer

end CourseReview
