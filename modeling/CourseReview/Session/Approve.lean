import CourseReview.Session.Basic

/-!
# Approving

Everything eligible at or below a node is approved in one exchange.  When there is nothing to
approve, the reviewer is told so and no request is made.
-/

namespace CourseReview.Session

/-- Begins to approve everything eligible at or below a path. -/
def beginApprove (s : Session) (p : NodePath) : Step (Ticket ApprovalRequest) :=
  match s.requireOutline with
  | .error e => (.error e, s)
  | .ok o =>
    match s.ensureIdle .approve p with
    | .error e => (.error e, s)
    | .ok () =>
      match o.rerun.planApproval p with
      | .ok blockIds =>
        let (t, s) := s.issue .approve p ⟨blockIds⟩
        (.ok t, s)
      | .error (.nothingToApprove path) =>
        (.error (.nothingToApprove path), s.notify .info s!"Nothing to approve under {p.text}")
      | .error e => (.error e, s)

/-- Finishes approving: the server's answers are folded into the outline.  The answer is how many
of the blocks asked for it has answered for. -/
def finishApprove (s : Session) (t : Ticket ApprovalRequest) (reply : Outcome ApprovalPatch) :
    Step Nat :=
  match s.settle .approve t with
  | .error e => (.error e, s)
  | .ok s =>
    match reply with
    | .error e => (.error e, s.announce (Activity.approve.describe t.path) e)
    | .ok patch =>
      match s.requireOutline with
      | .error e => (.error e, s)
      | .ok o =>
        match o.rerun.approve t.path patch with
        | .error e => (.error e, s)
        | .ok r =>
          (.ok (t.request.blockIds.countP (Keyed.has · patch)), s.setRerun o r.tree)

end CourseReview.Session
