import CourseReview.Api.Payload
import CourseReview.Session.Basic

/-!
# Selecting and applying versions

Selecting a version fetches its payload and shows it in the place of the node's own; selecting the
translation without a version needs no server and puts the node's own payload back.  The version
selected can then be applied.  Both can be under way for one node at the same time, and each of
them at most once.
-/

namespace CourseReview

/-- How the selection of a version begins: it is done at once, or the payload has to be fetched. -/
inductive SelectStep where
  | done (selected : Selection)
  | fetch (ticket : Ticket VersionFetch)
deriving DecidableEq, Repr

namespace Session

/-- Begins to select a version for the node at a path. -/
def beginSelect (s : Session) (p : NodePath) (version : VersionId) : Step SelectStep :=
  match s.requireNode p with
  | .error e => (.error e, s)
  | .ok _ =>
    match s.ensureIdle .selectVersion p with
    | .error e => (.error e, s)
    | .ok () =>
      if version = pendingVersion then
        match s.updateRerun p Node.revertPreview with
        | .error e => (.error e, s)
        | .ok s => (.ok (.done .pending), s.select p .pending)
      else
        let (t, s) := s.issue .selectVersion p ⟨version⟩
        (.ok (.fetch t), s)

/-- Finishes selecting a version: its payload is shown in the node. -/
def finishSelect (s : Session) (t : Ticket VersionFetch) (reply : Outcome VersionPayload) :
    Step Selection :=
  match s.settle .selectVersion t with
  | .error e => (.error e, s)
  | .ok s =>
    match reply with
    | .error e => (.error e, s.announce (Activity.selectVersion.describe t.path) e)
    | .ok payload =>
      match s.updateRerun t.path (·.previewVersion payload.data) with
      | .error e => (.error e, s)
      | .ok s =>
        match s.requireNode t.path with
        | .error e => (.error e, s)
        | .ok n =>
          let version := t.request.version
          let selected : Selection := { version, applyEnabled := n.applyEnabled version }
          (.ok selected, s.select t.path selected)

/-- Begins to apply the version selected for the node at a path. -/
def beginApply (s : Session) (p : NodePath) : Step (Ticket VersionApply) :=
  match s.requireNode p with
  | .error e => (.error e, s)
  | .ok n =>
    match (s.selection p).filter (!·.isPending) with
    | none => (.error (.noSelection p.text), s)
    | some selected =>
      if n.applyEnabled selected.version then
        match s.ensureIdle .applyVersion p with
        | .error e => (.error e, s)
        | .ok () =>
          let (t, s) := s.issue .applyVersion p ⟨n.usageKey, selected.version⟩
          (.ok t, s)
      else (.error (.invalid (.alreadyApplied selected.version p.text)), s)

/-- Finishes applying a version: the payload shown becomes the node's own, and nothing is left to
apply. -/
def finishApply (s : Session) (t : Ticket VersionApply) (reply : Outcome AppliedVersion) :
    Step Unit :=
  match s.settle .applyVersion t with
  | .error e => (.error e, s)
  | .ok s =>
    match reply with
    | .error e => (.error e, s.announce (Activity.applyVersion.describe t.path) e)
    | .ok applied =>
      match s.updateRerun t.path (·.commitApplied applied) with
      | .error e => (.error e, s)
      | .ok s =>
        match s.selection t.path with
        | none => (.ok (), s)
        | some selected => (.ok (), s.select t.path { selected with applyEnabled := false })

end Session

end CourseReview
