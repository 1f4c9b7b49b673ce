import CourseReview.Session.Basic

/-!
# Loading a pairing and fetching units

Loading a pairing puts everything of the pairing before it aside, except what the reviewer has not
yet been told.  The content of a unit is fetched when the unit is first expanded, or ahead of that
when it is asked for; either way at most one fetch of a unit is under way.
-/

namespace CourseReview.Session

/-! ## Loading -/

/-- Begins to load the pairing of a translated course, in a new generation. -/
def beginLoad (s : Session) (rerunId : String) : LoadTicket × Session :=
  let generation := s.generation + 1
  ({ generation, rerunId },
    { generation, rerunId := some rerunId, loading := true, notifications := s.notifications })

/-- Finishes loading: the outlines received become those of the session. -/
def finishLoad (s : Session) (t : LoadTicket) (reply : Outcome Outline) : Step Outline :=
  if t.generation = s.generation then
    let s := { s with loading := false }
    match reply with
    | .error e => (.error e, s.announce loadName e)
    | .ok o => (.ok o, { s with outline := some o })
  else (.error (.staleResponse t.generation s.generation), s)

/-! ## Units -/

/-- Expands or collapses the node at a path; the first expansion of a unit without content begins
a fetch. -/
def toggle (s : Session) (p : NodePath) : Step (Option (Ticket UnitFetch)) :=
  match s.requireNode p with
  | .error e => (.error e, s)
  | .ok n =>
    let (fetch, expansion) := s.expansion.toggle p (n.needsFetch p)
    let s := { s with expansion }
    if fetch then
      let (t, s) := s.issue .expand p ⟨n.usageKey⟩
      (.ok (some t), s)
    else (.ok none, s)

/-- Begins to fetch the content of the unit at a path, unless it is there or on its way or the
path is not that of a unit. -/
def beginUnitFetch (s : Session) (p : NodePath) : Step (Option (Ticket UnitFetch)) :=
  match s.requireNode p with
  | .error e => (.error e, s)
  | .ok n =>
    if n.needsFetch p then
      match s.expansion.beginFetch p with
      | (true, expansion) =>
        let (t, s) := { s with expansion }.issue .expand p ⟨n.usageKey⟩
        (.ok (some t), s)
      | (false, _) => (.ok none, s)
    else (.ok none, s)

/-- What content received for a unit makes of the outlines. -/
def mergeContent (s : Session) (p : NodePath) (reply : Outcome UnitComponents) :
    Outcome UnitMerge :=
  match reply with
  | .error e => .error e
  | .ok components =>
    match s.requireOutline with
    | .error e => .error e
    | .ok o => o.mergeUnit p components

/-- Finishes fetching the content of a unit: it is put in place on both sides.  The answer is
whether any of it can be approved.  After a failure the content can be asked for again. -/
def finishUnitFetch (s : Session) (t : Ticket UnitFetch) (reply : Outcome UnitComponents) :
    Step Bool :=
  match s.settle .expand t with
  | .error e => (.error e, s)
  | .ok s =>
    match s.mergeContent t.path reply with
    | .ok m =>
      (.ok m.hasEligible,
        { s with
          outline := some m.outline
          expansion := s.expansion.finishFetch t.path true })
    | .error e =>
      (.error e,
        { s with expansion := s.expansion.finishFetch t.path false }.announce
          (Activity.expand.describe t.path) e)

/-- Expands or collapses the whole outline. -/
def toggleAll (s : Session) : Visibility × Session :=
  let expansion := s.expansion.toggleAll
  (expansion.globalVisibility, { s with expansion })

end CourseReview.Session
