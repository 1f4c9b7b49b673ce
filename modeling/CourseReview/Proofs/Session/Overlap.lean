import Mathlib.Logic.Function.Basic
import CourseReview.Proofs.Outline.Update
import CourseReview.Proofs.Session.Content

/-!
# Replies that overlap

Several requests can be under way at once, and their replies come in any order.  This file settles
that the order does not matter where they do not touch the same nodes.

What a reply does to a session is an `Effect`: a few changes at one path, the same whatever else is in
the session, and a response (`Session.Awaits.perform`).  An effect depends on the session in two
points only, which are the versions of the node at its path and whether the base has a node there.

* Effects that are apart (`Effect.Apart`) leave each other's points alone, so that each can follow
  the other (`Session.Awaits.settleWith`), and their changes can be made in either order, up to the
  order of the notifications (`Session.settleWith_comm`).
* Effects are apart when neither path contains the other, and also at different paths when both
  are about versions, since showing and applying versions does not reach below a node
  (`Event.effect?_own`).

`Trace.replies_in_either_order` puts them together.
-/

namespace CourseReview

/-! ## 1. Effects -/

/-- A map of paths with another value at one of them, made from the old one. -/
def alterAt {α : Type} (p : NodePath) (f : α → α) (g : NodePath → α) : NodePath → α :=
  Function.update g p (f (g p))

theorem alterAt_apply {α : Type} (p : NodePath) (f : α → α) (g : NodePath → α) (q : NodePath) :
    alterAt p f g q = if q = p then f (g q) else g q := by
  rw [alterAt, Function.update_apply]
  split
  · rename_i hq; rw [hq]
  · rfl

theorem alterAt_id {α : Type} (p : NodePath) (g : NodePath → α) : alterAt p (fun a => a) g = g :=
  Function.update_eq_self p g

theorem alterAt_comm {α : Type} {p q : NodePath} (hne : p ≠ q) (f f' : α → α) (g : NodePath → α) :
    alterAt q f' (alterAt p f g) = alterAt p f (alterAt q f' g) := by
  simp only [alterAt, Function.update_of_ne hne.symm, Function.update_of_ne hne]
  exact Function.update_comm hne ..

/-- Both outlines, with other nodes at a path. -/
def Outline.update (o : Outline) (p : NodePath) (rerun base : Node → Node) : Outline where
  rerun := o.rerun.update p rerun
  base := o.base.update p base

/-- What a reply changes, all of it at one path, and what is answered to it. -/
structure Effect where
  activity : Activity
  path : NodePath
  response : Response
  rerun : Node → Node := fun n => n
  base : Node → Node := fun n => n
  view : NodeView → NodeView := fun v => v
  selection : Option Selection → Option Selection := fun o => o
  notices : List Notification := []

/-- The session after the effect. -/
def Session.settleWith (s : Session) (x : Effect) : Session :=
  { s.setBusy x.activity x.path false with
    outline := s.outline.map (·.update x.path x.rerun x.base)
    expansion := { s.expansion with view := alterAt x.path x.view s.expansion.view }
    selection := alterAt x.path x.selection s.selection
    notifications := s.notifications ++ x.notices }

theorem Session.settleWith_outline (s : Session) (x : Effect) :
    (s.settleWith x).outline = s.outline.map (·.update x.path x.rerun x.base) := rfl

theorem Session.settleWith_selection (s : Session) (x : Effect) :
    (s.settleWith x).selection = alterAt x.path x.selection s.selection := rfl

/-- What the reviewer is told of a failure. -/
def ReviewError.notices (e : ReviewError) (what : String) : List Notification :=
  if e.isTransport then [⟨.error, s!"Could not {what}: {e.message}"⟩] else []

/-- The effect of a failure: nothing but that the reviewer may be told of it. -/
def Effect.failed (a : Activity) (p : NodePath) (e : ReviewError) (response : Response) : Effect where
  activity := a
  path := p
  response := response
  notices := e.notices (a.describe p)

/-- The effect of content that has come for a unit. -/
def Effect.filled (t : Ticket UnitFetch) (components : UnitComponents) : Effect where
  activity := .expand
  path := t.path
  response :=
    .fetched (.ok ((components.rerun.getD []).any fun (_, n) => !n.collectEligible.isEmpty))
  rerun n := ((Edit.fill (components.rerun.getD [])).revision n).node n
  base n := ((Edit.fill (components.base.getD [])).revision n).node n
  view v := { v with load := .fetched }

/-- The effect of content that has not come, or cannot be put in place. -/
def Effect.unfilled (t : Ticket UnitFetch) (e : ReviewError) : Effect where
  activity := .expand
  path := t.path
  response := .fetched (.error e)
  view v := { v with load := .notFetched }
  notices := e.notices (Activity.expand.describe t.path)

/-- The effect of the payload of a version on a node. -/
def Effect.shown (t : Ticket VersionFetch) (payload : VersionPayload) (n : Node) : Effect where
  activity := .selectVersion
  path := t.path
  response := .selected (.ok ⟨t.request.version, n.applyEnabled t.request.version⟩)
  rerun n := ((Edit.preview payload.data).revision n).node n
  selection _ := some ⟨t.request.version, n.applyEnabled t.request.version⟩

/-- The effect of a version applied. -/
def Effect.applied (t : Ticket VersionApply) (applied : AppliedVersion) : Effect where
  activity := .applyVersion
  path := t.path
  response := .applied (.ok ())
  rerun n := ((Edit.commit applied).revision n).node n
  selection := Option.map ({ · with applyEnabled := false })

/-- The effect of the answers to an approval. -/
def Effect.approved (t : Ticket ApprovalRequest) (patch : ApprovalPatch) : Effect where
  activity := .approve
  path := t.path
  response := .approved (.ok (t.request.blockIds.countP (Keyed.has · patch)))
  rerun n := ((Edit.approve patch).revision n).node n

/-- The effect of an event that hands a ticket back, given the node that the ticket is for, and
whether the base has a node in its place. -/
def Event.effect? (n : Node) (hasBase : Bool) : Event → Option Effect
  | .finishUnitFetch t (.error e) => some (.unfilled t e)
  | .finishUnitFetch t (.ok components) =>
    some (if hasBase then .filled t components else .unfilled t (.nodeNotFound t.path.text))
  | .finishSelect t (.error e) => some (.failed .selectVersion t.path e (.selected (.error e)))
  | .finishSelect t (.ok payload) => some (.shown t payload n)
  | .finishApply t (.error e) => some (.failed .applyVersion t.path e (.applied (.error e)))
  | .finishApply t (.ok applied) => some (.applied t applied)
  | .finishApprove t (.error e) => some (.failed .approve t.path e (.approved (.error e)))
  | .finishApprove t (.ok patch) => some (.approved t patch)
  | _ => none

/-- The effect is one of the activity and the path of the ticket. -/
theorem Event.effect?_flag {e : Event} {t : SomeTicket} {n : Node} {hasBase : Bool} {x : Effect}
    (hx : e.effect? n hasBase = some x) (ht : e.ticket? = some t) :
    t.flag = some (x.activity, x.path) := by
  cases e with
  | finishUnitFetch t reply =>
    cases ht
    cases reply with
    | error e => cases hx; rfl
    | ok components => cases hasBase <;> (cases hx; rfl)
  | finishSelect t reply => cases ht; cases reply <;> (cases hx; rfl)
  | finishApply t reply => cases ht; cases reply <;> (cases hx; rfl)
  | finishApprove t reply => cases ht; cases reply <;> (cases hx; rfl)
  | _ => cases hx

/-- Whether a version can be applied depends on the versions of the node only. -/
theorem Node.applyEnabled_congr {n n' : Node} (h : n'.versionStatus = n.versionStatus)
    (version : VersionId) : n'.applyEnabled version = n.applyEnabled version := by
  rw [applyEnabled, applyEnabled, h]

/-- So does the effect. -/
theorem Event.effect?_congr {n n' : Node} (h : n'.versionStatus = n.versionStatus) (hasBase : Bool)
    (e : Event) : e.effect? n' hasBase = e.effect? n hasBase := by
  cases e with
  | finishSelect t reply =>
    cases reply with
    | error e => rfl
    | ok payload => simp only [effect?, Effect.shown, Node.applyEnabled_congr h]
  | finishUnitFetch t reply => cases reply <;> rfl
  | finishApply t reply => cases reply <;> rfl
  | finishApprove t reply => cases reply <;> rfl
  | _ => rfl

/-! ## 2. What a reply does is its effect -/

attribute [ext] Session

namespace Session

/-- The session waits for the event, which hands a ticket of this generation back for a node that is
there, and which is a unit if its content comes; and the effect is the one of the event. -/
structure Awaits (s : Session) (e : Event) (x : Effect) : Prop where
  current : ∃ t, e.ticket? = some t ∧ t.generation = s.generation
  effect : ∃ o n, s.outline = some o ∧ x.path.resolve o.rerun = some n ∧
    e.effect? n (x.path.resolve o.base).isSome = some x
  isUnit : x.activity = .expand → x.path.isUnit = true

variable {s : Session} {o : Outline} {p : NodePath} {a : Activity}

/-- Outlines that are not changed. -/
theorem map_update_id (outline : Option Outline) (p : NodePath) :
    outline.map (·.update p (fun n => n) (fun n => n)) = outline := by
  cases outline with
  | none => rfl
  | some o => rw [Option.map_some, Outline.update, Tree.update_id, Tree.update_id]

/-- An outline of which the translated course is edited. -/
theorem map_update_edit (ho : s.outline = some o) {edit : Edit} {r : TreeRevision}
    (hr : o.rerun.revise p edit.revision = .ok r) :
    some { o with rerun := r.tree } =
      s.outline.map (·.update p (fun n => (edit.revision n).node n) (fun n => n)) := by
  rw [ho, Option.map_some, Outline.update, Tree.update_id, Tree.revise_eq_update hr]

/-- States of nodes that are not changed. -/
theorem expansion_alterAt_id (x : Expansion) (p : NodePath) :
    { x with view := alterAt p (fun v => v) x.view } = x := by
  rw [alterAt_id]

theorem finishFetch_eq (x : Expansion) (p : NodePath) (success : Bool) :
    x.finishFetch p success =
      { x with view :=
          alterAt p ({ · with load := if success then .fetched else .notFetched }) x.view } := by
  rw [Expansion.finishFetch, Expansion.setView]
  congr 1
  funext q
  rw [alterAt_apply]
  split
  · rename_i hq; rw [hq]
  · rfl

/-- The notifications after an announcement. -/
theorem announced {e : ReviewError} {what : String} {ns : List Notification}
    (hns : s.announce what e = { s with notifications := ns }) :
    ns = s.notifications ++ e.notices what := by
  have hnotifications := congrArg Session.notifications hns
  rw [← show _ = ns from hnotifications, announce, ReviewError.notices]
  split
  · rfl
  · rw [List.append_nil]

/-- The effect of a failure. -/
theorem settleWith_failed {e : ReviewError} {ns : List Notification}
    (hns : s.announce (a.describe p) e = { s with notifications := ns }) (response : Response) :
    { s.setBusy a p false with notifications := ns } = s.settleWith (.failed a p e response) :=
  Session.ext rfl rfl (map_update_id _ p).symm (expansion_alterAt_id _ p).symm
    (alterAt_id p _).symm rfl rfl (announced hns)

/-- The effect of an edit of the translated course, with which the selection of the node may
change. -/
theorem settleWith_edited (x : Effect) {edit : Edit} {r : TreeRevision} (ho : s.outline = some o)
    (hr : o.rerun.revise x.path edit.revision = .ok r)
    (hrerun : x.rerun = fun n => (edit.revision n).node n) (hbase : x.base = fun n => n)
    (hview : x.view = fun v => v) (hnotices : x.notices = []) {selection : NodePath → Option Selection}
    (hselection : ∀ q, selection q =
      if q = x.path then x.selection (s.selection q) else s.selection q) :
    { (s.setBusy x.activity x.path false).setRerun o r.tree with selection } = s.settleWith x := by
  refine Session.ext rfl rfl ?_ ?_ (funext fun q => ?_) rfl rfl ?_
  · rw [settleWith_outline, hrerun, hbase]
    exact map_update_edit ho hr
  · rw [settleWith, hview]
    exact (expansion_alterAt_id _ _).symm
  · rw [settleWith_selection, alterAt_apply]
    exact hselection q
  · rw [settleWith, hnotices]
    exact (List.append_nil _).symm

/-- Content that cannot be put in place has the effect that the event says. -/
theorem effect?_of_mergeContent {t : Ticket UnitFetch} {reply : Outcome UnitComponents}
    {e : ReviewError} {n : Node} (ho : s.outline = some o) (hn : t.path.resolve o.rerun = some n)
    (hunit : t.path.isUnit = true) (hfailed : s.mergeContent t.path reply = .error e) :
    (Event.finishUnitFetch t reply).effect? n (t.path.resolve o.base).isSome =
      some (.unfilled t e) := by
  cases reply with
  | error e' => rw [Event.effect?, Except.error.inj hfailed]
  | ok components =>
    rw [mergeContent, requireOutline_ok.mpr ho] at hfailed
    obtain ⟨hnone, rfl⟩ := Outline.mergeUnit_error hunit hn hfailed
    rw [Event.effect?, hnone]
    rfl

/-- So has content that is put in place, on both sides. -/
theorem effect?_of_mergeUnit {t : Ticket UnitFetch} {components : UnitComponents} {m : UnitMerge}
    (hm : o.mergeUnit t.path components = .ok m) (n : Node) :
    (Event.finishUnitFetch t (.ok components)).effect? n (t.path.resolve o.base).isSome =
        some (.filled t components) ∧
      (Effect.filled t components).response = .fetched (.ok m.hasEligible) ∧
      m.outline = o.update t.path (Effect.filled t components).rerun
        (Effect.filled t components).base := by
  obtain ⟨-, hrerun, hbase, heligible⟩ := Outline.revise_of_mergeUnit hm
  obtain ⟨b, hb, -⟩ := Tree.resolve_revise_self hbase
  refine ⟨by rw [Event.effect?, hb]; rfl, by rw [heligible, Effect.filled], ?_⟩
  rw [UnitMerge.outline, Outline.update, Tree.revise_eq_update hrerun, Tree.revise_eq_update hbase]
  rfl

/-- **What a session does with a reply that it waits for is the effect of the reply.** -/
theorem Awaits.perform {e : Event} {x : Effect} (h : s.Awaits e x) :
    s.perform e = (x.response, s.settleWith x) := by
  -- by the ways in which the event can end: those for stale tickets and lost nodes are out
  obtain ⟨t, ht, hcurrent⟩ := h.current
  obtain ⟨o, n, ho, hn, hx⟩ := h.effect
  have hmove := s.perform_move e
  have hnode : s.nodeAt x.path = some n := nodeAt_eq_some.mpr ⟨o, ho, hn⟩
  suffices hboth : (s.perform e).1 = x.response ∧ (s.perform e).2 = s.settleWith x from
    Prod.ext hboth.1 hboth.2
  generalize (s.perform e).1 = a, (s.perform e).2 = s' at hmove ⊢
  have hunit := h.isUnit
  have hflag := Event.effect?_flag hx ht
  clear h
  cases hmove with
  | stale ht' hstale _ =>
    obtain rfl := Option.some.inj (ht.symm.trans ht')
    exact absurd hcurrent hstale
  | refused ht' _ => rw [ht] at ht'; cases ht'
  | selectFailed _ hns => cases hx; exact ⟨rfl, settleWith_failed hns _⟩
  | applyFailed _ hns => cases hx; exact ⟨rfl, settleWith_failed hns _⟩
  | approveFailed _ hns => cases hx; exact ⟨rfl, settleWith_failed hns _⟩
  | selectLost _ hlost => cases hx; exact nomatch hlost.symm.trans hnode
  | applyLost _ hlost => cases hx; exact nomatch hlost.symm.trans hnode
  | approveLost _ hlost => cases hx; exact nomatch hlost.symm.trans hnode
  | @selected t' payload o' r' n' _ ho' hr hn' =>
    obtain rfl := Option.some.inj (ho.symm.trans ho')
    cases hx
    -- showing a payload leaves the versions of the node alone
    have henabled : n'.applyEnabled t'.request.version = n.applyEnabled t'.request.version := by
      obtain ⟨n₁, hn₁, hshown⟩ := Tree.resolve_revise_self hr
      obtain rfl := Option.some.inj (hn.symm.trans hn₁)
      obtain rfl := Option.some.inj (hn'.symm.trans hshown)
      exact Node.applyEnabled_congr (n.previewVersion_versionStatus payload.data) _
    rw [henabled]
    exact ⟨rfl, settleWith_edited (.shown t' payload n) ho hr rfl rfl rfl rfl fun _ => rfl⟩
  | @applied t' applied _ _ _ _ ho' hr hselection =>
    obtain rfl := Option.some.inj (ho.symm.trans ho')
    cases hx
    exact ⟨rfl, settleWith_edited (.applied t' applied) ho hr rfl rfl rfl rfl hselection⟩
  | @approved t' patch _ _ _ ho' hr =>
    obtain rfl := Option.some.inj (ho.symm.trans ho')
    cases hx
    exact ⟨rfl, settleWith_edited (.approved t' patch) ho hr rfl rfl rfl rfl
      fun _ => (ite_self _).symm⟩
  | @fetchFailed t' reply e ns _ hfailed hns =>
    cases ht
    obtain ⟨hactivity, hpath⟩ := Prod.mk.inj (Option.some.inj hflag)
    rw [← hpath] at hn hx hunit
    obtain rfl := Option.some.inj
      (hx.symm.trans (effect?_of_mergeContent ho hn (hunit hactivity.symm) hfailed))
    exact ⟨rfl, Session.ext rfl rfl (map_update_id _ _).symm (finishFetch_eq ..)
      (alterAt_id _ _).symm rfl rfl (announced hns)⟩
  | @fetched t' components o' m _ ho' hm =>
    obtain rfl := Option.some.inj (ho.symm.trans ho')
    cases ht
    obtain ⟨-, hpath⟩ := Prod.mk.inj (Option.some.inj hflag)
    rw [← hpath] at hx
    obtain ⟨hfilled, hresponse, houtline⟩ := effect?_of_mergeUnit hm n
    obtain rfl := Option.some.inj (hx.symm.trans hfilled)
    refine ⟨hresponse.symm, Session.ext rfl rfl ?_ (finishFetch_eq ..) (alterAt_id _ _).symm rfl rfl
      (List.append_nil _).symm⟩
    rw [settleWith_outline, ho]
    exact congrArg some houtline
  | _ => cases hx

end Session

/-! ## 3. Effects that are apart -/

/-- The effect changes fields of nodes, and none of their maps. -/
structure Effect.Own (x : Effect) : Prop where
  rerun : OwnFields x.rerun
  base : OwnFields x.base

/-- Showing a payload and making it permanent change fields of the node only. -/
theorem Edit.ownFields_preview (payload : Json) :
    OwnFields fun n => ((Edit.preview payload).revision n).node n where
  get slot n := by
    cases slot with
    | children => exact n.previewVersion_children payload
    | units => exact n.previewVersion_units payload
  set slot n m := by
    cases n with
    | mk key category data previous status versions links children units =>
      cases slot <;> cases previous <;> rfl

theorem Edit.ownFields_commit (applied : AppliedVersion) :
    OwnFields fun n => ((Edit.commit applied).revision n).node n where
  get slot n := by cases slot <;> rfl
  set slot n m := by cases slot <;> rfl

/-- Whether the activity is about a version of a node. -/
def Activity.isVersion : Activity → Bool
  | .selectVersion => true
  | .applyVersion => true
  | _ => false

/-- **Versions do not reach below a node.** -/
theorem Event.effect?_own {e : Event} {n : Node} {hasBase : Bool} {x : Effect}
    (hx : e.effect? n hasBase = some x) (hversion : x.activity.isVersion = true) : x.Own := by
  cases e with
  | finishSelect t reply =>
    cases reply with
    | error e => cases hx; exact ⟨.nothing, .nothing⟩
    | ok payload => cases hx; exact ⟨Edit.ownFields_preview payload.data, .nothing⟩
  | finishApply t reply =>
    cases reply with
    | error e => cases hx; exact ⟨.nothing, .nothing⟩
    | ok applied => cases hx; exact ⟨Edit.ownFields_commit applied, .nothing⟩
  | finishUnitFetch t reply =>
    cases reply with
    | error e => cases hx; cases hversion
    | ok components => cases hasBase <;> (cases hx; cases hversion)
  | finishApprove t reply => cases reply <;> (cases hx; cases hversion)
  | _ => cases hx

/-- The effects are at different paths, and where one path contains the other the effect above does
not reach into maps. -/
structure Effect.Apart (x y : Effect) : Prop where
  ne : x.path ≠ y.path
  left : x.path.contains y.path = true → x.Own
  right : y.path.contains x.path = true → y.Own

theorem Effect.Apart.symm {x y : Effect} (h : x.Apart y) : y.Apart x :=
  ⟨h.ne.symm, h.right, h.left⟩

/-- Two sessions that differ at most in the order of their notifications. -/
structure Session.SameButOrder (s s' : Session) : Prop where
  same : { s with notifications := s'.notifications } = s'
  notified : s.notifications.Perm s'.notifications

namespace Session

variable {s : Session} {e e' : Event} {x y : Effect}

theorem setBusy_comm (s : Session) (a a' : Activity) (p p' : NodePath) (b : Bool) :
    ((s.setBusy a p b).setBusy a' p' b).busy = ((s.setBusy a' p' b).setBusy a p b).busy := by
  funext c q
  simp only [setBusy]
  by_cases h : c = a ∧ q = p
  · rw [if_pos h, if_pos h, ite_self]
  · rw [if_neg h, if_neg h]

/-- **Effects that are apart can be made in either order.** -/
theorem settleWith_comm (s : Session) (h : x.Apart y) :
    ((s.settleWith x).settleWith y).SameButOrder ((s.settleWith y).settleWith x) where
  same := by
    have houtline : ((s.settleWith x).settleWith y).outline =
        ((s.settleWith y).settleWith x).outline := by
      simp only [settleWith_outline, Option.map_map]
      congr 1
      funext o
      simp only [Function.comp_apply, Outline.update]
      rw [o.rerun.update_comm h.ne (fun hc => (h.left hc).rerun) (fun hc => (h.right hc).rerun),
        o.base.update_comm h.ne (fun hc => (h.left hc).base) (fun hc => (h.right hc).base)]
    have hview : ((s.settleWith x).settleWith y).expansion =
        ((s.settleWith y).settleWith x).expansion :=
      congrArg (fun view => { s.expansion with view }) (alterAt_comm h.ne ..)
    exact Session.ext rfl rfl houtline hview (alterAt_comm h.ne ..) rfl
      (setBusy_comm s x.activity y.activity x.path y.path false) rfl
  notified := by
    change (s.notifications ++ x.notices ++ y.notices).Perm
      (s.notifications ++ y.notices ++ x.notices)
    rw [List.append_assoc, List.append_assoc]
    exact List.perm_append_comm.append_left s.notifications

/-- **One effect leaves the other as it was**: the session goes on waiting for it. -/
theorem Awaits.settleWith (hy : s.Awaits e' y) (h : x.Apart y) : (s.settleWith x).Awaits e' y where
  current := hy.current
  isUnit := hy.isUnit
  effect := by
    obtain ⟨o, n, ho, hn, heffect⟩ := hy.effect
    have hversions := o.rerun.map_resolve_update (φ := Node.versionStatus) h.ne.symm
      (fun _ slot _ _ => by cases slot <;> rfl) (fun hc => (h.left hc).rerun)
    have hthere := o.base.map_resolve_update (φ := fun _ => ()) h.ne.symm (fun _ _ _ _ => rfl)
      (fun hc => (h.left hc).base)
    have hbase := congrArg Option.isSome hthere
    rw [Option.isSome_map, Option.isSome_map] at hbase
    rw [hn, Option.map_some] at hversions
    obtain ⟨n', hn', hstatus⟩ := Option.map_eq_some_iff.mp hversions
    refine ⟨o.update x.path x.rerun x.base, n', ?_, hn', ?_⟩
    · rw [settleWith_outline, ho, Option.map_some]
    · have hbase : (y.path.resolve (o.update x.path x.rerun x.base).base).isSome =
          (y.path.resolve o.base).isSome := hbase
      rw [hbase, Event.effect?_congr hstatus, heffect]

/-- Two replies whose effects are apart can come in either order. -/
theorem Awaits.either_order (hx : s.Awaits e x) (hy : s.Awaits e' y) (h : x.Apart y) :
    ((s.perform e').2.perform e).1 = (s.perform e).1 ∧
      ((s.perform e).2.perform e').1 = (s.perform e').1 ∧
      ((s.perform e).2.perform e').2.SameButOrder ((s.perform e').2.perform e).2 := by
  rw [hx.perform, hy.perform]
  dsimp only
  rw [(hy.settleWith h).perform, (hx.settleWith h.symm).perform]
  exact ⟨rfl, rfl, s.settleWith_comm h⟩

end Session

/-! ## 4. Replies in a review -/

/-- A reply for a node has an effect. -/
theorem Event.exists_effect? {e : Event} {t : SomeTicket} (ht : e.ticket? = some t) {a : Activity}
    {p : NodePath} (hflag : t.flag = some (a, p)) (n : Node) (hasBase : Bool) :
    ∃ x, e.effect? n hasBase = some x := by
  cases e with
  | finishLoad t reply => cases ht; cases hflag
  | finishUnitFetch t reply => cases reply <;> exact ⟨_, rfl⟩
  | finishSelect t reply => cases reply <;> exact ⟨_, rfl⟩
  | finishApply t reply => cases reply <;> exact ⟨_, rfl⟩
  | finishApprove t reply => cases reply <;> exact ⟨_, rfl⟩
  | _ => cases ht

/-- A session waits for the reply to every ticket of its generation that is out for a node. -/
theorem Review.Sound.awaits {r : Review} (h : r.Sound) {e : Event} {t : SomeTicket}
    (hmem : t ∈ r.unfinished) (ht : e.ticket? = some t)
    (hcurrent : t.generation = r.session.generation) {a : Activity} {p : NodePath}
    (hflag : t.flag = some (a, p)) :
    ∃ x, r.session.Awaits e x ∧ x.activity = a ∧ x.path = p := by
  have hbusy : r.session.busy a p = true := by
    have hup := h.accounted.isUp hmem hcurrent
    rw [hflag] at hup
    exact hup
  obtain ⟨n, hn⟩ := h.coherent.busy a p hbusy
  obtain ⟨o, ho, hresolve⟩ := Session.nodeAt_eq_some.mp hn
  obtain ⟨x, hx⟩ := Event.exists_effect? ht hflag n (p.resolve o.base).isSome
  obtain ⟨rfl, rfl⟩ :=
    Prod.mk.inj (Option.some.inj (hflag.symm.trans (Event.effect?_flag hx ht)))
  refine ⟨x, ⟨⟨t, ht, hcurrent⟩, ⟨o, n, ho, hresolve, hx⟩, fun hexpand => ?_⟩, rfl, rfl⟩
  -- a unit that is being fetched is a unit
  rw [hexpand] at hbusy
  obtain ⟨_, -, hneeds⟩ := h.coherent.fetching _ ((h.coherent.expanding _).mp hbusy)
  exact (Node.needsFetch_iff.mp hneeds).1

/-- Neither of two paths contains the other. -/
def NodePath.Incomparable (p q : NodePath) : Prop :=
  p.contains q = false ∧ q.contains p = false

/-- **Overlapping replies can come in either order.**  Two tickets of this generation are out for
nodes at paths neither of which contains the other, or for versions of different nodes, of which one
may be above the other.  Whatever the replies, each is answered as if the other had not come, and
the session afterwards is the same whichever comes first, but for the order of the notifications. -/
theorem Trace.replies_in_either_order {h : List Record} {r : Review} (htrace : Trace {} h r)
    {e e' : Event} {t t' : SomeTicket} (hmem : t ∈ r.unfinished) (hmem' : t' ∈ r.unfinished)
    (ht : e.ticket? = some t) (ht' : e'.ticket? = some t')
    (hcurrent : t.generation = r.session.generation)
    (hcurrent' : t'.generation = r.session.generation) {a a' : Activity} {p p' : NodePath}
    (hflag : t.flag = some (a, p)) (hflag' : t'.flag = some (a', p'))
    (hapart : p.Incomparable p' ∨ p ≠ p' ∧ a.isVersion = true ∧ a'.isVersion = true) :
    (r.next e').answer e = r.answer e ∧ (r.next e).answer e' = r.answer e' ∧
      ((r.next e).next e').session.SameButOrder ((r.next e').next e).session := by
  obtain ⟨x, hx, rfl, rfl⟩ := htrace.sound.awaits hmem ht hcurrent hflag
  obtain ⟨y, hy, rfl, rfl⟩ := htrace.sound.awaits hmem' ht' hcurrent' hflag'
  refine hx.either_order hy ?_
  rcases hapart with ⟨hxy, hyx⟩ | ⟨hne, hversion, hversion'⟩
  · refine ⟨fun heq => ?_, fun hc => ?_, fun hc => ?_⟩
    · rw [heq, NodePath.contains_refl] at hxy; cases hxy
    · rw [hxy] at hc; cases hc
    · rw [hyx] at hc; cases hc
  · obtain ⟨_, _, _, _, heffect⟩ := hx.effect
    obtain ⟨_, _, _, _, heffect'⟩ := hy.effect
    exact ⟨hne, fun _ => Event.effect?_own heffect hversion,
      fun _ => Event.effect?_own heffect' hversion'⟩

namespace Sample

/-- The path of the section above the unit. -/
def sectionPath : NodePath := .outline ["S1"]

/-- Payloads are on their way for the section and for the unit. -/
def selectingBoth : Review :=
  (unitLoaded.next (.beginSelect sectionPath 2)).next (.beginSelect unitPath 3)

/-- The payload of version two comes for the section. -/
def sectionReply : Event :=
  .finishSelect ⟨1, sectionPath, ⟨2⟩⟩ (.ok { data := .string "Two" })

/-- The payload of version three comes for the unit. -/
def unitReply : Event :=
  .finishSelect ⟨1, unitPath, ⟨3⟩⟩ (.ok { data := .string "Three" })

end Sample

open Sample in
/-- Payloads are on their way for a section and for a unit in it.  Whichever comes first, both are
shown in the end. -/
theorem Trace.replies_for_section_and_unit :
    ∃ h, Trace {} h selectingBoth ∧ sectionPath.contains unitPath = true ∧
      ((selectingBoth.next sectionReply).next unitReply).session.SameButOrder
        ((selectingBoth.next unitReply).next sectionReply).session ∧
      (((selectingBoth.next sectionReply).next unitReply).session.nodeAt sectionPath).map (·.data) =
        some (.string "Two") ∧
      (((selectingBoth.next sectionReply).next unitReply).session.nodeAt unitPath).map (·.data) =
        some (.string "Three") := by
  obtain ⟨h, htrace⟩ := unitLoaded_trace
  have hboth : Trace {} _ selectingBoth :=
    (htrace.tail (e := .beginSelect sectionPath 2) (.of_begin rfl)).tail
      (e := .beginSelect unitPath 3) (.of_begin rfl)
  have hsection : .select ⟨1, sectionPath, ⟨2⟩⟩ ∈ selectingBoth.unfinished := by decide
  have hunit : .select ⟨1, unitPath, ⟨3⟩⟩ ∈ selectingBoth.unfinished := by decide
  have hreply : sectionReply.ticket? = some (.select ⟨1, sectionPath, ⟨2⟩⟩) := rfl
  have hreply' : unitReply.ticket? = some (.select ⟨1, unitPath, ⟨3⟩⟩) := rfl
  obtain ⟨-, -, hsame⟩ := Trace.replies_in_either_order hboth hsection hunit hreply hreply' rfl rfl
    rfl rfl (.inr ⟨by decide, rfl, rfl⟩)
  exact ⟨_, hboth, rfl, hsame, rfl, rfl⟩

end CourseReview
