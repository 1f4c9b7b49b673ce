import CourseReview.Proofs.Outline.Collection
import CourseReview.Proofs.Outline.Places
import CourseReview.Proofs.Session.Originals

/-!
# Histories in a review

What is known of the versions of a block is recorded by two events, the answers to an approval and
the reply to a version applied.  This file settles what becomes of it at every place of the translated
course, those included that no path names.

* One event records in the nodes that it reaches, leaves all other histories as they are, and loses
  no node (`Review.Sound.history_next`).
* So histories only grow as long as the pairing lasts (`Trace.history_grows`), and right after an
  approval every node that is named in the answers has them recorded (`Session.Move.approval_recorded`).

`Trace.histories_grow` puts them together.
-/

namespace CourseReview

/-! ## 1. One event -/

namespace Session

/-- The node of the translated course at a place. -/
def nodeAtPlace (s : Session) (pl : Place) : Option Node :=
  s.outline.bind fun o => pl.resolve o.rerun

/-- The path leads to the node at the place that it names. -/
theorem nodeAt_place {p : NodePath} {pl : Place} (h : p.place? = some pl) (s : Session) :
    s.nodeAt p = s.nodeAtPlace pl := by
  rw [nodeAt, nodeAtPlace]
  congr 1
  exact funext fun o => NodePath.resolve_place h o.rerun

end Session

/-- What the record makes of the history of the node at the place. -/
def Record.recordAt (pl : Place) (x : Record) (key : String) (vs : VersionStatus) : VersionStatus :=
  match x.event, x.response with
  | .finishApply t (.ok applied), .applied (.ok ()) => (Edit.commit applied).recordAt t.path pl key vs
  | .finishApprove t (.ok patch), .approved (.ok _) => (Edit.approve patch).recordAt t.path pl key vs
  | _, _ => vs

/-- The nodes that come with the record, at whatever places. -/
inductive Record.Brings : Record → Node → Prop
  | outline {t : LoadTicket} {o o' : Outline} {pl : Place} {n : Node}
    (hn : pl.resolve o.rerun = some n) : Brings ⟨.finishLoad t (.ok o), .loaded (.ok o')⟩ n
  | content {t : Ticket UnitFetch} {components : UnitComponents} {eligible : Bool} {id : String}
    {x : Node} {steps : List (ChildSlot × String)} {n : Node}
    (hx : Keyed.get? id (components.rerun.getD []) = some x) (hn : x.follow steps = some n) :
    Brings ⟨.finishUnitFetch t (.ok components), .fetched (.ok eligible)⟩ n

namespace Record

variable {p : NodePath} {pl : Place} {e : Event} {a : Response}

/-- An edit records what it records. -/
theorem recordAt_of_edits {edit : Edit} (h : e.Edits a p edit) :
    recordAt pl ⟨e, a⟩ = edit.recordAt p pl := by
  funext key vs
  cases h with
  | commit t applied => rfl
  | approve t patch count => rfl
  | _ => exact (ite_self vs).symm

/-- Nothing else records anything. -/
theorem recordAt_of_not_edits (h : ∀ p edit, ¬ e.Edits a p edit) (key : String)
    (vs : VersionStatus) : recordAt pl ⟨e, a⟩ key vs = vs := by
  unfold recordAt
  dsimp only
  split
  · rename_i t applied; exact absurd (.commit t applied) (h _ _)
  · rename_i t patch count; exact absurd (.approve t patch count) (h _ _)
  · rfl

/-- **Records let histories grow.** -/
theorem grows_recordAt (pl : Place) (x : Record) (key : String) (vs : VersionStatus) :
    vs.Grows (x.recordAt pl key vs) := by
  have hedit : ∀ (edit : Edit) p, vs.Grows (edit.recordAt p pl key vs) := by
    intro edit p
    rw [Edit.recordAt]
    split
    · exact edit.grows_record key vs
    · exact .refl vs
  unfold recordAt
  split
  · exact hedit _ _
  · exact hedit _ _
  · exact .refl vs

end Record

/-- An outline that arrives for this generation is taken. -/
theorem Session.Move.loaded_response {s s' : Session} {t : LoadTicket} {o : Outline} {a : Response}
    (h : Move s (.finishLoad t (.ok o)) a s') (hcurrent : t.generation = s.generation) :
    a = .loaded (.ok o) := by
  cases h with
  | loaded _ => rfl
  | stale ht hstale _ => cases ht; exact absurd hcurrent hstale
  | refused ht _ => cases ht

/-- **What one event does to the history of the node at any place**: it records in the node, if it
reaches it, and no node is lost.  Those that enter are as the replies bring them. -/
theorem Review.Sound.history_next {r : Review} {e : Event} (h : r.Sound) (htakes : r.Takes e)
    (hload : Record.loads ⟨e, r.answer e⟩ = false) (pl : Place) :
    Became (Node.RecordedBy (Record.recordAt pl ⟨e, r.answer e⟩))
      (Record.Brings ⟨e, r.answer e⟩) (r.session.nodeAtPlace pl)
      ((r.next e).session.nodeAtPlace pl) := by
  cases (r.move e).outline with
  | dropped he _ => exact absurd he (Record.loads_eq_false.mp hload _)
  | @arrived t o he hcurrent ho' =>
    have ho := h.outline_none htakes he hcurrent
    subst he
    rw [Session.nodeAtPlace, ho, Session.nodeAtPlace, ho', Option.bind_none, Option.bind_some,
      (r.move _).loaded_response hcurrent]
    cases hn : pl.resolve o.rerun with
    | none => exact .missing
    | some n => exact .entered (.outline hn)
  | untouched hedits ho =>
    rw [Session.nodeAtPlace, Session.nodeAtPlace, ho]
    exact .refl (fun n => ⟨rfl, (Record.recordAt_of_not_edits hedits _ _).symm⟩) _
  | @edited p edit o rev b hedits hcurrent ho hr ho' =>
    rw [Session.nodeAtPlace, ho, Session.nodeAtPlace, ho', Option.bind_some, Option.bind_some,
      Record.recordAt_of_edits hedits]
    refine Tree.history_edited hr (fun content c hfill hc => ?_) pl
    subst hfill
    -- content comes to units without content
    obtain ⟨t, components, he, hpath⟩ := hedits.of_fill
    obtain ⟨c', hc', hneeds⟩ := h.needsFetch htakes he (hcurrent (.fetch t) (by rw [he]; rfl))
    rw [hpath, Session.nodeAt_eq_some.mpr ⟨o, ho, hc⟩] at hc'
    obtain rfl := Option.some.inj hc'
    refine ⟨(Node.needsFetch_iff.mp hneeds).2, fun id x steps y hx hy => ?_⟩
    generalize r.answer e = a at hedits ⊢
    cases hedits with
    | fill t components eligible => exact .content hx hy

/-! ## 2. Whole runs -/

/-- **Histories only grow** as long as the pairing lasts, at every place. -/
theorem Trace.history_grows {r₀ r : Review} {h : List Record} (htrace : Trace r₀ h r)
    (hsound : r₀.Sound) (hload : ∀ x ∈ h, x.loads = false) {pl : Place} {n₀ : Node}
    (hn₀ : r₀.session.nodeAtPlace pl = some n₀) :
    ∃ n, r.session.nodeAtPlace pl = some n ∧ n₀.history.Grows n.history := by
  refine htrace.lasts (P := fun _ r => ∃ n, r.session.nodeAtPlace pl = some n ∧
    n₀.history.Grows n.history) hsound hload ⟨n₀, hn₀, .refl _⟩ ?_
  rintro h r e hsound htakes hload ⟨n, hn, hgrows⟩
  have hbecame := hsound.history_next htakes hload pl
  rw [hn] at hbecame
  obtain ⟨n', hn', hrecorded⟩ := hbecame.of_some
  refine ⟨n', hn', hgrows.trans ?_⟩
  rw [hrecorded.history]
  exact Record.grows_recordAt ..

/-- **An approval is recorded** in every node at or below its path that the answers name. -/
theorem Session.Move.approval_recorded {s s' : Session} {t : Ticket ApprovalRequest}
    {patch : ApprovalPatch} {count : Nat}
    (h : Move s (.finishApprove t (.ok patch)) (.approved (.ok count)) s') {pl : Place}
    (hcovers : t.path.covers pl = true) {n' : Node} (hn' : s'.nodeAtPlace pl = some n')
    {entry : ApprovalEntry} (hentry : Keyed.get? n'.usageKey patch = some entry) :
    ∃ n, s.nodeAtPlace pl = some n ∧ n'.history = n.history.recordApproval entry := by
  cases h with
  | stale _ _ ha => cases ha
  | refused ht _ => cases ht
  | @approved _ _ o r _ ho hr =>
    have hbecame : Became _ (fun _ => False) _ _ :=
      Tree.history_edited hr (fun _ _ hfill => nomatch hfill) pl
    have hafter : pl.resolve r.tree = some n' := hn'
    rw [hafter] at hbecame
    generalize hn : pl.resolve o.rerun = before at hbecame
    cases hbecame with
    | entered hnew => exact hnew.elim
    | @stayed n _ hrecorded =>
      refine ⟨n, by rw [Session.nodeAtPlace, ho, Option.bind_some, hn], ?_⟩
      rw [hrecorded.usageKey] at hentry
      have hreaches : (Edit.approve patch).reaches t.path pl = true := hcovers
      rw [hrecorded.history, Edit.recordAt_of_reaches hreaches, Edit.record, hentry]
      rfl

/-- **Histories grow as they should.**  At every time in every review:

* at every place of the translated course, of which paths name some (`Session.nodeAt_place`), the
  versions listed for the node are the first of those that are listed later in the pairing; if their
  ids are distinct they stay so, and if the latest version is the last of them it stays so;
* right after an approval has been answered, of every node at or below its path that the answers name
  the version applied, if one is named, is listed; and where ids were distinct it is listed once. -/
theorem Trace.histories_grow {h : List Record} {r : Review} (htrace : Trace {} h r) :
    (∀ h' r', Trace r h' r' → (∀ x ∈ h', x.loads = false) →
      ∀ pl n, r.session.nodeAtPlace pl = some n →
        ∃ n', r'.session.nodeAtPlace pl = some n' ∧ n.history.Grows n'.history) ∧
    (∀ t patch count, r.answer (.finishApprove t (.ok patch)) = .approved (.ok count) →
      ∀ pl n', t.path.covers pl = true →
        (r.next (.finishApprove t (.ok patch))).session.nodeAtPlace pl = some n' →
          ∀ entry, Keyed.get? n'.usageKey patch = some entry →
            n'.history.isConsistent = true ∧
            ∀ id, entry.appliedVersion = some id →
              n'.history.lists id = true ∧
              ∃ n, r.session.nodeAtPlace pl = some n ∧
                (n.history.ids.Nodup → n'.history.ids.count id = 1)) := by
  refine ⟨fun h' r' hlater hload pl n hn => hlater.history_grows htrace.sound hload hn,
    fun t patch count ha pl n' hcovers hn' entry hentry => ?_⟩
  have hmove := r.move (.finishApprove t (.ok patch))
  rw [ha] at hmove
  obtain ⟨n, hn, hrecorded⟩ := hmove.approval_recorded hcovers hn' hentry
  have hconsistent := n.history.isConsistent_recordApproval entry
  rw [hrecorded]
  refine ⟨hconsistent, fun id hid => ⟨?_, n, hn, VersionStatus.count_recordApproval hid⟩⟩
  have happlied := (n.history.appliedVersion_recordApproval entry).trans hid
  exact (VersionStatus.isConsistent_iff happlied).mp hconsistent

namespace Sample

/-- An outline is loaded with a unit and its content, and the section is on its way to be approved. -/
def approving : Review :=
  ((({} : Review).next (.beginLoad "rerun")).next
    (.finishLoad ⟨1, "rerun"⟩ (.ok ⟨unitTree none (some [("C1", content)]), unitTree none none⟩))).next
      (.beginApprove chapterPath)

/-- The ticket for that. -/
def approveTicket : Ticket ApprovalRequest :=
  { generation := 1, path := chapterPath, request := { blockIds := ["html"] } }

/-- The answer for the content: it is approved, and with that a version of it applied. -/
def contentEntry : ApprovalEntry :=
  { approved := true, appliedTranslation := true, appliedVersion := some 5 }

/-- The answer comes. -/
def contentApproved : Event :=
  .finishApprove approveTicket (.ok [("html", contentEntry)])

/-- The place of the content. -/
def contentPlace : Place :=
  .underSection "S1" [(.children, "Q1"), (.children, "U1"), (.units, "C1")]

end Sample

open Sample in
/-- A section is approved, and the version applied to the content in it is listed. -/
theorem Trace.history_of_content_grows :
    ∃ h n n', Trace {} h approving ∧ approving.session.nodeAtPlace contentPlace = some n ∧
      (approving.next contentApproved).session.nodeAtPlace contentPlace = some n' ∧
      n.history.Grows n'.history ∧ n.history.ids = [] ∧ n'.history.ids.count 5 = 1 := by
  have htrace : Trace {} _ approving :=
    ((Trace.refl.tail (e := .beginLoad "rerun") (.of_begin rfl)).tail (.of_finish rfl (by decide))).tail
      (.of_begin rfl)
  have happroved : Trace approving _ (approving.next contentApproved) :=
    Trace.refl.tail (.of_finish (t := .approve approveTicket) rfl (by decide))
  obtain ⟨hgrows, hrecorded⟩ := Trace.histories_grow htrace
  obtain ⟨n', hn', hgrown⟩ := hgrows _ _ happroved
    (fun x hx => by rw [List.mem_singleton.mp hx]; rfl) contentPlace _ rfl
  have hkey : Keyed.get? n'.usageKey [("html", contentEntry)] = some contentEntry := by
    rw [← Option.some.inj hn']; rfl
  obtain ⟨-, hlisted⟩ :=
    hrecorded approveTicket _ 1 rfl contentPlace n' (by decide) hn' contentEntry hkey
  obtain ⟨-, n, hn, hcount⟩ := hlisted 5 rfl
  obtain rfl := Option.some.inj hn
  exact ⟨_, _, n', htrace, rfl, hn', hgrown, rfl, hcount List.nodup_nil⟩

end CourseReview
