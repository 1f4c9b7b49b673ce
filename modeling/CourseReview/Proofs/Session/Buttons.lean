import CourseReview.Proofs.Outline.History
import CourseReview.Proofs.Session.Applying

/-!
# The apply button

A selection carries whether its version can be applied, which is what the button shows.  It is worked
out from the node when the version is selected, and taken away when a version is applied.  What the
node itself says (`Node.applyEnabled`) can change at other times: whenever the server reports what is
applied to the block, after an apply and after an approval of the node or of one above it.

This file settles when the two agree.

* What is applied to a node is what the server has reported last (`Trace.standing`).
* The button is what the node said when the version was selected, unless a version was applied since
  (`Trace.selection_kept`).
* So the button is right as long as nothing has been reported since the version was selected, and
  otherwise exactly when it says what the last report does (`Trace.button_right_iff`).  An approval
  can leave it on, and an apply that the server has not carried out leaves it off
  (`Trace.buttons_out_of_date`).
-/

namespace CourseReview

/-! ## 1. What is applied to a block -/

/-- What is applied to a block, as the server reports it. -/
structure Standing where
  applied : Bool := false
  version : Option VersionId := none
deriving DecidableEq, Repr

/-- Whether a selected version can be applied: it is a version, and not the one applied. -/
def Standing.enables (s : Standing) (selected : VersionId) : Bool :=
  selected != pendingVersion && (s.version != some selected || !s.applied)

/-- What is applied to the block of the node. -/
def Node.standing (n : Node) : Standing :=
  ⟨(n.versionStatus.getD {}).applied, (n.versionStatus.getD {}).appliedVersion⟩

/-- Whether a version can be applied depends on what is applied, and on nothing else. -/
theorem Node.applyEnabled_eq (n : Node) (selected : VersionId) :
    n.applyEnabled selected = n.standing.enables selected := by
  rw [applyEnabled, Standing.enables]
  by_cases hpending : selected = pendingVersion
  · rw [if_pos hpending, bne_eq_false_iff_eq.mpr hpending, Bool.false_and]
  · rw [if_neg hpending, bne_iff_ne.mpr hpending, Bool.true_and, standing]
    cases n.versionStatus <;> rfl

/-- What the server reports, with an edit, of the block with that usage key. -/
def Edit.report? (key : String) : Edit → Option Standing
  | .commit applied => some ⟨applied.appliedTranslation, applied.appliedVersion⟩
  | .approve patch =>
    (Keyed.get? key patch).map fun entry => ⟨entry.appliedTranslation, entry.appliedVersion⟩
  | _ => none

/-- Two nodes of one block to which the same is applied. -/
def Node.SameStanding (n n' : Node) : Prop :=
  n'.usageKey = n.usageKey ∧ n'.standing = n.standing

theorem Node.ignoresBelow_sameStanding : IgnoresBelow Node.SameStanding where
  refl _ := ⟨rfl, rfl⟩
  set slot _ _ _ _ _ := by cases slot <;> exact ⟨rfl, rfl⟩

/-- What an edit reports is recorded; one that reports nothing leaves the record as it is. -/
theorem Edit.standing_record (edit : Edit) (key : String) (vs : VersionStatus) :
    Standing.mk (edit.record key vs).applied (edit.record key vs).appliedVersion =
      (edit.report? key).getD ⟨vs.applied, vs.appliedVersion⟩ := by
  cases edit with
  | approve patch =>
    rw [record, report?]
    cases Keyed.get? key patch with
    | none => rfl
    | some entry =>
      rw [Option.elim_some, VersionStatus.applied_recordApproval,
        VersionStatus.appliedVersion_recordApproval]
      rfl
  | _ => rfl

/-- **What is applied to a block after an edit of its node** is what the server reports with the
edit, and what was applied before where it reports nothing. -/
theorem Edit.standing_revision (edit : Edit) (n : Node) :
    ((edit.revision n).node n).usageKey = n.usageKey ∧
      ((edit.revision n).node n).standing = (edit.report? n.usageKey).getD n.standing := by
  obtain ⟨hkey, hhistory⟩ := edit.history_revision n
  refine ⟨hkey, ?_⟩
  have hrecord := edit.standing_record n.usageKey n.history
  rw [← hhistory] at hrecord
  exact hrecord

/-! ## 2. What has been reported -/

/-- What the record says is applied to the block of the node at the path, which has that usage
key. -/
def Record.report? (p : NodePath) (key : String) (x : Record) : Option Standing :=
  match x.event, x.response with
  | .finishApply t (.ok applied), .applied (.ok ()) =>
    if t.path = p then (Edit.commit applied).report? key else none
  | .finishApprove t (.ok patch), .approved (.ok _) =>
    if t.path.contains p then (Edit.approve patch).report? key else none
  | _, _ => none

/-- What a history has reported last. -/
def lastReport (p : NodePath) (key : String) (h : List Record) : Option Standing :=
  (h.filterMap (Record.report? p key)).getLast?

theorem lastReport_snoc (p : NodePath) (key : String) (h : List Record) (x : Record) :
    lastReport p key (h ++ [x]) = (x.report? p key).or (lastReport p key h) :=
  getLast?_filterMap_snoc (Record.report? p key) h x

namespace Record

variable {p q : NodePath} {key : String} {e : Event} {a : Response}

/-- An edit of the node reports what comes with it. -/
theorem report?_of_edits {edit : Edit} (h : e.Edits a p edit) :
    report? p key ⟨e, a⟩ = edit.report? key := by
  cases h with
  | commit t applied => exact if_pos rfl
  | approve t patch count => exact if_pos t.path.contains_refl
  | _ => rfl

/-- So does an approval of a node above. -/
theorem report?_of_approve {patch : ApprovalPatch} (h : e.Edits a q (.approve patch))
    (hqp : q.contains p = true) : report? p key ⟨e, a⟩ = (Edit.approve patch).report? key := by
  cases h with
  | approve t patch count => exact if_pos hqp

/-- Nothing else reports anything. -/
theorem report?_eq_none (hedits : ∀ edit, ¬ e.Edits a p edit)
    (habove : ∀ q patch, e.Edits a q (.approve patch) → ¬ q.contains p = true) :
    report? p key ⟨e, a⟩ = none := by
  unfold report?
  dsimp only
  split
  · rename_i t applied
    rw [if_neg]
    rintro rfl
    exact hedits _ (.commit t applied)
  · rename_i t patch count
    exact if_neg (habove _ _ (.approve t patch count))
  · rfl

end Record

/-- **What one event does to what is applied to a node**: the node keeps its usage key, and what is
applied to it is what the event reports of it, if it does. -/
theorem Review.Sound.standing_next {r : Review} {e : Event} (h : r.Sound) (htakes : r.Takes e)
    (hload : Record.loads ⟨e, r.answer e⟩ = false) {p : NodePath} {n : Node}
    (hn : r.session.nodeAt p = some n) :
    ∃ n', (r.next e).session.nodeAt p = some n' ∧ n'.usageKey = n.usageKey ∧
      n'.standing = (Record.report? p n.usageKey ⟨e, r.answer e⟩).getD n.standing := by
  cases h.nodeFate_any htakes Node.ignoresBelow_sameStanding (Record.loads_eq_false.mp hload) p with
  | @edited edit n₁ hedits _ hn₁ hn' =>
    obtain rfl := Option.some.inj (hn.symm.trans hn₁)
    rw [Record.report?_of_edits hedits]
    exact ⟨_, hn', edit.standing_revision n⟩
  | @approved q patch n₁ hedits habove _ hn₁ hn' =>
    obtain rfl := Option.some.inj (hn.symm.trans hn₁)
    rw [Record.report?_of_approve hedits habove]
    exact ⟨_, hn', (Edit.approve patch).standing_revision n⟩
  | became hedits habove hbecame =>
    rw [hn] at hbecame
    obtain ⟨n', hn', hkey, hstanding⟩ := hbecame.of_some
    rw [Record.report?_eq_none hedits fun q patch hq hqp => ?_]
    · exact ⟨n', hn', hkey, hstanding⟩
    · rw [habove q patch hq hqp] at hn
      cases hn

/-- **What is applied to a node is what was reported last**, and what was applied at first where
nothing has been reported. -/
theorem Trace.standing {r₀ r : Review} {h : List Record} (htrace : Trace r₀ h r) (hsound : r₀.Sound)
    (hload : ∀ x ∈ h, x.loads = false) {p : NodePath} {n₀ : Node}
    (hn₀ : r₀.session.nodeAt p = some n₀) :
    ∃ n, r.session.nodeAt p = some n ∧ n.usageKey = n₀.usageKey ∧
      n.standing = (lastReport p n₀.usageKey h).getD n₀.standing := by
  refine htrace.lasts (P := fun h r => ∃ n, r.session.nodeAt p = some n ∧
    n.usageKey = n₀.usageKey ∧ n.standing = (lastReport p n₀.usageKey h).getD n₀.standing)
    hsound hload ⟨n₀, hn₀, rfl, rfl⟩ ?_
  rintro h r e hsound htakes hload ⟨n, hn, hkey, hstanding⟩
  obtain ⟨n', hn', hkey', hstanding'⟩ := hsound.standing_next htakes hload hn
  refine ⟨n', hn', hkey'.trans hkey, ?_⟩
  rw [hstanding', hkey, hstanding, lastReport_snoc]
  cases Record.report? p n₀.usageKey ⟨e, r.answer e⟩ <;> rfl

/-! ## 3. What the button says -/

/-- Whether the record is that of a version selected for the node at the path: its payload has come,
or it is the translation without a version. -/
def Record.selects (p : NodePath) (x : Record) : Bool :=
  match x.event, x.response with
  | .finishSelect t (.ok _), .selected (.ok _) => t.path == p
  | .beginSelect q _, .selectBegun (.ok (.done _)) => q == p
  | _, _ => false

/-- A selection after a version was applied, or was not. -/
def Selection.applied (selected : Selection) (applies : Bool) : Selection :=
  { selected with applyEnabled := selected.applyEnabled && !applies }

namespace Session

variable {s s' : Session} {e : Event} {a : Response} {p : NodePath}

/-- **When a version is selected the button is right.** -/
theorem Move.button_right (h : Move s e a s') (hselects : Record.selects p ⟨e, a⟩ = true) :
    ∃ n version, s'.nodeAt p = some n ∧
      s'.selection p = some ⟨version, n.applyEnabled version⟩ := by
  unfold Record.selects at hselects
  dsimp only at hselects
  split at hselects
  · rw [beq_iff_eq] at hselects
    subst hselects
    cases h with
    | stale _ _ ha => cases ha
    | refused _ ha => cases ha
    | selected _ _ _ hn => exact ⟨_, _, hn, if_pos rfl⟩
  · rw [beq_iff_eq] at hselects
    subst hselects
    cases h with
    | stale ht _ _ => cases ht
    | refused _ ha => cases ha
    | reverted _ _ hr =>
      obtain ⟨n, -, hn'⟩ := Tree.resolve_revise_self hr
      exact ⟨_, pendingVersion, hn', if_pos rfl⟩
  · cases hselects

/-- A selection that is as it was, when no version was applied. -/
theorem selection_kept_of_eq {before after : Option Selection} (hsame : after = before)
    (happlies : Record.applies p ⟨e, a⟩ = false) :
    after = before.map (·.applied (Record.applies p ⟨e, a⟩)) := by
  rw [hsame, happlies]
  cases before with
  | none => rfl
  | some selected => rw [Option.map_some, Selection.applied, Bool.not_false, Bool.and_true]

/-- **While no other version is selected** the button is what it was, until a version is applied,
which takes it away. -/
theorem Move.selection_kept (h : Move s e a s') (hselects : Record.selects p ⟨e, a⟩ = false)
    (hload : Record.loads ⟨e, a⟩ = false) :
    s'.selection p = (s.selection p).map (·.applied (Record.applies p ⟨e, a⟩)) := by
  cases h with
  | loadBegun rerunId => cases hload
  | stale ht hstale ha =>
    refine selection_kept_of_eq rfl (Bool.eq_false_iff.mpr fun happlies => ?_)
    obtain ⟨_, hcommit⟩ := Record.applies_iff.mp happlies
    rw [hcommit.failure?] at ha
    cases ha
  | refused ht ha =>
    refine selection_kept_of_eq rfl (Bool.eq_false_iff.mpr fun happlies => ?_)
    obtain ⟨_, hcommit⟩ := Record.applies_iff.mp happlies
    rw [hcommit.failure?] at ha
    cases ha
  | reverted ho hidle hr =>
    exact selection_kept_of_eq (if_neg (beq_eq_false_iff_ne.mp hselects).symm) rfl
  | selected hcurrent ho hr hn =>
    exact selection_kept_of_eq (if_neg (beq_eq_false_iff_ne.mp hselects).symm) rfl
  | @applied t applied _ _ _ _ _ _ hselection =>
    refine (hselection p).trans ?_
    by_cases hp : p = t.path
    · subst hp
      have happlies : Record.applies t.path ⟨.finishApply t (.ok applied), .applied (.ok ())⟩ = true :=
        beq_self_eq_true _
      rw [if_pos rfl, happlies]
      simp only [Selection.applied, Bool.not_true, Bool.and_false]
    · have happlies : Record.applies p ⟨.finishApply t (.ok applied), .applied (.ok ())⟩ = false :=
        beq_eq_false_iff_ne.mpr (Ne.symm hp)
      rw [if_neg hp]
      exact selection_kept_of_eq rfl happlies
  | _ => exact selection_kept_of_eq rfl rfl

end Session

/-- A place in a history at which the version was selected that is selected for a node: the button
was right then, and since then no other version was selected for the node and no other pairing
loaded. -/
structure SelectedSince (p : NodePath) (h : List Record) (r : Review) (version : VersionId)
    (n₀ : Node) (h₁ : List Record) : Prop where
  place : ∃ h₀ r₀ e, h = h₀ ++ ⟨e, r₀.answer e⟩ :: h₁ ∧ Trace {} h₀ r₀ ∧ r₀.Takes e ∧
    Record.selects p ⟨e, r₀.answer e⟩ = true ∧ (r₀.next e).session.nodeAt p = some n₀ ∧
    (r₀.next e).session.selection p = some ⟨version, n₀.applyEnabled version⟩ ∧
    Trace (r₀.next e) h₁ r
  quiet : ∀ x ∈ h₁, x.selects p = false ∧ x.loads = false

/-- **A version that is selected was selected at some place.** -/
theorem Trace.selectedSince {h : List Record} {r : Review} (htrace : Trace {} h r) {p : NodePath}
    {selected : Selection} (hsel : r.session.selection p = some selected) :
    ∃ n₀ h₁, SelectedSince p h r selected.version n₀ h₁ := by
  have hsince := htrace.since
    (fun r => (r.session.selection p).map (·.version) = some selected.version)
    (fun r e => Record.selects p ⟨e, r.answer e⟩ = true ∧
      ∃ n₀, (r.next e).session.nodeAt p = some n₀ ∧ (r.next e).session.selection p =
        some ⟨selected.version, n₀.applyEnabled selected.version⟩)
    (fun x => x.selects p = false ∧ x.loads = false) (fun hnone => nomatch hnone)
    (congrArg (Option.map (·.version)) hsel) ?_
  · obtain ⟨h₀, r₀, e, h₁, hh, htrace₀, htakes, ⟨hselects, n₀, hn₀, hsel₀⟩, htrace₁, hquiet⟩ := hsince
    exact ⟨n₀, h₁, ⟨h₀, r₀, e, hh, htrace₀, htakes, hselects, hn₀, hsel₀, htrace₁⟩, hquiet⟩
  intro r e hversion
  have hload : Record.loads ⟨e, r.answer e⟩ = false := by
    cases e with
    | beginLoad rerunId => cases hversion
    | _ => rfl
  cases hselects : Record.selects p ⟨e, r.answer e⟩ with
  | true =>
    obtain ⟨n₀, version, hn₀, hsel₀⟩ := (r.move e).button_right hselects
    rw [hsel₀] at hversion
    obtain rfl := Option.some.inj hversion
    exact .inl ⟨rfl, n₀, hn₀, hsel₀⟩
  | false =>
    rw [(r.move e).selection_kept hselects hload, Option.map_map] at hversion
    exact .inr ⟨hversion, rfl, hload⟩

/-- **From then on the button is what it was**, until a version is applied. -/
theorem Trace.selection_kept {r₀ r : Review} {h : List Record} (htrace : Trace r₀ h r)
    {p : NodePath} (hquiet : ∀ x ∈ h, x.selects p = false ∧ x.loads = false) {selected : Selection}
    (hsel : r₀.session.selection p = some selected) :
    r.session.selection p = some (selected.applied (h.any (Record.applies p))) := by
  induction htrace with
  | refl =>
    rw [hsel, List.any_nil, Selection.applied, Bool.not_false, Bool.and_true]
  | @tail h r e htrace htakes ih =>
    obtain ⟨hbefore, hlast⟩ := List.forall_mem_append.mp hquiet
    have hkept := ih hbefore
    obtain ⟨hselects, hload⟩ := List.forall_mem_singleton.mp hlast
    rw [(r.move e).selection_kept hselects hload, hkept, Option.map_some, List.any_append,
      List.any_cons, List.any_nil, Bool.or_false]
    simp only [Selection.applied, Bool.not_or, Bool.and_assoc]

/-! ## 4. When the button is right -/

/-- A version applied to the node is a report of what is applied to it. -/
theorem Record.report?_isSome_of_applies {p : NodePath} {x : Record} (h : x.applies p = true)
    (key : String) : (x.report? p key).isSome = true := by
  obtain ⟨applied, hcommit⟩ := Record.applies_iff.mp h
  rw [Record.report?_of_edits hcommit]
  rfl

theorem any_applies_of_lastReport {p : NodePath} {key : String} {h : List Record}
    (hnone : lastReport p key h = none) : h.any (Record.applies p) = false := by
  rw [lastReport, List.getLast?_eq_none_iff, List.filterMap_eq_nil_iff] at hnone
  refine List.any_eq_false.mpr fun x hx happlies => ?_
  have hsome := Record.report?_isSome_of_applies happlies key
  rw [hnone x hx] at hsome
  cases hsome

/-- A selected version begins to be applied, when none is under way, exactly if the node says that
it can be. -/
theorem Review.beginApply_iff {r : Review} {p : NodePath} {n : Node} {selected : Selection}
    (hn : r.session.nodeAt p = some n) (hsel : r.session.selection p = some selected)
    (hpending : selected.isPending = false) (hidle : r.session.busy .applyVersion p = false) :
    (∃ t, r.answer (.beginApply p) = .applyBegun (.ok t)) ↔
      n.applyEnabled selected.version = true := by
  constructor
  · rintro ⟨t, ha⟩
    have hmove := r.move (.beginApply p)
    rw [ha] at hmove
    generalize (r.next (.beginApply p)).session = s' at hmove
    cases hmove with
    | stale ht _ _ => cases ht
    | refused _ hfailure => cases hfailure
    | applyBegun hn' hsel' _ henabled _ =>
      obtain rfl := Option.some.inj (hn.symm.trans hn')
      obtain rfl := Option.some.inj (hsel.symm.trans hsel')
      exact henabled
  · intro henabled
    refine ⟨⟨r.session.generation, p, ⟨n.usageKey, selected.version⟩⟩, ?_⟩
    change Response.applyBegun (r.session.beginApply p).1 = _
    rw [Session.beginApply, Session.requireNode_ok.mpr hn]
    simp only [hsel, Option.filter, hpending, henabled, Session.ensureIdle_ok.mpr hidle, if_true,
      Bool.not_false]
    rfl

/-- **When the apply button is right.**  At every time in every review, for every version selected:

* the button is what the node said when the version was selected, and off once a version has been
  applied to the node since;
* what the node says is what the server has reported last since then, of an apply or of an approval
  of the node or one above it, and if nothing what the node said then;
* so the two agree exactly when nothing has been reported since or the last report says what the
  button does;
* it is the node that decides: a version begins to be applied, when none is under way, exactly if
  the node says that it can be. -/
theorem Trace.button_right_iff {h : List Record} {r : Review} (htrace : Trace {} h r) {p : NodePath}
    {selected : Selection} (hsel : r.session.selection p = some selected) :
    ∃ n₀ h₁ n, SelectedSince p h r selected.version n₀ h₁ ∧ r.session.nodeAt p = some n ∧
      selected.applyEnabled =
        (n₀.applyEnabled selected.version && !h₁.any (Record.applies p)) ∧
      n.applyEnabled selected.version =
        ((lastReport p n.usageKey h₁).getD n₀.standing).enables selected.version ∧
      (selected.applyEnabled = n.applyEnabled selected.version ↔
        ∀ s, lastReport p n.usageKey h₁ = some s →
          s.enables selected.version = selected.applyEnabled) ∧
      (selected.isPending = false → r.session.busy .applyVersion p = false →
        ((∃ t, r.answer (.beginApply p) = .applyBegun (.ok t)) ↔
          n.applyEnabled selected.version = true)) := by
  obtain ⟨n₀, h₁, hsince⟩ := htrace.selectedSince hsel
  obtain ⟨h₀, r₀, e, -, htrace₀, htakes₀, -, hn₀, hsel₀, htrace₁⟩ := hsince.place
  obtain ⟨n, hn, hkey, hstanding⟩ := htrace₁.standing (htrace₀.tail htakes₀).sound
    (fun x hx => (hsince.quiet x hx).2) hn₀
  have hkept := htrace₁.selection_kept hsince.quiet hsel₀
  have hbutton : selected.applyEnabled =
      (n₀.applyEnabled selected.version && !h₁.any (Record.applies p)) :=
    congrArg Selection.applyEnabled (Option.some.inj (hsel.symm.trans hkept))
  have hnode : n.applyEnabled selected.version =
      ((lastReport p n.usageKey h₁).getD n₀.standing).enables selected.version := by
    rw [n.applyEnabled_eq, hstanding, hkey]
  refine ⟨n₀, h₁, n, hsince, hn, hbutton, hnode, ?_, Review.beginApply_iff hn hsel⟩
  rw [hnode]
  cases hlast : lastReport p n.usageKey h₁ with
  | none =>
    -- nothing was reported, so no version was applied either
    rw [hbutton, any_applies_of_lastReport hlast, Option.getD_none, ← n₀.applyEnabled_eq,
      Bool.not_false, Bool.and_true]
    exact ⟨fun _ _ h => (nomatch h), fun _ => rfl⟩
  | some s =>
    rw [Option.getD_some]
    exact ⟨fun hright s' hs' => Option.some.inj hs' ▸ hright.symm, fun hright => (hright s rfl).symm⟩

open Sample in
/-- Version two of a section is selected and nothing has been reported since, so that the button is
right: the version can be applied, and begins to be. -/
theorem Trace.button_right_of_version_two :
    ∃ h, Trace {} h (shown loaded 2 "Two") ∧
      ∃ n, (shown loaded 2 "Two").session.nodeAt chapterPath = some n ∧
        (shown loaded 2 "Two").session.selection chapterPath = some ⟨2, true⟩ ∧
        n.applyEnabled 2 = true ∧
        ∃ t, (shown loaded 2 "Two").answer (.beginApply chapterPath) = .applyBegun (.ok t) := by
  obtain ⟨h, hrun⟩ := loaded_run
  have hshown := (hrun.trace.tail (e := .beginSelect chapterPath 2) (.of_begin rfl)).tail
    (e := .finishSelect ⟨1, chapterPath, ⟨2⟩⟩ (.ok { data := .string "Two" }))
    (.of_finish rfl (by decide))
  have hsel : (shown loaded 2 "Two").session.selection chapterPath = some ⟨2, true⟩ := rfl
  obtain ⟨n₀, h₁, n, -, hn, -, -, -, hbegin⟩ := Trace.button_right_iff hshown hsel
  have henabled : n.applyEnabled 2 = true := by rw [← Option.some.inj hn]; rfl
  exact ⟨_, hshown, n, hn, hsel, henabled, (hbegin rfl rfl).mpr henabled⟩

namespace Sample

/-- An outline with a section that is ready to be approved. -/
def readyTree : Tree where
  courseInfo := .ofBlock "course" "course"
  sections :=
    [("S1",
      { usageKey := "chapter"
        category := "chapter"
        data := .string "Own"
        status := some { destinationFlag := true, isFullyTranslated := true } })]

/-- The outline is loaded. -/
def ready : Review :=
  (({} : Review).next (.beginLoad "rerun")).next
    (.finishLoad ⟨1, "rerun"⟩ (.ok ⟨readyTree, readyTree⟩))

/-- The section is approved, and with that a version of it applied. -/
def approvedWith (r : Review) (version : VersionId) : Review :=
  (r.next (.beginApprove chapterPath)).next
    (.finishApprove ⟨1, chapterPath, ⟨["chapter"]⟩⟩
      (.ok [("chapter",
        { approved := true, appliedTranslation := true, appliedVersion := some version })]))

/-- The server has not applied the version. -/
def appliedNone : AppliedVersion :=
  { blockId := some "chapter" }

end Sample

open Sample in
/-- **Buttons can be out of date.**  Version two is selected, and applied by the approval of the
section: its button stays on, and the version does not begin to be applied.  And version two is on
its way to be applied, but the server does not apply it: its button goes off, and the version
begins to be applied again. -/
theorem Trace.buttons_out_of_date :
    (∃ h n, Trace {} h (approvedWith (shown ready 2 "Two") 2) ∧
      (approvedWith (shown ready 2 "Two") 2).session.selection chapterPath = some ⟨2, true⟩ ∧
      (approvedWith (shown ready 2 "Two") 2).session.nodeAt chapterPath = some n ∧
      n.applyEnabled 2 = false ∧
      (approvedWith (shown ready 2 "Two") 2).answer (.beginApply chapterPath) =
        .applyBegun (.error (.invalid (.alreadyApplied 2 "S1")))) ∧
    ∃ h n t, Trace {} h (applying.next (.finishApply applyTicket (.ok appliedNone))) ∧
      (applying.next (.finishApply applyTicket (.ok appliedNone))).session.selection chapterPath =
        some ⟨2, false⟩ ∧
      (applying.next (.finishApply applyTicket (.ok appliedNone))).session.nodeAt chapterPath =
        some n ∧
      n.applyEnabled 2 = true ∧
      (applying.next (.finishApply applyTicket (.ok appliedNone))).answer
        (.beginApply chapterPath) = .applyBegun (.ok t) := by
  constructor
  · have hready : Trace {} _ ready :=
      (Trace.refl.tail (.of_begin rfl)).tail (.of_finish rfl (by decide))
    have hshown := (hready.tail (e := .beginSelect chapterPath 2) (.of_begin rfl)).tail
      (e := .finishSelect ⟨1, chapterPath, ⟨2⟩⟩ (.ok { data := .string "Two" }))
      (.of_finish rfl (by decide))
    have happroved : Trace {} _ (approvedWith (shown ready 2 "Two") 2) :=
      (hshown.tail (e := .beginApprove chapterPath) (.of_begin rfl)).tail
        (.of_finish rfl (by decide))
    exact ⟨_, _, happroved, rfl, rfl, rfl, rfl⟩
  · obtain ⟨h, hrun, -⟩ := applying_run
    have happlied := hrun.trace.tail (e := .finishApply applyTicket (.ok appliedNone))
      (.of_finish rfl (by decide))
    exact ⟨_, _, _, happlied, rfl, rfl, rfl, rfl⟩

end CourseReview
