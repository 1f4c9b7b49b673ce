import CourseReview.Proofs.Session.Applying

/-!
# Previews and selections

That a version of a node is previewed is said twice: the node has its own payload set aside, and a
version is selected for its path.  The two are kept by different operations.  Some edit the node and
leave the selection alone: a version applied, an approval from above, the content of a unit.  Others
change the selection, and edit the node first.

This file settles that the two agree.  One event keeps the agreement (`Review.Previews.next`), and so
whatever is previewed in a review is the version selected, with the payload that came last for the
path (`Run.previewed_is_selected`).  Where no version is selected the node shows its own payload.
-/

namespace CourseReview

/-! ## 1. What was shown last -/

/-- The version that the record shows in the node at the path, with its payload. -/
def Record.shown? (p : NodePath) (x : Record) : Option (VersionId × Json) :=
  match x.event, x.response with
  | .finishSelect t (.ok payload), .selected (.ok _) =>
    if t.path = p then some (t.request.version, payload.data) else none
  | _, _ => none

/-- The version that a history has shown last in the node at the path, whatever became of it, with
its payload. -/
def lastShown (p : NodePath) (h : List Record) : Option (VersionId × Json) :=
  (h.filterMap (Record.shown? p)).getLast?

theorem lastShown_snoc (p : NodePath) (h : List Record) (x : Record) :
    lastShown p (h ++ [x]) = (x.shown? p).or (lastShown p h) :=
  getLast?_filterMap_snoc (Record.shown? p) h x

/-- A version that is shown is an edit of the node. -/
theorem Record.shown?_eq_none {p : NodePath} {e : Event} {a : Response}
    (hpreview : ∀ d, ¬ e.Edits a p (.preview d)) : Record.shown? p ⟨e, a⟩ = none := by
  unfold shown?
  dsimp only
  split
  · rename_i t payload selected
    rw [if_neg]
    rintro rfl
    exact hpreview _ (.preview t payload selected)
  · rfl

/-! ## 2. One event -/

/-- The version selected for a node is the same until the node shows another payload. -/
theorem Session.Move.selected_version {s s' : Session} {e : Event} {a : Response}
    (h : Move s e a s') (hload : Record.loads ⟨e, a⟩ = false) {p : NodePath}
    (hrevert : ¬ e.Edits a p .revert) (hpreview : ∀ d, ¬ e.Edits a p (.preview d)) :
    (s'.selection p).map (·.version) = (s.selection p).map (·.version) := by
  cases h.selections with
  | reset he _ => exact absurd he (Record.loads_eq_false.mp hload _)
  | same _ _ hsame => rw [hsame]
  | @reverted q hedits hset =>
    rw [hset, if_neg]
    rintro rfl
    exact hrevert hedits
  | @shown t payload selected he ha _ hset =>
    rw [hset, if_neg]
    rintro rfl
    exact hpreview payload.data (by rw [he, ha]; exact .preview ..)
  | applied _ _ hset =>
    rw [hset]
    split
    · rw [Option.map_map]; rfl
    · rfl

/-- Whatever is previewed is the version selected, with the payload that was shown last. -/
def Review.Previews (h : List Record) (r : Review) : Prop :=
  ∀ p n, r.session.nodeAt p = some n → n.isPreviewing = true →
    ∃ version, (r.session.selection p).map (·.version) = some version ∧ version ≠ pendingVersion ∧
      lastShown p h = some (version, n.data)

namespace Review.Previews

variable {h : List Record} {r : Review} {e : Event}

/-- A payload that is shown is one that is previewed as selected. -/
theorem of_preview (hshows : r.Shows h) (hallow : r.Allows e) {p : NodePath} {d : Json}
    (hedits : e.Edits (r.answer e) p (.preview d)) :
    ∃ version, ((r.next e).session.selection p).map (·.version) = some version ∧
      version ≠ pendingVersion ∧ lastShown p (h ++ [⟨e, r.answer e⟩]) = some (version, d) := by
  have hselections := (r.move e).selections
  rw [lastShown_snoc]
  generalize ha : r.answer e = a at hedits hselections ⊢
  cases hedits with
  | preview t payload selected =>
    have hproper := hshows.select t (hallow.out _ rfl)
    have hshown : Record.shown? t.path ⟨.finishSelect t (.ok payload), .selected (.ok selected)⟩ =
        some (t.request.version, payload.data) := if_pos rfl
    refine ⟨t.request.version, ?_, hproper, by rw [hshown, Option.some_or]⟩
    cases hselections with
    | reset he _ => cases he
    | same _ hpreview _ => exact absurd (.preview t payload selected) (hpreview _ _)
    | reverted hedits _ => cases hedits
    | shown he _ hversion hset => cases he; rw [hset, if_pos rfl, Option.map_some, hversion]
    | applied he _ _ => cases he

/-- **What is previewed goes on being what is selected.** -/
theorem next (hsound : r.Sound) (hshows : r.Shows h) (hallow : r.Allows e) (hpreviews : r.Previews h) :
    (r.next e).Previews (h ++ [⟨e, r.answer e⟩]) := by
  intro p n' hn' hpreviewing
  cases hload : Record.loads ⟨e, r.answer e⟩ with
  | true =>
    cases e with
    | beginLoad rerunId => cases hn'
    | _ => cases hload
  | false =>
    -- a node that has been left alone, or edited otherwise, previews what it previewed
    have hkept : ∀ n, r.session.nodeAt p = some n → n.SamePayloads n' →
        ¬ e.Edits (r.answer e) p .revert → (∀ d, ¬ e.Edits (r.answer e) p (.preview d)) →
          ∃ version, ((r.next e).session.selection p).map (·.version) = some version ∧
            version ≠ pendingVersion ∧
            lastShown p (h ++ [⟨e, r.answer e⟩]) = some (version, n'.data) := by
      intro n hn hsame hrevert hpreview
      have hbefore : n.isPreviewing = true := by
        rw [Node.isPreviewing, ← hsame.2]; exact hpreviewing
      rw [(r.move e).selected_version hload hrevert hpreview, lastShown_snoc,
        Record.shown?_eq_none hpreview, Option.none_or, hsame.1]
      exact hpreviews p n hn hbefore
    cases hsound.nodeStep hallow Node.ignoresBelow_samePayloads Node.samePayloads_foldApproval
      (Record.loads_eq_false.mp hload) p with
    | @edited edit n hedits _ hn hn₁ =>
      obtain rfl := Option.some.inj (hn'.symm.trans hn₁)
      have hother : ∀ edit', edit' ≠ edit → ¬ e.Edits (r.answer e) p edit' :=
        fun edit' hne hedits' => hne (hedits'.unique hedits).2
      cases edit with
      | preview d =>
        have hdata : (n.previewVersion d).data = d := (n.previewVersion_payloads d).1
        change ∃ version, _ ∧ _ ∧ lastShown p _ = some (version, (n.previewVersion d).data)
        rw [hdata]
        exact of_preview hshows hallow hedits
      | revert =>
        have hnone : n.revertPreview.previous = none := n.revertPreview_payloads.2
        have hpreviewing : n.revertPreview.previous.isSome = true := hpreviewing
        rw [hnone] at hpreviewing
        cases hpreviewing
      | commit applied => cases hpreviewing
      | approve patch =>
        exact hkept n hn (n.samePayloads_foldApproval patch) (hother _ (by simp))
          fun d => hother _ (by simp)
      | fill content =>
        exact hkept n hn ⟨rfl, rfl⟩ (hother _ (by simp)) fun d => hother _ (by simp)
    | became hedits hbecame =>
      rw [hn'] at hbecame
      generalize hn : r.session.nodeAt p = before at hbecame
      cases hbecame with
      | stayed hsame => exact hkept _ hn hsame (hedits _) fun d => hedits _
      | entered hnew =>
        have hnone : n'.previous = none := (Node.unpreviewed_iff.mp hnew.2).1
        rw [Node.isPreviewing, hnone] at hpreviewing
        cases hpreviewing

end Review.Previews

/-! ## 3. Whole runs -/

/-- What is previewed is what is selected in every review. -/
theorem Run.previews {h : List Record} {r : Review} (hrun : Run {} h r) : r.Previews h := by
  induction hrun with
  | refl => intro p n hn; cases hn
  | tail hrun hallow ih => exact ih.next hrun.sound hrun.shows hallow

/-- **What is previewed is what is selected.**  At every time in every review, for every node:

* if a version of it is previewed, a proper version is selected for its path, and what the node
  shows is the payload that came last for the path, which was asked for as that version;
* while none is selected, or the translation without a version, no version of it is previewed. -/
theorem Run.previewed_is_selected {h : List Record} {r : Review} (hrun : Run {} h r) {p : NodePath}
    {n : Node} (hn : r.session.nodeAt p = some n) :
    (n.isPreviewing = true → ∃ selected, r.session.selection p = some selected ∧
      selected.isPending = false ∧ lastShown p h = some (selected.version, n.data)) ∧
    ((∀ selected, r.session.selection p = some selected → selected.isPending = true) →
      n.isPreviewing = false) := by
  have hselected : n.isPreviewing = true → ∃ selected, r.session.selection p = some selected ∧
      selected.isPending = false ∧ lastShown p h = some (selected.version, n.data) := by
    intro hpreviewing
    obtain ⟨version, hversion, hproper, hshown⟩ := hrun.previews p n hn hpreviewing
    obtain ⟨selected, hsel, rfl⟩ := Option.map_eq_some_iff.mp hversion
    exact ⟨selected, hsel, beq_eq_false_iff_ne.mpr hproper, hshown⟩
  refine ⟨hselected, fun hpending => ?_⟩
  cases hpreviewing : n.isPreviewing with
  | false => rfl
  | true =>
    obtain ⟨selected, hsel, hproper, -⟩ := hselected hpreviewing
    rw [hpending selected hsel] at hproper
    cases hproper

open Sample in
/-- Version two of a section is selected and its payload shown, and then the section shows its own
again. -/
theorem Run.previewed_version_two :
    ∃ h n n', Run {} h (shown loaded 2 "Two") ∧
      (shown loaded 2 "Two").session.nodeAt chapterPath = some n ∧ n.isPreviewing = true ∧
      lastShown chapterPath h = some (2, n.data) ∧
      ((shown loaded 2 "Two").next (.beginSelect chapterPath pendingVersion)).session.nodeAt
        chapterPath = some n' ∧ n'.isPreviewing = false := by
  obtain ⟨h, hrun⟩ := loaded_run
  have hshown := (hrun.tail (e := .beginSelect chapterPath 2) (.of_begin rfl rfl)).tail
    (e := .finishSelect ⟨1, chapterPath, ⟨2⟩⟩ (.ok { data := .string "Two" }))
    (.of_finish rfl (by decide) rfl)
  have hreverted := hshown.tail (e := .beginSelect chapterPath pendingVersion) (.of_begin rfl rfl)
  obtain ⟨selected, hsel, -, hlast⟩ := (Run.previewed_is_selected (p := chapterPath) hshown rfl).1 rfl
  obtain rfl := Option.some.inj hsel
  refine ⟨_, _, _, hshown, rfl, rfl, hlast, rfl,
    (Run.previewed_is_selected (p := chapterPath) hreverted rfl).2 fun selected hsel => ?_⟩
  rw [← Option.some.inj hsel]
  rfl

end CourseReview
