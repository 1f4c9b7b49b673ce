import CourseReview.Proofs.Session.Buttons
import CourseReview.Proofs.Session.Outstanding

/-!
# What is asked to be applied

A session keeps one selection for each node, and of that only the version and the state of the button.
When it asks the server to apply a version, all that it looks at is that selection and the node.  This
file settles what the history says about such a request: the reviewer has seen just this version.

* A proper version is selected for a node only by its payload, which came for just that version
  (`Session.Move.payload_selected`).
* So the payload of the version asked for came in the pairing that is there, and nothing has been
  selected for the node since (`Trace.reviewedSince`).

`Trace.applies_reviewed_version` adds what is checked at the node and at the flag.
-/

namespace CourseReview

/-! ## 1. Where a proper version is selected -/

namespace Session

variable {s s' : Session} {e : Event} {a : Response} {p : NodePath}

/-- **A proper version is selected by its payload**, which has come in this generation for the ticket
that asked for just this version. -/
theorem Move.payload_selected (h : Move s e a s') (hselects : Record.selects p ⟨e, a⟩ = true)
    {selected : Selection} (hsel : s'.selection p = some selected)
    (hproper : selected.isPending = false) :
    ∃ t payload, e = .finishSelect t (.ok payload) ∧ a = .selected (.ok selected) ∧ t.path = p ∧
      t.request.version = selected.version ∧ t.generation = s.generation := by
  unfold Record.selects at hselects
  dsimp only at hselects
  split at hselects
  · rename_i t payload selected'
    rw [beq_iff_eq] at hselects
    subst hselects
    cases h with
    | stale _ _ ha => cases ha
    | refused _ ha => cases ha
    | selected hcurrent _ _ hn =>
      have hnew := (if_pos rfl).symm.trans hsel
      obtain rfl := Option.some.inj hnew
      exact ⟨t, payload, rfl, rfl, rfl, rfl, hcurrent⟩
  · -- the translation without a version is no proper version
    rename_i q version selected'
    rw [beq_iff_eq] at hselects
    subst hselects
    cases h with
    | stale ht _ _ => cases ht
    | refused _ ha => cases ha
    | reverted _ _ _ =>
      have hpending := (if_pos rfl).symm.trans hsel
      obtain rfl := Option.some.inj hpending
      cases hproper
  · cases hselects

/-- **What a request to apply says**: the node at the path and the version selected for it, which is
a proper version, is not the one applied, and is not on its way to be applied. -/
theorem Move.apply_begun {t : Ticket VersionApply} (h : Move s (.beginApply p) (.applyBegun (.ok t)) s') :
    ∃ n selected, s.nodeAt p = some n ∧ s.selection p = some selected ∧
      selected.isPending = false ∧ n.applyEnabled selected.version = true ∧
      s.busy .applyVersion p = false ∧
      t = ⟨s.generation, p, ⟨n.usageKey, selected.version⟩⟩ := by
  cases h with
  | stale ht _ _ => cases ht
  | refused _ ha => cases ha
  | applyBegun hn hsel hpending henabled hidle => exact ⟨_, _, hn, hsel, hpending, henabled, hidle, rfl⟩

end Session

/-- A version that can be applied is not the one that is. -/
theorem Node.not_applied_of_applyEnabled {n : Node} {version : VersionId}
    (h : n.applyEnabled version = true) {vs : VersionStatus} (hvs : n.versionStatus = some vs) :
    ¬ (vs.applied = true ∧ vs.appliedVersion = some version) := by
  rintro ⟨happlied, hversion⟩
  rw [applyEnabled, hvs] at h
  split at h
  · cases h
  · simp [happlied, hversion] at h

/-! ## 2. The history of a request -/

/-- A generation lasts as long as no load begins. -/
theorem Trace.generation_eq {r₀ r : Review} {h : List Record} (htrace : Trace r₀ h r)
    (hload : ∀ x ∈ h, x.loads = false) : r.session.generation = r₀.session.generation := by
  induction htrace with
  | refl => rfl
  | @tail h r e _ _ ih =>
    obtain ⟨hbefore, hlast⟩ := List.forall_mem_append.mp hload
    have hlast := List.forall_mem_singleton.mp hlast
    rw [(r.move e).flags.generation_eq (Record.loads_eq_false.mp hlast), ih hbefore]

/-- A place in a history at which the payload of a version came for the node at a path, to a ticket of
the generation that still lasts, and the version was selected with that.  Since then nothing was
selected for the node, neither another version nor the translation without one. -/
structure ReviewedSince (p : NodePath) (version : VersionId) (h : List Record) (r : Review) : Prop where
  place : ∃ h₀ r₀ t payload selected h₁,
    h = h₀ ++ ⟨.finishSelect t (.ok payload), .selected (.ok selected)⟩ :: h₁ ∧
    Trace {} h₀ r₀ ∧ .select t ∈ r₀.unfinished ∧
    r₀.answer (.finishSelect t (.ok payload)) = .selected (.ok selected) ∧
    Trace (r₀.next (.finishSelect t (.ok payload))) h₁ r ∧
    t.path = p ∧ t.request.version = version ∧ selected.version = version ∧
    t.generation = r.session.generation ∧ ∀ x ∈ h₁, x.selects p = false ∧ x.loads = false

/-- **A proper version that is selected has been seen.** -/
theorem Trace.reviewedSince {h : List Record} {r : Review} (htrace : Trace {} h r) {p : NodePath}
    {selected : Selection} (hsel : r.session.selection p = some selected)
    (hproper : selected.isPending = false) : ReviewedSince p selected.version h r := by
  obtain ⟨n₀, h₁, ⟨h₀, r₀, e, hh, htrace₀, htakes, hselects, -, hsel₀, htrace₁⟩, hquiet⟩ :=
    htrace.selectedSince hsel
  obtain ⟨t, payload, rfl, ha, hpath, hversion, hcurrent⟩ :=
    (r₀.move e).payload_selected hselects hsel₀ hproper
  have hgen : t.generation = r.session.generation := by
    rw [htrace₁.generation_eq fun x hx => (hquiet x hx).2, hcurrent]
    exact ((r₀.move _).flags.generation_eq fun _ he => by cases he).symm
  refine ⟨h₀, r₀, t, payload, _, h₁, ?_, htrace₀, htakes (.select t) rfl, ha, htrace₁, hpath, hversion,
    rfl, hgen, hquiet⟩
  rw [hh, ha]

/-- **No version is applied that has not been seen.**  Whenever, in any review, a request goes out to
apply a version to the node at a path,

* it is for the block of the node that is at the path, and for a proper version;
* the payload of just this version has come for the path before, in the same generation, and nothing
  has been selected for the path since;
* the node does not say that this version is applied to it already;
* no other request to apply a version to the node is out: those that are out for the path are of
  pairings that were put aside. -/
theorem Trace.applies_reviewed_version {h : List Record} {r : Review} (htrace : Trace {} h r)
    {p : NodePath} {t : Ticket VersionApply}
    (ha : r.answer (.beginApply p) = .applyBegun (.ok t)) :
    t.path = p ∧ t.generation = r.session.generation ∧ t.request.version ≠ pendingVersion ∧
      (∃ n, r.session.nodeAt p = some n ∧ t.request.usageKey = n.usageKey ∧
        ∀ vs, n.versionStatus = some vs →
          ¬ (vs.applied = true ∧ vs.appliedVersion = some t.request.version)) ∧
      ReviewedSince p t.request.version h r ∧
      ∀ u, .apply u ∈ r.unfinished → u.path = p → u.generation < r.session.generation := by
  have hsound := htrace.sound
  have hmove := r.move (.beginApply p)
  rw [ha] at hmove
  obtain ⟨n, selected, hn, hsel, hpending, henabled, hidle, rfl⟩ := hmove.apply_begun
  refine ⟨rfl, rfl, beq_eq_false_iff_ne.mp hpending,
    ⟨n, hn, rfl, fun vs hvs => Node.not_applied_of_applyEnabled henabled hvs⟩,
    htrace.reviewedSince hsel hpending, fun u hu hp => ?_⟩
  refine Nat.lt_of_le_of_ne (hsound.accounted.past _ hu) fun hgen => ?_
  have hup : r.session.busy .applyVersion u.path = true := hsound.accounted.isUp hu hgen
  rw [hp, hidle] at hup
  cases hup

open Sample in
/-- Version two of a section has been selected and its payload shown, and then a request goes out to
apply it. -/
theorem Trace.applies_version_two :
    ∃ h, Trace {} h (shown loaded 2 "Two") ∧
      (shown loaded 2 "Two").answer (.beginApply chapterPath) = .applyBegun (.ok applyTicket) ∧
      ReviewedSince chapterPath 2 h (shown loaded 2 "Two") ∧
      ∃ n, (shown loaded 2 "Two").session.nodeAt chapterPath = some n ∧ n.usageKey = "chapter" := by
  obtain ⟨h, hrun⟩ := loaded_run
  have hshown := (hrun.trace.tail (e := .beginSelect chapterPath 2) (.of_begin rfl)).tail
    (e := .finishSelect ⟨1, chapterPath, ⟨2⟩⟩ (.ok { data := .string "Two" }))
    (.of_finish rfl (by decide))
  have ha : (shown loaded 2 "Two").answer (.beginApply chapterPath) =
      .applyBegun (.ok applyTicket) := rfl
  obtain ⟨-, -, -, ⟨n, hn, hkey, -⟩, hreviewed, -⟩ := Trace.applies_reviewed_version hshown ha
  exact ⟨_, hshown, ha, hreviewed, n, hn, hkey.symm⟩

end CourseReview
