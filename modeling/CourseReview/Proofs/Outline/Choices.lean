import CourseReview.Proofs.Outline.History

/-!
# The versions on offer

The history of a block is sorted for the reviewer: the version applied comes first, the others after
it from the newest to the oldest.  Which version is applied is read off the history in two more ways,
when the entry of the version applied is looked up and when it is decided whether a version can be
applied.  This file settles that the three agree.

* Sorting takes at most one version out of the history turned round, the first with the id applied
  (`Node.versionChoices_eq`, `Node.versionChoices_cases`), so that nothing is lost and nothing offered
  twice (`Node.versionChoices_perm`).
* A version listed cannot be applied exactly if it is the one shown as applied
  (`Node.applyEnabled_eq_false_iff_shown`).
* Where no id is listed twice, the version shown as applied is the entry looked up
  (`VersionStatus.appliedEntry_eq_find?_reverse`), and no id is offered twice
  (`Node.nodup_versionChoices`).
-/

namespace CourseReview

/-! ## 1. The version applied -/

namespace VersionStatus

variable {vs : VersionStatus} {id : VersionId}

/-- The id of the version applied, if one is. -/
def appliedId (vs : VersionStatus) : Option VersionId :=
  if vs.applied then vs.appliedVersion else none

/-- Whether an entry has the id of the version applied. -/
def marks (vs : VersionStatus) (v : Version) : Bool :=
  some v.id == vs.appliedId

theorem marks_iff {v : Version} : vs.marks v = true ↔ vs.appliedId = some v.id := by
  rw [marks, beq_iff_eq, eq_comm]

/-- The entry of the version applied is the oldest with its id. -/
theorem appliedEntry_eq_find? (vs : VersionStatus) : vs.appliedEntry = vs.versions.find? vs.marks := by
  have hnone (h : vs.appliedId = none) : vs.versions.find? vs.marks = none := by
    rw [List.find?_eq_none]
    intro v _ hv
    rw [marks_iff.mp hv] at h
    cases h
  unfold appliedEntry
  split
  · rename_i happlied
    have hid : vs.appliedId = vs.appliedVersion := if_pos happlied
    cases hversion : vs.appliedVersion with
    | none => rw [hnone (hid.trans hversion), Option.bind_none]
    | some id =>
      rw [Option.bind_some]
      refine congrArg (vs.versions.find? ·) (funext fun v => ?_)
      rw [marks, hid, hversion, Option.some_beq_some]
  · rename_i happlied
    exact (hnone (if_neg happlied)).symm

/-- An entry is found exactly if it is listed under the id applied, where no id is listed twice. -/
theorem find?_marks_iff {versions : List Version} (hdistinct : (versions.map (·.id)).Nodup) {v : Version} :
    versions.find? vs.marks = some v ↔ v ∈ versions ∧ vs.marks v = true := by
  constructor
  · intro hv
    exact ⟨List.mem_of_find?_eq_some hv, List.find?_some hv⟩
  · rintro ⟨hmem, hmark⟩
    have hsome : (versions.find? vs.marks).isSome = true := List.find?_isSome.mpr ⟨v, hmem, hmark⟩
    obtain ⟨w, hw⟩ := Option.isSome_iff_exists.mp hsome
    have hid : w.id = v.id := by
      have hw := marks_iff.mp (List.find?_some hw)
      rw [marks_iff.mp hmark] at hw
      exact (Option.some.inj hw).symm
    rw [hw, List.inj_on_of_nodup_map hdistinct (List.mem_of_find?_eq_some hw) hmem hid]

/-- **Looked for from either end**, the entry of the version applied is the same where no id is listed
twice. -/
theorem appliedEntry_eq_find?_reverse (hdistinct : vs.ids.Nodup) :
    vs.appliedEntry = vs.versions.reverse.find? vs.marks := by
  have hreverse : (vs.versions.reverse.map (·.id)).Nodup := by
    rw [List.map_reverse, List.nodup_reverse]
    exact hdistinct
  rw [appliedEntry_eq_find?]
  refine Option.ext fun v => ?_
  rw [find?_marks_iff hdistinct, find?_marks_iff hreverse, List.mem_reverse]

end VersionStatus

/-! ## 2. What is on offer -/

namespace Node

variable {n : Node} {id : VersionId}

/-- **The versions on offer.** -/
theorem versionChoices_eq (n : Node) :
    n.versionChoices =
      { recent := if n.pendingSelectable then some { id := pendingVersion } else none
        applied := n.history.versions.reverse.find? n.history.marks
        other := n.history.versions.reverse.eraseP n.history.marks } := by
  unfold versionChoices history
  cases n.versionStatus with
  | none => rfl
  | some vs =>
    dsimp only
    rw [sortChoices_eq]
    rfl

/-- Whether the pending translation is on offer. -/
theorem recent_versionChoices (n : Node) :
    (n.versionChoices.recent.isSome = true ↔ ∃ s, n.status = some s ∧ s.approved = false) ∧
      ∀ v ∈ n.versionChoices.recent, v.id = pendingVersion := by
  rw [versionChoices_eq]
  unfold pendingSelectable
  cases n.status with
  | none => simp
  | some s => cases s.approved <;> simp

/-- **At most one version is taken out**, and it is one with the id applied. -/
theorem versionChoices_cases (n : Node) :
    (n.versionChoices.applied = none ∧ n.versionChoices.other = n.history.versions.reverse) ∨
      ∃ v newer older, n.versionChoices.applied = some v ∧ n.history.appliedId = some v.id ∧
        n.history.versions.reverse = newer ++ v :: older ∧ n.versionChoices.other = newer ++ older := by
  rw [versionChoices_eq]
  cases hfind : n.history.versions.reverse.find? n.history.marks with
  | none =>
    refine .inl ⟨rfl, List.eraseP_of_forall_not ?_⟩
    exact List.find?_eq_none.mp hfind
  | some v =>
    obtain ⟨hmark, newer, older, hlist, hnewer⟩ := List.find?_eq_some_iff_append.mp hfind
    refine .inr ⟨v, newer, older, rfl, VersionStatus.marks_iff.mp hmark, hlist, ?_⟩
    have hskip : ∀ w ∈ newer, ¬ n.history.marks w = true := fun w hw => by simpa using hnewer w hw
    rw [hlist, List.eraseP_append_right _ hskip, List.eraseP_cons_of_pos hmark]

/-- **Every version is offered once.** -/
theorem versionChoices_perm (n : Node) :
    (n.versionChoices.applied.toList ++ n.versionChoices.other).Perm n.history.versions := by
  refine List.Perm.trans ?_ (List.reverse_perm _)
  obtain ⟨happlied, hother⟩ | ⟨v, newer, older, happlied, -, hlist, hother⟩ := n.versionChoices_cases
  · rw [happlied, hother]
    exact .refl _
  · rw [happlied, hother, hlist, Option.toList_some, List.singleton_append]
    exact List.perm_middle.symm

/-- Where no id is listed twice and none is that of the pending translation, none is offered twice. -/
theorem nodup_versionChoices (hdistinct : n.history.ids.Nodup) (hpending : pendingVersion ∉ n.history.ids) :
    (n.versionChoices.toList.map (·.id)).Nodup := by
  have hids := n.versionChoices_perm.map (·.id)
  rw [VersionChoices.toList, List.append_assoc, List.map_append, List.nodup_append]
  refine ⟨?_, hids.nodup_iff.mpr hdistinct, ?_⟩
  · cases n.versionChoices.recent <;> simp
  · rintro id hid id' hid' rfl
    obtain ⟨v, hv, rfl⟩ := List.mem_map.mp hid
    have hrecent := n.recent_versionChoices.2 v (Option.mem_toList.mp hv)
    exact hpending (hrecent ▸ hids.subset hid')

/-! ## 3. What can be applied -/

/-- A version cannot be applied if it is none or if it is applied already. -/
theorem applyEnabled_eq_false_iff :
    n.applyEnabled id = false ↔ id = pendingVersion ∨ n.history.appliedId = some id := by
  unfold applyEnabled history VersionStatus.appliedId
  by_cases hid : id = pendingVersion
  · simp [hid]
  · cases n.versionStatus with
    | none => simp [hid]
    | some vs => cases happlied : vs.applied <;> simp [hid, happlied]

/-- **What can be applied agrees with what is shown as applied.** -/
theorem applyEnabled_eq_false_iff_shown (hlisted : id ∈ n.history.ids) (hid : id ≠ pendingVersion) :
    n.applyEnabled id = false ↔ n.versionChoices.applied.map (·.id) = some id := by
  rw [applyEnabled_eq_false_iff, or_iff_right hid]
  obtain ⟨v, hv, rfl⟩ := List.mem_map.mp hlisted
  obtain ⟨hnone, hother⟩ | ⟨w, newer, older, hw, happlied, -, -⟩ := n.versionChoices_cases
  · have hmarks : n.history.appliedId ≠ some v.id := by
      rw [versionChoices_eq] at hnone
      have hfind := List.find?_eq_none.mp hnone v (List.mem_reverse.mpr hv)
      exact fun happlied => hfind (VersionStatus.marks_iff.mpr happlied)
    simp [hnone, hmarks]
  · rw [happlied, hw, Option.map_some]

/-- **The versions on offer.**  For every block,

* the version shown as applied and the others are just the versions listed, each of them once;
* the others are the versions listed, turned round, less the version applied if one is shown;
* the pending translation is on offer exactly if the block has a status that is not approved.

If no id is listed twice, then the version shown as applied is the entry looked up for it, a version
listed cannot be applied exactly if it is the one shown as applied, and no id is offered twice, unless
the history itself lists the id of the pending translation. -/
theorem versionChoices_offer_each (n : Node) :
    (n.versionChoices.applied.toList ++ n.versionChoices.other).Perm n.history.versions ∧
    ((n.versionChoices.applied = none ∧ n.versionChoices.other = n.history.versions.reverse) ∨
      ∃ v newer older, n.versionChoices.applied = some v ∧ n.history.appliedId = some v.id ∧
        n.history.versions.reverse = newer ++ v :: older ∧ n.versionChoices.other = newer ++ older) ∧
    (n.versionChoices.recent.isSome = true ↔ ∃ s, n.status = some s ∧ s.approved = false) ∧
    (n.history.ids.Nodup →
      n.versionChoices.applied = n.versionStatus.bind VersionStatus.appliedEntry ∧
      (∀ id ∈ n.history.ids, id ≠ pendingVersion →
        (n.applyEnabled id = false ↔ n.versionChoices.applied.map (·.id) = some id)) ∧
      (pendingVersion ∉ n.history.ids → (n.versionChoices.toList.map (·.id)).Nodup)) := by
  refine ⟨n.versionChoices_perm, n.versionChoices_cases, n.recent_versionChoices.1, fun hdistinct => ?_⟩
  refine ⟨?_, fun id hlisted hid => applyEnabled_eq_false_iff_shown hlisted hid,
    nodup_versionChoices hdistinct⟩
  have hentry : n.versionStatus.bind VersionStatus.appliedEntry = n.history.appliedEntry := by
    unfold history
    cases n.versionStatus <;> rfl
  rw [hentry, VersionStatus.appliedEntry_eq_find?_reverse hdistinct, versionChoices_eq]

end Node

namespace Sample

/-- A block that is not approved, with three versions, the second of them applied. -/
def threeVersions : Node :=
  { usageKey := "html"
    status := some {}
    versionStatus := some
      { applied := true, appliedVersion := some 2, versions := [{ id := 1 }, { id := 2 }, { id := 3 }] } }

end Sample

open Sample in
/-- Of three versions the second is applied: it comes before the third and the first, it is the entry
looked up, and it is the one that cannot be applied. -/
theorem Node.versionChoices_offer_each_of_three :
    threeVersions.history.ids.Nodup ∧ pendingVersion ∉ threeVersions.history.ids ∧
      threeVersions.versionChoices.toList.map (·.id) = [pendingVersion, 2, 3, 1] ∧
      (threeVersions.versionChoices.toList.map (·.id)).Nodup ∧
      threeVersions.versionChoices.applied = threeVersions.versionStatus.bind VersionStatus.appliedEntry ∧
      threeVersions.applyEnabled 2 = false := by
  have hdistinct : threeVersions.history.ids.Nodup := by decide
  have hpending : pendingVersion ∉ threeVersions.history.ids := by decide
  obtain ⟨-, -, -, hids⟩ := threeVersions.versionChoices_offer_each
  obtain ⟨hentry, happly, hnodup⟩ := hids hdistinct
  exact ⟨hdistinct, hpending, rfl, hnodup hpending, hentry, (happly 2 (by decide) (by decide)).mpr rfl⟩

end CourseReview
