import Mathlib.Data.List.Nodup
import CourseReview.Proofs.Outline.Edit

/-!
# Version histories

What is known of the versions of a block is recorded in two ways.  An answer to an approval says
which version is applied, and has it listed; a version applied is only said to be.  This file settles
what either does to the history of a node (`Edit.record`), which no other edit changes
(`Edit.history_revision`).

* A history only grows: versions are added at its end, each id once, and the latest is the last
  (`VersionStatus.Grows`).  Approvals and versions applied both keep to that (`Edit.grows_record`).
* After an approval the version applied is listed (`VersionStatus.isConsistent_recordApproval`); after
  a version was applied it is if it was (`VersionStatus.isConsistent_commit`).
* That it is listed is what it takes for the version applied to be found, and to be offered as such
  (`VersionStatus.appliedEntry_iff`, `Node.versionChoices_iff`).
-/

namespace CourseReview

/-! ## 1. Growing -/

namespace VersionStatus

variable {vs vs' vs'' : VersionStatus} {entry : ApprovalEntry} {id : VersionId}

/-- The ids of the versions listed, from the oldest. -/
def ids (vs : VersionStatus) : List VersionId :=
  vs.versions.map (·.id)

theorem lists_iff : vs.lists id = true ↔ id ∈ vs.ids := by
  rw [lists, List.any_eq_true, ids, List.mem_map]
  simp only [beq_iff_eq]

/-- The latest version is the one listed last, if any is. -/
def LatestIsLast (vs : VersionStatus) : Prop :=
  vs.latestVersion = vs.ids.getLast?

/-- What may become of a history: versions are added at its end, and it stays as well formed as it
was. -/
structure Grows (vs vs' : VersionStatus) : Prop where
  listed : vs.versions <+: vs'.versions
  distinct : vs.ids.Nodup → vs'.ids.Nodup
  latest : vs.LatestIsLast → vs'.LatestIsLast

namespace Grows

theorem refl (vs : VersionStatus) : vs.Grows vs :=
  ⟨List.prefix_refl _, fun h => h, fun h => h⟩

theorem trans (h : vs.Grows vs') (h' : vs'.Grows vs'') : vs.Grows vs'' where
  listed := h.listed.trans h'.listed
  distinct hdistinct := h'.distinct (h.distinct hdistinct)
  latest hlatest := h'.latest (h.latest hlatest)

end Grows

/-! ## 2. Answers to approvals -/

theorem appliedVersion_recordApproval (vs : VersionStatus) (entry : ApprovalEntry) :
    (vs.recordApproval entry).appliedVersion = entry.appliedVersion := by
  rw [recordApproval]
  cases entry.appliedVersion <;> rfl

theorem applied_recordApproval (vs : VersionStatus) (entry : ApprovalEntry) :
    (vs.recordApproval entry).applied = entry.appliedTranslation := by
  rw [recordApproval]
  cases entry.appliedVersion <;> rfl

/-- An answer without a version adds none. -/
theorem versions_recordApproval_none (vs : VersionStatus) (h : entry.appliedVersion = none) :
    (vs.recordApproval entry).versions = vs.versions ∧
      (vs.recordApproval entry).latestVersion = vs.latestVersion := by
  rw [recordApproval, h]
  exact ⟨rfl, rfl⟩

/-- An answer with a version adds it, unless it is listed, and the latest is then the last. -/
theorem versions_recordApproval_some (vs : VersionStatus) (h : entry.appliedVersion = some id) :
    (vs.recordApproval entry).versions =
        (if vs.lists id then vs.versions else vs.versions ++ [⟨id, entry.appliedVersionDate⟩]) ∧
      (vs.recordApproval entry).LatestIsLast := by
  rw [LatestIsLast, ids, List.getLast?_map, recordApproval, h]
  exact ⟨rfl, rfl⟩

/-- The same for the ids. -/
theorem ids_recordApproval (h : entry.appliedVersion = some id) :
    (vs.recordApproval entry).ids = if id ∈ vs.ids then vs.ids else vs.ids ++ [id] := by
  rw [ids, (versions_recordApproval_some vs h).1]
  simp only [lists_iff]
  split
  · rfl
  · rw [List.map_append]; rfl

/-- **Answers to approvals let the history grow.** -/
theorem grows_recordApproval (vs : VersionStatus) (entry : ApprovalEntry) :
    vs.Grows (vs.recordApproval entry) := by
  cases hid : entry.appliedVersion with
  | none =>
    obtain ⟨hversions, hlatest⟩ := versions_recordApproval_none vs hid
    have hids : (vs.recordApproval entry).ids = vs.ids := by rw [ids, hversions, ids]
    refine ⟨hversions ▸ List.prefix_refl _, fun h => hids ▸ h, fun h => ?_⟩
    rw [LatestIsLast, hlatest, hids]
    exact h
  | some id =>
    obtain ⟨hversions, hlatest⟩ := versions_recordApproval_some vs hid
    refine ⟨?_, fun hdistinct => ?_, fun _ => hlatest⟩
    · rw [hversions]
      split
      · exact List.prefix_refl _
      · exact List.prefix_append _ _
    · rw [ids_recordApproval hid]
      split
      · exact hdistinct
      · rename_i hnew
        rw [← List.concat_eq_append]
        exact List.Nodup.concat hnew hdistinct

/-- **After an answer the version applied is listed**, if one is named. -/
theorem isConsistent_recordApproval (vs : VersionStatus) (entry : ApprovalEntry) :
    (vs.recordApproval entry).isConsistent = true := by
  rw [isConsistent, appliedVersion_recordApproval]
  cases hid : entry.appliedVersion with
  | none => rfl
  | some id =>
    rw [lists_iff, ids_recordApproval hid]
    split
    · assumption
    · exact List.mem_append_right _ (List.mem_singleton.mpr rfl)

/-- It is listed once, where no version is listed twice. -/
theorem count_recordApproval (h : entry.appliedVersion = some id) (hdistinct : vs.ids.Nodup) :
    (vs.recordApproval entry).ids.count id = 1 := by
  have hlisted : (vs.recordApproval entry).lists id = true := by
    have hconsistent := isConsistent_recordApproval vs entry
    rw [isConsistent, appliedVersion_recordApproval, h] at hconsistent
    exact hconsistent
  have hnodup := (grows_recordApproval vs entry).distinct hdistinct
  exact List.count_eq_one_of_mem hnodup (lists_iff.mp hlisted)

end VersionStatus

/-! ## 3. Edits -/

/-- What is known of the versions of the block; nothing where there is no version status. -/
def Node.history (n : Node) : VersionStatus :=
  n.versionStatus.getD {}

/-- What an edit makes of the history of the block with that usage key. -/
def Edit.record (key : String) (vs : VersionStatus) : Edit → VersionStatus
  | .commit applied =>
    { vs with applied := applied.appliedTranslation, appliedVersion := applied.appliedVersion }
  | .approve patch => (Keyed.get? key patch).elim vs vs.recordApproval
  | _ => vs

theorem Node.history_foldApproval (patch : ApprovalPatch) (n : Node) :
    ((n.foldApproval patch).node n).usageKey = n.usageKey ∧
      ((n.foldApproval patch).node n).history = (Edit.approve patch).record n.usageKey n.history := by
  rw [node_foldApproval, Edit.record]
  cases Keyed.get? n.usageKey patch <;> exact ⟨rfl, rfl⟩

/-- **What an edit does to the history of the node edited.** -/
theorem Edit.history_revision (edit : Edit) (n : Node) :
    ((edit.revision n).node n).usageKey = n.usageKey ∧
      ((edit.revision n).node n).history = edit.record n.usageKey n.history := by
  cases edit with
  | preview payload =>
    change (n.previewVersion payload).usageKey = _ ∧ (n.previewVersion payload).history = _
    rw [Node.previewVersion_eq]
    exact ⟨rfl, rfl⟩
  | revert =>
    change n.revertPreview.usageKey = _ ∧ n.revertPreview.history = _
    rw [Node.revertPreview_eq]
    exact ⟨rfl, rfl⟩
  | commit applied => exact ⟨rfl, rfl⟩
  | approve patch => exact n.history_foldApproval patch
  | fill content => exact ⟨rfl, rfl⟩

/-- **Edits let histories grow.** -/
theorem Edit.grows_record (edit : Edit) (key : String) (vs : VersionStatus) :
    vs.Grows (edit.record key vs) := by
  cases edit with
  | commit applied => exact ⟨List.prefix_refl _, fun h => h, fun h => h⟩
  | approve patch =>
    rw [record]
    cases Keyed.get? key patch with
    | none => exact .refl vs
    | some entry => exact vs.grows_recordApproval entry
  | _ => exact .refl vs

/-! ## 4. The version applied -/

namespace VersionStatus

variable {vs : VersionStatus} {id : VersionId}

theorem isConsistent_iff (h : vs.appliedVersion = some id) :
    vs.isConsistent = true ↔ vs.lists id = true := by
  rw [isConsistent, h]

/-- A version is found by its id exactly if there is one with the id. -/
theorem find?_id_iff {versions : List Version} :
    (∃ v, versions.find? (·.id == id) = some v ∧ v.id = id) ↔ ∃ v ∈ versions, v.id = id := by
  constructor
  · rintro ⟨v, hv, hid⟩
    exact ⟨v, List.mem_of_find?_eq_some hv, hid⟩
  · rintro ⟨v, hv, hid⟩
    have hsome : (versions.find? (·.id == id)).isSome = true :=
      List.find?_isSome.mpr ⟨v, hv, beq_iff_eq.mpr hid⟩
    obtain ⟨w, hw⟩ := Option.isSome_iff_exists.mp hsome
    have hid : (w.id == id) = true := List.find?_some (p := fun v : Version => v.id == id) hw
    exact ⟨w, hw, beq_iff_eq.mp hid⟩

/-- The version applied is found exactly if it is listed. -/
theorem appliedEntry_iff (happlied : vs.applied = true) (h : vs.appliedVersion = some id) :
    (∃ v, vs.appliedEntry = some v ∧ v.id = id) ↔ vs.isConsistent = true := by
  rw [isConsistent_iff h, lists_iff, ids, List.mem_map, appliedEntry, if_pos happlied, h,
    Option.bind_some]
  exact find?_id_iff

end VersionStatus

namespace Node

/-- **What sorting comes to**: unless a version is there already, the first one applied is put in its
place, and all others are added in their order. -/
theorem sortChoices_eq (appliedId : Option VersionId) : ∀ (vs : List Version) (c : VersionChoices),
    sortChoices appliedId vs c =
      { c with
        applied := c.applied.or (vs.find? fun v => some v.id == appliedId)
        other := c.other ++
          if c.applied = none then vs.eraseP (fun v => some v.id == appliedId) else vs }
  | [], c => by simp [sortChoices]
  | v :: rest, c => by
    rw [sortChoices]
    by_cases hv : some v.id = appliedId
    · cases hc : c.applied with
      | none => simp [sortChoices_eq appliedId rest, hv]
      | some w => simp [sortChoices_eq appliedId rest]
    · cases hc : c.applied <;> simp [sortChoices_eq appliedId rest, hv]

/-- The version applied is offered as such exactly if it is listed. -/
theorem versionChoices_iff {n : Node} {id : VersionId} (happlied : n.history.applied = true)
    (h : n.history.appliedVersion = some id) :
    (∃ v, n.versionChoices.applied = some v ∧ v.id = id) ↔ n.history.isConsistent = true := by
  rw [VersionStatus.isConsistent_iff h, VersionStatus.lists_iff, VersionStatus.ids, List.mem_map,
    versionChoices]
  rw [history] at happlied h ⊢
  cases hvs : n.versionStatus with
  | none => rw [hvs] at happlied; cases happlied
  | some vs =>
    rw [hvs, Option.getD_some] at happlied h
    rw [Option.getD_some]
    dsimp only
    rw [sortChoices_eq, if_pos happlied, h, Option.none_or]
    simp only [Option.some_beq_some]
    rw [VersionStatus.find?_id_iff]
    simp only [List.mem_reverse]

end Node

end CourseReview
