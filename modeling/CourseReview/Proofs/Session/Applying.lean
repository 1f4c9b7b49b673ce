import CourseReview.Proofs.Session.Originals

/-!
# What applying a version makes permanent

A version is selected, its payload comes and is shown, and then the version is applied.  Selecting
and applying have flags of their own, so that while a version is applied another can be selected
for the same node.  What is applied on the server is the version of the ticket; what becomes the
node's own in the outline is the payload shown when the reply comes.

This file settles which payload that is.  What a node shows is, in every review, what its selection
says (`Review.Shows`): the payload last received for the version selected, or its own payload.  So
applying makes that payload permanent, and it is the payload of the version applied when the
selection is still the one that was applied (`Run.apply_commits_selection`).  When another version
was selected meanwhile, its payload becomes the node's own (`Run.apply_commits_other_version`).
-/

namespace CourseReview

/-! ## 1. What has been received -/

/-- The payload received last for a version of the node at a path, after one more event. -/
def Record.deliver (p : NodePath) (version : VersionId) (before : Option Json) (x : Record) :
    Option Json :=
  match x.event, x.response with
  | .beginLoad _, _ => none
  | .finishSelect t (.ok payload), .selected (.ok _) =>
    if t.path = p ∧ t.request.version = version then some payload.data else before
  | _, _ => before

/-- The payload that a history has received last, in the pairing, for a version of the node at a
path. -/
def delivered (p : NodePath) (version : VersionId) (h : List Record) : Option Json :=
  h.foldl (Record.deliver p version) none

theorem delivered_snoc (p : NodePath) (version : VersionId) (h : List Record) (x : Record) :
    delivered p version (h ++ [x]) = x.deliver p version (delivered p version h) := by
  rw [delivered, List.foldl_append]; rfl

namespace Record

variable {p : NodePath} {version : VersionId} {before : Option Json} {e : Event} {a : Response}

/-- Only an event that shows a payload in the node delivers one. -/
theorem deliver_of_not_preview (hload : Record.loads ⟨e, a⟩ = false)
    (hpreview : ∀ d, ¬ e.Edits a p (.preview d)) : deliver p version before ⟨e, a⟩ = before := by
  unfold deliver
  dsimp only
  split
  · cases hload
  · rename_i t payload selected
    rw [if_neg]
    rintro ⟨rfl, -⟩
    exact hpreview _ (.preview t payload selected)
  · rfl

/-- What was received stays known while the pairing lasts. -/
theorem deliver_isSome (hload : Record.loads ⟨e, a⟩ = false) (hbefore : before.isSome = true) :
    (deliver p version before ⟨e, a⟩).isSome = true := by
  unfold deliver
  dsimp only
  split
  · cases hload
  · split
    · rfl
    · exact hbefore
  · exact hbefore

end Record

/-! ## 2. Tickets for versions -/

namespace Session

variable {s s' : Session} {e : Event} {a : Response}

/-- A ticket for the payload of a version is for a proper version. -/
theorem Move.select_ticket (h : Move s e a s') {t : Ticket VersionFetch}
    (ht : a.ticket? = some (.select t)) : t.request.version ≠ pendingVersion := by
  cases h with
  | stale _ _ ha => rw [Response.ticket?_of_failure ha] at ht; cases ht
  | refused _ ha => rw [Response.ticket?_of_failure ha] at ht; cases ht
  | selectBegun _ _ hversion => cases ht; exact hversion
  | _ => cases ht

/-- A ticket to apply a version is for the version selected. -/
theorem Move.apply_ticket (h : Move s e a s') {t : Ticket VersionApply}
    (ht : a.ticket? = some (.apply t)) :
    ∃ selected, s.selection t.path = some selected ∧ selected.isPending = false ∧
      t.request.version = selected.version := by
  cases h with
  | stale _ _ ha => rw [Response.ticket?_of_failure ha] at ht; cases ht
  | refused _ ha => rw [Response.ticket?_of_failure ha] at ht; cases ht
  | applyBegun _ hselected hpending _ _ => cases ht; exact ⟨_, hselected, hpending, rfl⟩
  | _ => cases ht

/-- Applying a version makes the payload shown the node's own. -/
theorem Move.apply_committed {t : Ticket VersionApply} {applied : AppliedVersion}
    (h : Move s (.finishApply t (.ok applied)) a s') (hcurrent : t.generation = s.generation)
    {n : Node} (hn : s.nodeAt t.path = some n) :
    a = .applied (.ok ()) ∧ s'.nodeAt t.path = some (n.commitApplied applied) := by
  obtain ⟨o, ho, hresolve⟩ := nodeAt_eq_some.mp hn
  cases h with
  | stale ht hstale _ => cases ht; exact absurd hcurrent hstale
  | refused ht _ => cases ht
  | applyLost _ hlost => rw [hn] at hlost; cases hlost
  | @applied _ _ o' r _ _ ho' hr _ =>
    obtain rfl := Option.some.inj (ho.symm.trans ho')
    obtain ⟨n', hn', hcommit⟩ := Tree.resolve_revise_self hr
    obtain rfl := Option.some.inj (hresolve.symm.trans hn')
    exact ⟨rfl, hcommit⟩

end Session

/-! ## 3. What a node shows -/

/-- What a node shows while a version is selected for it: the payload received last for the version,
or, when that is the translation without a version, the node's own. -/
def Review.Displays (h : List Record) (r : Review) (p : NodePath) (version : VersionId) : Prop :=
  ∃ n, r.session.nodeAt p = some n ∧
    if version = pendingVersion then n.previous = none
    else delivered p version h = some n.data

/-- What is known, after a history, of the versions selected and of the tickets out for versions. -/
structure Review.Shows (h : List Record) (r : Review) : Prop where
  selected : ∀ p selected, r.session.selection p = some selected → r.Displays h p selected.version
  select : ∀ t, .select t ∈ r.unfinished → t.request.version ≠ pendingVersion
  apply : ∀ t, .apply t ∈ r.unfinished → t.generation = r.session.generation →
    t.request.version ≠ pendingVersion ∧
      (∃ selected, r.session.selection t.path = some selected) ∧
      (delivered t.path t.request.version h).isSome = true

/-- Edits other than previews and their reverts leave the payloads alone, except that one may become
the node's own. -/
theorem Edit.keeps_data {edit : Edit} (hrevert : edit ≠ .revert) (hpreview : ∀ d, edit ≠ .preview d)
    (n : Node) :
    ((edit.revision n).node n).data = n.data ∧
      (n.previous = none → ((edit.revision n).node n).previous = none) := by
  cases edit with
  | preview d => exact absurd rfl (hpreview d)
  | revert => exact absurd rfl hrevert
  | commit applied => exact ⟨rfl, fun _ => rfl⟩
  | approve patch =>
    obtain ⟨hdata, hprevious⟩ := n.samePayloads_foldApproval patch
    exact ⟨hdata, fun h => hprevious.trans h⟩
  | fill content => exact ⟨rfl, fun h => h⟩

namespace Review

variable {h : List Record} {r : Review} {e : Event}

/-- A ticket that is out was out before, or has just been handed out. -/
theorem mem_unfinished_next {t : SomeTicket} (ht : t ∈ (r.next e).unfinished) :
    t ∈ r.unfinished ∨ (r.answer e).ticket? = some t := by
  rw [next] at ht
  dsimp only at ht
  rcases List.mem_append.mp ht with ht | ht
  · split at ht
    · exact .inl ht
    · exact .inl (List.mem_of_mem_erase ht)
  · exact .inr (Option.mem_toList.mp ht)

/-- Where no payload is shown or put back, the node goes on showing what it shows. -/
theorem Displays.next (hsound : r.Sound) (hallow : r.Allows e)
    (hload : Record.loads ⟨e, r.answer e⟩ = false) {p : NodePath} {version : VersionId}
    (hrevert : ¬ e.Edits (r.answer e) p .revert) (hpreview : ∀ d, ¬ e.Edits (r.answer e) p (.preview d))
    (hdisplays : r.Displays h p version) :
    (r.next e).Displays (h ++ [⟨e, r.answer e⟩]) p version := by
  obtain ⟨n, hn, hshown⟩ := hdisplays
  have hkept : ∃ n', (r.next e).session.nodeAt p = some n' ∧ n'.data = n.data ∧
      (n.previous = none → n'.previous = none) := by
    cases hsound.nodeStep hallow Node.ignoresBelow_samePayloads Node.samePayloads_foldApproval
      (Record.loads_eq_false.mp hload) p with
    | @edited edit n₁ hedits _ hn₁ hn' =>
      obtain rfl := Option.some.inj (hn.symm.trans hn₁)
      refine ⟨_, hn', Edit.keeps_data ?_ ?_ n⟩
      · rintro rfl; exact hrevert hedits
      · rintro d rfl; exact hpreview d hedits
    | became _ hbecame =>
      rw [hn] at hbecame
      obtain ⟨n', hn', hsame⟩ := hbecame.of_some
      exact ⟨n', hn', hsame.1, fun h => hsame.2.trans h⟩
  obtain ⟨n', hn', hdata, hprevious⟩ := hkept
  refine ⟨n', hn', ?_⟩
  rw [delivered_snoc, Record.deliver_of_not_preview hload hpreview, hdata]
  split
  · rename_i hpending
    rw [if_pos hpending] at hshown
    exact hprevious hshown
  · rename_i hproper
    rw [if_neg hproper] at hshown
    exact hshown

/-- Where a payload is put back, the node shows its own. -/
theorem Displays.of_revert {p : NodePath} (hedits : e.Edits (r.answer e) p .revert)
    (h' : List Record) : (r.next e).Displays h' p pendingVersion := by
  obtain ⟨n, -, hn'⟩ := (r.move e).outline.nodeAt_of_edits hedits
  exact ⟨_, hn', n.revertPreview_payloads.2⟩

/-- Where a payload is shown, the node shows what was received. -/
theorem Displays.of_preview {t : Ticket VersionFetch} {payload : VersionPayload}
    {selected : Selection} (he : e = .finishSelect t (.ok payload))
    (ha : r.answer e = .selected (.ok selected)) (hproper : t.request.version ≠ pendingVersion) :
    (r.next e).Displays (h ++ [⟨e, r.answer e⟩]) t.path t.request.version := by
  have hedits : e.Edits (r.answer e) t.path (.preview payload.data) := by
    rw [ha, he]; exact .preview ..
  obtain ⟨n, -, hn'⟩ := (r.move e).outline.nodeAt_of_edits hedits
  refine ⟨_, hn', ?_⟩
  rw [if_neg hproper, delivered_snoc, ha, he]
  have hdata : (n.previewVersion payload.data).data = payload.data :=
    (n.previewVersion_payloads payload.data).1
  exact (if_pos ⟨rfl, rfl⟩).trans (congrArg some hdata.symm)

namespace Shows

/-- A new pairing has no selections, and no tickets to apply one. -/
theorem beginLoad (hsound : r.Sound) (hshows : r.Shows h) (rerunId : String) (h' : List Record) :
    (r.next (.beginLoad rerunId)).Shows h' where
  selected _ _ hsel := by cases hsel
  select t ht := by
    rcases mem_unfinished_next ht with ht | ht
    · exact hshows.select t ht
    · exact (r.move _).select_ticket ht
  apply t ht hcurrent := by
    rcases mem_unfinished_next ht with ht | ht
    · have hle : t.generation ≤ r.session.generation := hsound.accounted.past _ ht
      have hgen : t.generation = r.session.generation + 1 := hcurrent
      omega
    · cases ht

/-- What a node shows goes on being what its selection says. -/
theorem selected_next (hsound : r.Sound) (hallow : r.Allows e) (hshows : r.Shows h)
    (hload : Record.loads ⟨e, r.answer e⟩ = false) {p : NodePath} {sel : Selection}
    (hsel : (r.next e).session.selection p = some sel) :
    (r.next e).Displays (h ++ [⟨e, r.answer e⟩]) p sel.version := by
  -- the node goes on as before, unless it is the one reverted or shown
  have hquiet : (∀ edit, e.Edits (r.answer e) p edit → edit ≠ .revert ∧ ∀ d, edit ≠ .preview d) →
      ∀ before, r.session.selection p = some before → before.version = sel.version →
        (r.next e).Displays (h ++ [⟨e, r.answer e⟩]) p sel.version := by
    intro hedits before hbefore hversion
    rw [← hversion]
    exact .next hsound hallow hload (fun h => (hedits _ h).1 rfl) (fun d h => (hedits _ h).2 d rfl)
      (hshows.selected p before hbefore)
  cases (r.move e).selections with
  | reset he _ => exact absurd he (Record.loads_eq_false.mp hload _)
  | same hrevert hpreview hsame =>
    rw [hsame] at hsel
    refine hquiet (fun edit hedits => ⟨?_, ?_⟩) sel hsel rfl
    · rintro rfl; exact hrevert p hedits
    · rintro d rfl; exact hpreview p d hedits
  | @reverted q hedits hset =>
    rw [hset] at hsel
    split at hsel
    · rename_i hp
      subst hp
      rw [← Option.some.inj hsel]
      exact .of_revert hedits _
    · rename_i hp
      exact hquiet (fun edit hedits' => absurd (hedits'.unique hedits).1 hp) sel hsel rfl
  | @shown t payload selected he ha hversion hset =>
    rw [hset] at hsel
    have hedits : e.Edits (r.answer e) t.path (.preview payload.data) := by
      rw [ha, he]; exact .preview ..
    split at hsel
    · rename_i hp
      subst hp
      rw [← Option.some.inj hsel, hversion]
      have hproper := hshows.select t (hallow.out _ (by rw [he]; rfl))
      exact .of_preview he ha hproper
    · rename_i hp
      exact hquiet (fun edit hedits' => absurd (hedits'.unique hedits).1 hp) sel hsel rfl
  | @applied t applied he ha hset =>
    rw [hset] at hsel
    have hedits : e.Edits (r.answer e) t.path (.commit applied) := by
      rw [ha, he]; exact .commit ..
    have hnot : ∀ edit, e.Edits (r.answer e) p edit → edit ≠ .revert ∧ ∀ d, edit ≠ .preview d := by
      intro edit hedits'
      rw [(hedits'.unique hedits).2]
      exact ⟨fun h => (nomatch h), fun _ h => nomatch h⟩
    split at hsel
    · obtain ⟨before, hbefore, rfl⟩ := Option.map_eq_some_iff.mp hsel
      exact hquiet hnot before hbefore rfl
    · exact hquiet hnot sel hsel rfl

/-- A version that is selected stays so, or makes room for another. -/
theorem exists_selection_next (hload : Record.loads ⟨e, r.answer e⟩ = false) {p : NodePath}
    (hsel : ∃ selected, r.session.selection p = some selected) :
    ∃ selected, (r.next e).session.selection p = some selected := by
  obtain ⟨selected, hsel⟩ := hsel
  cases (r.move e).selections with
  | reset he _ => exact absurd he (Record.loads_eq_false.mp hload _)
  | same _ _ hsame => exact ⟨selected, by rw [hsame]; exact hsel⟩
  | reverted _ hset =>
    rw [hset]
    split
    · exact ⟨_, rfl⟩
    · exact ⟨selected, hsel⟩
  | shown _ _ _ hset =>
    rw [hset]
    split
    · exact ⟨_, rfl⟩
    · exact ⟨selected, hsel⟩
  | applied _ _ hset =>
    rw [hset, hsel]
    split
    · exact ⟨_, rfl⟩
    · exact ⟨selected, rfl⟩

/-- **What is known of selections is kept.** -/
theorem next (hsound : r.Sound) (hallow : r.Allows e) (hshows : r.Shows h) :
    (r.next e).Shows (h ++ [⟨e, r.answer e⟩]) := by
  cases hload : Record.loads ⟨e, r.answer e⟩ with
  | true =>
    cases e with
    | beginLoad rerunId => exact hshows.beginLoad hsound rerunId _
    | _ => cases hload
  | false =>
    have hgen := (r.move e).flags.generation_eq (Record.loads_eq_false.mp hload)
    refine ⟨fun p sel hsel => hshows.selected_next hsound hallow hload hsel, fun t ht => ?_,
      fun t ht hcurrent => ?_⟩
    · rcases mem_unfinished_next ht with ht | ht
      · exact hshows.select t ht
      · exact (r.move e).select_ticket ht
    · rw [delivered_snoc]
      have hbefore : t.request.version ≠ pendingVersion ∧
          (∃ selected, r.session.selection t.path = some selected) ∧
          (delivered t.path t.request.version h).isSome = true := by
        rcases mem_unfinished_next ht with ht | ht
        · exact hshows.apply t ht (hcurrent.trans hgen)
        · obtain ⟨selected, hsel, hpending, hversion⟩ := (r.move e).apply_ticket ht
          obtain ⟨n, -, hshown⟩ := hshows.selected t.path selected hsel
          rw [Selection.isPending, beq_eq_false_iff_ne] at hpending
          rw [if_neg hpending] at hshown
          rw [hversion, hshown]
          exact ⟨hpending, ⟨selected, hsel⟩, rfl⟩
      obtain ⟨hproper, hsel, hdelivered⟩ := hbefore
      exact ⟨hproper, exists_selection_next hload hsel, Record.deliver_isSome hload hdelivered⟩

/-- Nothing is selected in a new session, and nothing is out. -/
theorem new : ({} : Review).Shows [] where
  selected _ _ hsel := by cases hsel
  select _ ht := by cases ht
  apply _ ht := by cases ht

end Shows

end Review

theorem Run.shows {h : List Record} {r : Review} (hrun : Run {} h r) : r.Shows h := by
  induction hrun with
  | refl => exact .new
  | tail hrun hallow ih => exact ih.next hrun.sound hallow

/-! ## 4. What becomes permanent -/

/-- **Applying makes permanent what the selection shows.**  A version is applied to a node, its
ticket comes back in its generation, and the server has applied it.  Then the node is no longer
previewing, and its payload is

* the one received last for the version that is selected now, or the node's own when that is the
  translation without a version;
* so the one received for the version applied, if that is still selected;
* and in no other case, unless the payloads happen to be the same. -/
theorem Run.apply_commits_selection {h : List Record} {r : Review} (hrun : Run {} h r)
    {t : Ticket VersionApply} (ht : .apply t ∈ r.unfinished)
    (hcurrent : t.generation = r.session.generation) (applied : AppliedVersion) :
    ∃ payload selected shown committed,
      delivered t.path t.request.version h = some payload ∧
      r.session.selection t.path = some selected ∧ r.session.nodeAt t.path = some shown ∧
      r.answer (.finishApply t (.ok applied)) = .applied (.ok ()) ∧
      (r.next (.finishApply t (.ok applied))).session.nodeAt t.path = some committed ∧
      committed.isPreviewing = false ∧
      (if selected.isPending then committed.data = shown.original
        else delivered t.path selected.version h = some committed.data) ∧
      (selected.version = t.request.version → committed.data = payload) ∧
      (committed.data = payload ↔ if selected.isPending then shown.original = payload
        else delivered t.path selected.version h = some payload) := by
  obtain ⟨hproper, ⟨selected, hsel⟩, hdelivered⟩ := hrun.shows.apply t ht hcurrent
  obtain ⟨payload, hpayload⟩ := Option.isSome_iff_exists.mp hdelivered
  obtain ⟨n, hn, hshown⟩ := hrun.shows.selected t.path selected hsel
  obtain ⟨ha, hn'⟩ := (r.move (.finishApply t (.ok applied))).apply_committed hcurrent hn
  refine ⟨payload, selected, n, n.commitApplied applied, hpayload, hsel, hn, ha, hn', rfl, ?_⟩
  have hdata : (n.commitApplied applied).data = n.data := rfl
  rw [hdata]
  by_cases hpending : selected.version = pendingVersion
  · -- the node's own payload is shown
    rw [if_pos hpending] at hshown
    have horiginal : n.data = n.original := by rw [Node.original, hshown, Option.getD_none]
    have his : selected.isPending = true := beq_iff_eq.mpr hpending
    rw [if_pos his, if_pos his, ← horiginal]
    exact ⟨rfl, fun hsame => absurd (hsame.symm.trans hpending) hproper, Iff.rfl⟩
  · -- the payload received last for the version selected is shown
    rw [if_neg hpending] at hshown
    have his : ¬ selected.isPending = true := fun h => hpending (beq_iff_eq.mp h)
    rw [if_neg his, if_neg his, hshown]
    refine ⟨rfl, fun hsame => ?_, ?_⟩
    · rw [hsame, hpayload] at hshown
      exact (Option.some.inj hshown).symm
    · rw [Option.some.injEq]

namespace Sample

/-- Version two is shown, and on its way to be applied. -/
def applying : Review :=
  (shown loaded 2 "Two").next (.beginApply chapterPath)

/-- The ticket for that. -/
def applyTicket : Ticket VersionApply :=
  { generation := 1, path := chapterPath, request := { usageKey := "chapter", version := 2 } }

/-- The server has done it. -/
def appliedTwo : AppliedVersion :=
  { blockId := some "chapter", appliedTranslation := true, appliedVersion := some 2 }

theorem applying_run : ∃ h, Run {} h applying ∧
    delivered chapterPath 2 h = some (.string "Two") := by
  obtain ⟨h, hrun⟩ := loaded_run
  have hshown := (hrun.tail (e := .beginSelect chapterPath 2) (.of_begin rfl rfl)).tail
    (e := .finishSelect ⟨1, chapterPath, ⟨2⟩⟩ (.ok { data := .string "Two" }))
    (.of_finish rfl (by decide) rfl)
  refine ⟨_, hshown.tail (e := .beginApply chapterPath) (.of_begin rfl rfl), ?_⟩
  rw [delivered_snoc, delivered_snoc]
  rfl

end Sample

open Sample in
/-- Version two is applied while it is selected, and becomes the node's own. -/
theorem Run.apply_commits_version_two :
    ∃ h, Run {} h applying ∧ .apply applyTicket ∈ applying.unfinished ∧
      ∃ committed, (applying.next (.finishApply applyTicket (.ok appliedTwo))).session.nodeAt
          chapterPath = some committed ∧
        committed.isPreviewing = false ∧ committed.data = .string "Two" := by
  obtain ⟨h, hrun, hdelivered⟩ := applying_run
  obtain ⟨payload, selected, shown, committed, hpayload, hsel, -, -, hn', hpreviewing, -, hsame, -⟩ :=
    Run.apply_commits_selection (t := applyTicket) hrun (by decide) rfl appliedTwo
  obtain rfl := Option.some.inj (hdelivered.symm.trans hpayload)
  have hversion : selected.version = applyTicket.request.version := by
    rw [← Option.some.inj hsel]; rfl
  exact ⟨h, hrun, by decide, committed, hn', hpreviewing, hsame hversion⟩

open Sample in
/-- **Another version can become permanent.**  Version two is on its way to be applied, version three
is selected and shown, and then the server has applied version two: what becomes the node's own is
the payload of version three. -/
theorem Run.apply_commits_other_version :
    ∃ h r, Run {} h r ∧ .apply applyTicket ∈ r.unfinished ∧
      applyTicket.generation = r.session.generation ∧
      delivered chapterPath applyTicket.request.version h = some (.string "Two") ∧
      r.answer (.finishApply applyTicket (.ok appliedTwo)) = .applied (.ok ()) ∧
      ((r.next (.finishApply applyTicket (.ok appliedTwo))).session.nodeAt chapterPath).map
        (·.data) = some (.string "Three") := by
  obtain ⟨h, hrun, hdelivered⟩ := applying_run
  have hshown := (hrun.tail (e := .beginSelect chapterPath 3) (.of_begin rfl rfl)).tail
    (e := .finishSelect ⟨1, chapterPath, ⟨3⟩⟩ (.ok { data := .string "Three" }))
    (.of_finish rfl (by decide) rfl)
  refine ⟨_, shown applying 3 "Three", hshown, by decide, rfl, ?_, rfl, rfl⟩
  rw [delivered_snoc, delivered_snoc]
  exact hdelivered

end CourseReview
