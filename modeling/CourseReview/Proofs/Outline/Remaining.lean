import CourseReview.Proofs.Outline.Answers
import CourseReview.Proofs.Outline.Walk

/-!
# What is left to approve

Once the answers to an approval are folded in, the blocks that they approve are no longer eligible.  This
file settles that what is collected then is what was collected before without these blocks, in the order
in which it was (`Node.collectEligible_foldApproval`).  Folding goes through both maps of a node and
collecting through one of them, so that more may have been approved than was collected, but nothing that
was is left over.

`Tree.approve_leaves_rest` draws from this when there is nothing left to plan at the path, and how the
counts over the outline change: among all of them only those of approved and of eligible blocks, and the
eligible ones by as many as there are walked at or below the path and named.
-/

namespace CourseReview

/-- Whether every answer of a response approves its block. -/
def ApprovalPatch.ApprovesAll (q : ApprovalPatch) : Prop :=
  ∀ key entry, Keyed.get? key q = some entry → entry.approved = true

namespace Node

/-! ## 1. One node -/

section Approved

variable {q : ApprovalPatch} (n : Node)

theorem usageKey_mapAll_recordAnswer : (n.mapAll (recordAnswer q)).usageKey = n.usageKey := by
  rw [mapAll_eq, usageKey_recordAnswer]

theorem kind_mapAll_recordAnswer : (n.mapAll (recordAnswer q)).kind = n.kind := by
  rw [kind, kind, (n.answered_mapAll q).same.2.1]

theorem isSome_units_mapAll_recordAnswer :
    (n.mapAll (recordAnswer q)).units.isSome = n.units.isSome := by
  have hunits : (n.mapAll (recordAnswer q)).units = n.units.map (mapAllEntries (recordAnswer q)) :=
    get_mapAll (ownFields_recordAnswer q) .units n
  rw [hunits, Option.isSome_map]

/-- **A block that is approved by an answer is not eligible any more**, and any other is what it was. -/
theorem isEligible_mapAll_recordAnswer (hq : q.ApprovesAll) :
    (n.mapAll (recordAnswer q)).isEligible = (n.isEligible && !Keyed.has n.usageKey q) := by
  have hanswered := n.answered_mapAll q
  rw [Keyed.has]
  cases hentry : Keyed.get? n.usageKey q with
  | none =>
    rw [isEligible, (hanswered.unnamed hentry).1, Option.isSome_none, Bool.not_false, Bool.and_true,
      isEligible]
  | some entry =>
    rw [isEligible, (hanswered.named entry hentry).1, Option.any_some, Status.isEligible,
      hq _ entry hentry, Option.isSome_some, Bool.not_true, Bool.and_false, Bool.false_and,
      Bool.false_and]

end Approved

/-- **What is collected afterwards** is what was collected before, without the blocks approved. -/
theorem collectEligible_foldApproval {q : ApprovalPatch} (hq : q.ApprovesAll) (n : Node) :
    ((n.foldApproval q).node n).collectEligible =
      n.collectEligible.filter fun key => !Keyed.has key q := by
  rw [foldApproval_eq_mapAll, collectEligible_eq_walk, collectEligible_eq_walk,
    walk_mapAll (ownFields_recordAnswer q), List.filter_map, List.filter_map, List.filter_filter,
    List.map_map]
  have hkeys : (usageKey ∘ mapAll (recordAnswer q)) = usageKey :=
    funext usageKey_mapAll_recordAnswer
  rw [hkeys]
  congr 1
  refine List.filter_congr fun x _ => ?_
  rw [Function.comp_apply, Function.comp_apply, isEligible_mapAll_recordAnswer x hq, Bool.and_comm]

end Node

/-! ## 2. Whole outlines -/

namespace Tree

variable {t : Tree} {q : ApprovalPatch}

/-- There is nothing to plan where nothing is collected. -/
theorem planApproval_nothing_iff {p : NodePath} {n : Node} (hn : p.resolve t = some n) :
    t.planApproval p = .error (.nothingToApprove p.text) ↔ n.collectEligible = [] := by
  rw [planApproval_eq hn, ← List.isEmpty_iff]
  split
  · rename_i h
    exact iff_of_true rfl h
  · rename_i h
    exact iff_of_false (fun h => nomatch h) h

/-- **The counts after an approval**: only those of approved and of eligible blocks change, the latter by
the number of those walked at or below the path that were eligible and are named. -/
theorem stats_update_recordAnswer (ht : t.UniqueIds) (hq : q.ApprovesAll) (p : NodePath) :
    (t.update p (Node.mapAll (Node.recordAnswer q))).stats =
        { t.stats with
          approved := (t.update p (Node.mapAll (Node.recordAnswer q))).stats.approved
          eligible := (t.update p (Node.mapAll (Node.recordAnswer q))).stats.eligible } ∧
      t.stats.eligible = (t.update p (Node.mapAll (Node.recordAnswer q))).stats.eligible +
        t.walkPlaces.countP fun s => p.covers s.1 && s.2.isEligible && Keyed.has s.2.usageKey q := by
  have hown := Node.ownFields_recordAnswer q
  have hkinds : ∀ kind : NodeKind,
      (t.update p (Node.mapAll (Node.recordAnswer q))).walk.countP (·.kind == kind) =
        t.walk.countP (·.kind == kind) := by
    intro kind
    refine countP_walk_update_same (fun slot n m m' _ => by cases slot <;> rfl) hown (fun n => ?_) ht p
    rw [n.kind_mapAll_recordAnswer]
  have hloaded : (t.update p (Node.mapAll (Node.recordAnswer q))).walk.countP
        (fun n => n.kind == .unit && n.units.isSome) =
      t.walk.countP fun n => n.kind == .unit && n.units.isSome := by
    refine countP_walk_update_same (fun slot n m m' hm => ?_) hown (fun n => ?_) ht p
    · cases slot with
      | children => rfl
      | units =>
        have hm : n.units = some m := hm
        rw [hm]
        rfl
    · rw [n.kind_mapAll_recordAnswer, n.isSome_units_mapAll_recordAnswer]
  refine ⟨?_, ?_⟩
  · rw [stats_eq, stats_eq t]
    simp only [hkinds, hloaded]
  · simp only [stats_eq]
    rw [countP_walk_update (fun slot n m m' _ => by cases slot <;> rfl) hown ht,
      ← t.map_snd_walkPlaces, List.countP_map, Nat.add_comm,
      List.countP_eq_countP_filter_add _ _ fun s => p.covers s.1 && Keyed.has s.2.usageKey q,
      List.countP_filter, List.countP_filter]
    congr 1
    · refine List.countP_congr fun s _ => ?_
      rw [Function.comp_apply, Bool.and_left_comm, Bool.and_assoc]
    · refine List.countP_congr fun s _ => ?_
      rw [Function.comp_apply, Node.rewrittenIf]
      cases p.covers s.1 with
      | false => rw [Bool.false_and, Bool.not_false, Bool.and_true, if_neg Bool.false_ne_true]
      | true => rw [Bool.true_and, if_pos rfl, s.2.isEligible_mapAll_recordAnswer hq]

/-- **Approved blocks leave the plan, and the rest stay in order.**  For every response that approves all
the blocks it names,

* at every node what is collected after folding it in is what was collected before, without the keys that
  it names;
* after it was folded in at a path of an outline, there is nothing left to plan there exactly when it
  named every key that was planned there before;
* of the counts over the outline only those of approved and of eligible blocks change, and the number of
  eligible ones goes down by the number of eligible nodes that are walked at or below the path and
  named. -/
theorem approve_leaves_rest (hq : q.ApprovesAll) :
    (∀ n : Node, ((n.foldApproval q).node n).collectEligible =
      n.collectEligible.filter fun key => !Keyed.has key q) ∧
    ∀ (t : Tree) (p : NodePath) (n : Node), p.resolve t = some n →
      ∃ r, t.approve p q = .ok r ∧
        (r.tree.planApproval p = .error (.nothingToApprove p.text) ↔
          ∀ keys, t.planApproval p = .ok keys → ∀ key ∈ keys, Keyed.has key q = true) ∧
        (t.UniqueIds →
          r.tree.stats = { t.stats with
            approved := r.tree.stats.approved, eligible := r.tree.stats.eligible } ∧
          t.stats.eligible = r.tree.stats.eligible +
            t.walkPlaces.countP fun s =>
              p.covers s.1 && s.2.isEligible && Keyed.has s.2.usageKey q) := by
  refine ⟨Node.collectEligible_foldApproval hq, fun t p n hn => ?_⟩
  obtain ⟨r, hr, htree, -⟩ := approve_records_everywhere t hn q
  obtain ⟨n', hn', hresolve⟩ := resolve_revise_self hr
  obtain rfl := Option.some.inj (hn.symm.trans hn')
  refine ⟨r, hr, ?_, fun ht => ?_⟩
  · rw [planApproval_nothing_iff hresolve, Node.collectEligible_foldApproval hq,
      List.filter_eq_nil_iff]
    simp only [← mem_planApproval_iff hn, Bool.not_eq_true, Bool.not_eq_false']
    exact ⟨fun h keys hkeys key hkey => h key ⟨keys, hkeys, hkey⟩,
      fun h key ⟨keys, hkeys, hkey⟩ => h keys hkeys key hkey⟩
  · rw [htree]
    exact stats_update_recordAnswer ht hq p

end Tree

namespace Sample

/-- An outline with a unit that has two pieces of content, both of which can be approved. -/
def twoContents : Tree :=
  unitTree none (some [("C1", content), ("C2", { content with usageKey := "video" })])

/-- An answer that approves one of them, and a block that is nowhere. -/
def contentAnswer : ApprovalPatch :=
  [("html", { approved := true }), ("elsewhere", { approved := true })]

end Sample

open Sample in
/-- Of two pieces of content one is approved: the other stays to be planned, and there is one less to
approve. -/
theorem Tree.approve_leaves_other_content :
    twoContents.UniqueIds ∧ contentAnswer.ApprovesAll ∧
      ∃ r, twoContents.approve unitPath contentAnswer = .ok r ∧
        twoContents.planApproval unitPath = .ok ["html", "video"] ∧
        r.tree.planApproval unitPath ≠ .error (.nothingToApprove unitPath.text) ∧
        twoContents.stats.eligible = 2 ∧ r.tree.stats.eligible = 1 := by
  have hids : twoContents.UniqueIds := by decide
  have happroves : contentAnswer.ApprovesAll := by
    intro key entry hentry
    have hmem := Keyed.mem_of_get? hentry
    simp only [contentAnswer, List.mem_cons, Prod.mk.injEq, List.not_mem_nil, or_false] at hmem
    rcases hmem with ⟨-, rfl⟩ | ⟨-, rfl⟩ <;> rfl
  obtain ⟨-, hrest⟩ := approve_leaves_rest happroves
  obtain ⟨r, hr, hplan, hstats⟩ := hrest twoContents unitPath _ rfl
  obtain ⟨-, heligible⟩ := hstats hids
  have hbefore : twoContents.planApproval unitPath = .ok ["html", "video"] := rfl
  have hnamed : (twoContents.walkPlaces.countP fun s => unitPath.covers s.1 && s.2.isEligible &&
      Keyed.has s.2.usageKey contentAnswer) = 1 := by decide
  have htwo : twoContents.stats.eligible = 2 := by decide
  refine ⟨hids, happroves, r, hr, hbefore, fun hnothing => ?_, htwo, ?_⟩
  · have hcovered := hplan.mp hnothing _ hbefore "video" (by decide)
    exact absurd hcovered (by decide)
  · rw [htwo, hnamed] at heligible
    omega

end CourseReview
