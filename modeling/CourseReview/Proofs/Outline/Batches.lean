import CourseReview.Proofs.Outline.Answers

/-!
# Answers in batches

The answers to an approval can come twice, or in several batches, and batches can come in any order.
This file settles that the outline cannot tell.  An answer recorded a second time changes nothing
(`Node.recordApproval_recordApproval`), so that it does not matter how often and between which others
the answer for a block is recorded, as long as it is always the same.

* A response comprises batches when it has just their answers (`ApprovalPatch.Comprises`); then folding
  in the batches one after another comes to the same as folding it in
  (`Node.answerEach_of_comprises`, `Tree.approveEach_of_comprises`).
* The order of the batches is no part of that.

`Tree.approvals_compose` puts this together for two responses that agree, for one that comes twice, for
two about different blocks, and for any number of batches.
-/

namespace CourseReview

/-! ## 1. Responses put together -/

namespace Keyed

variable {α : Type}

/-- The map with the entries of another put into it; a key of both has the value of the other. -/
def merge (m m' : Keyed α) : Keyed α :=
  m'.foldr (fun e both => put e.1 e.2 both) m

theorem get?_merge (key : String) (m : Keyed α) :
    ∀ m' : Keyed α, get? key (merge m m') = (get? key m').or (get? key m)
  | [] => rfl
  | (k, v) :: rest => by
    change get? key (put k v (merge m rest)) = _
    rw [get?]
    split
    · rename_i hk
      rw [hk, get?_put_self, Option.some_or]
    · rename_i hk
      rw [get?_put_of_ne (Ne.symm hk), get?_merge key m rest]

end Keyed

namespace ApprovalPatch

/-- Whether two responses have the same answer for every block that both have one for. -/
def Agrees (q q' : ApprovalPatch) : Prop :=
  ∀ key entry entry', Keyed.get? key q = some entry → Keyed.get? key q' = some entry' →
    entry = entry'

theorem Agrees.refl (q : ApprovalPatch) : q.Agrees q :=
  fun _ _ _ h h' => Option.some.inj (h.symm.trans h')

/-- Responses about different blocks agree. -/
theorem Agrees.of_disjoint {q q' : ApprovalPatch} (h : (Keyed.keys q).Disjoint (Keyed.keys q')) :
    q.Agrees q' :=
  fun _ _ _ hq hq' => absurd (Keyed.mem_keys_of_get? hq') (h (Keyed.mem_keys_of_get? hq))

/-- Whether a response has just the answers of the batches. -/
def Comprises (q : ApprovalPatch) (batches : List ApprovalPatch) : Prop :=
  ∀ key entry, Keyed.get? key q = some entry ↔ ∃ b ∈ batches, Keyed.get? key b = some entry

namespace Comprises

variable {q q' : ApprovalPatch} {batches batches' : List ApprovalPatch}

/-- The order of the batches does not matter. -/
theorem perm (h : q.Comprises batches) (hperm : batches'.Perm batches) : q.Comprises batches' := by
  intro key entry
  rw [h key entry]
  simp only [hperm.mem_iff]

/-- A response is its own only batch, however often it comes. -/
theorem twice (q : ApprovalPatch) : q.Comprises [q, q] := by
  intro key entry
  simp

/-- Two responses that agree are batches of the two put together. -/
theorem merge (h : q.Agrees q') : ApprovalPatch.Comprises (Keyed.merge q q') [q, q'] := by
  intro key entry
  rw [Keyed.get?_merge]
  simp only [List.mem_cons, List.not_mem_nil, or_false, exists_eq_or_imp, exists_eq_left]
  cases hq' : Keyed.get? key q' with
  | none => simp
  | some entry' =>
    rw [Option.some_or]
    refine ⟨Or.inr, ?_⟩
    rintro (hq | hentry)
    · rw [h key entry entry' hq hq']
    · exact hentry

end Comprises

end ApprovalPatch

/-! ## 2. One node -/

namespace VersionStatus

variable {vs : VersionStatus} {entry : ApprovalEntry}

/-- An answer that a version status shows already. -/
theorem recordApproval_eq_self (happlied : vs.applied = entry.appliedTranslation)
    (hversion : vs.appliedVersion = entry.appliedVersion)
    (hlisted : ∀ id, entry.appliedVersion = some id → vs.lists id = true ∧ vs.LatestIsLast) :
    vs.recordApproval entry = vs := by
  obtain ⟨applied, appliedVersion, latestVersion, versions⟩ := vs
  obtain rfl : applied = entry.appliedTranslation := happlied
  obtain rfl : appliedVersion = entry.appliedVersion := hversion
  cases hid : entry.appliedVersion with
  | none =>
    rw [recordApproval, hid]
  | some id =>
    obtain ⟨hlists, hlatest⟩ := hlisted id hid
    rw [LatestIsLast, ids, List.getLast?_map] at hlatest
    obtain rfl : latestVersion = versions.getLast?.map (·.id) := hlatest
    rw [hid] at hlists
    rw [recordApproval, hid]
    dsimp only
    rw [if_pos hlists]

/-- **An answer recorded twice** is recorded once. -/
theorem recordApproval_recordApproval (vs : VersionStatus) (entry : ApprovalEntry) :
    (vs.recordApproval entry).recordApproval entry = vs.recordApproval entry := by
  have hversion := vs.appliedVersion_recordApproval entry
  refine recordApproval_eq_self (vs.applied_recordApproval entry) hversion fun id hid => ⟨?_, ?_⟩
  · exact (isConsistent_iff (hversion.trans hid)).mp (vs.isConsistent_recordApproval entry)
  · exact (versions_recordApproval_some vs hid).2

end VersionStatus

namespace Node

theorem recordApproval_recordApproval (n : Node) (entry : ApprovalEntry) :
    (n.recordApproval entry).recordApproval entry = n.recordApproval entry := by
  have hversions := (n.versionStatus.getD {}).recordApproval_recordApproval entry
  rw [recordApproval, recordApproval]
  dsimp only [Option.getD_some]
  rw [hversions]

/-- The node with its answers from all the batches recorded, one after another. -/
def recordEach (batches : List ApprovalPatch) (n : Node) : Node :=
  batches.foldl (fun n b => n.recordAnswer b) n

/-- Batches with no answer for the block record nothing. -/
theorem recordEach_of_none {n : Node} :
    ∀ {batches : List ApprovalPatch}, (∀ b ∈ batches, Keyed.get? n.usageKey b = none) →
      n.recordEach batches = n
  | [], _ => rfl
  | b :: rest, h => by
    obtain ⟨hfirst, hrest⟩ := List.forall_mem_cons.mp h
    rw [recordEach, List.foldl_cons, recordAnswer_of_none hfirst]
    exact recordEach_of_none hrest

/-- Batches with no other answer for the block than the one recorded already record nothing either. -/
theorem recordEach_recordApproval {n : Node} {entry : ApprovalEntry} :
    ∀ {batches : List ApprovalPatch},
      (∀ b ∈ batches, ∀ entry', Keyed.get? n.usageKey b = some entry' → entry' = entry) →
        (n.recordApproval entry).recordEach batches = n.recordApproval entry
  | [], _ => rfl
  | b :: rest, h => by
    obtain ⟨hfirst, hrest⟩ := List.forall_mem_cons.mp h
    have hsame : (n.recordApproval entry).recordAnswer b = n.recordApproval entry := by
      cases hb : Keyed.get? n.usageKey b with
      | none => exact recordAnswer_of_none hb
      | some entry' =>
        obtain rfl := hfirst entry' hb
        rw [recordAnswer_of_some (n := n.recordApproval entry') hb, recordApproval_recordApproval]
    rw [recordEach, List.foldl_cons, hsame]
    exact recordEach_recordApproval hrest

/-- Batches of which one has the answer for the block, and none another, record just that. -/
theorem recordEach_of_mem {n : Node} {entry : ApprovalEntry} :
    ∀ {batches : List ApprovalPatch}, (∃ b ∈ batches, Keyed.get? n.usageKey b = some entry) →
      (∀ b ∈ batches, ∀ entry', Keyed.get? n.usageKey b = some entry' → entry' = entry) →
        n.recordEach batches = n.recordApproval entry
  | [], ⟨_, hb, _⟩, _ => nomatch hb
  | b :: rest, hsome, h => by
    obtain ⟨hfirst, hrest⟩ := List.forall_mem_cons.mp h
    rw [recordEach, List.foldl_cons]
    cases hb : Keyed.get? n.usageKey b with
    | none =>
      rw [recordAnswer_of_none hb]
      refine recordEach_of_mem ?_ hrest
      obtain ⟨b', hb', hentry⟩ := hsome
      rcases List.mem_cons.mp hb' with rfl | hb'
      · rw [hb] at hentry
        cases hentry
      · exact ⟨b', hb', hentry⟩
    | some entry' =>
      rw [recordAnswer_of_some hb, hfirst entry' hb]
      exact recordEach_recordApproval hrest

/-- **Batches record in a node what the response that comprises them does.** -/
theorem recordEach_of_comprises {q : ApprovalPatch} {batches : List ApprovalPatch}
    (h : q.Comprises batches) (n : Node) : n.recordEach batches = n.recordAnswer q := by
  cases hq : Keyed.get? n.usageKey q with
  | none =>
    rw [recordAnswer_of_none hq]
    refine recordEach_of_none fun b hb => Option.eq_none_iff_forall_ne_some.mpr fun entry hentry => ?_
    have hgiven := (h n.usageKey entry).mpr ⟨b, hb, hentry⟩
    rw [hq] at hgiven
    cases hgiven
  | some entry =>
    rw [recordAnswer_of_some hq]
    refine recordEach_of_mem ((h n.usageKey entry).mp hq) fun b hb entry' hentry' => ?_
    have hgiven := (h n.usageKey entry').mpr ⟨b, hb, hentry'⟩
    exact Option.some.inj (hgiven.symm.trans hq)

/-! ## 3. Every node at or below a node -/

/-- Batch after batch folded into a node and everything below it. -/
def answerEach (batches : List ApprovalPatch) (n : Node) : Node :=
  batches.foldl (fun n b => (n.foldApproval b).node n) n

/-- Batch after batch visits every node, and records in it its answers batch after batch. -/
theorem answerEach_eq_mapAll :
    ∀ (batches : List ApprovalPatch) (n : Node),
      n.answerEach batches = n.mapAll (recordEach batches)
  | [], n => (mapAll_id n).symm
  | b :: rest, n => by
    have hrest := answerEach_eq_mapAll rest ((n.foldApproval b).node n)
    rw [foldApproval_eq_mapAll, mapAll_mapAll (ownFields_recordAnswer b)] at hrest
    rw [answerEach, List.foldl_cons, foldApproval_eq_mapAll]
    exact hrest

/-- **Batches come to the same as the response that comprises them.** -/
theorem answerEach_of_comprises {q : ApprovalPatch} {batches : List ApprovalPatch}
    (h : q.Comprises batches) (n : Node) : n.answerEach batches = (n.foldApproval q).node n := by
  rw [answerEach_eq_mapAll, foldApproval_eq_mapAll, funext (recordEach_of_comprises h)]

end Node

/-! ## 4. Whole outlines -/

namespace Tree

variable {t : Tree} {p : NodePath}

/-- Batch after batch folded into the part of an outline at or below a path. -/
def approveEach (t : Tree) (p : NodePath) (batches : List ApprovalPatch) : Outcome Tree :=
  batches.foldlM (fun t b => (t.approve p b).map (·.tree)) t

theorem tree_approve {n : Node} (hn : p.resolve t = some n) (q : ApprovalPatch) :
    (t.approve p q).map (·.tree) = .ok (t.update p fun x => (x.foldApproval q).node x) := by
  obtain ⟨r, hr⟩ := exists_revise_of_resolve hn (Node.foldApproval q)
  rw [approve, hr, ← revise_eq_update hr]
  rfl

/-- Where a path leads nowhere, every response is refused in the same way. -/
theorem approve_of_resolve_none (hn : p.resolve t = none) :
    ∃ e, ∀ q : ApprovalPatch, t.approve p q = .error e := by
  by_cases hp : p = .outline []
  · subst hp
    exact ⟨_, fun _ => rfl⟩
  · exact ⟨_, fun q => revise_of_resolve_none hp hn (Node.foldApproval q)⟩

theorem approveEach_eq_update :
    ∀ (batches : List ApprovalPatch) {t : Tree} {n : Node}, p.resolve t = some n →
      t.approveEach p batches = .ok (t.update p (Node.answerEach batches))
  | [], t, _, _ => congrArg Except.ok (update_id t p).symm
  | b :: rest, t, n, hn => by
    have hn' : p.resolve (t.update p fun x => (x.foldApproval b).node x) =
        some ((n.foldApproval b).node n) := by
      rw [resolve_update_self, hn, Option.map_some]
    have hrest := approveEach_eq_update rest hn'
    rw [update_update_self] at hrest
    rw [approveEach, List.foldlM_cons, tree_approve hn]
    exact hrest

/-- **Batches come to the same as the response that comprises them**, at any path. -/
theorem approveEach_of_comprises {q : ApprovalPatch} {batches : List ApprovalPatch}
    (h : q.Comprises batches) (hbatches : batches ≠ []) (t : Tree) (p : NodePath) :
    t.approveEach p batches = (t.approve p q).map (·.tree) := by
  cases hn : p.resolve t with
  | some n =>
    rw [approveEach_eq_update batches hn, tree_approve hn, funext (Node.answerEach_of_comprises h)]
  | none =>
    obtain ⟨e, he⟩ := approve_of_resolve_none hn
    cases batches with
    | nil => exact absurd rfl hbatches
    | cons b rest =>
      rw [approveEach, List.foldlM_cons, he, he]
      rfl

/-- **Responses compose.**  For every node, and for every outline and every path in it, whether it leads
to a node or not,

* two responses that agree, folded in one after the other, come to the same as the two put together;
* a response that comes twice comes to the same as once;
* two responses about different blocks can be folded in in either order;
* a response that comes in batches, however many and in whatever order, comes to the same as whole. -/
theorem approvals_compose (n : Node) (t : Tree) (p : NodePath) :
    (∀ q q' : ApprovalPatch, q.Agrees q' →
      n.answerEach [q, q'] = (n.foldApproval (Keyed.merge q q')).node n ∧
      t.approveEach p [q, q'] = (t.approve p (Keyed.merge q q')).map (·.tree)) ∧
    (∀ q : ApprovalPatch,
      n.answerEach [q, q] = (n.foldApproval q).node n ∧
      t.approveEach p [q, q] = (t.approve p q).map (·.tree)) ∧
    (∀ q q' : ApprovalPatch, (Keyed.keys q).Disjoint (Keyed.keys q') →
      n.answerEach [q, q'] = n.answerEach [q', q] ∧
      t.approveEach p [q, q'] = t.approveEach p [q', q]) ∧
    ∀ (q : ApprovalPatch) (batches batches' : List ApprovalPatch), q.Comprises batches →
      batches ≠ [] → batches'.Perm batches →
        n.answerEach batches' = (n.foldApproval q).node n ∧
        t.approveEach p batches' = (t.approve p q).map (·.tree) := by
  have hwhole : ∀ (q : ApprovalPatch) (batches : List ApprovalPatch), q.Comprises batches →
      batches ≠ [] → n.answerEach batches = (n.foldApproval q).node n ∧
        t.approveEach p batches = (t.approve p q).map (·.tree) := fun q batches h hbatches =>
    ⟨Node.answerEach_of_comprises h n, approveEach_of_comprises h hbatches t p⟩
  refine ⟨fun q q' h => ?_, fun q => ?_, fun q q' h => ?_, fun q batches batches' h hne hperm => ?_⟩
  · exact hwhole _ _ (.merge h) (List.cons_ne_nil _ _)
  · exact hwhole _ _ (.twice q) (List.cons_ne_nil _ _)
  · -- the two put together comprise them in either order
    have hboth := ApprovalPatch.Comprises.merge (.of_disjoint h)
    obtain ⟨hnode, htree⟩ := hwhole _ _ hboth (List.cons_ne_nil _ _)
    obtain ⟨hnode', htree'⟩ := hwhole _ _ (hboth.perm (.swap q q' [])) (List.cons_ne_nil _ _)
    exact ⟨hnode.trans hnode'.symm, htree.trans htree'.symm⟩
  · refine hwhole _ _ (h.perm hperm) ?_
    rintro rfl
    exact hne hperm.nil_eq.symm

end Tree

namespace Sample

/-- An answer for the chapter above the blocks that share a key. -/
def chapterAnswer : ApprovalPatch :=
  [("chapter", { approved := true })]

end Sample

open Sample in
/-- The answer for two blocks of one key and the one for the chapter above them: one after the other in
either order, put together, and the first of them in two copies around the second. -/
theorem Tree.approvals_compose_shared :
    ∃ t, sharedKey.approveEach (.outline ["S1"]) [sharedAnswer, chapterAnswer] = .ok t ∧
      (sharedKey.approve (.outline ["S1"]) (Keyed.merge sharedAnswer chapterAnswer)).map (·.tree) =
        .ok t ∧
      sharedKey.approveEach (.outline ["S1"]) [chapterAnswer, sharedAnswer] = .ok t ∧
      sharedKey.approveEach (.outline ["S1"]) [sharedAnswer, chapterAnswer, sharedAnswer] = .ok t ∧
      ((NodePath.outline ["S1"]).resolve t).map Node.isApproved = some true ∧
      ((Place.underSection "S1" [(.units, "X")]).resolve t).map Node.isApproved = some true := by
  have hapart : ∀ key ∈ Keyed.keys sharedAnswer, key ∉ Keyed.keys chapterAnswer := by decide
  have hkeys : (Keyed.keys sharedAnswer).Disjoint (Keyed.keys chapterAnswer) := hapart
  have hagrees : sharedAnswer.Agrees chapterAnswer := .of_disjoint hkeys
  have hbatches : ApprovalPatch.Comprises (Keyed.merge sharedAnswer chapterAnswer)
      [sharedAnswer, sharedAnswer, chapterAnswer] := by
    intro key entry
    rw [ApprovalPatch.Comprises.merge hagrees key entry]
    simp
  obtain ⟨htogether, -, heither, hwhole⟩ := approvals_compose content sharedKey (.outline ["S1"])
  obtain ⟨-, htogether⟩ := htogether _ _ hagrees
  obtain ⟨-, heither⟩ := heither _ _ hkeys
  obtain ⟨-, hwhole⟩ := hwhole _ _ [sharedAnswer, chapterAnswer, sharedAnswer] hbatches
    (List.cons_ne_nil _ _) (.cons _ (.swap _ _ []))
  exact ⟨_, rfl, htogether.symm, heither.symm, hwhole.trans htogether.symm, rfl, rfl⟩

end CourseReview
