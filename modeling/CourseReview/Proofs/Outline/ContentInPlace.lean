import CourseReview.Proofs.Outline.UniqueIds

/-!
# Content put in place

The content fetched for a unit is put in place in two outlines, one after the other, and either update
can fail.  This file settles that the outcome is that of one step: where the unit is missing on either
side there is no outline at all, and otherwise both sides have what was fetched for them
(`Outline.mergeUnit_both_or_neither`).

On each side the unit has other content, which its ids lead to, and nothing else has changed
(`Tree.ContentInPlace`).  Whether anything can be approved is told from what was fetched for the
translated course alone (`Outline.hasEligible_mergeUnit`).
-/

namespace CourseReview

/-! ## 1. One side -/

/-- One outline is another with that content put in place for the unit at a path: the unit has it as its
`units` and nothing else has changed, and the ids of the content lead to what it has under them. -/
structure Tree.ContentInPlace (t : Tree) (p : NodePath) (content : ChildMap) (t' : Tree) : Prop extends
    t.UpdatedAt p (fun n => { n with units := some content }) t' where
  content : ∀ id, ∃ q, p.child id = .ok q ∧ q.resolve t' = Keyed.get? id content

namespace NodePath

variable {p : NodePath}

/-- A unit has three ids above its content. -/
theorem exists_ids_of_isUnit (h : p.isUnit = true) : ∃ ids, p = .outline ids ∧ ids.length = unitDepth := by
  rw [isUnit, beq_iff_eq] at h
  cases p with
  | courseInfo => cases h
  | outline ids => exact ⟨ids, rfl, h⟩

/-- Below a unit every id names a piece of content. -/
theorem child_of_isUnit {ids : List String} (h : ids.length = unitDepth) (id : String) :
    (outline ids).child id = .ok (outline (ids ++ [id])) := by
  rw [child, h]
  rfl

/-- The content of a unit is under its ids. -/
theorem resolve_content {ids : List String} (h : ids.length = unitDepth) {t : Tree} {n : Node}
    {content : ChildMap} (hn : (outline ids).resolve t = some n) (hunits : n.units = some content)
    (id : String) : (outline (ids ++ [id])).resolve t = Keyed.get? id content := by
  have hids : ids ≠ [] := by
    rintro rfl
    cases h
  have hget : (ChildSlot.atDepth unitDepth).get n = some content := hunits
  rw [resolve_append hids, hn, Option.bind_some, h, descend_cons, hget, Option.bind_some]
  cases Keyed.get? id content with
  | none => rfl
  | some c => exact descend_nil (unitDepth + 1) c

end NodePath

/-- **Putting content in place** does just that. -/
theorem Tree.contentInPlace_of_revise {t : Tree} {p : NodePath} {content : ChildMap} {r : TreeRevision}
    (hunit : p.isUnit = true) (h : t.revise p (Edit.fill content).revision = .ok r) :
    t.ContentInPlace p content r.tree := by
  obtain ⟨n, hn, hn'⟩ := resolve_revise_self h
  have hupdated : t.UpdatedAt p (fun n => { n with units := some content }) r.tree := by
    rw [revise_eq_update h]
    exact updatedAt_update hn _
  refine ⟨hupdated, fun id => ?_⟩
  obtain ⟨ids, rfl, hlength⟩ := NodePath.exists_ids_of_isUnit hunit
  exact ⟨_, NodePath.child_of_isUnit hlength id, NodePath.resolve_content hlength hn' rfl id⟩

/-! ## 2. Both sides -/

namespace Outline

variable {o : Outline} {p : NodePath} {components : UnitComponents}

/-- Content is for units only. -/
theorem mergeUnit_of_not_isUnit (h : p.isUnit = false) :
    o.mergeUnit p components = .error (.invalidPath (.notAUnit p.text)) := by
  rw [mergeUnit, h]
  rfl

/-- Without the unit on either side nothing is put in place. -/
theorem mergeUnit_of_missing (hunit : p.isUnit = true)
    (h : p.resolve o.rerun = none ∨ p.resolve o.base = none) :
    o.mergeUnit p components = .error (.nodeNotFound p.text) := by
  have hp : p ≠ .outline [] := by
    rintro rfl
    cases hunit
  cases hrerun : p.resolve o.rerun with
  | none =>
    have hfails := Tree.revise_of_resolve_none hp hrerun (·.withUnits (components.rerun.getD []))
    rw [mergeUnit, hunit, if_neg (by decide)]
    simp only [hfails]
    rfl
  | some n =>
    cases hm : o.mergeUnit p components with
    | error e => rw [(mergeUnit_error hunit hrerun hm).2]
    | ok m =>
      -- the base has been revised, so that the unit was there
      obtain ⟨-, -, hbase, -⟩ := revise_of_mergeUnit hm
      obtain ⟨b, hb, -⟩ := Tree.resolve_revise_self hbase
      rw [hrerun, hb] at h
      rcases h with h | h <;> cases h

/-- With the unit on both sides there is nothing to fail. -/
theorem exists_mergeUnit (hunit : p.isUnit = true) (hrerun : p.resolve o.rerun ≠ none)
    (hbase : p.resolve o.base ≠ none) (components : UnitComponents) :
    ∃ m, o.mergeUnit p components = .ok m := by
  obtain ⟨n, hn⟩ := Option.ne_none_iff_exists'.mp hrerun
  cases hm : o.mergeUnit p components with
  | ok m => exact ⟨m, rfl⟩
  | error e => exact absurd (mergeUnit_error hunit hn hm).1 hbase

/-- **Whether any of the content can be approved**: whether the traversal of what was fetched for the
translated course meets a node that can. -/
theorem hasEligible_mergeUnit {m : UnitMerge} (h : o.mergeUnit p components = .ok m) :
    m.hasEligible = true ↔
      ∃ e ∈ components.rerun.getD [], ∃ x ∈ e.2.walk, x.isEligible = true := by
  obtain ⟨-, -, -, hflag⟩ := revise_of_mergeUnit h
  have hcollects : ∀ n : Node,
      (!n.collectEligible.isEmpty) = true ↔ ∃ x ∈ n.walk, x.isEligible = true := by
    intro n
    rw [Bool.not_eq_true', List.isEmpty_eq_false_iff, n.collectEligible_eq_walk, ne_eq,
      List.map_eq_nil_iff, List.filter_eq_nil_iff]
    simp only [not_forall, not_not, exists_prop]
  rw [hflag, List.any_eq_true]
  exact exists_congr fun e => and_congr_right fun _ => hcollects e.2

/-- **Content is put in place on both sides or on neither.**  For every outline, path and components, the
path has to be that of a unit.  If the unit is missing on one side, that is the failure; and otherwise
there is an outcome.  In it,

* on each side the unit has what was fetched for that side as its content, which is empty when nothing
  was, and the ids lead to it; nothing else has changed there;
* content can be approved just when the traversal of what was fetched for the translated course meets a
  node that can, so that neither what was fetched for the base nor any outline has a say in it. -/
theorem mergeUnit_both_or_neither (o : Outline) (p : NodePath) (components : UnitComponents) :
    (p.isUnit = false → o.mergeUnit p components = .error (.invalidPath (.notAUnit p.text))) ∧
    (p.isUnit = true →
      ((∃ e, o.mergeUnit p components = .error e) ↔
        p.resolve o.rerun = none ∨ p.resolve o.base = none) ∧
      (∀ e, o.mergeUnit p components = .error e → e = .nodeNotFound p.text) ∧
      (p.resolve o.rerun ≠ none → p.resolve o.base ≠ none → ∃ m,
        o.mergeUnit p components = .ok m ∧
        o.rerun.ContentInPlace p (components.rerun.getD []) m.outline.rerun ∧
        o.base.ContentInPlace p (components.base.getD []) m.outline.base ∧
        (m.hasEligible = true ↔
          ∃ e ∈ components.rerun.getD [], ∃ x ∈ e.2.walk, x.isEligible = true) ∧
        ∀ (o' : Outline) (p' : NodePath) (base : Option ChildMap) (m' : UnitMerge),
          o'.mergeUnit p' { components with base } = .ok m' → m'.hasEligible = m.hasEligible)) := by
  refine ⟨mergeUnit_of_not_isUnit, fun hunit => ?_⟩
  have hmissing : ∀ e, o.mergeUnit p components = .error e →
      p.resolve o.rerun = none ∨ p.resolve o.base = none := by
    intro e he
    by_contra hboth
    rw [not_or] at hboth
    obtain ⟨m, hm⟩ := exists_mergeUnit hunit hboth.1 hboth.2 components
    rw [hm] at he
    cases he
  refine ⟨⟨fun ⟨e, he⟩ => hmissing e he, fun h => ⟨_, mergeUnit_of_missing hunit h⟩⟩, fun e he => ?_,
    fun hrerun hbase => ?_⟩
  · rw [mergeUnit_of_missing hunit (hmissing e he)] at he
    exact (Except.error.inj he).symm
  · obtain ⟨m, hm⟩ := exists_mergeUnit hunit hrerun hbase components
    obtain ⟨-, hr, hb, -⟩ := revise_of_mergeUnit hm
    refine ⟨m, hm, Tree.contentInPlace_of_revise hunit hr, Tree.contentInPlace_of_revise hunit hb,
      hasEligible_mergeUnit hm, fun o' p' base m' hm' => ?_⟩
    rw [Bool.eq_iff_iff, hasEligible_mergeUnit hm, hasEligible_mergeUnit hm']

end Outline

namespace Sample

/-- Two outlines with the unit, which has no content in either. -/
def emptyUnits : Outline :=
  ⟨unitTree none none, unitTree none none⟩

end Sample

open Sample in
/-- Content comes for one side only: it is found there, it can be approved, and the other side has an empty
map.  The subsection is no unit, and a unit that is not there fails for both. -/
theorem Outline.mergeUnit_both_or_neither_one_sided :
    (∃ m, emptyUnits.mergeUnit unitPath { rerun := some [("C1", content)] } = .ok m ∧
      contentPath.resolve m.outline.rerun = some content ∧
      contentPath.resolve m.outline.base = none ∧ m.hasEligible = true) ∧
    emptyUnits.mergeUnit (.outline ["S1", "Q1"]) {} = .error (.invalidPath (.notAUnit "S1/Q1")) ∧
    ∃ e, emptyUnits.mergeUnit (.outline ["S1", "Q1", "U2"]) {} = .error e := by
  obtain ⟨-, hunit⟩ := emptyUnits.mergeUnit_both_or_neither unitPath { rerun := some [("C1", content)] }
  obtain ⟨-, -, hplaced⟩ := hunit rfl
  obtain ⟨m, hm, hrerun, hbase, hflag, -⟩ := hplaced (fun h => nomatch h) (fun h => nomatch h)
  obtain ⟨hsection, -⟩ := emptyUnits.mergeUnit_both_or_neither (.outline ["S1", "Q1"]) {}
  obtain ⟨-, hmissing⟩ := emptyUnits.mergeUnit_both_or_neither (.outline ["S1", "Q1", "U2"]) {}
  obtain ⟨q, hq, hcontent⟩ := hrerun.content "C1"
  obtain ⟨q', hq', hnone⟩ := hbase.content "C1"
  obtain rfl := Except.ok.inj hq
  obtain rfl := Except.ok.inj hq'
  exact ⟨⟨m, hm, hcontent, hnone, hflag.mpr ⟨_, List.mem_singleton_self _, content,
    List.mem_singleton_self _, rfl⟩⟩, hsection rfl, (hmissing rfl).1.mpr (.inl rfl)⟩

end CourseReview
