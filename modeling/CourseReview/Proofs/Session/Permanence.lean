import CourseReview.Proofs.Session.Originals
import CourseReview.Proofs.Session.Overlap

/-!
# What lasts

A reply is for the node at a path, and it may come long after it was asked for.  This file settles
that the node is still there then, and is still the same block.

* In the translated course a node stays at its path as long as the pairing lasts, with the same
  block and the same entries below it (`Node.SameBlock`).  Only the content of a unit may come in
  where there was none, and then it is the content that was fetched (`Trace.block_lasts`).  That no
  content is put in place twice is what this rests on.
* The base is the one that was loaded, with the content that was fetched put in place
  (`Trace.base_lasts`), so that a path of a unit leads somewhere in it if and only if it did when it
  was loaded (`Tree.isSome_resolve_withContent`).

So every reply for a node finds it, but for content of a unit that the base does not have
(`Trace.nothing_is_lost`).
-/

namespace CourseReview

/-! ## 1. The block that a node stands for -/

namespace Node

/-- Whether two nodes stand for the same block, with entries under the same ids below them. -/
structure SameBlock (n n' : Node) : Prop where
  usageKey : n'.usageKey = n.usageKey
  category : n'.category = n.category
  links : n'.links = n.links
  childIds : n'.children.map Keyed.keys = n.children.map Keyed.keys

/-- The ids of the content of a unit, if it has any. -/
def contentIds (n : Node) : Option (List String) :=
  n.units.map Keyed.keys

theorem SameBlock.refl (n : Node) : n.SameBlock n := ⟨rfl, rfl, rfl, rfl⟩

theorem SameBlock.trans {n n' n'' : Node} (h : n.SameBlock n') (h' : n'.SameBlock n'') :
    n.SameBlock n'' where
  usageKey := h'.usageKey.trans h.usageKey
  category := h'.category.trans h.category
  links := h'.links.trans h.links
  childIds := h'.childIds.trans h.childIds

/-- Two nodes of the same block that also have the same content, as far as ids go. -/
def SameEntries (n n' : Node) : Prop :=
  n.SameBlock n' ∧ n'.contentIds = n.contentIds

theorem ignoresBelow_sameEntries : IgnoresBelow SameEntries where
  refl n := ⟨.refl n, rfl⟩
  set slot n m m' hm hkeys := by
    cases slot with
    | children =>
      have hm : n.children = some m := hm
      have hchildren : (some m').map Keyed.keys = n.children.map Keyed.keys := by
        rw [hm, Option.map_some, Option.map_some, hkeys]
      exact ⟨⟨rfl, rfl, rfl, hchildren⟩, rfl⟩
    | units =>
      have hm : n.units = some m := hm
      have hunits : (some m').map Keyed.keys = n.units.map Keyed.keys := by
        rw [hm, Option.map_some, Option.map_some, hkeys]
      exact ⟨⟨rfl, rfl, rfl, rfl⟩, hunits⟩

/-- An approval leaves the ids of both maps as they are. -/
theorem keys_get_foldApproval (patch : ApprovalPatch) (slot : ChildSlot) (n : Node) :
    (slot.get ((n.foldApproval patch).node n)).map Keyed.keys = (slot.get n).map Keyed.keys := by
  rw [get_foldApproval]
  cases slot.get n with
  | none => rfl
  | some m => simp only [Option.map_some, ChildMap.keys_revised_foldApproval]

theorem sameEntries_foldApproval (patch : ApprovalPatch) (n : Node) :
    n.SameEntries ((n.foldApproval patch).node n) := by
  have hown : ((n.foldApproval patch).node n).usageKey = n.usageKey ∧
      ((n.foldApproval patch).node n).category = n.category ∧
      ((n.foldApproval patch).node n).links = n.links := by
    rw [node_foldApproval]
    cases Keyed.get? n.usageKey patch <;> exact ⟨rfl, rfl, rfl⟩
  obtain ⟨hkey, hcategory, hlinks⟩ := hown
  exact ⟨⟨hkey, hcategory, hlinks, keys_get_foldApproval patch .children n⟩,
    keys_get_foldApproval patch .units n⟩

end Node

/-- An edit leaves the block and its entries alone, unless it brings content. -/
theorem Edit.sameEntries {edit : Edit} (hfill : ∀ content, edit ≠ .fill content) (n : Node) :
    n.SameEntries ((edit.revision n).node n) := by
  cases edit with
  | preview payload =>
    change n.SameEntries (n.previewVersion payload)
    rw [Node.previewVersion_eq]
    exact ⟨⟨rfl, rfl, rfl, rfl⟩, rfl⟩
  | revert =>
    change n.SameEntries n.revertPreview
    rw [Node.revertPreview_eq]
    exact ⟨⟨rfl, rfl, rfl, rfl⟩, rfl⟩
  | commit applied => exact ⟨⟨rfl, rfl, rfl, rfl⟩, rfl⟩
  | approve patch => exact n.sameEntries_foldApproval patch
  | fill content => exact absurd rfl (hfill content)

/-! ## 2. Content that was put in place -/

/-- The unit for which the record put content in place, and the content. -/
def Record.filled? (x : Record) : Option (NodePath × UnitComponents) :=
  match x.event, x.response with
  | .finishUnitFetch t (.ok components), .fetched (.ok _) => some (t.path, components)
  | _, _ => none

/-- The content that a history put in place, unit by unit. -/
def filled (h : List Record) : List (NodePath × UnitComponents) :=
  h.filterMap Record.filled?

/-- The content that a history put in place last for the unit at the path, in the translated
course. -/
def contentPut (p : NodePath) (h : List Record) : Option ChildMap :=
  (((filled h).filter (·.1 == p)).getLast?).map fun f => f.2.rerun.getD []

theorem filled_snoc (h : List Record) (x : Record) :
    filled (h ++ [x]) = filled h ++ x.filled?.toList := by
  rw [filled, List.filterMap_append, filled, List.filterMap_cons]
  cases x.filled? <;> rfl

theorem filled_singleton (x : Record) : filled [x] = x.filled?.toList :=
  filled_snoc [] x

theorem contentPut_snoc (p : NodePath) (h : List Record) (x : Record) :
    contentPut p (h ++ [x]) = (contentPut p [x]).or (contentPut p h) := by
  rw [contentPut, contentPut, contentPut, filled_singleton, filled_snoc, List.filter_append,
    List.getLast?_append, Option.map_or]

theorem Record.filled?_eq_some {e : Event} {a : Response} {f : NodePath × UnitComponents} :
    Record.filled? ⟨e, a⟩ = some f ↔
      ∃ t components eligible, e = .finishUnitFetch t (.ok components) ∧
        a = .fetched (.ok eligible) ∧ f = (t.path, components) := by
  constructor
  · intro h
    unfold filled? at h
    dsimp only at h
    split at h
    · exact ⟨_, _, _, rfl, rfl, (Option.some.inj h).symm⟩
    · cases h
  · rintro ⟨t, components, eligible, rfl, rfl, rfl⟩
    rfl

/-- Content that a record put in place is an edit that it made. -/
theorem contentPut_singleton {p : NodePath} {e : Event} {a : Response} {content : ChildMap} :
    contentPut p [⟨e, a⟩] = some content ↔ e.Edits a p (.fill content) := by
  rw [contentPut, filled_singleton]
  constructor
  · intro h
    cases hf : Record.filled? ⟨e, a⟩ with
    | none => rw [hf] at h; cases h
    | some f =>
      obtain ⟨t, components, eligible, rfl, rfl, rfl⟩ := Record.filled?_eq_some.mp hf
      rw [hf, Option.toList_some] at h
      by_cases hp : t.path = p
      · subst hp
        simp only [List.filter_cons, beq_self_eq_true, if_true, List.filter_nil] at h
        rw [← Option.some.inj h]
        exact .fill t components eligible
      · simp [hp] at h
  · intro h
    cases h with
    | fill t components eligible => simp [Record.filled?]

/-! ## 3. The translated course -/

namespace Review.Sound

variable {r : Review} {e : Event}

/-- **What one event does to the block at a path**: it stays, with the same entries below it, unless
it is a unit without content and its content is put in place. -/
theorem block_next (h : r.Sound) (htakes : r.Takes e)
    (hload : Record.loads ⟨e, r.answer e⟩ = false) {p : NodePath} {n : Node}
    (hn : r.session.nodeAt p = some n) :
    ∃ n', (r.next e).session.nodeAt p = some n' ∧ n.SameBlock n' ∧
      n'.contentIds = ((contentPut p [⟨e, r.answer e⟩]).or n.units).map Keyed.keys ∧
      ((contentPut p [⟨e, r.answer e⟩]).isSome = true → p.isUnit = true ∧ n.units = none) := by
  have hquiet : (∀ content, ¬ e.Edits (r.answer e) p (.fill content)) →
      contentPut p [⟨e, r.answer e⟩] = none := by
    intro hnot
    cases hput : contentPut p [⟨e, r.answer e⟩] with
    | none => rfl
    | some content => exact absurd (contentPut_singleton.mp hput) (hnot content)
  have hsame : ∀ n', n.SameEntries n' → contentPut p [⟨e, r.answer e⟩] = none →
      n.SameBlock n' ∧
        n'.contentIds = ((contentPut p [⟨e, r.answer e⟩]).or n.units).map Keyed.keys ∧
        ((contentPut p [⟨e, r.answer e⟩]).isSome = true → p.isUnit = true ∧ n.units = none) := by
    intro n' hentries hput
    rw [hput]
    exact ⟨hentries.1, hentries.2, fun h => nomatch h⟩
  cases h.nodeFate_any htakes Node.ignoresBelow_sameEntries (Record.loads_eq_false.mp hload) p with
  | @edited edit n₁ hedits hcurrent hn₁ hn' =>
    obtain rfl := Option.some.inj (hn.symm.trans hn₁)
    refine ⟨_, hn', ?_⟩
    by_cases hfill : ∃ content, edit = .fill content
    · obtain ⟨content, rfl⟩ := hfill
      obtain ⟨t, components, he, rfl⟩ := hedits.of_fill
      obtain ⟨n₁, hn₁, hneeds⟩ := h.needsFetch htakes he (hcurrent (.fetch t) (by rw [he]; rfl))
      obtain rfl := Option.some.inj (hn.symm.trans hn₁)
      rw [contentPut_singleton.mpr hedits]
      exact ⟨⟨rfl, rfl, rfl, rfl⟩, rfl, fun _ => Node.needsFetch_iff.mp hneeds⟩
    · refine hsame _ (Edit.sameEntries (fun content hcontent => hfill ⟨content, hcontent⟩) n)
        (hquiet fun content hcontent => hfill ⟨content, (hedits.unique hcontent).2⟩)
  | @approved q patch n₁ hedits _ hne hn₁ hn' =>
    obtain rfl := Option.some.inj (hn.symm.trans hn₁)
    exact ⟨_, hn', hsame _ (n.sameEntries_foldApproval patch)
      (hquiet fun content hcontent => hne (hcontent.unique hedits).1)⟩
  | became hedits _ hbecame =>
    rw [hn] at hbecame
    obtain ⟨n', hn', hentries⟩ := hbecame.of_some
    exact ⟨n', hn', hsame n' hentries (hquiet fun content => hedits _)⟩

end Review.Sound

/-- **What lasts in the translated course.**  As long as the pairing lasts a node stays at its path,
stands for the same block and has the same entries below it, but for the content of a unit that had
none: that is the content put in place. -/
theorem Trace.block_lasts {r₀ r : Review} {h : List Record} (htrace : Trace r₀ h r)
    (hsound : r₀.Sound) (hload : ∀ x ∈ h, x.loads = false) {p : NodePath} {n₀ : Node}
    (hn₀ : r₀.session.nodeAt p = some n₀) :
    ∃ n, r.session.nodeAt p = some n ∧ n₀.SameBlock n ∧
      n.contentIds = ((contentPut p h).or n₀.units).map Keyed.keys ∧
      ((contentPut p h).isSome = true → p.isUnit = true ∧ n₀.units = none) := by
  refine htrace.lasts (P := fun h r => ∃ n, r.session.nodeAt p = some n ∧ n₀.SameBlock n ∧
    n.contentIds = ((contentPut p h).or n₀.units).map Keyed.keys ∧
    ((contentPut p h).isSome = true → p.isUnit = true ∧ n₀.units = none))
    hsound hload ⟨n₀, hn₀, .refl n₀, rfl, fun h => nomatch h⟩ ?_
  rintro h r e hsound htakes hload ⟨n, hn, hblock, hids, hput⟩
  obtain ⟨n', hn', hblock', hids', hput'⟩ := hsound.block_next htakes hload hn
  refine ⟨n', hn', hblock.trans hblock', ?_, ?_⟩
  · rw [hids', contentPut_snoc, Option.or_assoc, Option.map_or, Option.map_or]
    congr 1
  · intro hlater
    rw [contentPut_snoc, Option.isSome_or, Bool.or_eq_true] at hlater
    rcases hlater with hlater | hlater
    · -- the unit has no content yet, so it had none before
      obtain ⟨hunit, hunits⟩ := hput' hlater
      rw [Node.contentIds, hunits, Option.map_none, eq_comm, Option.map_eq_none_iff,
        Option.or_eq_none_iff] at hids
      exact ⟨hunit, hids.2⟩
    · exact hput hlater

/-! ## 4. The base -/

namespace NodePath

/-- Of two paths of the same length neither leads on from the other. -/
theorem eq_of_contains_of_depth {p q : NodePath} (h : p.contains q = true)
    (hdepth : p.depth = q.depth) : p = q := by
  obtain ⟨rfl, rfl⟩ | ⟨ids, rest, rfl, rfl⟩ := contains_cases h
  · rfl
  · rw [depth, depth, List.length_append] at hdepth
    have hrest : rest = [] := List.length_eq_zero_iff.mp (by omega)
    rw [hrest, List.append_nil]

end NodePath

namespace Tree

/-- The outline with content put in place, unit by unit. -/
def withContent (t : Tree) (fills : List (NodePath × UnitComponents)) : Tree :=
  fills.foldl (fun t f => t.update f.1 fun n => { n with units := some (f.2.base.getD []) }) t

theorem withContent_append (t : Tree) (fills fills' : List (NodePath × UnitComponents)) :
    t.withContent (fills ++ fills') = (t.withContent fills).withContent fills' := by
  rw [withContent, List.foldl_append, withContent, withContent]

/-- **Content does not make a unit, nor take one away.** -/
theorem isSome_resolve_withContent {p : NodePath} (hp : p.isUnit = true) :
    ∀ (fills : List (NodePath × UnitComponents)) (t : Tree), (∀ f ∈ fills, f.1.isUnit = true) →
      (p.resolve (t.withContent fills)).isSome = (p.resolve t).isSome
  | [], _, _ => rfl
  | f :: fills, t, hunits => by
    have hf : f.1.isUnit = true := hunits f (List.mem_cons_self ..)
    have hrest := isSome_resolve_withContent hp fills
      (t.update f.1 fun n => { n with units := some (f.2.base.getD []) })
      (fun f' hf' => hunits f' (List.mem_cons_of_mem _ hf'))
    refine hrest.trans ?_
    by_cases hpf : p = f.1
    · rw [hpf, resolve_update_self, Option.isSome_map]
    · have hother := t.map_resolve_update (φ := fun _ => ()) hpf (fun _ _ _ _ => rfl)
        (f := fun n => { n with units := some (f.2.base.getD []) }) fun hc => by
          rw [NodePath.isUnit, beq_iff_eq] at hp hf
          exact absurd (NodePath.eq_of_contains_of_depth hc (hf.trans hp.symm)).symm hpf
      have hother := congrArg Option.isSome hother
      rwa [Option.isSome_map, Option.isSome_map] at hother

end Tree

/-- A failure puts no content in place. -/
theorem Record.filled?_of_failure {e : Event} {a : Response} {failure : ReviewError}
    (ha : a.failure? = some failure) : Record.filled? ⟨e, a⟩ = none := by
  cases hf : Record.filled? ⟨e, a⟩ with
  | none => rfl
  | some f =>
    obtain ⟨t, components, eligible, rfl, rfl, rfl⟩ := Record.filled?_eq_some.mp hf
    cases ha

/-- The outline has the base of another, with content put in place for units. -/
def Outline.BaseAfter (o : Outline) (fills : List (NodePath × UnitComponents)) (o' : Outline) : Prop :=
  o'.base = o.base.withContent fills ∧ ∀ f ∈ fills, f.1.isUnit = true

namespace Outline.BaseAfter

variable {o o' o'' : Outline} {fills fills' : List (NodePath × UnitComponents)}

theorem of_eq (h : o'.base = o.base) : o.BaseAfter [] o' :=
  ⟨h, fun _ hf => nomatch hf⟩

theorem trans (h : o.BaseAfter fills o') (h' : o'.BaseAfter fills' o'') :
    o.BaseAfter (fills ++ fills') o'' where
  left := by rw [h'.1, h.1, Tree.withContent_append]
  right f hf := (List.mem_append.mp hf).elim (h.2 f) (h'.2 f)

/-- Content put in place is put in place in the base. -/
theorem of_mergeUnit {p : NodePath} {components : UnitComponents} {m : UnitMerge}
    (hm : o.mergeUnit p components = .ok m) : o.BaseAfter [(p, components)] m.outline := by
  obtain ⟨hunit, -, hbase, -⟩ := Outline.revise_of_mergeUnit hm
  refine ⟨Tree.revise_eq_update hbase, fun f hf => ?_⟩
  rw [List.mem_singleton.mp hf]
  exact hunit

end Outline.BaseAfter

/-- **What one event does to the base**: nothing, unless it puts content in place. -/
theorem Session.Move.base {s s' : Session} {e : Event} {a : Response} (h : Move s e a s')
    (hload : Record.loads ⟨e, a⟩ = false)
    (harrive : ∀ t o, e = .finishLoad t (.ok o) → t.generation = s.generation → s.outline = none)
    {o : Outline} (ho : s.outline = some o) :
    ∃ o', s'.outline = some o' ∧ o.BaseAfter (Record.filled? ⟨e, a⟩).toList o' := by
  cases h with
  | loadBegun rerunId => cases hload
  | loaded hcurrent => rw [harrive _ _ rfl hcurrent] at ho; cases ho
  | stale _ _ ha => rw [Record.filled?_of_failure ha]; exact ⟨o, ho, .of_eq rfl⟩
  | refused _ ha => rw [Record.filled?_of_failure ha]; exact ⟨o, ho, .of_eq rfl⟩
  | fetchFailed _ _ _ => rw [Record.filled?_of_failure rfl]; exact ⟨o, ho, .of_eq rfl⟩
  | fetched _ ho' hm =>
    obtain rfl := Option.some.inj (ho.symm.trans ho')
    exact ⟨_, rfl, .of_mergeUnit hm⟩
  | reverted ho' _ _ =>
    obtain rfl := Option.some.inj (ho.symm.trans ho')
    exact ⟨_, rfl, .of_eq rfl⟩
  | selected _ ho' _ _ =>
    obtain rfl := Option.some.inj (ho.symm.trans ho')
    exact ⟨_, rfl, .of_eq rfl⟩
  | applied _ ho' _ _ =>
    obtain rfl := Option.some.inj (ho.symm.trans ho')
    exact ⟨_, rfl, .of_eq rfl⟩
  | approved _ ho' _ =>
    obtain rfl := Option.some.inj (ho.symm.trans ho')
    exact ⟨_, rfl, .of_eq rfl⟩
  | _ => exact ⟨o, ho, .of_eq rfl⟩

/-- **What lasts in the base.**  As long as the pairing lasts it is what it was, with the content put
in place that was fetched. -/
theorem Trace.base_lasts {r₀ r : Review} {h : List Record} (htrace : Trace r₀ h r)
    (hsound : r₀.Sound) (hload : ∀ x ∈ h, x.loads = false) {o : Outline}
    (ho : r₀.session.outline = some o) :
    ∃ now, r.session.outline = some now ∧ o.BaseAfter (filled h) now := by
  refine htrace.lasts (P := fun h r => ∃ now, r.session.outline = some now ∧
    o.BaseAfter (filled h) now) hsound hload ⟨o, ho, .of_eq rfl⟩ ?_
  rintro h r e hsound htakes hload ⟨o', ho', hbase⟩
  obtain ⟨now, hnow, hbase'⟩ := (r.move e).base hload
    (fun t o he hcurrent => hsound.outline_none htakes he hcurrent) ho'
  rw [filled_snoc]
  exact ⟨now, hnow, hbase.trans hbase'⟩

/-- A place in a history at which the pairing was loaded whose outline is there: since then no other
pairing began to load. -/
structure LoadedSince (h : List Record) (r : Review) (o : Outline) (h₁ : List Record) : Prop where
  place : ∃ h₀ r₀ t, h = h₀ ++ ⟨.finishLoad t (.ok o), r₀.answer (.finishLoad t (.ok o))⟩ :: h₁ ∧
    Trace {} h₀ r₀ ∧ r₀.Takes (.finishLoad t (.ok o)) ∧
    (r₀.next (.finishLoad t (.ok o))).session.outline = some o ∧
    Trace (r₀.next (.finishLoad t (.ok o))) h₁ r
  quiet : ∀ x ∈ h₁, x.loads = false

/-- **An outline that is there was loaded at some place.** -/
theorem Trace.loadedSince {h : List Record} {r : Review} (htrace : Trace {} h r) {now : Outline}
    (hnow : r.session.outline = some now) : ∃ o h₁, LoadedSince h r o h₁ := by
  have hsince := htrace.since (fun r => ∃ now, r.session.outline = some now)
    (fun r e => ∃ t o, e = .finishLoad t (.ok o) ∧ (r.next e).session.outline = some o)
    (fun x => x.loads = false) (fun ⟨_, hnone⟩ => nomatch hnone) ⟨now, hnow⟩ ?_
  · obtain ⟨h₀, r₀, _, h₁, hh, htrace₀, htakes, ⟨t, o, rfl, ho⟩, htrace₁, hquiet⟩ := hsince
    exact ⟨o, h₁, ⟨h₀, r₀, t, hh, htrace₀, htakes, ho, htrace₁⟩, hquiet⟩
  rintro r e ⟨now, hnow⟩
  have hload : Record.loads ⟨e, r.answer e⟩ = false := by
    cases e with
    | beginLoad rerunId => cases hnow
    | _ => rfl
  cases (r.move e).outline with
  | dropped he _ => exact absurd he (Record.loads_eq_false.mp hload _)
  | arrived he _ ho => exact .inl ⟨_, _, he, ho⟩
  | untouched _ hsame => exact .inr ⟨⟨now, hsame ▸ hnow⟩, hload⟩
  | edited _ _ ho _ _ => exact .inr ⟨⟨_, ho⟩, hload⟩

/-! ## 5. Replies find their nodes -/

namespace Session.Awaits

variable {s : Session} {x : Effect}

/-- Content is put in place unless the base has no node there. -/
theorem fetch_fails_iff {t : Ticket UnitFetch} {components : UnitComponents}
    (h : s.Awaits (.finishUnitFetch t (.ok components)) x) (hpath : x.path = t.path) {o : Outline}
    (ho : s.outline = some o) :
    (∃ e, (s.perform (.finishUnitFetch t (.ok components))).1 = .fetched (.error e)) ↔
      t.path.resolve o.base = none := by
  obtain ⟨o', n, ho', -, heffect⟩ := h.effect
  obtain rfl := Option.some.inj (ho.symm.trans ho')
  rw [h.perform, ← hpath]
  cases hb : x.path.resolve o.base with
  | none =>
    rw [hb] at heffect
    obtain rfl := Option.some.inj heffect
    exact ⟨fun _ => rfl, fun _ => ⟨_, rfl⟩⟩
  | some b =>
    rw [hb] at heffect
    obtain rfl := Option.some.inj heffect
    exact ⟨fun ⟨_, he⟩ => (nomatch he), fun he => nomatch he⟩

/-- Any other reply that is no failure is taken up. -/
theorem failure?_eq_none {e : Event} (h : s.Awaits e x)
    (hreply : (∃ t payload, e = .finishSelect t (.ok payload)) ∨
      (∃ t applied, e = .finishApply t (.ok applied)) ∨
      ∃ t patch, e = .finishApprove t (.ok patch)) :
    (s.perform e).1.failure? = none := by
  obtain ⟨_, _, -, -, heffect⟩ := h.effect
  rw [h.perform]
  rcases hreply with ⟨t, payload, rfl⟩ | ⟨t, applied, rfl⟩ | ⟨t, patch, rfl⟩ <;>
    (obtain rfl := Option.some.inj heffect; rfl)

end Session.Awaits

/-- **Nothing is lost.**  At every time in every review, whatever replies have come:

* every node stays at its path as long as the pairing lasts, stands for the same block and has the
  same entries below it, but for the content of a unit that had none: that is the content put in
  place;
* the base is the one that was loaded, with the content put in place of the units for which it was
  fetched, and content that comes for a unit of this pairing cannot be put in place if and only if
  the base that was loaded has no node at its path;
* every other reply that is no failure, to a ticket of this generation, is taken up. -/
theorem Trace.nothing_is_lost {h : List Record} {r : Review} (htrace : Trace {} h r) :
    (∀ h' r', Trace r h' r' → (∀ x ∈ h', x.loads = false) →
      ∀ p n, r.session.nodeAt p = some n →
        ∃ n', r'.session.nodeAt p = some n' ∧ n.SameBlock n' ∧
          n'.contentIds = ((contentPut p h').or n.units).map Keyed.keys ∧
          ((contentPut p h').isSome = true → p.isUnit = true ∧ n.units = none)) ∧
    (∀ now, r.session.outline = some now →
      ∃ o h₁, LoadedSince h r o h₁ ∧ o.BaseAfter (filled h₁) now ∧
        ∀ t components, .fetch t ∈ r.unfinished → t.generation = r.session.generation →
          ((∃ e, r.answer (.finishUnitFetch t (.ok components)) = .fetched (.error e)) ↔
            t.path.resolve o.base = none)) ∧
    (∀ t payload, .select t ∈ r.unfinished → t.generation = r.session.generation →
      (r.answer (.finishSelect t (.ok payload))).failure? = none) ∧
    (∀ t applied, .apply t ∈ r.unfinished → t.generation = r.session.generation →
      (r.answer (.finishApply t (.ok applied))).failure? = none) ∧
    ∀ t patch, .approve t ∈ r.unfinished → t.generation = r.session.generation →
      (r.answer (.finishApprove t (.ok patch))).failure? = none := by
  have hsound := htrace.sound
  refine ⟨fun h' r' hlater hload p n hn => hlater.block_lasts hsound hload hn,
    fun now hnow => ?_, fun t payload ht hcurrent => ?_, fun t applied ht hcurrent => ?_,
    fun t patch ht hcurrent => ?_⟩
  · obtain ⟨o, h₁, hsince⟩ := htrace.loadedSince hnow
    obtain ⟨h₀, r₀, t₀, -, htrace₀, htakes₀, ho, htrace₁⟩ := hsince.place
    obtain ⟨now', hnow', hbase⟩ := htrace₁.base_lasts (htrace₀.tail htakes₀).sound hsince.quiet ho
    obtain rfl := Option.some.inj (hnow.symm.trans hnow')
    refine ⟨o, h₁, hsince, hbase, fun t components ht hcurrent => ?_⟩
    obtain ⟨x, hawaits, hexpand, hpath⟩ :=
      hsound.awaits (e := .finishUnitFetch t (.ok components)) ht rfl hcurrent rfl
    have hunit : t.path.isUnit = true := by rw [← hpath]; exact hawaits.isUnit hexpand
    have hfails := hawaits.fetch_fails_iff hpath hnow
    have hthere := Tree.isSome_resolve_withContent hunit (filled h₁) o.base hbase.2
    rw [← hbase.1] at hthere
    rw [← Option.isNone_iff_eq_none, ← Option.not_isSome, ← hthere, Option.not_isSome,
      Option.isNone_iff_eq_none]
    exact hfails
  · obtain ⟨x, hawaits, -⟩ := hsound.awaits (e := .finishSelect t (.ok payload)) ht rfl hcurrent rfl
    exact hawaits.failure?_eq_none (.inl ⟨t, payload, rfl⟩)
  · obtain ⟨x, hawaits, -⟩ := hsound.awaits (e := .finishApply t (.ok applied)) ht rfl hcurrent rfl
    exact hawaits.failure?_eq_none (.inr (.inl ⟨t, applied, rfl⟩))
  · obtain ⟨x, hawaits, -⟩ := hsound.awaits (e := .finishApprove t (.ok patch)) ht rfl hcurrent rfl
    exact hawaits.failure?_eq_none (.inr (.inr ⟨t, patch, rfl⟩))

namespace Sample

/-- The content of the unit comes, a block in each course. -/
def contentReply : Event :=
  .finishUnitFetch unitTicket (.ok { rerun := some [("C1", content)], base := some [("C1", content)] })

end Sample

open Sample in
/-- Content comes for a unit that is being fetched: it is put in place, which the base that was loaded
has a node for, and the unit is the same block as before. -/
theorem Trace.unit_lasts_when_content_comes :
    ∃ h, Trace {} h unitFetching ∧
      (unitFetching.answer contentReply).failure? = none ∧
      (∃ o h₁, LoadedSince h unitFetching o h₁ ∧ unitPath.resolve o.base ≠ none) ∧
      ∃ n', (unitFetching.next contentReply).session.nodeAt unitPath = some n' ∧
        (unit none none).SameBlock n' ∧ n'.contentIds = some ["C1"] := by
  obtain ⟨h, htrace⟩ := unitLoaded_trace
  have hfetching := htrace.tail (e := .beginUnitFetch unitPath) (.of_begin rfl)
  have hcomes : Trace unitFetching _ (unitFetching.next contentReply) :=
    Trace.refl.tail (.of_finish (t := .fetch unitTicket) rfl (by decide))
  obtain ⟨hblocks, hbase, -⟩ := Trace.nothing_is_lost hfetching
  obtain ⟨o, h₁, hsince, -, hfails⟩ := hbase _ rfl
  have hfails := hfails unitTicket
    { rerun := some [("C1", content)], base := some [("C1", content)] } (by decide) rfl
  obtain ⟨n', hn', hblock, hids, -⟩ := hblocks _ _ hcomes
    (fun x hx => by rw [List.mem_singleton.mp hx]; rfl) unitPath _ rfl
  exact ⟨_, hfetching, rfl, ⟨o, h₁, hsince, fun hnone => nomatch hfails.mpr hnone⟩, n', hn', hblock,
    hids⟩

end CourseReview
