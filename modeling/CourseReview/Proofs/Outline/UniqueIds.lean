import CourseReview.Proofs.Outline.Answers
import CourseReview.Proofs.Outline.UnitPaths

/-!
# Unique ids

A map has each of its ids once, but as a list of entries it does not say so itself.  `Tree.UniqueIds` says
it of all maps of an outline, through both maps of every node and however deep they are.  Then a place
names one node at most, and counting nodes is counting places.

No update that keeps to it itself brings an id in twice (`Tree.UniqueIds.update`), and rewriting every
node does not either (`Node.UniqueIds.mapAll`).  So it stays true of an outline through all edits of a
review (`Tree.UniqueIds.edited`).
-/

namespace CourseReview

namespace Keyed

variable {α : Type}

/-- What is in a map after a modification was there, or is what was made of the value under the key. -/
theorem mem_modify {key : String} {f : α → α} {e : String × α} :
    ∀ {m : Keyed α}, e ∈ modify key f m → e ∈ m ∨ ∃ v, get? key m = some v ∧ e = (key, f v)
  | [], he => nomatch he
  | (k, v) :: rest, he => by
    rw [modify] at he
    rw [get?]
    split at he
    · rename_i hk
      rw [if_pos hk]
      rcases List.mem_cons.mp he with rfl | he
      · exact .inr ⟨v, rfl, by rw [hk]⟩
      · exact .inl (List.mem_cons_of_mem _ he)
    · rename_i hk
      rw [if_neg hk]
      rcases List.mem_cons.mp he with rfl | he
      · exact .inl List.mem_cons_self
      · exact (mem_modify he).imp_left (List.mem_cons_of_mem _)

end Keyed

/-! ## 1. One node -/

namespace Node

/-- Whether neither map of the node has an id twice. -/
def OwnIdsDistinct (n : Node) : Prop :=
  ∀ (slot : ChildSlot) (m : ChildMap), slot.get n = some m → Keyed.Distinct m

/-- Whether no map of the node, or of a node below it, has an id twice. -/
def UniqueIds (n : Node) : Prop :=
  n.Everywhere OwnIdsDistinct

mutual

/-- A check of that. -/
def hasUniqueIds : Node → Bool
  | ⟨_, _, _, _, _, _, _, children, units⟩ => hasUniqueIdsMap children && hasUniqueIdsMap units

/-- The check of an optional child map. -/
def hasUniqueIdsMap : Option (List (String × Node)) → Bool
  | none => true
  | some entries => decide (Keyed.keys entries).Nodup && hasUniqueIdsEntries entries

/-- The check of the entries of a child map. -/
def hasUniqueIdsEntries : List (String × Node) → Bool
  | [] => true
  | (_, n) :: rest => hasUniqueIds n && hasUniqueIdsEntries rest

end

theorem hasUniqueIdsEntries_iff :
    ∀ {m : ChildMap}, hasUniqueIdsEntries m = true ↔ ∀ e ∈ m, e.2.hasUniqueIds = true
  | [] => by simp [hasUniqueIdsEntries]
  | (_, n) :: rest => by
    rw [hasUniqueIdsEntries, Bool.and_eq_true, hasUniqueIdsEntries_iff, List.forall_mem_cons]

theorem hasUniqueIds_iff_maps {n : Node} : n.hasUniqueIds = true ↔
    ∀ (slot : ChildSlot) (m : ChildMap), slot.get n = some m →
      Keyed.Distinct m ∧ ∀ e ∈ m, e.2.hasUniqueIds = true := by
  have hmap : ∀ o : Option ChildMap, hasUniqueIdsMap o = true ↔
      ∀ m, o = some m → Keyed.Distinct m ∧ ∀ e ∈ m, e.2.hasUniqueIds = true := by
    intro o
    cases o with
    | none => exact iff_of_true (by rw [hasUniqueIdsMap]) fun _ h => nomatch h
    | some m =>
      rw [hasUniqueIdsMap, Bool.and_eq_true, decide_eq_true_iff, hasUniqueIdsEntries_iff]
      simp only [Option.some.injEq, forall_eq']
      rfl
  obtain ⟨key, category, data, previous, status, versions, links, children, units⟩ := n
  rw [hasUniqueIds, Bool.and_eq_true, hmap, hmap]
  constructor
  · rintro ⟨hchildren, hunits⟩ (_ | _)
    · exact hchildren
    · exact hunits
  · intro h
    exact ⟨h .children, h .units⟩

/-- **The check is right.** -/
theorem hasUniqueIds_iff (n : Node) : n.hasUniqueIds = true ↔ n.UniqueIds := by
  refine induction (motive := fun n => n.hasUniqueIds = true ↔ n.UniqueIds) (fun n ih => ?_) n
  rw [hasUniqueIds_iff_maps]
  constructor
  · intro h
    exact .intro (fun slot m hm => (h slot m hm).1)
      fun slot m hm e he => (ih slot m hm e he).mp ((h slot m hm).2 e he)
  · intro h slot m hm
    exact ⟨h.here slot m hm, fun e he => (ih slot m hm e he).mpr (h.entry hm he)⟩

instance (n : Node) : Decidable n.UniqueIds :=
  decidable_of_iff _ n.hasUniqueIds_iff

namespace UniqueIds

variable {n : Node} {f : Node → Node}

theorem own (h : n.UniqueIds) {slot : ChildSlot} {m : ChildMap} (hm : slot.get n = some m) :
    Keyed.Distinct m :=
  h.here slot m hm

theorem below (h : n.UniqueIds) {slot : ChildSlot} {m : ChildMap} (hm : slot.get n = some m)
    {e : String × Node} (he : e ∈ m) : e.2.UniqueIds :=
  h.entry hm he

/-- So it is on the way to the units. -/
theorem distinctIds : ∀ {levels : Nat} {n : Node}, n.UniqueIds → n.DistinctIds levels
  | 0, _, _ => trivial
  | _ + 1, n, h => fun m hm =>
    have hm : ChildSlot.children.get n = some m := hm
    ⟨h.own hm, fun _ he => (h.below hm he).distinctIds⟩

theorem follow : ∀ {steps : List (ChildSlot × String)} {n x : Node}, n.UniqueIds →
    n.follow steps = some x → x.UniqueIds
  | [], _, _, h, hx => Option.some.inj hx ▸ h
  | (slot, id) :: rest, n, x, h, hx => by
    obtain ⟨m, c, hm, hc, hx⟩ := follow_cons_eq_some.mp hx
    exact (h.below hm (Keyed.mem_of_get? hc)).follow hx

/-- Rewriting every node does not bring an id in twice. -/
theorem mapAll (hf : OwnFields f) (h : n.UniqueIds) : (n.mapAll f).UniqueIds := by
  revert h
  refine induction (motive := fun n => n.UniqueIds → (n.mapAll f).UniqueIds) (fun n ih h => ?_) n
  refine .intro (fun slot m' hm' => ?_) fun slot m' hm' e' he' => ?_
  · rw [get_mapAll hf] at hm'
    obtain ⟨m, hm, rfl⟩ := Option.map_eq_some_iff.mp hm'
    rw [Keyed.Distinct, keys_mapAllEntries]
    exact h.own hm
  · rw [get_mapAll hf] at hm'
    obtain ⟨m, hm, rfl⟩ := Option.map_eq_some_iff.mp hm'
    rw [mapAllEntries_eq] at he'
    obtain ⟨e, he, rfl⟩ := List.mem_map.mp he'
    exact ih slot m hm e he (h.below hm he)

/-- Nor does anything that keeps both maps. -/
theorem of_get {n' : Node} (h : n.UniqueIds) (hget : ∀ slot : ChildSlot, slot.get n' = slot.get n) :
    n'.UniqueIds :=
  .intro (fun slot _ hm => h.own ((hget slot).symm.trans hm))
    fun slot _ hm _ he => h.below ((hget slot).symm.trans hm) he

/-- Another map in one of the two places. -/
theorem set (h : n.UniqueIds) (slot : ChildSlot) {m : ChildMap} (hm : Keyed.Distinct m)
    (hbelow : ∀ e ∈ m, e.2.UniqueIds) : (slot.set n m).UniqueIds := by
  refine .intro (fun slot' m' hm' => ?_) fun slot' m' hm' e he => ?_
  · by_cases hslot : slot' = slot
    · rw [hslot, ChildSlot.get_set] at hm'
      exact Option.some.inj hm' ▸ hm
    · rw [ChildSlot.get_set_of_ne hslot] at hm'
      exact h.own hm'
  · by_cases hslot : slot' = slot
    · rw [hslot, ChildSlot.get_set] at hm'
      exact hbelow e (Option.some.inj hm' ▸ he)
    · rw [ChildSlot.get_set_of_ne hslot] at hm'
      exact h.below hm' he

/-- Nor does an update below. -/
theorem update : ∀ {ids : List String} {depth : Nat} {n : Node}, n.UniqueIds →
    (∀ x, NodePath.descend depth ids n = some x → x.UniqueIds → (f x).UniqueIds) →
      (Node.update f depth ids n).UniqueIds
  | [], depth, n, h, hf => hf n (NodePath.descend_nil ..) h
  | id :: rest, depth, n, h, hf => by
    cases hm : (ChildSlot.atDepth depth).get n with
    | none => rwa [update_cons_of_none hm]
    | some m =>
      rw [update_cons_of_some hm]
      refine h.set _ ?_ fun e he => ?_
      · rw [Keyed.Distinct, Keyed.keys_modify]
        exact h.own hm
      · obtain he | ⟨c, hc, rfl⟩ := Keyed.mem_modify he
        · exact h.below hm he
        · exact (h.below hm (Keyed.mem_of_get? hc)).update fun x hx =>
            hf x (NodePath.descend_cons_eq_some.mpr ⟨m, c, hm, hc, hx⟩)

end UniqueIds

end Node

/-! ## 2. Whole outlines -/

/-- Whether no map of the outline has an id twice. -/
structure Tree.UniqueIds (t : Tree) : Prop where
  courseInfo : t.courseInfo.UniqueIds
  sections : Keyed.Distinct t.sections
  below : ∀ e ∈ t.sections, e.2.UniqueIds

theorem Tree.uniqueIds_iff {t : Tree} : t.UniqueIds ↔
    t.courseInfo.UniqueIds ∧ (Keyed.keys t.sections).Nodup ∧ ∀ e ∈ t.sections, e.2.UniqueIds :=
  ⟨fun h => ⟨h.courseInfo, h.sections, h.below⟩, fun ⟨hc, hs, hb⟩ => ⟨hc, hs, hb⟩⟩

instance (t : Tree) : Decidable t.UniqueIds :=
  decidable_of_iff _ Tree.uniqueIds_iff.symm

namespace Tree.UniqueIds

variable {t : Tree}

/-- So it is on the way to the units. -/
theorem distinctIds (ht : t.UniqueIds) : t.DistinctIds :=
  ⟨ht.sections, fun e he => (ht.below e he).distinctIds⟩

theorem resolve_place (ht : t.UniqueIds) {pl : Place} {n : Node} (hn : pl.resolve t = some n) :
    n.UniqueIds := by
  cases pl with
  | underCourse steps => exact ht.courseInfo.follow hn
  | underSection id steps =>
    obtain ⟨s, hs, hn⟩ := Option.bind_eq_some_iff.mp hn
    exact (ht.below _ (Keyed.mem_of_get? hs)).follow hn

theorem resolve (ht : t.UniqueIds) {p : NodePath} {n : Node} (hn : p.resolve t = some n) :
    n.UniqueIds := by
  match p, hn with
  | .courseInfo, hn => exact Option.some.inj hn ▸ ht.courseInfo
  | .outline (_ :: _), hn =>
    rw [NodePath.resolve_place rfl] at hn
    exact ht.resolve_place hn

/-- **An update that keeps ids unique itself keeps those of the outline unique.** -/
theorem update (ht : t.UniqueIds) {p : NodePath} {f : Node → Node}
    (hf : ∀ n, p.resolve t = some n → n.UniqueIds → (f n).UniqueIds) : (t.update p f).UniqueIds := by
  match p, hf with
  | .courseInfo, hf => exact ⟨hf t.courseInfo rfl ht.courseInfo, ht.sections, ht.below⟩
  | .outline [], _ => exact ht
  | .outline (id :: rest), hf =>
    refine ⟨ht.courseInfo, ?_, fun e he => ?_⟩
    · rw [Keyed.Distinct, keys_sections_update]
      exact ht.sections
    · obtain he | ⟨s, hs, rfl⟩ := Keyed.mem_modify he
      · exact ht.below e he
      · refine (ht.below _ (Keyed.mem_of_get? hs)).update fun x hx => hf x ?_
        rw [NodePath.resolve, hs, Option.bind_some, hx]

/-- **An edit keeps the ids unique.**  Content that is put in place has to have unique ids itself. -/
theorem edited (ht : t.UniqueIds) {p : NodePath} {edit : Edit} {r : TreeRevision}
    (hr : t.revise p edit.revision = .ok r)
    (hfill : ∀ content, edit = .fill content →
      Keyed.Distinct content ∧ ∀ e ∈ content, e.2.UniqueIds) : r.tree.UniqueIds := by
  rw [revise_eq_update hr]
  refine ht.update fun n _ hn => ?_
  cases edit with
  | preview payload =>
    refine hn.of_get fun slot => ?_
    cases slot with
    | children => exact n.previewVersion_children payload
    | units => exact n.previewVersion_units payload
  | revert =>
    refine hn.of_get fun slot => ?_
    cases slot with
    | children => exact n.revertPreview_children
    | units => exact n.revertPreview_units
  | commit applied => exact hn.of_get fun slot => by cases slot <;> rfl
  | approve patch =>
    change ((n.foldApproval patch).node n).UniqueIds
    rw [Node.foldApproval_eq_mapAll]
    exact hn.mapAll (Node.ownFields_recordAnswer patch)
  | fill content =>
    obtain ⟨hdistinct, hbelow⟩ := hfill content rfl
    exact hn.set .units hdistinct hbelow

end Tree.UniqueIds

/-- The ids are unique on both sides. -/
structure Outline.UniqueIds (o : Outline) : Prop where
  rerun : o.rerun.UniqueIds
  base : o.base.UniqueIds

end CourseReview
