import CourseReview.Outline.Preview
import CourseReview.Outline.Units
import CourseReview.Proofs.Outline.Lookup

/-!
# The edits of a review

A review changes an outline in five ways only: it shows the payload of a version, puts a payload
back, makes the payload shown the node's own, folds in the answers to an approval, and puts the
content of a unit in place.  Each is an update at one path (`Edit`).  This file says what such an
edit leaves alone.

* Strictly below the path no node is lost, and what becomes of it is at most the record of an
  approval (`Edit.relatesBelow`).  For the content of a unit this needs that the unit had none
  before: putting content in place a second time would drop the nodes of the first.
* The payload that is a node's own, whether it is shown or set aside, changes only when the payload
  shown is made permanent (`Edit.original_revision`).

Content is put in place on both sides at once.  For a unit of the translated course that fails only
where the base has no such unit (`Outline.mergeUnit_error`).
-/

namespace CourseReview

/-- A change that a review makes to the node at one path. -/
inductive Edit where
  | preview (payload : Json)
  | revert
  | commit (applied : AppliedVersion)
  | approve (patch : ApprovalPatch)
  | fill (content : ChildMap)

/-- What the edit makes of a node. -/
def Edit.revision : Edit → Node → Revision
  | .preview payload, n => .renewed (n.previewVersion payload)
  | .revert, n => .renewed n.revertPreview
  | .commit applied, n => .renewed (n.commitApplied applied)
  | .approve patch, n => n.foldApproval patch
  | .fill content, n => n.withUnits content

/-! ## 1. Payloads shown and put back -/

namespace Node

variable (n : Node) (payload : Json)

/-- The payload that is the node's own: the one set aside while a version is shown, else the one
shown. -/
def original (n : Node) : Json :=
  n.previous.getD n.data

/-- Showing a payload sets the node's own aside, unless it is set aside already. -/
theorem previewVersion_eq :
    n.previewVersion payload = { n with data := payload, previous := some n.original } := by
  rw [previewVersion, original]
  cases n.previous <;> rfl

/-- Putting the payload back shows the node's own, with nothing set aside. -/
theorem revertPreview_eq : n.revertPreview = { n with data := n.original, previous := none } := by
  cases n with
  | mk key category data previous status versions links children units => cases previous <;> rfl

@[simp] theorem previewVersion_children : (n.previewVersion payload).children = n.children := by
  rw [previewVersion_eq]

@[simp] theorem previewVersion_units : (n.previewVersion payload).units = n.units := by
  rw [previewVersion_eq]

theorem previewVersion_versionStatus :
    (n.previewVersion payload).versionStatus = n.versionStatus := by
  rw [previewVersion_eq]

@[simp] theorem revertPreview_children : n.revertPreview.children = n.children := by
  rw [revertPreview_eq]

@[simp] theorem revertPreview_units : n.revertPreview.units = n.units := by
  rw [revertPreview_eq]

end Node

/-! ## 2. Approvals, node by node -/

namespace ChildMap

/-- A map all of whose nodes were handed on is the map it was. -/
theorem revised_of_all_kept :
    ∀ (m : ChildMap) (rs : List Revision), rs.all Revision.isKept = true → m.revised rs = m
  | [], [], _ => rfl
  | [], _ :: _, _ => rfl
  | _ :: _, [], _ => rfl
  | (id, n) :: rest, r :: rs, h => by
    rw [List.all_cons, Bool.and_eq_true] at h
    rw [revised, revised_of_all_kept rest rs h.2]
    cases r with
    | kept => rfl
    | rebuilt _ _ _ => exact absurd h.1 (by simp [Revision.isKept])

/-- After an approval a map holds, under every id, what the approval made of the node there. -/
theorem get?_revised_foldApproval (patch : ApprovalPatch) (id : String) :
    ∀ m : ChildMap,
      Keyed.get? id (m.revised (Node.foldApprovalEntries patch m)) =
        (Keyed.get? id m).map fun c => (c.foldApproval patch).node c
  | [] => rfl
  | (k, c) :: rest => by
    rw [Node.foldApprovalEntries, revised, Keyed.get?, Keyed.get?]
    split
    · rfl
    · exact get?_revised_foldApproval patch id rest

/-- An approval leaves the ids of a map as they are. -/
theorem keys_revised_foldApproval (patch : ApprovalPatch) :
    ∀ m : ChildMap, Keyed.keys (m.revised (Node.foldApprovalEntries patch m)) = Keyed.keys m
  | [] => rfl
  | (k, c) :: rest => by
    rw [Node.foldApprovalEntries, revised, Keyed.keys_cons, Keyed.keys_cons,
      keys_revised_foldApproval patch rest]

end ChildMap

namespace Node

/-- **What an approval makes of a node**: the answer for its block is recorded, if there is one, and
its maps are revised entry by entry; this also when the node was handed on, since then every entry
was. -/
theorem node_foldApproval (patch : ApprovalPatch) (n : Node) :
    (n.foldApproval patch).node n =
      { (Keyed.get? n.usageKey patch).elim n n.recordApproval with
        children := n.children.map fun m => ChildMap.revised m (foldApprovalEntries patch m)
        units := n.units.map fun m => ChildMap.revised m (foldApprovalEntries patch m) } := by
  have hkept : ∀ m : Option ChildMap, (foldApprovalMap patch m).all Revision.isKept = true →
      (m.map fun m => ChildMap.revised m (foldApprovalEntries patch m)) = m := by
    intro m h
    cases m with
    | none => rfl
    | some m => exact congrArg some (ChildMap.revised_of_all_kept m _ h)
  cases n with
  | mk key category data previous status versions links children units =>
    rw [foldApproval]
    dsimp only
    split
    · rename_i h
      rw [Bool.and_eq_true, Bool.and_eq_true, Option.isNone_iff_eq_none] at h
      obtain ⟨⟨hentry, hchildren⟩, hunits⟩ := h
      rw [hkept children hchildren, hkept units hunits, hentry]
      rfl
    · cases Keyed.get? key patch <;> cases children <;> cases units <;> rfl

/-- So for either map. -/
theorem get_foldApproval (patch : ApprovalPatch) (slot : ChildSlot) (n : Node) :
    slot.get ((n.foldApproval patch).node n) =
      (slot.get n).map fun m => m.revised (foldApprovalEntries patch m) := by
  rw [node_foldApproval]
  cases slot <;> rfl

/-- Below an approved node every node stands where it stood, approved in its turn. -/
theorem descend_foldApproval (patch : ApprovalPatch) :
    ∀ (ids : List String) (depth : Nat) (n : Node),
      NodePath.descend depth ids ((n.foldApproval patch).node n) =
        (NodePath.descend depth ids n).map fun x => (x.foldApproval patch).node x := by
  intro ids
  induction ids with
  | nil => intro depth n; rw [NodePath.descend_nil, NodePath.descend_nil, Option.map_some]
  | cons id rest ih =>
    intro depth n
    rw [NodePath.descend_cons, NodePath.descend_cons, get_foldApproval]
    cases (ChildSlot.atDepth depth).get n with
    | none => rfl
    | some m =>
      rw [Option.map_some, Option.bind_some, Option.bind_some, ChildMap.get?_revised_foldApproval]
      cases Keyed.get? id m with
      | none => rfl
      | some c => rw [Option.map_some, Option.bind_some, Option.bind_some, ih]

/-! ## 3. Below the node edited -/

/-- What ids lead to depends on the two maps of a node only. -/
theorem descend_congr {n n' : Node} (hc : n'.children = n.children) (hu : n'.units = n.units)
    (depth : Nat) (id : String) (rest : List String) :
    NodePath.descend depth (id :: rest) n' = NodePath.descend depth (id :: rest) n := by
  have hget : ∀ slot : ChildSlot, slot.get n' = slot.get n := by
    intro slot
    cases slot
    · exact hc
    · exact hu
  rw [NodePath.descend_cons, NodePath.descend_cons, hget]

end Node

/-- A new node over the same maps relates below to the old one. -/
theorem Revision.relatesBelow_renewed {R : Node → Node → Prop} (hR : ∀ n, R n n)
    {New : Node → Prop} (depth : Nat) {n n' : Node} (hc : n'.children = n.children)
    (hu : n'.units = n.units) : (Revision.renewed n').RelatesBelow R New depth n := by
  intro id rest
  rw [Revision.node_renewed, Node.descend_congr hc hu]
  exact .refl hR _

/-- So does an approved node, for a relation that approvals respect. -/
theorem Revision.relatesBelow_foldApproval {R : Node → Node → Prop}
    {New : Node → Prop} {patch : ApprovalPatch}
    (happrove : ∀ n, R n ((Node.foldApproval patch n).node n)) (depth : Nat) (n : Node) :
    (n.foldApproval patch).RelatesBelow R New depth n := by
  intro id rest
  rw [Node.descend_foldApproval]
  cases NodePath.descend depth (id :: rest) n with
  | none => exact .missing
  | some x => exact .stayed (happrove x)

/-- So does a unit that had no content, when all of its content is new. -/
theorem Revision.relatesBelow_withUnits {R : Node → Node → Prop} {New : Node → Prop} {depth : Nat}
    {n : Node} {content : ChildMap} (hdepth : unitDepth ≤ depth) (hunits : n.units = none)
    (hnew : ∀ id c rest x, Keyed.get? id content = some c →
      NodePath.descend (depth + 1) rest c = some x → New x) :
    (n.withUnits content).RelatesBelow R New depth n := by
  intro id rest
  have hslot : ChildSlot.atDepth depth = .units := if_pos hdepth
  have hbefore : ChildSlot.units.get n = none := hunits
  have hafter : ChildSlot.units.get ((n.withUnits content).node n) = some content := rfl
  rw [NodePath.descend_cons, NodePath.descend_cons, hslot, hbefore, hafter, Option.bind_none,
    Option.bind_some]
  cases hc : Keyed.get? id content with
  | none => exact .missing
  | some c =>
    rw [Option.bind_some]
    cases hx : NodePath.descend (depth + 1) rest c with
    | none => exact .missing
    | some x => exact .entered (hnew id c rest x hc hx)

/-- **Below the node edited** no node is lost, and every node is related to what it was, for any
relation that approvals respect, or is new.  Content may only be put where there was none. -/
theorem Edit.relatesBelow {R : Node → Node → Prop} (hR : ∀ n, R n n) {New : Node → Prop} {e : Edit}
    {depth : Nat} {n : Node}
    (happrove : ∀ patch, e = .approve patch → ∀ n, R n ((Node.foldApproval patch n).node n))
    (hfill : ∀ content, e = .fill content → unitDepth ≤ depth ∧ n.units = none ∧
      ∀ id c rest x, Keyed.get? id content = some c →
        NodePath.descend (depth + 1) rest c = some x → New x) :
    (e.revision n).RelatesBelow R New depth n := by
  cases e with
  | preview payload => exact Revision.relatesBelow_renewed hR depth (by simp) (by simp)
  | revert => exact Revision.relatesBelow_renewed hR depth (by simp) (by simp)
  | commit applied => exact Revision.relatesBelow_renewed hR depth rfl rfl
  | approve patch => exact Revision.relatesBelow_foldApproval (happrove patch rfl) depth n
  | fill content =>
    obtain ⟨hdepth, hunits, hnew⟩ := hfill content rfl
    exact Revision.relatesBelow_withUnits hdepth hunits hnew

/-- At and below the path of an approval every node is approved where it stands. -/
theorem Tree.resolve_foldApproval {t : Tree} {p q : NodePath} {patch : ApprovalPatch}
    {r : TreeRevision} (h : t.revise p (Node.foldApproval patch) = .ok r)
    (hpq : p.contains q = true) :
    q.resolve r.tree = (q.resolve t).map fun x => (x.foldApproval patch).node x := by
  obtain ⟨n, hn, hn'⟩ := resolve_revise_self h
  obtain ⟨rfl, rfl⟩ | ⟨ids, rest, rfl, rfl⟩ := NodePath.contains_cases hpq
  · rw [hn, hn', Option.map_some]
  · have hids : ids ≠ [] := by
      rintro rfl
      cases hn
    rw [NodePath.resolve_append hids, NodePath.resolve_append hids, hn, hn', Option.bind_some,
      Option.bind_some, Node.descend_foldApproval]

/-! ## 4. The own payload -/

namespace Node

/-- Whether two nodes show the same payload and have set the same payload aside. -/
def SamePayloads (n n' : Node) : Prop :=
  n'.data = n.data ∧ n'.previous = n.previous

theorem SamePayloads.original {n n' : Node} (h : n.SamePayloads n') :
    n'.original = n.original := by
  rw [Node.original, Node.original, h.1, h.2]

theorem ignoresBelow_samePayloads : IgnoresBelow SamePayloads where
  refl _ := ⟨rfl, rfl⟩
  set slot n _ _ _ _ := by cases slot <;> exact ⟨rfl, rfl⟩

/-- An approval leaves the payloads alone. -/
theorem samePayloads_foldApproval (patch : ApprovalPatch) (n : Node) :
    n.SamePayloads ((n.foldApproval patch).node n) := by
  rw [SamePayloads, node_foldApproval]
  cases Keyed.get? n.usageKey patch <;> exact ⟨rfl, rfl⟩

theorem previewVersion_payloads (n : Node) (payload : Json) :
    (n.previewVersion payload).data = payload ∧
      (n.previewVersion payload).previous = some n.original := by
  rw [previewVersion_eq]
  exact ⟨rfl, rfl⟩

theorem revertPreview_payloads (n : Node) :
    n.revertPreview.data = n.original ∧ n.revertPreview.previous = none := by
  rw [revertPreview_eq]
  exact ⟨rfl, rfl⟩

end Node

/-- The payload that is a node's own after the edit: only making the payload shown permanent
changes it. -/
def Edit.original (n : Node) : Edit → Json
  | .commit _ => n.data
  | _ => n.original

/-- **What an edit does to the own payload of the node edited.** -/
theorem Edit.original_revision (e : Edit) (n : Node) :
    ((e.revision n).node n).original = e.original n := by
  cases e with
  | preview payload =>
    obtain ⟨-, hp⟩ := n.previewVersion_payloads payload
    change (n.previewVersion payload).original = n.original
    rw [Node.original, hp]; rfl
  | revert =>
    obtain ⟨hd, hp⟩ := n.revertPreview_payloads
    change n.revertPreview.original = n.original
    rw [Node.original, hp]; exact hd
  | commit applied => rfl
  | approve patch => exact (n.samePayloads_foldApproval patch).original
  | fill content => rfl

/-! ## 5. Content on both sides -/

namespace Outline

variable {o : Outline} {p : NodePath} {components : UnitComponents}

/-- Putting content in place is an edit of each course. -/
theorem revise_of_mergeUnit {m : UnitMerge} (h : o.mergeUnit p components = .ok m) :
    p.isUnit = true ∧
      o.rerun.revise p (Edit.fill (components.rerun.getD [])).revision = .ok m.rerun ∧
      o.base.revise p (Edit.fill (components.base.getD [])).revision = .ok m.base ∧
      m.hasEligible = (components.rerun.getD []).any fun (_, n) => !n.collectEligible.isEmpty := by
  rw [mergeUnit] at h
  cases hunit : p.isUnit with
  | false => rw [hunit] at h; cases h
  | true =>
    rw [hunit, if_neg (by decide)] at h
    cases hr : o.rerun.revise p (·.withUnits (components.rerun.getD [])) with
    | error e => simp only [hr, bind, Except.bind] at h; cases h
    | ok r =>
      simp only [hr, bind, Except.bind] at h
      cases hb : o.base.revise p (·.withUnits (components.base.getD [])) with
      | error e => simp only [hb] at h; cases h
      | ok b =>
        simp only [hb] at h
        obtain rfl := Except.ok.inj h
        exact ⟨rfl, hr, hb, rfl⟩

/-- For a unit of the translated course it fails only when the base has no such unit. -/
theorem mergeUnit_error {n : Node} {e : ReviewError} (hunit : p.isUnit = true)
    (hn : p.resolve o.rerun = some n) (h : o.mergeUnit p components = .error e) :
    p.resolve o.base = none ∧ e = .nodeNotFound p.text := by
  obtain ⟨r, hr⟩ := Tree.exists_revise_of_resolve hn (·.withUnits (components.rerun.getD []))
  rw [mergeUnit, hunit, if_neg (by decide)] at h
  simp only [hr, bind, Except.bind] at h
  cases hb : p.resolve o.base with
  | none =>
    have hp : p ≠ .outline [] := by rintro rfl; cases hn
    rw [Tree.revise_of_resolve_none hp hb] at h
    exact ⟨rfl, (Except.error.inj h).symm⟩
  | some b =>
    obtain ⟨r', hr'⟩ := Tree.exists_revise_of_resolve hb (·.withUnits (components.base.getD []))
    simp only [hr'] at h
    cases h

end Outline

end CourseReview
